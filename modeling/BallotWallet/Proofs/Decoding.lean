import BallotWallet.Proofs.Building
import BallotWallet.Proofs.Json.Document

/-!
# Decoding fragments

The bytes of a fragment decode to the fragment they were made from, as long as its numbers can be
written. Halves of surrogate pairs that follow one another in a text come back as one character;
the bytes that were signed are the same with either spelling.
-/

namespace BallotWallet

open Json

/-! ## Looking up fields -/

theorem lookup_perm {α β : Type} [BEq α] [LawfulBEq α] {xs ys : List (α × β)} (h : xs.Perm ys)
    (hnames : (xs.map (·.1)).Nodup) (a : α) : xs.lookup a = ys.lookup a := by
  induction h with
  | nil => rfl
  | cons x _ ih =>
      obtain ⟨i, b⟩ := x
      rw [List.lookup_cons, List.lookup_cons, ih (List.nodup_cons.mp hnames).2]
  | swap x y xs =>
      obtain ⟨i, b⟩ := x
      obtain ⟨j, c⟩ := y
      have hne : j ≠ i := by
        rintro rfl
        exact (List.nodup_cons.mp hnames).1 List.mem_cons_self
      simp only [List.lookup_cons]
      by_cases hi : a = i
      · subst hi
        rw [beq_self_eq_true, beq_false_of_ne hne.symm]
      · rw [beq_false_of_ne hi]
  | trans h _ ih₁ ih₂ =>
      rw [ih₁ hnames, ih₂ ((h.map _).nodup_iff.mp hnames)]

/-- What is found under one of several different names is what stands there. -/
theorem lookup_eq_some_iff_mem {α β : Type} [BEq α] [LawfulBEq α] {xs : List (α × β)}
    (hnames : (xs.map (·.1)).Nodup) {a : α} {b : β} : xs.lookup a = some b ↔ (a, b) ∈ xs := by
  induction xs with
  | nil => exact ⟨nofun, nofun⟩
  | cons x xs ih =>
      obtain ⟨i, c⟩ := x
      obtain ⟨hi, hrest⟩ := List.nodup_cons.mp hnames
      rw [List.lookup_cons, List.mem_cons]
      by_cases ha : a = i
      · subst ha
        have hmem : (a, b) ∉ xs := fun h => hi (List.mem_map.mpr ⟨_, h, rfl⟩)
        rw [beq_self_eq_true, or_iff_left hmem]
        simp [eq_comm]
      · rw [beq_false_of_ne ha]
        simp [ih hrest, ha]

theorem ofString_injective {s t : String} (h : (s : Text) = t) : s = t := by
  have hstring := congrArg Text.string? h
  rw [Text.string?_ofString, Text.string?_ofString] at hstring
  exact Option.some.inj hstring

theorem lookup_map_ofString {read : Document → Document} (fields : List (String × Document))
    (name : String) :
    ((fields.map fun f => ((f.1 : Text), f.2)).map (readField read)).lookup (name : Text) =
      (fields.lookup name).map read := by
  induction fields with
  | nil => rfl
  | cons f fields ih =>
      rw [List.map_cons, List.map_cons, List.lookup_cons, List.lookup_cons, ih]
      show (match (name : Text) == pairedText (f.1 : Text) with
        | true => some (read f.2) | false => _) = _
      rw [pairedText_ofString]
      by_cases h : name = f.1
      · rw [h, beq_self_eq_true, beq_self_eq_true]
        rfl
      · rw [beq_false_of_ne h, beq_false_of_ne fun heq => h (ofString_injective heq)]

namespace Json

variable {style : Style} {read : Document → Document} {fields : List (String × Document)}

/-- The object that is read for the object with given fields. -/
def readObject (style : Style) (read : Document → Document) (fields : List (String × Document)) :
    Document :=
  .object ((style.order (fields.map fun f => ((f.1 : Text), f.2))).map (readField read))

theorem map_pairedText (fields : List (String × Document)) :
    ((fields.map fun f => ((f.1 : Text), f.2)).map fun f => pairedText f.1) =
      (fields.map (·.1)).map Text.ofString := by
  rw [List.map_map, List.map_map]
  exact List.map_congr_left fun f _ => pairedText_ofString f.1

theorem nodup_ofString {names : List String} (h : names.Nodup) :
    (names.map Text.ofString).Nodup :=
  h.map fun _ _ heq => ofString_injective heq

/-- The fields of an object with different names are found where they were written. -/
theorem getField?_readObject (hnames : (fields.map (·.1)).Nodup) (name : String) :
    Document.getField? name ((style.order (fields.map fun f => ((f.1 : Text), f.2))).map
      (readField read)) = (fields.lookup name).map read := by
  have hperm := (style.order_perm (fields.map fun f => ((f.1 : Text), f.2))).map (readField read)
  have hnodup : (((fields.map fun f => ((f.1 : Text), f.2)).map (readField read)).map
      (·.1)).Nodup := by
    rw [List.map_map]
    exact (map_pairedText fields).symm ▸ nodup_ofString hnames
  unfold Document.getField?
  rw [lookup_perm hperm ((hperm.map _).nodup_iff.mpr hnodup), lookup_map_ofString]

theorem getField?_readObject_iff (hnames : (fields.map (·.1)).Nodup) {name : String}
    {d : Document} :
    Document.getField? name ((style.order (fields.map fun f => ((f.1 : Text), f.2))).map
      (readField read)) = some d ↔ ∃ e, (name, e) ∈ fields ∧ read e = d := by
  rw [getField?_readObject hnames, Option.map_eq_some_iff]
  simp only [lookup_eq_some_iff_mem hnames]

theorem required_readObject (style : Style) (read : Document → Document)
    (hnames : (fields.map (·.1)).Nodup) {name : String} {d : Document}
    (h : fields.lookup name = some d) :
    (readObject style read fields).required name = .ok (read d) := by
  unfold readObject Document.required
  dsimp only
  rw [getField?_readObject hnames, h]
  rfl

theorem field_readObject (hnames : (fields.map (·.1)).Nodup) (name : String)
    (default : Document) :
    (readObject style read fields).field name default =
      .ok (((fields.lookup name).map read).getD default) := by
  unfold readObject Document.field
  dsimp only
  rw [getField?_readObject hnames]

theorem legible_ofFields {depth : Nat} (hstyle : style.Regular) (hne : fields ≠ [])
    (hnames : (fields.map (·.1)).Nodup)
    (hfields : ∀ f ∈ fields, Legible (write style f.2) depth (read f.2)) :
    Legible (write style (.ofFields fields)) (depth + 1) (readObject style read fields) := by
  refine legible_object hstyle (by simpa using hne) ?_ ?_
  · rw [map_pairedText]
    exact nodup_ofString hnames
  · intro f hf
    obtain ⟨g, hg, rfl⟩ := List.mem_map.mp hf
    exact hfields g hg

end Json

/-! ## Transactions -/

namespace Transaction

/-- A transfer or a vote, with texts where texts are expected. -/
inductive Plain : Transaction → Prop
  | transfer (account destination block0Hash : Text) (value fee counter : Int)
      (validUntil : BlockDate) :
      Plain {
        kind := .transfer
        account := .text account
        counter := counter
        validUntil := validUntil
        fee := fee
        value := value
        destination := .text destination
        block0Hash := .text block0Hash }
  | vote (account votePlan block0Hash : Text) (proposalIndex choice fee counter : Int)
      (validUntil : BlockDate) :
      Plain (newVote account votePlan proposalIndex choice fee counter validUntil
        (.text block0Hash))

/-- A text or a number as it is read. -/
def asRead : Document → Document
  | .text t => .text (pairedText t)
  | d => d

/-- A transaction as it is read from what was written for it. -/
def paired (tx : Transaction) : Transaction :=
  { tx with
    account := asRead tx.account
    destination := asRead tx.destination
    votePlan := asRead tx.votePlan
    block0Hash := asRead tx.block0Hash }

theorem write_asRead (style : Style) (d : Document) : write style (asRead d) = write style d := by
  cases d with
  | text t => exact writeText_pairedText t
  | _ => rfl

theorem asRead_ofString (s : String) : asRead (.text (s : Text)) = .text (s : Text) :=
  congrArg Document.text (pairedText_ofString s)

theorem bodyFields_names_nodup (tx : Transaction) : (tx.bodyFields.map (·.1)).Nodup := by
  cases hkind : tx.kind <;> simp [bodyFields, ownFields, hkind]

variable {tx : Transaction}

/-- Every field of the body is a text or a number that can be written. -/
theorem Plain.legible_field (h : tx.Plain) (hw : tx.isWritable = true) :
    ∀ f ∈ tx.bodyFields, Legible (write .compact f.2) 0 (asRead f.2) := by
  unfold isWritable at hw
  cases h with
  | transfer account destination block0Hash value fee counter validUntil =>
      simp only [List.all_cons, List.all_nil, Bool.and_true, Bool.and_eq_true] at hw
      obtain ⟨⟨⟨hcounter, hfee⟩, _⟩, hvalue⟩ := hw
      intro f hf
      simp only [bodyFields, ownFields, List.cons_append, List.nil_append, List.mem_cons,
        List.not_mem_nil, or_false] at hf
      rcases hf with rfl | rfl | rfl | rfl | rfl | rfl | rfl | rfl
      · exact legible_text _ _
      · exact legible_text _ _
      · exact legible_int _ hcounter
      · exact legible_int _ hfee
      · exact legible_text _ _
      · exact legible_text _ _
      · exact legible_text _ _
      · exact legible_int _ hvalue
  | vote account votePlan block0Hash proposalIndex choice fee counter validUntil =>
      simp only [newVote, List.all_cons, List.all_nil, Bool.and_true, Bool.and_eq_true] at hw
      obtain ⟨⟨⟨hcounter, hfee⟩, _⟩, hindex, hchoice⟩ := hw
      intro f hf
      simp only [newVote, bodyFields, ownFields, List.cons_append, List.nil_append,
        List.mem_cons, List.not_mem_nil, or_false] at hf
      rcases hf with rfl | rfl | rfl | rfl | rfl | rfl | rfl | rfl | rfl
      · exact legible_text _ _
      · exact legible_text _ _
      · exact legible_int _ hcounter
      · exact legible_int _ hfee
      · exact legible_text _ _
      · exact legible_text _ _
      · exact legible_text _ _
      · exact legible_int _ hindex
      · exact legible_int _ hchoice

theorem Plain.legible_body (h : tx.Plain) (hw : tx.isWritable = true) :
    Legible (write .compact tx.body) 1 (readObject .compact asRead tx.bodyFields) :=
  legible_ofFields Style.compact_regular (List.cons_ne_nil _ _) (bodyFields_names_nodup tx)
    (h.legible_field hw)

theorem isWritable_validUntil (hw : tx.isWritable = true) : tx.validUntil.isWritable = true := by
  unfold isWritable at hw
  simp only [Bool.and_eq_true] at hw
  exact hw.1.2

theorem Plain.ofName_name (h : tx.Plain) : Kind.ofName (asRead tx.kind.name) = tx.kind := by
  have hname : asRead tx.kind.name = tx.kind.name := by
    cases h with
    | transfer => exact asRead_ofString "transfer"
    | vote => exact asRead_ofString "vote_cast"
  rw [hname]
  cases h with
  | transfer => rfl
  | vote => rfl

/-- Fields that the body does not have are what they are by default. -/
theorem Plain.numberIn_eq (h : tx.Plain) {body : Document}
    (hfield : ∀ (name : String) (default : Document), body.field name default =
      .ok (((tx.bodyFields.lookup name).map asRead).getD default)) :
    numberIn body "fee" = .ok tx.fee ∧ numberIn body "value" = .ok tx.value ∧
      numberIn body "proposal_index" = .ok tx.proposalIndex ∧
      numberIn body "choice" = .ok tx.choice := by
  unfold numberIn
  rw [hfield, hfield, hfield, hfield]
  cases h with
  | transfer => exact ⟨rfl, rfl, rfl, rfl⟩
  | vote => exact ⟨rfl, rfl, rfl, rfl⟩

theorem Plain.field_eq (h : tx.Plain) {body : Document}
    (hfield : ∀ (name : String) (default : Document), body.field name default =
      .ok (((tx.bodyFields.lookup name).map asRead).getD default)) :
    body.field "destination" (.text "") = .ok (asRead tx.destination) ∧
      body.field "vote_plan_id" (.text "") = .ok (asRead tx.votePlan) ∧
      body.field "block0" (.text "") = .ok (asRead tx.block0Hash) := by
  rw [hfield, hfield, hfield]
  cases h with
  | transfer => exact ⟨rfl, rfl, rfl⟩
  | vote => exact ⟨rfl, rfl, rfl⟩

/-- The body is understood as the transaction that it was written for. -/
theorem Plain.ofBody_readObject (h : tx.Plain) (hw : tx.isWritable = true) :
    ofBody (readObject .compact asRead tx.bodyFields) = .ok tx.paired := by
  have hnames := bodyFields_names_nodup tx
  have hrequired : ∀ (name : String) (d : Document), tx.bodyFields.lookup name = some d →
      (readObject .compact asRead tx.bodyFields).required name = .ok (asRead d) :=
    fun _ _ hd => required_readObject _ _ hnames hd
  have hfield : ∀ (name : String) (default : Document),
      (readObject .compact asRead tx.bodyFields).field name default =
        .ok (((tx.bodyFields.lookup name).map asRead).getD default) :=
    fun name default => field_readObject hnames name default
  have htype := hrequired "type" _ rfl
  have haccount := hrequired "account" _ rfl
  have hcounter := hrequired "counter" _ rfl
  have hvalidUntil := hrequired "valid_until" _ rfl
  have hdate : BlockDate.ofDocument (asRead (.text tx.validUntil.text)) = .ok tx.validUntil := by
    rw [asRead_ofString]
    exact BlockDate.parse_text (isWritable_validUntil hw)
  obtain ⟨hfee, hvalue, hindex, hchoice⟩ := h.numberIn_eq hfield
  obtain ⟨hdestination, hvotePlan, hblock0⟩ := h.field_eq hfield
  unfold ofBody
  simp only [htype, haccount, hcounter, hvalidUntil, hdate, hfee, hvalue, hindex, hchoice,
    hdestination, hvotePlan, hblock0, bind, Except.bind, pure, Except.pure, h.ofName_name]
  rfl

theorem write_ofFields_asRead (fields : List (String × Document)) :
    write .compact (.ofFields (fields.map fun f => (f.1, asRead f.2))) =
      write .compact (.ofFields fields) := by
  have horder := Style.compact.order_map (fun f : Text × Document => asRead f.2)
    (fields.map fun f => ((f.1 : Text), f.2))
  have hfields : (fields.map fun f => (f.1, asRead f.2)).map (fun f => ((f.1 : Text), f.2)) =
      (fields.map fun f => ((f.1 : Text), f.2)).map fun f => (f.1, asRead f.2) := by
    rw [List.map_map, List.map_map]
    rfl
  have hchars : ∀ f : Text × Document,
      fieldChars .compact (f.1, asRead f.2) = fieldChars .compact f := by
    intro f
    unfold fieldChars
    rw [write_asRead]
  unfold Document.ofFields
  rw [write_object, write_object, hfields, horder, List.map_map]
  congr 4
  funext f
  exact hchars f

theorem Plain.bodyFields_paired (h : tx.Plain) :
    tx.paired.bodyFields = tx.bodyFields.map fun f => (f.1, asRead f.2) := by
  have hdate := asRead_ofString tx.validUntil.text
  cases h with
  | transfer =>
      have hkind := asRead_ofString "transfer"
      simp only [bodyFields, ownFields, List.cons_append, List.nil_append, List.map_cons,
        List.map_nil, Kind.name, hkind, hdate]
      rfl
  | vote =>
      have hkind := asRead_ofString "vote_cast"
      simp only [newVote, bodyFields, ownFields, List.cons_append, List.nil_append,
        List.map_cons, List.map_nil, Kind.name, hkind] at hdate ⊢
      rw [hdate]
      rfl

/-- Spelled either way, the same bytes are signed. -/
theorem Plain.signingBytes_paired (h : tx.Plain) : tx.paired.signingBytes = tx.signingBytes := by
  unfold signingBytes signingText Json.text body
  rw [h.bodyFields_paired, write_ofFields_asRead]

end Transaction

/-! ## Fragments -/

namespace Fragment

variable {fragment : Fragment}

/-- A part of a fragment as it is read: its body, or the text of some bytes. -/
def partAsRead (tx : Transaction) : Document → Document
  | .object _ => readObject .compact Transaction.asRead tx.bodyFields
  | d => Transaction.asRead d

/-- The parts of a fragment. -/
def parts (fragment : Fragment) : List (String × Document) :=
  [("body", fragment.transaction.body), ("public_key", .text (Hex.encode fragment.publicKey)),
    ("signature", .text (Hex.encode fragment.signature))]

theorem parts_names_nodup (fragment : Fragment) : (fragment.parts.map (·.1)).Nodup := by
  simp [parts]

theorem legible_document (h : fragment.transaction.Plain)
    (hw : fragment.transaction.isWritable = true) :
    Legible (write .compact fragment.document) 2
      (readObject .compact (partAsRead fragment.transaction) fragment.parts) := by
  refine legible_ofFields Style.compact_regular (List.cons_ne_nil _ _)
    (parts_names_nodup fragment) ?_
  intro f hf
  simp only [List.mem_cons, List.not_mem_nil, or_false] at hf
  rcases hf with rfl | rfl | rfl
  · exact h.legible_body hw
  · exact (legible_text _ _).mono (Nat.zero_le 1)
  · exact (legible_text _ _).mono (Nat.zero_le 1)

theorem hexIn_readObject {name : String} {bs : Bytes}
    (h : fragment.parts.lookup name = some (.text (Hex.encode bs))) :
    hexIn (readObject .compact (partAsRead fragment.transaction) fragment.parts) name =
      .ok bs := by
  have hrequired := required_readObject .compact
    (partAsRead fragment.transaction) (parts_names_nodup fragment) h
  have hread : partAsRead fragment.transaction (.text (Hex.encode bs)) =
      .text (Hex.encode bs) :=
    Transaction.asRead_ofString (Hex.encode bs)
  have hchars : (Text.ofString (Hex.encode bs)).chars? = some (Hex.chars bs) := by
    unfold Hex.encode Text.ofString
    rw [String.toList_ofList, Text.chars?_ofChars]
  unfold hexIn
  rw [hrequired, hread]
  simp only [bind, Except.bind, hchars, Option.bind_some, Hex.bytes?_chars]

/-- **Decoding.** The bytes of a fragment whose numbers can be written decode to the fragment. -/
theorem parse_bytes (h : fragment.transaction.Plain)
    (hw : fragment.transaction.isWritable = true) :
    parse fragment.bytes = .ok { fragment with transaction := fragment.transaction.paired } := by
  have hbody := required_readObject .compact
    (partAsRead fragment.transaction) (parts_names_nodup fragment)
    (show fragment.parts.lookup "body" = some fragment.transaction.body from rfl)
  have hparse : Json.parseBytes fragment.bytes = .ok _ :=
    (legible_document h hw).parseBytes (by decide)
  unfold parse
  rw [hparse]
  show ofDocument _ = _
  have hobject : partAsRead fragment.transaction fragment.transaction.body =
      readObject .compact Transaction.asRead fragment.transaction.bodyFields :=
    rfl
  unfold ofDocument make
  rw [hbody, hobject]
  simp only [bind, Except.bind, h.ofBody_readObject hw,
    hexIn_readObject (show fragment.parts.lookup "public_key" = some _ from rfl),
    hexIn_readObject (show fragment.parts.lookup "signature" = some _ from rfl),
    fragment.signed, ne_eq, not_false_eq_true, dif_pos]

end Fragment

/-- A transaction that a session builds has texts where it may have them. -/
theorem Wallet.Office.Builds.plain {ω : Type} {office : Wallet.Office ω} {tx : Transaction}
    {r : Wallet.Reservation} (h : office.Builds tx r) {hash : Text}
    (hhash : office.settings.block0Hash = .text hash) : tx.Plain := by
  cases h with
  | transfer destination counter validUntil hvalue =>
      unfold Office.transferOf
      rw [hhash]
      exact .transfer _ _ _ _ _ _ _
  | vote ballot counter validUntil =>
      unfold Office.voteOf
      rw [hhash]
      exact .vote _ _ _ _ _ _ _ _

end BallotWallet
