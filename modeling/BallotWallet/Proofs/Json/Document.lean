import BallotWallet.Proofs.Json.Text

/-!
# Documents in JSON

The reader understands what the writer writes. Written documents are put together from legible
pieces: what a piece stands for does not depend on what stands around it. Objects come back with
their fields in the order in which they were written.
-/

namespace BallotWallet.Json

open Text (CodePoint)

/-! ## Values -/

/-- The characters are the written form of a document: they are printable, and wherever they
stand they are read as the document, which nests lists and objects at most `depth` times. -/
structure Legible (cs : List Char) (depth : Nat) (d : Document) : Prop where
  front : ∃ c cs', cs = c :: cs' ∧ isGap (.char c) = false
  printable : ∀ c ∈ cs, IsPrintable c
  read : ∀ {fuel k : Nat} {rest : List CodePoint}, cs.length < fuel → depth ≤ k →
    NoNumber rest → readValue fuel k (cs.map .char ++ rest) = .ok (d, rest)

theorem Legible.mono {cs : List Char} {depth depth' : Nat} {d : Document}
    (h : Legible cs depth d) (hdepth : depth ≤ depth') : Legible cs depth' d where
  front := h.front
  printable := h.printable
  read := fun hfuel hk => h.read hfuel (Nat.le_trans hdepth hk)

theorem legible_text (style : Style) (t : Text) :
    Legible (write style (.text t)) 0 (.text (pairedText t)) where
  front := ⟨'"', _, rfl, rfl⟩
  printable := fun c hc => isPrintable_writeText hc
  read := by
    intro fuel k rest hfuel _ _
    obtain ⟨fuel, rfl⟩ := Nat.exists_eq_add_one_of_ne_zero (Nat.ne_zero_of_lt hfuel)
    show readValue (fuel + 1) k ((writeText t).map .char ++ rest) = _
    rw [map_writeText, readValue, readText_writeText]
    rfl

theorem readName?_of_front {c : Char} {ps : List CodePoint} (h : c.isDigit = true) :
    readName? (.char c :: ps) = none := by
  have hne : ∀ w : Char, w.isDigit = false → (CodePoint.char c == .char w) = false := by
    intro w hw
    refine beq_eq_false_iff_ne.mpr fun heq => ?_
    rw [CodePoint.char.inj heq, hw] at h
    cases h
  have hdrop : ∀ (w : Char) (ws : List Char), w.isDigit = false →
      dropWord? (w :: ws) (.char c :: ps) = none := by
    intro w ws hw
    rw [dropWord?, hne w hw, if_neg Bool.false_ne_true]
  unfold readName? names
  simp [hdrop]

theorem readName?_minus {c : Char} {ps : List CodePoint} (h : c.isDigit = true) :
    readName? (.char '-' :: .char c :: ps) = none := by
  have hne : c ≠ 'I' := by
    rintro rfl
    exact absurd h (by decide)
  unfold readName? names
  simp [dropWord?, hne]

theorem readPlain_digit {c : Char} {ps : List CodePoint} (h : c.isDigit = true) :
    readPlain (.char c :: ps) = readNumber false (.char c :: ps) := by
  unfold readPlain
  rw [readName?_of_front h]
  dsimp only
  split
  · rename_i heq
    rw [CodePoint.char.inj (List.cons.inj heq).1] at h
    exact absurd h (by decide)
  · rfl

theorem readValue_plain {c : Char} (hquote : c ≠ '"') (hlist : c ≠ '[') (hobject : c ≠ '\x7b')
    {fuel k : Nat} {ps : List CodePoint} :
    readValue (fuel + 1) k (.char c :: ps) = readPlain (.char c :: ps) := by
  rw [readValue]
  · rintro _ heq
    exact hquote (CodePoint.char.inj (List.cons.inj heq).1)
  · rintro _ heq
    exact hlist (CodePoint.char.inj (List.cons.inj heq).1)
  · rintro _ heq
    exact hobject (CodePoint.char.inj (List.cons.inj heq).1)

theorem isGap_written {c : Char} (h : Numeral.IsWritten c) : isGap (.char c) = false := by
  have hblank : c ≠ ' ' := h.ne (by decide)
  have htab : c ≠ '\t' := h.ne (by decide)
  have hline : c ≠ '\n' := h.ne (by decide)
  have hreturn : c ≠ '\r' := h.ne (by decide)
  simp [isGap, hblank, htab, hline, hreturn]

theorem legible_int (style : Style) {n : Int} (hn : Numeral.isWritable n = true) :
    Legible (write style (.int n)) 0 (.int n) := by
  obtain ⟨d, ds, hds⟩ := List.exists_cons_of_ne_nil (Numeral.digits_ne_nil n)
  have hd : d.isDigit = true := Numeral.isDigit_of_mem_digits (hds ▸ List.mem_cons_self)
  have hwrite : write style (.int n) = (toString n).toList := rfl
  have hprintable : ∀ c ∈ (toString n).toList, IsPrintable c := by
    intro c hc
    obtain ⟨hlow, hhigh⟩ := (Numeral.isWritten_of_mem hc).toNat_bounds
    exact ⟨by omega, by omega⟩
  rw [hwrite]
  refine ⟨?_, hprintable, ?_⟩
  · obtain ⟨c, cs, hcs⟩ := List.exists_cons_of_ne_nil (Numeral.toString_ne_nil n)
    have hc : Numeral.IsWritten c := Numeral.isWritten_of_mem (hcs ▸ List.mem_cons_self)
    exact ⟨c, cs, hcs, isGap_written hc⟩
  · intro fuel k rest hfuel _ hrest
    obtain ⟨fuel, rfl⟩ := Nat.exists_eq_add_one_of_ne_zero (Nat.ne_zero_of_lt hfuel)
    have hread := readNumber_digits hn hrest
    rw [Numeral.toString_toList]
    by_cases hneg : n < 0
    · rw [if_pos hneg, hds]
      rw [hds] at hread
      simp only [hneg, decide_true] at hread
      show readValue (fuel + 1) k (.char '-' :: .char d :: (ds.map .char ++ rest)) = _
      rw [readValue_plain (by decide) (by decide) (by decide), readPlain, readName?_minus hd]
      exact hread
    · rw [if_neg hneg, hds]
      rw [hds] at hread
      simp only [hneg, decide_false] at hread
      have hne : ∀ w : Char, w.isDigit = false → d ≠ w := by
        rintro w hw rfl
        rw [hd] at hw
        cases hw
      show readValue (fuel + 1) k (.char d :: (ds.map .char ++ rest)) = _
      rw [readValue_plain (hne _ rfl) (hne _ rfl) (hne _ rfl), readPlain_digit hd]
      exact hread

/-- A name that is known is read as its value. -/
theorem legible_named {c : Char} {cs : List Char} {d : Document} (hc : c.isAlpha = true)
    (hprintable : (c :: cs).all (fun b => decide (IsPrintable b)) = true)
    (hname : ∀ rest, readName? ((c :: cs).map .char ++ rest) = some (d, rest)) :
    Legible (c :: cs) 0 d := by
  have hne : ∀ w : Char, w.isAlpha = false → c ≠ w := by
    rintro w hw rfl
    rw [hc] at hw
    cases hw
  refine ⟨⟨c, cs, rfl, ?_⟩, fun b hb => of_decide_eq_true (List.all_eq_true.mp hprintable b hb), ?_⟩
  · simp [isGap, hne ' ' rfl, hne '\t' rfl, hne '\n' rfl, hne '\r' rfl]
  · intro fuel k rest hfuel _ _
    obtain ⟨fuel, rfl⟩ := Nat.exists_eq_add_one_of_ne_zero (Nat.ne_zero_of_lt hfuel)
    have hplain : readPlain ((c :: cs).map .char ++ rest) = .ok (d, rest) := by
      unfold readPlain
      rw [hname]
    exact (readValue_plain (hne _ rfl) (hne _ rfl) (hne _ rfl)).trans hplain

theorem legible_null (style : Style) : Legible (write style .null) 0 .null := by
  show Legible ['n', 'u', 'l', 'l'] 0 .null
  exact legible_named rfl rfl fun rest => by simp [readName?, names, dropWord?]

theorem legible_bool (style : Style) (b : Bool) : Legible (write style (.bool b)) 0 (.bool b) := by
  cases b with
  | true =>
      show Legible ['t', 'r', 'u', 'e'] 0 (.bool true)
      exact legible_named rfl rfl fun rest => by simp [readName?, names, dropWord?]
  | false =>
      show Legible ['f', 'a', 'l', 's', 'e'] 0 (.bool false)
      exact legible_named rfl rfl fun rest => by simp [readName?, names, dropWord?]

/-! ## Objects -/

/-- Commas and colons with nothing but blanks behind them. -/
structure Style.Regular (style : Style) : Prop where
  comma : ∃ n, style.comma = ',' :: List.replicate n ' '
  colon : ∃ n, style.colon = ':' :: List.replicate n ' '

theorem Style.compact_regular : Style.compact.Regular :=
  ⟨⟨0, rfl⟩, ⟨0, rfl⟩⟩

theorem Style.spaced_regular : Style.spaced.Regular :=
  ⟨⟨1, rfl⟩, ⟨1, rfl⟩⟩

theorem skip_blanks (n : Nat) (ps : List CodePoint) :
    skip ((List.replicate n ' ').map .char ++ ps) = skip ps := by
  induction n with
  | zero => rfl
  | succ n ih =>
      rw [List.replicate_succ]
      exact ih

theorem skip_eq_self {c : Char} (h : isGap (.char c) = false) (ps : List CodePoint) :
    skip (.char c :: ps) = .char c :: ps := by
  unfold skip
  rw [List.dropWhile_cons, h, if_neg Bool.false_ne_true]

theorem Legible.skip_eq {cs : List Char} {depth : Nat} {d : Document} (h : Legible cs depth d)
    (ps : List CodePoint) : skip (cs.map .char ++ ps) = cs.map .char ++ ps := by
  obtain ⟨c, cs', rfl, hgap⟩ := h.front
  exact skip_eq_self hgap _

/-- What is written for a field. -/
def fieldChars (style : Style) (f : Text × Document) : List Char :=
  writeText f.1 ++ style.colon ++ write style f.2

theorem writeFields_eq (style : Style) (fields : List (Text × Document)) :
    writeFields style fields = fields.map fun f => (f.1, fieldChars style f) := by
  induction fields with
  | nil => rfl
  | cons f fields ih =>
      rw [writeFields, ih]
      rfl

/-- The fields in the order in which a style writes them. -/
def Style.order {α : Type} (style : Style) (fields : List (Text × α)) : List (Text × α) :=
  if style.sorted then sortFields fields else fields

theorem Style.order_perm {α : Type} (style : Style) (fields : List (Text × α)) :
    (style.order fields).Perm fields := by
  unfold Style.order
  split
  · exact List.mergeSort_perm _ _
  · exact List.Perm.refl _

theorem Style.order_map {α β : Type} (style : Style) (g : Text × α → β)
    (fields : List (Text × α)) :
    style.order (fields.map fun f => (f.1, g f)) =
      (style.order fields).map fun f => (f.1, g f) := by
  unfold Style.order
  split
  · have hsort := List.map_mergeSort (r := fun a b : Text × α => a.1.le b.1)
      (s := fun a b : Text × β => a.1.le b.1) (f := fun f => (f.1, g f))
      (l := fields) fun _ _ _ _ => rfl
    exact hsort.symm
  · rfl

theorem write_object (style : Style) (fields : List (Text × Document)) :
    write style (.object fields) = '\x7b' ::
      (separated style.comma ((style.order fields).map (fieldChars style)) ++ ['\x7d']) := by
  have horder := style.order_map (fieldChars style) fields
  unfold Style.order at horder
  rw [write, writeFields_eq]
  rw [horder, List.map_map]
  rfl

section Fields

variable {style : Style} {read : Document → Document} {depth fuel k : Nat} {f : Text × Document}
  {before : List (Text × Document)} {next rest : List CodePoint}

/-- The field as it is read. -/
def readField (read : Document → Document) (f : Text × Document) : Text × Document :=
  (pairedText f.1, read f.2)

theorem map_fieldChars {n : Nat} (hcolon : style.colon = ':' :: List.replicate n ' ')
    (f : Text × Document) (next : List CodePoint) :
    (fieldChars style f).map .char ++ next =
      .char '"' :: (spelled f.1.points ++ .char '"' :: .char ':' ::
        ((List.replicate n ' ').map .char ++ ((write style f.2).map .char ++ next))) := by
  unfold fieldChars
  rw [hcolon, List.map_append, List.map_append, List.append_assoc, List.append_assoc,
    map_writeText]
  rfl

theorem length_write_lt (style : Style) (f : Text × Document) :
    (write style f.2).length < (fieldChars style f).length := by
  unfold fieldChars writeText
  simp only [List.length_append, List.length_cons]
  omega

theorem readFields_last (hstyle : style.Regular) (hf : Legible (write style f.2) depth (read f.2))
    (hfuel : (fieldChars style f).length ≤ fuel) (hk : depth ≤ k) (hnext : NoNumber next)
    (hafter : skip next = .char '\x7d' :: rest) :
    readFields (fuel + 1) k before ((fieldChars style f).map .char ++ next) =
      .ok (Document.setField (pairedText f.1) (read f.2) before, rest) := by
  obtain ⟨n, hcolon⟩ := hstyle.colon
  have hlen := length_write_lt style f
  have hvalue := hf.read (Nat.lt_of_lt_of_le hlen hfuel) hk hnext
  have hskip : ∀ ps : List CodePoint, skip (.char ':' :: ps) = .char ':' :: ps :=
    skip_eq_self rfl
  rw [map_fieldChars hcolon, readFields, readText_writeText]
  simp only [bind, Except.bind, hskip, skip_blanks, hf.skip_eq, hvalue, hafter]

theorem readFields_next (hstyle : style.Regular) (hf : Legible (write style f.2) depth (read f.2))
    (hfuel : (fieldChars style f).length ≤ fuel) (hk : depth ≤ k) (hnext : NoNumber next)
    (hafter : skip next = .char ',' :: rest) :
    readFields (fuel + 1) k before ((fieldChars style f).map .char ++ next) =
      readFields fuel k (Document.setField (pairedText f.1) (read f.2) before) (skip rest) := by
  obtain ⟨n, hcolon⟩ := hstyle.colon
  have hlen := length_write_lt style f
  have hvalue := hf.read (Nat.lt_of_lt_of_le hlen hfuel) hk hnext
  have hskip : ∀ ps : List CodePoint, skip (.char ':' :: ps) = .char ':' :: ps :=
    skip_eq_self rfl
  rw [map_fieldChars hcolon, readFields, readText_writeText]
  simp only [bind, Except.bind, hskip, skip_blanks, hf.skip_eq, hvalue, hafter]

theorem setField_new {name : Text} {fields : List (Text × Document)}
    (h : name ∉ fields.map (·.1)) (d : Document) :
    Document.setField name d fields = fields ++ [(name, d)] := by
  induction fields with
  | nil => rfl
  | cons f fields ih =>
      rw [List.map_cons, List.mem_cons, not_or] at h
      rw [Document.setField, if_neg (Ne.symm h.1), ih h.2]
      rfl

theorem separated_front (style : Style) (f : Text × Document) (fields : List (Text × Document)) :
    ∃ cs, separated style.comma ((f :: fields).map (fieldChars style)) = '"' :: cs := by
  cases fields with
  | nil => exact ⟨_, rfl⟩
  | cons g fields => exact ⟨_, rfl⟩

theorem skip_separated (style : Style) (f : Text × Document) (fields : List (Text × Document))
    (ps : List CodePoint) :
    skip ((separated style.comma ((f :: fields).map (fieldChars style))).map .char ++ ps) =
      (separated style.comma ((f :: fields).map (fieldChars style))).map .char ++ ps := by
  obtain ⟨cs, hcs⟩ := separated_front style f fields
  rw [hcs]
  exact skip_eq_self rfl _

/-- Written fields with different names are read one by one. -/
theorem readFields_written (hstyle : style.Regular) {fields : List (Text × Document)}
    (hne : fields ≠ [])
    (hnames : (before.map (·.1) ++ fields.map fun f => pairedText f.1).Nodup)
    (hfields : ∀ f ∈ fields, Legible (write style f.2) depth (read f.2))
    (hfuel : (separated style.comma (fields.map (fieldChars style))).length < fuel)
    (hk : depth ≤ k) :
    readFields fuel k before ((separated style.comma (fields.map (fieldChars style))).map .char ++
      .char '\x7d' :: rest) = .ok (before ++ fields.map (readField read), rest) := by
  obtain ⟨n, hcomma⟩ := hstyle.comma
  induction fields generalizing before fuel with
  | nil => exact absurd rfl hne
  | cons f fields ih =>
      obtain ⟨fuel, rfl⟩ := Nat.exists_eq_add_one_of_ne_zero (Nat.ne_zero_of_lt hfuel)
      have hf := hfields f List.mem_cons_self
      have hnew : pairedText f.1 ∉ before.map (·.1) := by
        intro hmem
        exact (List.nodup_append.mp hnames).2.2 _ hmem _ List.mem_cons_self rfl
      -- the last field is followed by the closing brace, any other one by a comma
      cases fields with
      | nil =>
          have hlast : readFields (fuel + 1) k before
              ((fieldChars style f).map .char ++ .char '\x7d' :: rest) = _ :=
            readFields_last hstyle hf (Nat.le_of_lt_succ hfuel) hk (noNumber_cons rfl)
              (skip_eq_self rfl rest)
          rw [setField_new hnew] at hlast
          exact hlast
      | cons g fields =>
          have hwritten : (separated style.comma ((f :: g :: fields).map (fieldChars style))) =
              fieldChars style f ++ (',' :: List.replicate n ' ' ++
                separated style.comma ((g :: fields).map (fieldChars style))) := by
            rw [← hcomma, ← List.append_assoc]
            rfl
          rw [hwritten] at hfuel ⊢
          simp only [List.length_append, List.length_cons, List.length_replicate] at hfuel
          have hrest : readFields fuel k (before ++ [readField read f])
              ((separated style.comma ((g :: fields).map (fieldChars style))).map .char ++
                .char '\x7d' :: rest) =
              .ok (before ++ [readField read f] ++ (g :: fields).map (readField read), rest) :=
            ih (List.cons_ne_nil _ _) (by simpa [readField] using hnames)
              (fun h hh => hfields h (List.mem_cons_of_mem _ hh)) (by omega)
          have hstep : readFields (fuel + 1) k before ((fieldChars style f).map .char ++
              .char ',' :: ((List.replicate n ' ').map .char ++
                ((separated style.comma ((g :: fields).map (fieldChars style))).map .char ++
                  .char '\x7d' :: rest))) = _ :=
            readFields_next hstyle hf (by omega) hk (noNumber_cons rfl) (skip_eq_self rfl _)
          rw [skip_blanks, skip_separated, setField_new hnew] at hstep
          rw [List.map_append, List.map_append, List.append_assoc, List.append_assoc]
          rw [List.append_assoc] at hrest
          exact hstep.trans hrest

theorem isPrintable_separated {sep : List Char} (hsep : ∀ c ∈ sep, IsPrintable c)
    {pieces : List (List Char)} (h : ∀ piece ∈ pieces, ∀ c ∈ piece, IsPrintable c) :
    ∀ c ∈ separated sep pieces, IsPrintable c := by
  induction pieces with
  | nil => rintro c ⟨⟩
  | cons piece pieces ih =>
      have hpiece := h piece List.mem_cons_self
      have hrest := ih fun q hq => h q (List.mem_cons_of_mem _ hq)
      cases pieces with
      | nil => exact hpiece
      | cons q pieces =>
          intro c hc
          rcases List.mem_append.mp hc with hc | hc
          · rcases List.mem_append.mp hc with hc | hc
            · exact hpiece c hc
            · exact hsep c hc
          · exact hrest c hc

theorem isPrintable_blanks {c : Char} (hc : IsPrintable c) (n : Nat) :
    ∀ d ∈ c :: List.replicate n ' ', IsPrintable d := by
  intro d hd
  rcases List.mem_cons.mp hd with rfl | hd
  · exact hc
  · rw [List.eq_of_mem_replicate hd]
    decide

theorem isPrintable_fieldChars (hstyle : style.Regular)
    (hf : Legible (write style f.2) depth (read f.2)) :
    ∀ c ∈ fieldChars style f, IsPrintable c := by
  obtain ⟨n, hcolon⟩ := hstyle.colon
  intro c hc
  unfold fieldChars at hc
  rcases List.mem_append.mp hc with hc | hc
  · rcases List.mem_append.mp hc with hc | hc
    · exact isPrintable_writeText hc
    · rw [hcolon] at hc
      exact isPrintable_blanks (by decide) n c hc
  · exact hf.printable c hc

theorem readValue_object {ps ps' : List CodePoint} {fields : List (Text × Document)}
    (hskip : skip ps = .char '"' :: ps')
    (hread : readFields fuel k [] (.char '"' :: ps') = .ok (fields, rest)) :
    readValue (fuel + 1) (k + 1) (.char '\x7b' :: ps) = .ok (.object fields, rest) := by
  have hfields : readValue (fuel + 1) (k + 1) (.char '\x7b' :: ps) =
      (readFields fuel k [] (.char '"' :: ps') >>= fun r => .ok (.object r.1, r.2)) := by
    rw [readValue.eq_def]
    simp only [hskip]
    rfl
  rw [hfields, hread]
  rfl

/-- An object is read in the order in which its fields were written. -/
theorem legible_object (hstyle : style.Regular) {fields : List (Text × Document)}
    (hne : fields ≠ []) (hnames : (fields.map fun f => pairedText f.1).Nodup)
    (hfields : ∀ f ∈ fields, Legible (write style f.2) depth (read f.2)) :
    Legible (write style (.object fields)) (depth + 1)
      (.object ((style.order fields).map (readField read))) := by
  have hperm := style.order_perm fields
  have hne' : style.order fields ≠ [] := by
    intro hnil
    rw [hnil] at hperm
    exact hne hperm.nil_eq.symm
  have hnames' : ((style.order fields).map fun f => pairedText f.1).Nodup :=
    (hperm.map _).nodup_iff.mpr hnames
  have hfields' : ∀ f ∈ style.order fields, Legible (write style f.2) depth (read f.2) :=
    fun f hf => hfields f (hperm.mem_iff.mp hf)
  -- the order of the fields no longer matters
  rw [write_object]
  generalize style.order fields = fields at hne' hnames' hfields' ⊢
  refine ⟨⟨_, _, rfl, rfl⟩, ?_, ?_⟩
  · obtain ⟨n, hcomma⟩ := hstyle.comma
    have hbody : ∀ c ∈ separated style.comma (fields.map (fieldChars style)), IsPrintable c := by
      refine isPrintable_separated (hcomma ▸ isPrintable_blanks (by decide) n) ?_
      intro piece hpiece
      obtain ⟨f, hf, rfl⟩ := List.mem_map.mp hpiece
      exact isPrintable_fieldChars hstyle (hfields' f hf)
    intro c hc
    rcases List.mem_cons.mp hc with rfl | hc
    · decide
    · rcases List.mem_append.mp hc with hc | hc
      · exact hbody c hc
      · rw [List.mem_singleton] at hc
        exact hc ▸ (by decide)
  · intro fuel k rest hfuel hk _
    obtain ⟨fuel, rfl⟩ := Nat.exists_eq_add_one_of_ne_zero (Nat.ne_zero_of_lt hfuel)
    obtain ⟨k, rfl⟩ := Nat.exists_eq_add_one_of_ne_zero (Nat.ne_zero_of_lt hk)
    obtain ⟨f, tail, rfl⟩ := List.exists_cons_of_ne_nil hne'
    simp only [List.length_cons, List.length_append] at hfuel
    have hread : readFields fuel k []
        ((separated style.comma ((f :: tail).map (fieldChars style))).map .char ++
          .char '\x7d' :: rest) = .ok ([] ++ (f :: tail).map (readField read), rest) :=
      readFields_written hstyle hne' hnames' hfields' (by omega) (Nat.le_of_succ_le_succ hk)
    have hskip := skip_separated style f tail (.char '\x7d' :: rest)
    obtain ⟨cs, hcs⟩ := separated_front style f tail
    rw [List.map_cons, List.map_append, List.cons_append, List.append_assoc]
    show readValue (fuel + 1) (k + 1) (.char '\x7b' ::
      ((separated style.comma ((f :: tail).map (fieldChars style))).map .char ++
        .char '\x7d' :: rest)) = _
    rw [hcs] at hread hskip ⊢
    exact readValue_object hskip hread

end Fields

/-! ## Whole documents -/

/-- A document that is written legibly is the document that the text stands for. -/
theorem Legible.parse {cs : List Char} {depth : Nat} {d : Document} (h : Legible cs depth d)
    (hdepth : depth ≤ maxDepth) : parse (Text.ofChars cs) = .ok d := by
  have hread : readValue (cs.length + 1) maxDepth (cs.map .char ++ []) = .ok (d, []) :=
    h.read (Nat.lt_succ_self _) hdepth noNumber_nil
  have hskip := h.skip_eq []
  rw [List.append_nil] at hread hskip
  unfold Json.parse Text.ofChars
  rw [hskip, List.length_map, hread]
  rfl

/-! ## Bytes -/

theorem unmarkedEncoding_of_nonzero {bs : Bytes} (h : ∀ b ∈ bs, b ≠ 0) :
    Text.unmarkedEncoding bs = .utf8 := by
  have hzero : ∀ b ∈ bs, (b == 0) = false := fun b hb => beq_eq_false_iff_ne.mpr (h b hb)
  fun_cases Text.unmarkedEncoding bs <;> simp_all

theorem byteOrderMarks_unprintable :
    ∀ mark ∈ Text.byteOrderMarks, ∃ b ∈ mark.1, ¬ (0x20 ≤ b.toNat ∧ b.toNat ≤ 0x7e) := by
  decide

theorem detectEncoding_of_printable {bs : Bytes} (h : ∀ b ∈ bs, 0x20 ≤ b.toNat ∧ b.toNat ≤ 0x7e) :
    Text.detectEncoding bs = (.utf8, bs) := by
  have hmark : Text.byteOrderMarks.find? (fun mark => mark.1.isPrefixOf bs) = none := by
    rw [List.find?_eq_none]
    intro mark hmem hprefix
    obtain ⟨b, hb, hnot⟩ := byteOrderMarks_unprintable mark hmem
    exact hnot (h b ((List.isPrefixOf_iff_prefix.mp hprefix).subset hb))
  have hnonzero : ∀ b ∈ bs, b ≠ 0 := by
    rintro b hb rfl
    exact absurd (h _ hb).1 (by decide)
  rw [Text.detectEncoding, hmark]
  show (Text.unmarkedEncoding bs, bs) = _
  rw [unmarkedEncoding_of_nonzero hnonzero]

/-- The bytes of printable characters are the text of these characters. -/
theorem jsonText?_ofString {cs : List Char} (h : ∀ c ∈ cs, IsPrintable c) :
    Text.jsonText? (Bytes.ofString (String.ofList cs)) = some (Text.ofChars cs) := by
  have hbytes : ∀ b ∈ cs.map fun c => UInt8.ofNat c.toNat, 0x20 ≤ b.toNat ∧ b.toNat ≤ 0x7e := by
    intro b hb
    obtain ⟨c, hc, rfl⟩ := List.mem_map.mp hb
    rw [Text.toNat_ofNat_of_isAscii (h c hc).isAscii]
    exact h c hc
  have hascii : ∀ c ∈ cs, Text.IsAscii c := fun c hc => (h c hc).isAscii
  unfold Text.jsonText?
  rw [Text.ofString_ofList hascii, detectEncoding_of_printable hbytes,
    ← Text.ofString_ofList hascii]
  show ((Text.utf8Points true _).mapM id).map Text.mk = _
  rw [Text.mapM_utf8Points_ofString true hascii]
  rfl

/-- A document that is written legibly is the document that the bytes stand for. -/
theorem Legible.parseBytes {cs : List Char} {depth : Nat} {d : Document} (h : Legible cs depth d)
    (hdepth : depth ≤ maxDepth) : parseBytes (Bytes.ofString (String.ofList cs)) = .ok d := by
  unfold Json.parseBytes
  rw [jsonText?_ofString h.printable]
  exact h.parse hdepth

end BallotWallet.Json
