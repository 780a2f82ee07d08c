import BallotWallet.Log.Line
import BallotWallet.Proofs.Decoding
import BallotWallet.Proofs.Messages

/-!
# Lines for a program

The JSON line of a record can neither be broken nor forged. Whatever the texts of the record say,
the line consists of printable ASCII, and it stands for one object in which all that the record
tells is found under its name. Three things are out of reach: a time outside the calendar and a
number that is too long to be written have no line at all, and two halves of a surrogate pair that
follow one another come back as one character.
-/

namespace BallotWallet.Log

open Json (IsPrintable Legible Style pairedText pairedText_ofString readField readObject)
open Text (CodePoint)
open Transaction (asRead asRead_ofString)

/-! ## Strings -/

/-- A code point that is no half of a surrogate pair. -/
def IsChar (p : CodePoint) : Prop :=
  ∃ c, p = .char c

/-- A text without halves of surrogate pairs. -/
def IsString (t : Text) : Prop :=
  ∃ s : String, t = s

theorem isString_of_points {t : Text} (h : ∀ p ∈ t.points, IsChar p) : IsString t := by
  obtain ⟨ps⟩ := t
  have hchars : ∃ cs : List Char, ps = cs.map .char := by
    induction ps with
    | nil => exact ⟨[], rfl⟩
    | cons p ps ih =>
        obtain ⟨⟨c, rfl⟩, hps⟩ := List.forall_mem_cons.mp h
        obtain ⟨cs, rfl⟩ := ih hps
        exact ⟨c :: cs, rfl⟩
  obtain ⟨cs, rfl⟩ := hchars
  refine ⟨String.ofList cs, ?_⟩
  unfold Text.ofString
  rw [String.toList_ofList]
  rfl

theorem IsString.points {t : Text} (h : IsString t) : ∀ p ∈ t.points, IsChar p := by
  obtain ⟨s, rfl⟩ := h
  intro p hp
  obtain ⟨c, _, rfl⟩ := List.mem_map.mp hp
  exact ⟨c, rfl⟩

/-- A message is a string if its template is one, and so are the texts among its arguments, and no
number among them is that of half a surrogate pair. -/
theorem isString_message {template m : Text} {args : List Document}
    (h : message template args = .ok m) (htemplate : IsString template)
    (hargs : ∀ d, Offered args d → Brings IsChar d) : IsString m :=
  isString_of_points (message_points (fun c _ => ⟨c, rfl⟩) h htemplate.points hargs)

/-! ## What a record is about -/

/-- What a record can be about: nothing, a truth value, a number that is not too long, or a
string. -/
inductive Simple : Document → Prop
  | null : Simple .null
  | bool (b : Bool) : Simple (.bool b)
  | int {n : Int} (h : Numeral.isWritable n = true) : Simple (.int n)
  | text {t : Text} (h : IsString t) : Simple (.text t)

namespace Simple

variable {d : Document}

theorem legible (h : Simple d) (style : Style) : Legible (Json.write style d) 0 d := by
  cases h with
  | null => exact Json.legible_null style
  | bool b => exact Json.legible_bool style b
  | int h => exact Json.legible_int style h
  | text h =>
      obtain ⟨s, rfl⟩ := h
      have hlegible := Json.legible_text style s
      rwa [pairedText_ofString] at hlegible

theorem asRead_eq (h : Simple d) : asRead d = d := by
  cases h with
  | text h =>
      obtain ⟨s, rfl⟩ := h
      exact asRead_ofString s
  | _ => rfl

theorem isWritable (h : Simple d) : d.isWritable = true := by
  cases h with
  | int h => exact h
  | _ => rfl

end Simple

/-- All that is known of what a record is about is simple. -/
structure Context.Simple (context : Context) : Prop where
  fragmentId : Log.Simple context.fragmentId
  counter : Log.Simple context.counter
  account : Log.Simple context.account

theorem Context.Simple.of_mem {context : Context} (h : context.Simple) {f : String × Document}
    (hf : f ∈ context.fields) : Log.Simple f.2 := by
  obtain ⟨rfl | rfl | rfl, _⟩ := Context.mem_fields.mp hf
  · exact h.fragmentId
  · exact h.counter
  · exact h.account

/-- A record about simple things has a line, in any form. -/
theorem written_eq_ok {α : Type} {form : Record → α} {r : Record} (h : r.context.Simple) :
    r.written form = .ok (form r) :=
  if_pos (List.all_eq_true.mpr fun _ hf => (h.of_mem hf).isWritable)

/-! ## The object of a line -/

section Lines

variable {made : Instant} {r : Record}

/-- The fields of the object that is written for a record. -/
def lineFields (made : Instant) (r : Record) : List (String × Document) :=
  ("ts", .text (made.day.text ++ "T" ++ made.time.text ++ "+00:00")) :: r.fields

theorem lineFields_eq : lineFields made r =
    [("ts", .text (made.day.text ++ "T" ++ made.time.text ++ "+00:00")),
      ("level", .text (levelName r.level)), ("logger", .text r.logger), ("msg", .text r.message)] ++
      (r.context.fields ++ (r.exception.map fun t => ("exception", Document.text t)).toList) := by
  unfold lineFields Record.fields
  cases r.exception with
  | none => rw [List.append_assoc]; rfl
  | some t => rw [List.append_assoc]; rfl

/-- The names that fields of a line may have. -/
def lineNames : List String :=
  ["ts", "level", "logger", "msg", "fragment_id", "counter", "account", "exception"]

theorem lineFields_names_sublist : ((lineFields made r).map (·.1)).Sublist lineNames := by
  have hcontext : (r.context.fields.map (·.1)).Sublist ["fragment_id", "counter", "account"] :=
    List.filter_sublist.map _
  have hexception : ((r.exception.map fun t => ("exception", Document.text t)).toList.map
      (·.1)).Sublist ["exception"] := by
    cases r.exception with
    | none => exact List.nil_sublist _
    | some t => exact List.Sublist.refl _
  rw [lineFields_eq, List.map_append, List.map_append]
  exact (List.Sublist.refl ["ts", "level", "logger", "msg"]).append (hcontext.append hexception)

theorem lineFields_names_nodup : ((lineFields made r).map (·.1)).Nodup :=
  lineFields_names_sublist.nodup (by decide)

theorem mem_lineFields {f : String × Document} : f ∈ lineFields made r ↔
    f = ("ts", .text (made.day.text ++ "T" ++ made.time.text ++ "+00:00")) ∨
      f = ("level", .text (levelName r.level)) ∨ f = ("logger", .text r.logger) ∨
      f = ("msg", .text r.message) ∨ f ∈ r.context.fields ∨
      ∃ t, r.exception = some t ∧ f = ("exception", .text t) := by
  rw [lineFields_eq]
  simp only [List.mem_append, List.mem_cons, List.not_mem_nil, or_false, or_assoc,
    Option.mem_toList, Option.map_eq_some_iff, eq_comm (b := f)]

/-- The fields of a line are texts, and what the record is about. -/
theorem legible_lineFields (h : r.context.Simple) : ∀ f ∈ lineFields made r,
    Legible (Json.write .spaced f.2) 0 (asRead f.2) := by
  intro f hf
  have hcases : (∃ t, f.2 = .text t) ∨ f ∈ r.context.fields := by
    rcases mem_lineFields.mp hf with rfl | rfl | rfl | rfl | hf | ⟨t, _, rfl⟩
    · exact .inl ⟨_, rfl⟩
    · exact .inl ⟨_, rfl⟩
    · exact .inl ⟨_, rfl⟩
    · exact .inl ⟨_, rfl⟩
    · exact .inr hf
    · exact .inl ⟨t, rfl⟩
  rcases hcases with ⟨t, ht⟩ | hf
  · rw [ht]
    exact Json.legible_text .spaced t
  · have hsimple := h.of_mem hf
    rw [hsimple.asRead_eq]
    exact hsimple.legible .spaced

theorem legible_jsonLine (h : r.context.Simple) :
    Legible (Json.write .spaced (.ofFields (lineFields made r))) 1
      (readObject .spaced asRead (lineFields made r)) :=
  Json.legible_ofFields Style.spaced_regular (List.cons_ne_nil _ _) lineFields_names_nodup
    (legible_lineFields h)

/-- Nothing but printable ASCII stands in a line, whatever the texts of the record are. -/
theorem consists_jsonLine (h : r.context.Simple) : Consists IsPrintable (jsonLine made r) :=
  .ofList (legible_jsonLine h).printable

theorem parse_jsonLine (h : r.context.Simple) :
    Json.parse (jsonLine made r) = .ok (readObject .spaced asRead (lineFields made r)) := by
  have hchars : (jsonLine made r : Text) =
      Text.ofChars (Json.write .spaced (.ofFields (lineFields made r))) := by
    unfold Text.ofString
    exact congrArg Text.ofChars String.toList_ofList
  exact (congrArg Json.parse hchars).trans ((legible_jsonLine h).parse (by decide))

/-! ## What a line tells -/

/-- The fields that are read from a line. -/
def toldFields (made : Instant) (r : Record) : List (Text × Document) :=
  (Style.spaced.order ((lineFields made r).map fun f => ((f.1 : Text), f.2))).map
    (readField asRead)

theorem getField?_toldFields {name : String} {d : Document} :
    Document.getField? name (toldFields made r) = some d ↔
      ∃ e, (name, e) ∈ lineFields made r ∧ asRead e = d :=
  Json.getField?_readObject_iff lineFields_names_nodup

/-- The message is read, apart from halves that follow one another. -/
theorem told_message :
    Document.getField? "msg" (toldFields made r) = some (.text (pairedText r.message)) :=
  getField?_toldFields.mpr ⟨.text r.message, by simp [mem_lineFields], rfl⟩

/-- A string of a line is read under its name. -/
theorem told_text {name : String} {t : Text} (hmem : (name, .text t) ∈ lineFields made r)
    (ht : IsString t) : Document.getField? name (toldFields made r) = some (.text t) :=
  getField?_toldFields.mpr ⟨.text t, hmem, (Simple.text ht).asRead_eq⟩

/-- What a record is about is read under its name, if it is known. -/
theorem told_context {name : String} {part : Document} (hpart : Simple part)
    (hmem : ∀ e, (name, e) ∈ lineFields made r ↔ e = part ∧ e ≠ .null) (d : Document) :
    Document.getField? name (toldFields made r) = some d ↔ d = part ∧ d ≠ .null := by
  rw [getField?_toldFields]
  simp only [hmem]
  constructor
  · rintro ⟨_, ⟨rfl, hnull⟩, rfl⟩
    rw [hpart.asRead_eq]
    exact ⟨rfl, hnull⟩
  · rintro ⟨rfl, hnull⟩
    exact ⟨d, ⟨rfl, hnull⟩, hpart.asRead_eq⟩

theorem told_exception (h : ∀ t, r.exception = some t → IsString t) :
    Document.getField? "exception" (toldFields made r) = r.exception.map .text := by
  refine Option.ext fun d => ?_
  rw [getField?_toldFields, Option.map_eq_some_iff]
  simp only [mem_lineFields, Context.mem_fields]
  constructor
  · rintro ⟨e, hmem, rfl⟩
    obtain ⟨t, ht, rfl⟩ : ∃ t, r.exception = some t ∧ e = .text t := by simpa using hmem
    exact ⟨t, ht, (Simple.text (h t ht)).asRead_eq.symm⟩
  · rintro ⟨t, ht, rfl⟩
    exact ⟨.text t, by simpa using ht, (Simple.text (h t ht)).asRead_eq⟩

/-- Nothing that stands in a text of the record adds a field. -/
theorem told_only : ∀ f ∈ toldFields made r, f.1 ∈ lineNames.map Text.ofString := by
  intro told htold
  obtain ⟨written, hwritten, rfl⟩ := List.mem_map.mp htold
  obtain ⟨f, hf, rfl⟩ := List.mem_map.mp ((Style.spaced.order_perm _).mem_iff.mp hwritten)
  have hname := lineFields_names_sublist.subset (List.mem_map.mpr ⟨f, hf, rfl⟩)
  exact List.mem_map.mpr ⟨f.1, hname, (pairedText_ofString f.1).symm⟩

end Lines

/-- The fields of an object tell what a record says: each part that is known under its name, and
exactly as it is. No other fields are there. -/
structure Tells (fields : List (Text × Document)) (r : Record) : Prop where
  level : Document.getField? "level" fields = some (.text (levelName r.level))
  logger : Document.getField? "logger" fields = some (.text r.logger)
  message : Document.getField? "msg" fields = some (.text r.message)
  fragmentId : ∀ d, Document.getField? "fragment_id" fields = some d ↔
    d = r.context.fragmentId ∧ d ≠ .null
  counter : ∀ d, Document.getField? "counter" fields = some d ↔
    d = r.context.counter ∧ d ≠ .null
  account : ∀ d, Document.getField? "account" fields = some d ↔
    d = r.context.account ∧ d ≠ .null
  exception : Document.getField? "exception" fields = r.exception.map .text
  only : ∀ f ∈ fields, f.1 ∈ lineNames.map Text.ofString

theorem tells_toldFields {made : Instant} {r : Record} (hcontext : r.context.Simple)
    (hlogger : IsString r.logger) (hmessage : IsString r.message)
    (hexception : ∀ t, r.exception = some t → IsString t) : Tells (toldFields made r) r where
  level := told_text (by simp [mem_lineFields]) ⟨_, rfl⟩
  logger := told_text (by simp [mem_lineFields]) hlogger
  message := told_text (by simp [mem_lineFields]) hmessage
  fragmentId := told_context hcontext.fragmentId (by simp [mem_lineFields, Context.mem_fields])
  counter := told_context hcontext.counter (by simp [mem_lineFields, Context.mem_fields])
  account := told_context hcontext.account (by simp [mem_lineFields, Context.mem_fields])
  exception := told_exception hexception
  only := told_only

/-- Halves that follow one another are not told. -/
theorem not_tells_of_paired {made : Instant} {r : Record} (h : pairedText r.message ≠ r.message) :
    ¬Tells (toldFields made r) r := by
  intro htells
  have hread := told_message.symm.trans htells.message
  exact h (Document.text.inj (Option.some.inj hread))

/-- **A line for a program tells what its record says.** Let a record be about strings, truth
values and numbers that are not too long, and let its other texts be strings; its message is one if
its template and its arguments bring nothing else into it. Then the record has a line, which is made
of printable ASCII, so that no line break and no control character stands in it. The line is read as
an object in which the severity, the logger and the message of the record are found exactly as they
are, each known part of what it is about, and its exception if it has one, and no fields besides. -/
theorem jsonLine_tells {template : Text} {args : List Document} {r : Record}
    (hmessage : message template args = .ok r.message)
    (hstring : (IsString template ∧ ∀ d, Offered args d → Brings IsChar d) ∨ IsString r.message)
    (hlogger : IsString r.logger) (hexception : ∀ t, r.exception = some t → IsString t)
    (hcontext : r.context.Simple) (made : Instant) :
    ∃ (line : String) (fields : List (Text × Document)),
      r.written (jsonLine made) = .ok line ∧ Consists IsPrintable line ∧
        Json.parse line = .ok (.object fields) ∧ Tells fields r := by
  have hwhole : IsString r.message := by
    rcases hstring with ⟨htemplate, hargs⟩ | h
    · exact isString_message hmessage htemplate hargs
    · exact h
  exact ⟨jsonLine made r, toldFields made r, written_eq_ok hcontext, consists_jsonLine hcontext,
    parse_jsonLine hcontext, tells_toldFields hcontext hlogger hwhole hexception⟩

/-- The report of a fragment that was rejected for a reason with quotes, line breaks and a
character beyond the first plane. -/
def quoting : Record where
  logger := "voteflow.reconcile"
  level := warning
  message := "Fragment ab rejected: no\n\"\x7d\x00 😀"
  context := { fragmentId := .text "ab", counter := .int (-7), account := .bool true }
  exception := some "ValueError: \r\n"

/-- Its line tells what it says, all texts unharmed. -/
theorem jsonLine_tells_quoting :
    message "Fragment %s rejected: %s" [.text "ab", .text "no\n\"\x7d\x00 😀"] =
      .ok quoting.message ∧
    ∀ made, ∃ (line : String) (fields : List (Text × Document)),
      quoting.written (jsonLine made) = .ok line ∧ Consists IsPrintable line ∧
        Json.parse line = .ok (.object fields) ∧ Tells fields quoting := by
  have hmessage : message "Fragment %s rejected: %s"
      [.text "ab", .text "no\n\"\x7d\x00 😀"] = .ok quoting.message := by
    rfl
  have hargs : ∀ d, Offered [.text "ab", .text "no\n\"\x7d\x00 😀"] d → Brings IsChar d := by
    rintro d (hd | ⟨_, hfields, _⟩)
    · simp only [List.mem_cons, List.not_mem_nil, or_false] at hd
      rcases hd with rfl | rfl
      · exact IsString.points ⟨_, rfl⟩
      · exact IsString.points ⟨_, rfl⟩
    · cases hfields
  have hexception : ∀ t, quoting.exception = some t → IsString t := by
    rintro _ ⟨⟩
    exact ⟨_, rfl⟩
  have hcontext : quoting.context.Simple :=
    ⟨.text ⟨_, rfl⟩, .int (by decide +kernel), .bool true⟩
  exact ⟨hmessage, jsonLine_tells hmessage (.inl ⟨⟨_, rfl⟩, hargs⟩) ⟨_, rfl⟩ hexception hcontext⟩

/-- What no line tells. A time behind the end of the calendar and a number that is too long leave
a record without a line, and two halves that a directive for letters puts side by side are read as
one character. -/
theorem jsonLine_untold :
    (instant (Binary64.ofInt 253402300800) >>= fun made =>
      Record.written (jsonLine made) { logger := "v.t", level := info, message := "t" }) =
        .error .badValue ∧
    (∀ made, Record.written (jsonLine made) {
      logger := "v.t"
      level := info
      message := "t"
      context := { counter := .int (10 ^ 4300) } } = .error .badValue) ∧
    ∃ m, message "%c%c" [.int 0xd83d, .int 0xde00] = .ok m ∧ ∀ made, ∃ fields,
      Json.parse (jsonLine made { logger := "v.t", level := info, message := m }) =
        .ok (.object fields) ∧
      ¬Tells fields { logger := "v.t", level := info, message := m } := by
  refine ⟨?_, ?_, ?_⟩
  · have hmicros : Time.nearestMicros? (Binary64.ofInt 253402300800) =
        some 253402300800000000 := by
      decide +kernel
    have htime : instant (Binary64.ofInt 253402300800) = .error .badValue := by
      unfold instant
      rw [hmicros]
      rfl
    rw [htime]
    rfl
  · intro made
    exact if_neg (by decide +kernel)
  · refine ⟨⟨[.half 0x3d, .half 0x600]⟩, by rfl, fun made => ?_⟩
    exact ⟨_, parse_jsonLine ⟨.null, .null, .null⟩, not_tells_of_paired (by decide)⟩

end BallotWallet.Log
