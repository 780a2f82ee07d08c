import BallotWallet.Log.Line
import BallotWallet.Proofs.Messages
import BallotWallet.Wallet.Settlement

/-!
# Lines for a reader

A record without an exception should take one line. The time, the severity and the punctuation
never end a line, nor does what is shown of a value. Texts are written as they are, so the line of
a record is broken just if a text in it is: the name of the logger, the message, or a text that the
record is about.
-/

namespace BallotWallet.Log

open Text (CodePoint)

/-! ## Line breaks -/

/-- A code point at which a line ends. -/
def IsBreak (p : CodePoint) : Prop :=
  p.toNat ∈ [10, 11, 12, 13, 28, 29, 30, 0x85, 0x2028, 0x2029]

instance (p : CodePoint) : Decidable (IsBreak p) :=
  inferInstanceAs (Decidable (p.toNat ∈ _))

/-- A text that takes more than one line. -/
def Breaks (t : Text) : Prop :=
  ∃ p ∈ t.points, IsBreak p

theorem not_isBreak_of_printable {c : Char} (h : Text.isPrintable c = true) :
    ¬IsBreak (.char c) := by
  have hnone : ∀ n ∈ [10, 11, 12, 13, 28, 29, 30, 0x85, 0x2028, 0x2029],
      Text.isPrintable (Char.ofNat n) = false := by
    decide +kernel
  intro hbreak
  have hnot := hnone c.toNat hbreak
  rw [Char.ofNat_toNat, h] at hnot
  cases hnot

theorem breaks_append {t u : Text} : Breaks (t ++ u) ↔ Breaks t ∨ Breaks u := by
  show (∃ p ∈ t.points ++ u.points, IsBreak p) ↔ _
  simp only [List.mem_append, or_and_right, exists_or]
  rfl

theorem not_breaks_ofString {s : String} (h : Consists (fun c => ¬IsBreak (.char c)) s) :
    ¬Breaks s := by
  rintro ⟨p, hp, hbreak⟩
  obtain ⟨c, hc, rfl⟩ := List.mem_map.mp hp
  exact h c hc hbreak

theorem not_breaks_printable {s : String} (h : Consists (Text.isPrintable · = true) s) :
    ¬Breaks s :=
  not_breaks_ofString (h.mono fun _ => not_isBreak_of_printable)

theorem not_breaks_ascii {s : String} (h : Consists Json.IsPrintable s) : ¬Breaks s :=
  not_breaks_printable (h.mono fun _ => Text.isPrintable_of_ascii)

theorem not_breaks_take {t : Text} (h : ¬Breaks t) (n : Nat) : ¬Breaks (t.take n) := by
  rintro ⟨p, hp, hbreak⟩
  exact h ⟨p, List.mem_of_mem_take hp, hbreak⟩

theorem breaks_join {sep : Text} (hsep : ¬Breaks sep) {ts : List Text} :
    Breaks (Text.join sep ts) ↔ ∃ t ∈ ts, Breaks t := by
  induction ts with
  | nil => exact iff_of_false (fun ⟨_, hp, _⟩ => List.not_mem_nil hp) (by simp)
  | cons t ts ih =>
      cases ts with
      | nil => simp [Text.join]
      | cons u ts =>
          show Breaks (t ++ sep ++ Text.join sep (u :: ts)) ↔ _
          rw [breaks_append, breaks_append, or_iff_left hsep, ih]
          simp only [List.mem_cons, exists_eq_or_imp]

/-! ## What a record is about -/

/-- Only texts are written as they are. -/
theorem breaks_display {d : Document} {f : Text → Text} (hf : ∀ t, Breaks (f t) → Breaks t) :
    Breaks (f d.display) ↔ ∃ t, d = .text t ∧ Breaks (f t) := by
  by_cases htext : ∃ t, d = .text t
  · obtain ⟨t, rfl⟩ := htext
    exact ⟨fun h => ⟨t, rfl, h⟩, fun ⟨_, heq, h⟩ => Document.text.inj heq ▸ h⟩
  · have hdisplay : ¬Breaks d.display := by
      unfold Document.display
      split
      · exact absurd ⟨_, rfl⟩ htext
      · exact not_breaks_ascii (Time.Moment.consists_text (by decide) _)
      · exact not_breaks_printable (Document.consists_shown d)
    exact iff_of_false (mt (hf _) hdisplay) fun ⟨t, heq, _⟩ => htext ⟨t, heq⟩

/-- A text that a record is about takes more than one line; of an identifier, only the front is
looked at, because the rest is not written. -/
inductive Context.Breaks (context : Context) : Prop
  | fragmentId {t : Text} : context.fragmentId = .text t → Log.Breaks (t.take idLength) →
      Breaks context
  | counter {t : Text} : context.counter = .text t → Log.Breaks t → Breaks context
  | account {t : Text} : context.account = .text t → Log.Breaks t → Breaks context

theorem breaks_part {name : String} {t : Text} (hname : Consists Json.IsPrintable name) :
    Breaks (name ++ "=" ++ t) ↔ Breaks t := by
  rw [breaks_append, breaks_append]
  have hequals : ¬Breaks "=" := not_breaks_ascii (by decide)
  rw [or_iff_right (not_or.mpr ⟨not_breaks_ascii hname, hequals⟩)]

/-- What is written of a text that a record is about, given the name of the part. -/
def writtenPart (name : String) (t : Text) : Text :=
  if name = "fragment_id" then t.take idLength else t

theorem breaks_of_writtenPart {name : String} {t : Text} (h : Breaks (writtenPart name t)) :
    Breaks t := by
  by_contra hnot
  unfold writtenPart at h
  split at h
  · exact not_breaks_take hnot idLength h
  · exact hnot h

theorem breaks_contextPart {part : String × Document} (hname : Consists Json.IsPrintable part.1) :
    Breaks (contextPart part) ↔ ∃ t, part.2 = .text t ∧ Breaks (writtenPart part.1 t) := by
  show Breaks (part.1 ++ "=" ++ writtenPart part.1 part.2.display) ↔ _
  rw [breaks_part hname]
  exact breaks_display fun _ => breaks_of_writtenPart

theorem breaks_contextSuffix {context : Context} :
    Breaks (contextSuffix context) ↔ context.Breaks := by
  have hempty : ¬Breaks "" := not_breaks_ascii (by decide)
  have hopen : ¬Breaks " (" := not_breaks_ascii (by decide)
  have hclose : ¬Breaks ")" := not_breaks_ascii (by decide)
  have hcomma : ¬Breaks ", " := not_breaks_ascii (by decide)
  have hsuffix : Breaks (contextSuffix context) ↔
      ∃ f ∈ context.fields, Breaks (contextPart f) := by
    unfold contextSuffix
    split
    · rename_i hnone
      rw [List.isEmpty_iff.mp hnone]
      exact iff_of_false hempty (fun ⟨_, hf, _⟩ => List.not_mem_nil hf)
    · rw [breaks_append, breaks_append, or_iff_left hclose, or_iff_right hopen, breaks_join hcomma]
      simp only [List.mem_map, exists_exists_and_eq_and]
  have hid : Consists Json.IsPrintable "fragment_id" := by decide
  have hcounter : Consists Json.IsPrintable "counter" := by decide
  have haccount : Consists Json.IsPrintable "account" := by decide
  rw [hsuffix]
  constructor
  · rintro ⟨f, hf, hbreaks⟩
    obtain ⟨rfl | rfl | rfl, _⟩ := Context.mem_fields.mp hf
    · obtain ⟨t, htext, h⟩ := (breaks_contextPart hid).mp hbreaks
      exact .fragmentId htext h
    · obtain ⟨t, htext, h⟩ := (breaks_contextPart hcounter).mp hbreaks
      exact .counter htext h
    · obtain ⟨t, htext, h⟩ := (breaks_contextPart haccount).mp hbreaks
      exact .account htext h
  · have hknown : ∀ {d : Document} {t : Text}, d = .text t → d ≠ .null := by
      rintro _ t rfl
      nofun
    rintro (⟨htext, h⟩ | ⟨htext, h⟩ | ⟨htext, h⟩)
    · exact ⟨("fragment_id", context.fragmentId),
        Context.mem_fields.mpr ⟨.inl rfl, hknown htext⟩,
        (breaks_contextPart hid).mpr ⟨_, htext, h⟩⟩
    · exact ⟨("counter", context.counter),
        Context.mem_fields.mpr ⟨.inr (.inl rfl), hknown htext⟩,
        (breaks_contextPart hcounter).mpr ⟨_, htext, h⟩⟩
    · exact ⟨("account", context.account),
        Context.mem_fields.mpr ⟨.inr (.inr rfl), hknown htext⟩,
        (breaks_contextPart haccount).mpr ⟨_, htext, h⟩⟩

/-! ## The line of a record -/

theorem consists_levelName (level : Level) : Consists Json.IsPrintable (levelName level) := by
  unfold levelName
  refine .ite (by decide) (.ite (by decide) (.ite (by decide) ?_))
  refine .ite (by decide) (.ite (by decide) (.ite (by decide) ?_))
  exact Consists.append (by decide) (consists_int level)

theorem consists_levelMark (level : Level) : Consists Json.IsPrintable (levelMark level) := by
  refine ((Consists.append (by decide) (consists_levelName level)).append ?_).append (by decide)
  exact .ofList fun c hc => List.eq_of_mem_replicate hc ▸ (by decide)

theorem consists_colourCode (level : Level) :
    Consists (fun c => ¬IsBreak (.char c)) (colourCode level) := by
  unfold colourCode
  refine .ite (by decide) (.ite (by decide) (.ite (by decide) ?_))
  exact .ite (by decide) (.ite (by decide) (by decide))

/-- The line of a record without an exception is broken just by its texts. -/
theorem breaks_humanLine {r : Record} (hexception : r.exception = none) (colour : Bool)
    (made : Instant) :
    Breaks (humanLine colour made r) ↔ Breaks r.logger ∨ Breaks r.message ∨ r.context.Breaks := by
  have hlevel : Consists (fun c => ¬IsBreak (.char c)) (levelMark r.level) :=
    (consists_levelMark r.level).mono fun _ h =>
      not_isBreak_of_printable (Text.isPrintable_of_ascii h)
  have hmark : ¬Breaks (if colour then colourCode r.level ++ levelMark r.level ++ plainCode
      else levelMark r.level : String) := by
    refine not_breaks_ofString ?_
    split
    · exact ((consists_colourCode r.level).append hlevel).append (by decide)
    · exact hlevel
  have hclock : ¬Breaks made.time.clock := not_breaks_ascii (Time.consists_clock made.time)
  have hblank : ¬Breaks " " := not_breaks_ascii (by decide)
  have hcolon : ¬Breaks ": " := not_breaks_ascii (by decide)
  have hline : humanLine colour made r = made.time.clock ++ " " ++
      ((if colour then colourCode r.level ++ levelMark r.level ++ plainCode
        else levelMark r.level : String) ++ " " ++ r.logger ++ ": " ++ r.message ++
          contextSuffix r.context) := by
    unfold humanLine humanBody
    rw [hexception]
  rw [hline]
  simp only [breaks_append, breaks_contextSuffix, hmark, hclock, hblank, hcolon, false_or, or_false,
    or_assoc]

/-- The report of a rejected fragment is broken just by what the node has sent: the identifier or
the reason. -/
theorem breaks_rejection (id reason : Text) (colour : Bool) (made : Instant) :
    Breaks (humanLine colour made {
      logger := Wallet.Settlement.logger
      level := warning
      message := "Fragment " ++ id ++ " rejected: " ++ reason
      context := { fragmentId := .text id } }) ↔ Breaks id ∨ Breaks reason := by
  have hlogger : ¬Breaks Wallet.Settlement.logger := not_breaks_ascii (by decide)
  have hfragment : ¬Breaks "Fragment " := not_breaks_ascii (by decide)
  have hrejected : ¬Breaks " rejected: " := not_breaks_ascii (by decide)
  have hcontext : Context.Breaks { fragmentId := .text id } → Breaks id := by
    rintro (⟨htext, h⟩ | ⟨⟨⟩, _⟩ | ⟨⟨⟩, _⟩)
    cases htext
    exact by_contra fun hnot => not_breaks_take hnot idLength h
  rw [breaks_humanLine rfl, breaks_append, breaks_append, breaks_append, or_iff_right hlogger,
    or_iff_right hfragment, or_iff_left hrejected]
  exact ⟨fun h => h.elim (fun htexts => htexts) (.inl ∘ hcontext), .inl⟩

/-- What of a message does not break a line: a template in one line, texts in one line among the
arguments, and numbers that are not those of line breaks. -/
theorem not_breaks_message {template m : Text} {args : List Document}
    (h : message template args = .ok m) (htemplate : ¬Breaks template)
    (hargs : ∀ d, Offered args d → Brings (¬IsBreak ·) d) : ¬Breaks m := by
  have hpoints := message_points (fun _ => not_isBreak_of_printable) h
    (fun p hp hbreak => htemplate ⟨p, hp, hbreak⟩) hargs
  rintro ⟨p, hp, hbreak⟩
  exact hpoints p hp hbreak

/-- **One line for a record.** With and without colour, the line of a record without an exception is
a single one unless the name of the logger, the message, or a text that the record is about takes
more than one line; if one of them does, so does the line. The message takes one line if its
template does, and the texts among its arguments, and no number among them is that of a line
break. -/
theorem humanLine_unless_broken {template : Text} {args : List Document} {r : Record}
    (hmessage : message template args = .ok r.message) (hexception : r.exception = none) :
    (∀ colour made, Breaks (humanLine colour made r) ↔
      Breaks r.logger ∨ Breaks r.message ∨ r.context.Breaks) ∧
    (¬Breaks template → (∀ d, Offered args d → Brings (¬IsBreak ·) d) → ¬Breaks r.message) :=
  ⟨breaks_humanLine hexception, not_breaks_message hmessage⟩

/-- A report of a rejected fragment, with a reason that goes on with what looks like another
report. -/
def forged : Record where
  logger := Wallet.Settlement.logger
  level := warning
  message := "Fragment ab rejected: no\n12:00:00 [INFO   ] voteflow: Fragment cd confirmed"
  context := { fragmentId := .text "ab" }

/-- The reason of the node takes a line of its own, with and without colour. -/
theorem humanLine_unless_broken_forged :
    message "Fragment %s rejected: %s"
      [.text "ab", .text "no\n12:00:00 [INFO   ] voteflow: Fragment cd confirmed"] =
        .ok forged.message ∧
    ∀ colour made, Breaks (humanLine colour made forged) := by
  have hmessage : message "Fragment %s rejected: %s"
      [.text "ab", .text "no\n12:00:00 [INFO   ] voteflow: Fragment cd confirmed"] =
        .ok forged.message := by
    rfl
  obtain ⟨hline, _⟩ := humanLine_unless_broken hmessage rfl
  refine ⟨hmessage, fun colour made => (hline colour made).mpr (.inr (.inl ?_))⟩
  exact ⟨.char '\n', by decide, by decide⟩

end BallotWallet.Log
