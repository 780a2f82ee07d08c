import BallotWallet.Document
import BallotWallet.Proofs.Json.Text

/-!
# What values look like

Numbers and moments are written in printable ASCII. A value that is shown inside another text
consists of printable characters, because the texts in it are quoted: what cannot be printed is
escaped there.
-/

namespace BallotWallet

open Json (IsPrintable)

/-! ## What strings consist of -/

/-- All characters of a string have a property. -/
def Consists (P : Char → Prop) (s : String) : Prop :=
  ∀ c ∈ s.toList, P c

instance (P : Char → Prop) [DecidablePred P] (s : String) : Decidable (Consists P s) :=
  List.decidableBAll P s.toList

namespace Consists

variable {P Q : Char → Prop} {s t : String}

theorem mono (h : Consists P s) (hPQ : ∀ c, P c → Q c) : Consists Q s :=
  fun c hc => hPQ c (h c hc)

theorem append (hs : Consists P s) (ht : Consists P t) : Consists P (s ++ t) := by
  intro c hc
  rw [String.toList_append] at hc
  rcases List.mem_append.mp hc with hc | hc
  · exact hs c hc
  · exact ht c hc

theorem ite {p : Prop} [Decidable p] (hs : Consists P s) (ht : Consists P t) :
    Consists P (if p then s else t) := by
  split
  · exact hs
  · exact ht

theorem ofList {cs : List Char} (h : ∀ c ∈ cs, P c) : Consists P (String.ofList cs) := by
  intro c hc
  rw [String.toList_ofList] at hc
  exact h c hc

theorem intercalate {sep : String} (hsep : Consists P sep) {ws : List String}
    (h : ∀ w ∈ ws, Consists P w) : Consists P (String.intercalate sep ws) := by
  induction ws with
  | nil => exact fun c hc => (List.not_mem_nil hc).elim
  | cons w ws ih =>
      obtain ⟨hw, hws⟩ := List.forall_mem_cons.mp h
      cases ws with
      | nil =>
          rw [String.intercalate_singleton]
          exact hw
      | cons v ws =>
          rw [String.intercalate_cons_cons]
          exact (hw.append hsep).append (ih hws)

end Consists

/-! ## Numbers -/

theorem isPrintable_of_mem_toDigits {base n : Nat} (hbase : 1 < base) (hsixteen : base ≤ 16)
    {c : Char} (h : c ∈ Nat.toDigits base n) : IsPrintable c := by
  have hdigit : ∀ i < 16, IsPrintable (Nat.digitChar i) := by decide
  induction n using Nat.strongRecOn with
  | ind n ih =>
      rw [Nat.toDigits_eq_if hbase] at h
      split at h
      · rename_i hlt
        exact List.mem_singleton.mp h ▸ hdigit n (hlt.trans_le hsixteen)
      · rename_i hge
        rcases List.mem_append.mp h with h | h
        · exact ih _ (Nat.div_lt_self (by omega) hbase) h
        · refine List.mem_singleton.mp h ▸ hdigit _ (Nat.lt_of_lt_of_le ?_ hsixteen)
          exact Nat.mod_lt _ (by omega)

theorem consists_nat (n : Nat) : Consists IsPrintable (toString n) := by
  intro c hc
  rw [show toString n = n.repr from rfl, Nat.toList_repr] at hc
  exact isPrintable_of_mem_toDigits (by decide) (by decide) hc

theorem consists_int (n : Int) : Consists IsPrintable (toString n) := by
  intro c hc
  obtain ⟨hlow, hhigh⟩ := (Numeral.isWritten_of_mem hc).toNat_bounds
  exact ⟨by omega, by omega⟩

/-- Digits stay printable with zeros in front of them. -/
theorem isPrintable_of_mem_zeros {k : Nat} {ds : List Char} (hds : ∀ c ∈ ds, IsPrintable c)
    {c : Char} (h : c ∈ List.replicate k '0' ++ ds) : IsPrintable c := by
  rcases List.mem_append.mp h with h | h
  · exact List.eq_of_mem_replicate h ▸ (by decide)
  · exact hds c h

theorem consists_hex (width n : Nat) : Consists IsPrintable (Hex.ofNat width n) :=
  .ofList fun _ hc => isPrintable_of_mem_zeros
    (fun _ => isPrintable_of_mem_toDigits (by decide) (by decide)) hc

theorem consists_padded (width n : Nat) : Consists IsPrintable (Time.padded width n) :=
  .ofList fun _ hc => isPrintable_of_mem_zeros
    (fun _ => isPrintable_of_mem_toDigits (by decide) (by decide)) hc

namespace Binary64

theorem consists_exponentText (e : Int) : Consists IsPrintable (exponentText e) := by
  unfold exponentText
  refine (Consists.append ?_ ?_).append (consists_nat _)
  · split <;> decide
  · split <;> decide

theorem mem_of_mem_dropEndWhile {α : Type} {p : α → Bool} {xs : List α} {x : α}
    (h : x ∈ Text.dropEndWhile p xs) : x ∈ xs := by
  unfold Text.dropEndWhile at h
  exact List.mem_reverse.mp ((List.dropWhile_sublist p).subset (List.mem_reverse.mp h))

theorem isPrintable_of_mem_digits {m : Nat} {e : Int} {c : Char} (h : c ∈ (digits m e).1) :
    IsPrintable c :=
  isPrintable_of_mem_toDigits (by decide) (by decide) (mem_of_mem_dropEndWhile h)

theorem consists_layout {ds : List Char} (hds : ∀ c ∈ ds, IsPrintable c) (point : Int) :
    Consists IsPrintable (layout ds point) := by
  have hdot : Consists IsPrintable "." := by decide
  unfold layout
  split
  · split
    · exact Consists.append (by decide) (.ofList fun c hc => isPrintable_of_mem_zeros hds hc)
    · dsimp only
      refine (Consists.append (.ofList fun c hc => ?_) hdot).append ?_
      · rcases List.mem_append.mp hc with hc | hc
        · exact hds c (List.mem_of_mem_take hc)
        · exact List.eq_of_mem_replicate hc ▸ (by decide)
      · split
        · decide
        · exact .ofList fun c hc => hds c (List.mem_of_mem_drop hc)
  · dsimp only
    refine (Consists.append ?_ (by decide)).append (consists_exponentText _)
    split
    · rename_i d f fs
      obtain ⟨hd, hfs⟩ := List.forall_mem_cons.mp hds
      exact .ofList (List.forall_mem_cons.mpr ⟨hd, List.forall_mem_cons.mpr ⟨by decide, hfs⟩⟩)
    · exact .ofList hds

theorem consists_text (x : Binary64) : Consists IsPrintable x.text := by
  unfold text
  split
  · decide
  · split <;> decide
  · dsimp only
    have hbody : ∀ m e, Consists IsPrintable
        (if m = 0 then "0.0" else layout (digits m e).1 (digits m e).2) := by
      intro m e
      split
      · decide
      · exact consists_layout (fun _ => isPrintable_of_mem_digits) _
    split
    · exact Consists.append (by decide) (hbody _ _)
    · exact hbody _ _

end Binary64

/-! ## Moments -/

namespace Time

theorem consists_date (d : Date) : Consists IsPrintable d.text :=
  ((((consists_padded _ _).append (by decide)).append (consists_padded _ _)).append
    (by decide)).append (consists_padded _ _)

theorem consists_clock (t : TimeOfDay) : Consists IsPrintable t.clock :=
  ((((consists_padded _ _).append (by decide)).append (consists_padded _ _)).append
    (by decide)).append (consists_padded _ _)

theorem consists_timeOfDay (t : TimeOfDay) : Consists IsPrintable t.text := by
  refine (consists_clock t).append ?_
  split
  · decide
  · exact Consists.append (by decide) (consists_padded _ _)

theorem consists_offsetText (minutes : Int) : Consists IsPrintable (offsetText minutes) := by
  refine ((Consists.append ?_ (consists_padded _ _)).append (by decide)).append
    (consists_padded _ _)
  split <;> decide

theorem consists_offsetShown (minutes : Int) : Consists IsPrintable (offsetShown minutes) := by
  unfold offsetShown
  split
  · decide
  · refine (Consists.append (by decide) ?_).append (by decide)
    split
    · exact Consists.append (by decide) (consists_int _)
    · exact Consists.append (by decide) (consists_int _)

theorem Moment.consists_text {gap : String} (hgap : Consists IsPrintable gap) (m : Moment) :
    Consists IsPrintable (m.text gap) := by
  cases m with
  | day d => exact consists_date d
  | time t => exact consists_timeOfDay t
  | both d t offset =>
      refine (((consists_date d).append hgap).append (consists_timeOfDay t)).append ?_
      cases offset with
      | none => decide
      | some minutes => exact consists_offsetText minutes

theorem consists_numbers (ns : List Nat) : ∀ w ∈ ns.map toString, Consists IsPrintable w := by
  intro w hw
  obtain ⟨n, _, rfl⟩ := List.mem_map.mp hw
  exact consists_nat n

theorem Moment.consists_shown (m : Moment) : Consists IsPrintable m.shown := by
  have hcomma : Consists IsPrintable ", " := by decide
  cases m with
  | day d =>
      exact (Consists.append (by decide) (.intercalate hcomma (consists_numbers _))).append
        (by decide)
  | time t =>
      exact (Consists.append (by decide) (.intercalate hcomma (consists_numbers _))).append
        (by decide)
  | both d t offset =>
      refine (Consists.append (by decide) (.intercalate hcomma ?_)).append (by decide)
      intro w hw
      rcases List.mem_append.mp hw with hw | hw
      · exact consists_numbers _ w hw
      · obtain ⟨minutes, _, rfl⟩ := Option.map_eq_some_iff.mp (Option.mem_toList.mp hw)
        exact Consists.append (by decide) (consists_offsetShown minutes)

end Time

/-! ## Values -/

namespace Text

theorem isPrintable_of_ascii {c : Char} (h : IsPrintable c) : isPrintable c = true := by
  unfold isPrintable
  rw [if_pos (Nat.lt_of_le_of_lt h.2 (by decide))]
  exact decide_eq_true h.1

/-- An escape is printable if its letter and what follows are. -/
theorem isPrintable_of_mem_escape {e d : Char} {cs : List Char} (he : isPrintable e = true)
    (hcs : ∀ c ∈ cs, IsPrintable c) (h : d ∈ '\\' :: e :: cs) : isPrintable d = true := by
  rcases List.mem_cons.mp h with rfl | h
  · decide
  · rcases List.mem_cons.mp h with rfl | h
    · exact he
    · exact isPrintable_of_ascii (hcs d h)

theorem isPrintable_of_mem_quotedChar {quote c d : Char} (h : d ∈ quotedChar quote c)
    (hquote : isPrintable quote = true) : isPrintable d = true := by
  have hnothing : ∀ c ∈ ([] : List Char), IsPrintable c := nofun
  unfold quotedChar at h
  split at h
  · rename_i hplain
    refine isPrintable_of_mem_escape ?_ hnothing h
    rcases Bool.or_eq_true_iff.mp hplain with heq | heq
    · exact beq_iff_eq.mp heq ▸ hquote
    · exact beq_iff_eq.mp heq ▸ (by decide)
  · split at h
    · exact isPrintable_of_mem_escape (by decide) hnothing h
    · split at h
      · exact isPrintable_of_mem_escape (by decide) hnothing h
      · split at h
        · exact isPrintable_of_mem_escape (by decide) hnothing h
        · split at h
          · rename_i hc
            exact List.mem_singleton.mp h ▸ hc
          · split at h
            · exact isPrintable_of_mem_escape (by decide) (consists_hex _ _) h
            · split at h
              · exact isPrintable_of_mem_escape (by decide) (consists_hex _ _) h
              · exact isPrintable_of_mem_escape (by decide) (consists_hex _ _) h

theorem consists_quoted (t : Text) : Consists (isPrintable · = true) (quoted t) := by
  have hquote : isPrintable (quoteFor t) = true := by
    unfold quoteFor
    split <;> decide
  refine .ofList fun c hc => ?_
  rcases List.mem_cons.mp hc with rfl | hc
  · exact hquote
  · rcases List.mem_append.mp hc with hc | hc
    · obtain ⟨p, _, hc⟩ := List.mem_flatMap.mp hc
      cases p with
      | char d => exact isPrintable_of_mem_quotedChar hc hquote
      | half n => exact isPrintable_of_mem_escape (by decide) (consists_hex _ _) hc
    · exact List.mem_singleton.mp hc ▸ hquote

end Text

namespace Document

mutual

/-- What is shown of a value can be printed. -/
theorem consists_shown : ∀ d : Document, Consists (Text.isPrintable · = true) d.shown
  | null => by decide
  | bool b => by cases b <;> decide
  | int n => (consists_int n).mono fun _ => Text.isPrintable_of_ascii
  | float x => x.consists_text.mono fun _ => Text.isPrintable_of_ascii
  | text t => Text.consists_quoted t
  | moment m => m.consists_shown.mono fun _ => Text.isPrintable_of_ascii
  | list items =>
      (Consists.append (by decide) (.intercalate (by decide) (consists_itemsShown items))).append
        (by decide)
  | object fields =>
      (Consists.append (by decide) (.intercalate (by decide) (consists_fieldsShown fields))).append
        (by decide)

theorem consists_itemsShown :
    ∀ items : List Document, ∀ s ∈ itemsShown items, Consists (Text.isPrintable · = true) s
  | [] => fun _ hs => (List.not_mem_nil hs).elim
  | d :: items => List.forall_mem_cons.mpr ⟨consists_shown d, consists_itemsShown items⟩

theorem consists_fieldsShown : ∀ fields : List (Text × Document),
    ∀ s ∈ fieldsShown fields, Consists (Text.isPrintable · = true) s
  | [] => fun _ hs => (List.not_mem_nil hs).elim
  | (name, d) :: fields =>
      List.forall_mem_cons.mpr ⟨((Text.consists_quoted name).append (by decide)).append
        (consists_shown d), consists_fieldsShown fields⟩

end

end Document

end BallotWallet
