import BallotWallet.Proofs.Transferring

/-!
# Chains without dates

A node describes its chain loosely, and a number in its description is cut to a whole one. So slots
and epochs may come out empty, slots may come out longer than floating point reaches, and the chain
may have started at no time at all, or infinitely long ago. Nothing else keeps a window from being
resolved: for every other description, the clock has a date and so has every window.
-/

namespace BallotWallet

/-! ## Numbers -/

namespace Binary64

variable {x y : Binary64}

theorem eq_ofMagnitude (x : Binary64) : x = ofMagnitude x.negative x.magnitude := by
  obtain ⟨bits⟩ := x
  have hbits : (if Binary64.negative ⟨bits⟩ = true then
      0x8000000000000000 + Binary64.magnitude ⟨bits⟩ else Binary64.magnitude ⟨bits⟩) =
        bits.toNat := by
    have hlt := bits.toNat_lt
    unfold Binary64.negative magnitude
    simp only [decide_eq_true_eq]
    split <;> omega
  unfold ofMagnitude
  rw [hbits, UInt64.ofNat_toNat]

/-- What is not finite is no number, or the infinity with its sign. -/
theorem not_finite_cases (h : x.isFinite = false) : x.isNaN = true ∨ x = inf x.negative := by
  have hge : infinity ≤ x.magnitude := Nat.not_lt.mp (of_decide_eq_false h)
  rcases Nat.lt_or_eq_of_le hge with hlt | heq
  · exact .inl (decide_eq_true hlt)
  · refine .inr ?_
    unfold inf
    rw [heq]
    exact x.eq_ofMagnitude

theorem isNaN_of_isFinite (h : x.isFinite = true) : x.isNaN = false :=
  decide_eq_false (Nat.lt_asymm (of_decide_eq_true h))

theorem view_of_isNaN (h : x.isNaN = true) : x.view = .nan := by
  unfold view
  exact if_pos (of_decide_eq_true h)

theorem isNaN_inf (negative : Bool) : (inf negative).isNaN = false := by
  cases negative <;> decide

theorem isFinite_inf (negative : Bool) : (inf negative).isFinite = false := by
  cases negative <;> decide

theorem view_inf (negative : Bool) : (inf negative).view = .infinite negative := by
  cases negative <;> decide

theorem isNaN_ofMagnitude (negative : Bool) {n : Nat} (hn : n ≤ infinity) :
    (ofMagnitude negative n).isNaN = false := by
  unfold isNaN
  rw [magnitude_ofMagnitude negative (Nat.lt_of_le_of_lt hn (by decide))]
  exact decide_eq_false (Nat.not_lt.mpr hn)

/-- Rounding always leads to a number, if only to an infinity. -/
theorem isNaN_ofRatio (negative : Bool) (num den : Nat) :
    (ofRatio negative num den).isNaN = false := by
  by_cases hnum : num = 0
  · unfold ofRatio
    rw [if_pos hnum]
    exact isNaN_ofMagnitude negative (by decide)
  · rw [ofRatio_eq negative den hnum]
    exact isNaN_ofMagnitude negative (min_le_right _ _)

theorem isNaN_neg (x : Binary64) : x.neg.isNaN = x.isNaN := by
  unfold neg isNaN
  rw [magnitude_ofMagnitude _ x.magnitude_lt]

/-- The distance from a finite number is a number exactly if the other one is. -/
theorem isNaN_sub_iff (hx : x.isFinite = true) : (x.sub y).isNaN = true ↔ y.isNaN = true := by
  obtain ⟨m, d, hxview, _⟩ := view_of_isFinite hx
  unfold sub
  rw [← isNaN_neg y]
  generalize y.neg = z
  cases hz : z.isNaN with
  | true =>
      unfold add
      rw [view_of_isNaN hz, hxview]
      exact iff_of_true (show nan.isNaN = true by decide) rfl
  | false =>
      refine iff_of_false (Bool.eq_false_iff.mp ?_) Bool.false_ne_true
      cases hfinite : z.isFinite with
      | true =>
          obtain ⟨n, e, hzview, _⟩ := view_of_isFinite hfinite
          unfold add
          rw [hxview, hzview]
          dsimp only
          split
          · exact isNaN_ofMagnitude _ (by decide)
          · unfold ofScaled
            split
            · exact isNaN_ofRatio _ _ _
            · exact isNaN_ofRatio _ _ _
      | false =>
          have hinf := (not_finite_cases hfinite).resolve_left (Bool.eq_false_iff.mp hz)
          unfold add
          rw [hxview, hinf, view_inf]
          exact isNaN_inf _

/-- What is not negative is kept, so only the negative infinity is brought back to zero. -/
theorem isFinite_max_zero_iff :
    (x.max (zero false)).isFinite = false ↔ x.isNaN = true ∨ x = inf false := by
  cases hfinite : x.isFinite with
  | true =>
      refine iff_of_false (Bool.not_eq_false _ ▸ ?_) ?_
      · unfold Binary64.max
        split
        · exact isFinite_zero false
        · exact hfinite
      · rintro (hnan | rfl)
        · rw [isNaN_of_isFinite hfinite] at hnan
          cases hnan
        · rw [isFinite_inf] at hfinite
          cases hfinite
  | false =>
      rcases not_finite_cases hfinite with hnan | hinf
      · refine iff_of_true ?_ (.inl hnan)
        unfold Binary64.max lt compare?
        rw [view_of_isNaN hnan]
        exact hfinite
      · rw [hinf]
        cases x.negative <;> decide

/-- A number is cut to zero exactly if it is between minus one and one. -/
theorem truncate?_eq_zero_iff : x.truncate? = some 0 ↔ x.isFinite = true ∧ |x.value| < 1 := by
  cases hfinite : x.isFinite with
  | false =>
      refine iff_of_false ?_ fun h => Bool.false_ne_true h.1
      unfold truncate?
      rcases view_of_not_finite hfinite with h | ⟨s, h⟩
      · rw [h]
        exact nofun
      · rw [h]
        exact nofun
  | true =>
      obtain ⟨m, e, hview, _⟩ := view_of_isFinite hfinite
      have hunits : ∀ q : Nat, unitsOf x.negative q (Max.max e 0) 0 = 0 ↔ q = 0 := by
        intro q
        have hpos := twoTo_pos (Max.max e 0 - 0)
        unfold unitsOf
        dsimp only
        split
        · rw [Int.neg_eq_zero, Int.mul_eq_zero, Int.natCast_eq_zero, Int.natCast_eq_zero]
          omega
        · rw [Int.mul_eq_zero, Int.natCast_eq_zero, Int.natCast_eq_zero]
          omega
      unfold truncate?
      rw [hview, abs_value hview]
      simp only [Option.some.injEq, hunits, true_and]
      split
      · rename_i he
        constructor
        · rintro rfl
          simp
        · intro hsmall
          by_contra hm
          have hone : (1 : ℚ) ≤ m := by exact_mod_cast Nat.one_le_iff_ne_zero.mpr hm
          have hscale : (1 : ℚ) ≤ 2 ^ e := one_le_zpow₀ one_le_two he
          exact absurd hsmall (not_lt.mpr (one_le_mul_of_one_le_of_one_le hone hscale))
      · rename_i he
        have hpow := two_zpow_pos (-e)
        rw [Nat.div_eq_zero_iff_lt (twoTo_pos _), ← Nat.cast_lt (α := ℚ),
          twoTo_cast (by omega : 0 ≤ -e), ← mul_lt_mul_iff_left₀ (two_zpow_pos e),
          ← zpow_add₀ two_ne_zero, neg_add_cancel, zpow_zero]

end Binary64

/-! ## Descriptions -/

namespace Document

/-- A value that is cut to zero: a number between minus one and one, a numeral of zero, or the lack
of truth. -/
def IsNaught : Document → Prop
  | int n => n = 0
  | bool b => b = false
  | float x => x.isFinite = true ∧ |x.value| < 1
  | text t => Numeral.toInt? t = some 0
  | _ => False

theorem toInt_eq_zero_iff {d : Document} : d.toInt = .ok 0 ↔ d.IsNaught := by
  have hsome : ∀ n : Int, (.ok n : Except Failure Int) = .ok 0 ↔ some n = some 0 :=
    fun n => by rw [Except.ok.injEq, Option.some.injEq]
  cases d with
  | int n => exact ⟨fun h => Except.ok.inj h, congrArg Except.ok⟩
  | bool b =>
      cases b with
      | false => exact iff_of_true rfl rfl
      | true => exact iff_of_false nofun nofun
  | float x =>
      refine Iff.trans ?_ Binary64.truncate?_eq_zero_iff
      unfold toInt
      dsimp only
      cases x.truncate? with
      | none => exact iff_of_false nofun nofun
      | some n => exact hsome n
  | text t =>
      unfold toInt IsNaught
      dsimp only
      cases Numeral.toInt? t with
      | none => exact iff_of_false nofun nofun
      | some n => exact hsome n
  | _ => exact iff_of_false nofun id

end Document

namespace ChainSettings

variable {d : Document} {settings : ChainSettings} {now : Binary64} {e : Failure}

/-- The length of slots that a description gives. -/
def slotLength (d : Document) : Except Failure Int :=
  d.field "slotDuration" (.int 1) >>= Document.toInt

/-- The number of slots of an epoch that a description gives. -/
def epochLength (d : Document) : Except Failure Int :=
  d.field "slotsPerEpoch" (.int 60) >>= Document.toInt

/-- The start of the chain that a description gives. -/
def start (d : Document) : Except Failure Binary64 :=
  d.field "block0Time" (.int 0) >>= readTime

/-- What the settings of a chain take over from its description. -/
theorem timing_of_ofDocument (h : ofDocument d = .ok settings) :
    start d = .ok settings.block0Time ∧ slotLength d = .ok settings.slotDuration ∧
      epochLength d = .ok settings.slotsPerEpoch := by
  obtain ⟨_, _, h⟩ := exists_of_bind_ok h
  obtain ⟨time, htime, h⟩ := exists_of_bind_ok h
  obtain ⟨duration, hduration, h⟩ := exists_of_bind_ok h
  obtain ⟨slots, hslots, h⟩ := exists_of_bind_ok h
  obtain ⟨_, _, h⟩ := exists_of_bind_ok h
  obtain ⟨_, _, h⟩ := exists_of_bind_ok h
  obtain ⟨_, _, h⟩ := exists_of_bind_ok h
  obtain rfl := Except.ok.inj h
  exact ⟨htime, hduration, hslots⟩

/-- A field, or the number that stands in for it, is cut to zero. -/
def HasNaught (d : Document) (name : Text) (default : Int) : Prop :=
  ∃ value, d.field name (.int default) = .ok value ∧ value.IsNaught

theorem toInt_field_eq_zero_iff {name : Text} {default : Int} :
    (d.field name (.int default) >>= Document.toInt) = .ok 0 ↔ HasNaught d name default := by
  constructor
  · intro h
    obtain ⟨value, hvalue, h⟩ := exists_of_bind_ok h
    exact ⟨value, hvalue, Document.toInt_eq_zero_iff.mp h⟩
  · rintro ⟨value, hvalue, hnaught⟩
    rw [hvalue]
    exact Document.toInt_eq_zero_iff.mpr hnaught

/-- Slots last for a time that is a number of floating point. -/
def HasSlots (d : Document) : Prop :=
  ∃ n, slotLength d = .ok n ∧ n ≠ 0 ∧ Binary64.ofInt? n ≠ none

/-- The start is no number, or so long ago that the time since then is infinite. -/
def Unstarted (d : Document) (now : Binary64) : Prop :=
  ∃ time, start d = .ok time ∧ (time.isNaN = true ∨ now.sub time = .inf false)

/-- Why a chain has no date for the clock, as its description says. -/
inductive Timeless (d : Document) (now : Binary64) : Failure → Prop
  /-- The length of a slot is too large for floating point. -/
  | endlessSlots {n : Int} : slotLength d = .ok n → Binary64.ofInt? n = none →
      Timeless d now .overflow
  | emptySlots : HasNaught d "slotDuration" 1 → Timeless d now .divisionByZero
  | unstarted : HasSlots d → Unstarted d now → Timeless d now .badValue
  | emptyEpochs : HasSlots d → ¬Unstarted d now → HasNaught d "slotsPerEpoch" 60 →
      Timeless d now .divisionByZero

section Admitted

variable (hd : ofDocument d = .ok settings)

include hd

theorem slotDuration_eq_zero_iff : settings.slotDuration = 0 ↔ HasNaught d "slotDuration" 1 := by
  obtain ⟨_, hlength, _⟩ := timing_of_ofDocument hd
  rw [← toInt_field_eq_zero_iff]
  show _ ↔ slotLength d = _
  rw [hlength, Except.ok.injEq]

theorem slotsPerEpoch_eq_zero_iff :
    settings.slotsPerEpoch = 0 ↔ HasNaught d "slotsPerEpoch" 60 := by
  obtain ⟨_, _, hlength⟩ := timing_of_ofDocument hd
  rw [← toInt_field_eq_zero_iff]
  show _ ↔ epochLength d = _
  rw [hlength, Except.ok.injEq]

theorem hasSlots_iff :
    HasSlots d ↔ settings.slotDuration ≠ 0 ∧ Binary64.ofInt? settings.slotDuration ≠ none := by
  obtain ⟨_, hlength, _⟩ := timing_of_ofDocument hd
  constructor
  · rintro ⟨n, hn, h⟩
    obtain rfl := Except.ok.inj (hlength.symm.trans hn)
    exact h
  · exact fun h => ⟨_, hlength, h⟩

/-- The time that has passed is not finite exactly if the chain has not started. -/
theorem elapsed_not_finite_iff (hnow : now.isFinite = true) :
    (settings.elapsed now).isFinite = false ↔ Unstarted d now := by
  obtain ⟨hstart, _, _⟩ := timing_of_ofDocument hd
  unfold elapsed
  rw [Binary64.isFinite_max_zero_iff, Binary64.isNaN_sub_iff hnow]
  constructor
  · exact fun h => ⟨_, hstart, h⟩
  · rintro ⟨time, htime, h⟩
    obtain rfl := Except.ok.inj (hstart.symm.trans htime)
    exact h

/-- A chain that has no date for the clock fails in the way that its description says. -/
theorem ofTime_of_timeless (hnow : now.isFinite = true) (h : Timeless d now e) :
    BlockDate.ofTime now settings = .error e := by
  cases h with
  | endlessSlots hn hnone =>
      obtain ⟨_, hlength, _⟩ := timing_of_ofDocument hd
      obtain rfl := Except.ok.inj (hlength.symm.trans hn)
      exact (BlockDate.ofTime_of_undatable (.endlessSlots hnone)).1
  | emptySlots hnaught =>
      exact (BlockDate.ofTime_of_undatable
        (.emptySlots ((slotDuration_eq_zero_iff hd).mpr hnaught))).1
  | unstarted hslots hstart =>
      obtain ⟨hzero, hsome⟩ := (hasSlots_iff hd).mp hslots
      obtain ⟨duration, hduration⟩ := Option.ne_none_iff_exists'.mp hsome
      rw [BlockDate.ofTime_eq, BlockDate.slotsIn_not_finite hzero hduration
        ((elapsed_not_finite_iff hd hnow).mpr hstart)]
      rfl
  | emptyEpochs hslots hstart hnaught =>
      obtain ⟨hzero, hsome⟩ := (hasSlots_iff hd).mp hslots
      obtain ⟨duration, hduration⟩ := Option.ne_none_iff_exists'.mp hsome
      rw [← elapsed_not_finite_iff hd hnow, Bool.not_eq_false] at hstart
      exact (BlockDate.ofTime_of_undatable (.emptyEpochs hzero hduration hstart
        ((slotsPerEpoch_eq_zero_iff hd).mpr hnaught))).1

/-- There is no other way in which the clock has no date. -/
theorem timeless_of_ofTime (hnow : now.isFinite = true)
    (h : BlockDate.ofTime now settings = .error e) : Timeless d now e := by
  obtain ⟨_, hlength, _⟩ := timing_of_ofDocument hd
  have hsame : ∀ {found}, Timeless d now found → Timeless d now e := by
    intro found hfound
    rw [ofTime_of_timeless hd hnow hfound] at h
    exact Except.error.inj h ▸ hfound
  by_cases hzero : settings.slotDuration = 0
  · exact hsame (.emptySlots ((slotDuration_eq_zero_iff hd).mp hzero))
  · cases hduration : Binary64.ofInt? settings.slotDuration with
    | none => exact hsame (.endlessSlots hlength hduration)
    | some duration =>
        have hslots : HasSlots d := (hasSlots_iff hd).mpr ⟨hzero, by rw [hduration]; nofun⟩
        by_cases hstart : Unstarted d now
        · exact hsame (.unstarted hslots hstart)
        · by_cases hepoch : settings.slotsPerEpoch = 0
          · exact hsame (.emptyEpochs hslots hstart ((slotsPerEpoch_eq_zero_iff hd).mp hepoch))
          · -- the slots of a finite time can be counted, and every count has a date
            rw [← elapsed_not_finite_iff hd hnow, Bool.not_eq_false] at hstart
            obtain ⟨slots, hcount⟩ := BlockDate.slotsIn_finite hzero hduration hstart
            rw [BlockDate.ofTime_eq, hcount] at h
            dsimp only [Except.bind, BlockDate.ofSlots] at h
            rw [if_neg hepoch] at h
            cases h

end Admitted

end ChainSettings

namespace ValidUntil

open ChainSettings (Timeless)

variable {d : Document} {settings : ChainSettings} {now : Binary64} {window : Option ValidUntil}
  {e : Failure}

/-- A window cannot be resolved exactly if it is relative and the clock has no date. -/
theorem resolve_eq_error_iff :
    resolve window settings now = .error e ↔
      IsRelative window ∧ BlockDate.ofTime now settings = .error e := by
  constructor
  · intro h
    have hrelative : IsRelative window := by
      rintro date rfl
      cases h
    obtain ⟨slots, hresolve⟩ := resolve_relative hrelative settings now
    rw [hresolve] at h
    cases htime : BlockDate.ofTime now settings with
    | error found =>
        rw [htime] at h
        exact ⟨hrelative, congrArg Except.error (Except.error.inj h)⟩
    | ok date =>
        obtain ⟨moved, hmoved⟩ := exists_shift_of_ofTime htime slots
        rw [htime] at h
        cases hmoved.symm.trans h
  · rintro ⟨hrelative, htime⟩
    obtain ⟨slots, hresolve⟩ := resolve_relative hrelative settings now
    rw [hresolve, htime]
    rfl

/-- **Windows end.** Whatever description of a chain is taken over and whatever finite time the
clock shows, every window is resolved to a date, unless it is relative and the description has no
date for the clock: slots are cut to length zero or are too long for floating point, epochs are cut
to no slots at all, or the chain has not started at any time in reach. Then the window always fails,
with a division by zero for empty slots and empty epochs. -/
theorem resolved_unless_timeless (hd : ChainSettings.ofDocument d = .ok settings)
    (hnow : now.isFinite = true) (window : Option ValidUntil) :
    ((∃ date, resolve window settings now = .ok date) ↔
      ¬(IsRelative window ∧ ∃ e, Timeless d now e)) ∧
    ∀ e, resolve window settings now = .error e ↔ IsRelative window ∧ Timeless d now e := by
  have herror : ∀ e, resolve window settings now = .error e ↔
      IsRelative window ∧ Timeless d now e := by
    intro e
    rw [resolve_eq_error_iff]
    exact and_congr_right fun _ =>
      ⟨ChainSettings.timeless_of_ofTime hd hnow, ChainSettings.ofTime_of_timeless hd hnow⟩
  refine ⟨?_, herror⟩
  cases hresolve : resolve window settings now with
  | ok date =>
      refine iff_of_true ⟨date, rfl⟩ ?_
      rintro ⟨hrelative, e, htimeless⟩
      rw [(herror e).mpr ⟨hrelative, htimeless⟩] at hresolve
      cases hresolve
  | error e =>
      obtain ⟨hrelative, htimeless⟩ := (herror e).mp hresolve
      exact iff_of_false nofun fun h => h ⟨hrelative, e, htimeless⟩

/-- Slots of half a second, which are cut to length zero. -/
def halfSecondSlots : Document :=
  .object [(Text.ofChars "slotDuration".toList, .float ⟨0x3fe0000000000000⟩)]

/-- With slots of half a second a window of one slot cannot be resolved, while an absolute date
can; with slots of a whole second the standard window can. -/
theorem resolved_unless_timeless_half :
    ∃ halved whole : ChainSettings, ∃ now : Binary64,
      ChainSettings.ofDocument halfSecondSlots = .ok halved ∧
      ChainSettings.ofDocument (.object []) = .ok whole ∧ now.isFinite = true ∧
      resolve (some (.slotShift 1)) halved now = .error .divisionByZero ∧
      (∃ date, resolve (some (.date ⟨3, 3⟩)) halved now = .ok date) ∧
      ∃ date, resolve none whole now = .ok date := by
  let now := Binary64.ofInt 1700000000
  have hhalved : ChainSettings.ofDocument halfSecondSlots = .ok { slotDuration := 0 } := rfl
  have hwhole : ChainSettings.ofDocument (.object []) = .ok {} := rfl
  have hnow : now.isFinite = true := by decide +kernel
  have hempty : Timeless halfSecondSlots now .divisionByZero :=
    .emptySlots (ChainSettings.toInt_field_eq_zero_iff.mp rfl)
  have hdated : ∀ e, ¬Timeless (.object []) now e := by
    rintro e (⟨hlength, hnone⟩ | hnaught | ⟨_, _, htime, hstart⟩ | ⟨_, _, hnaught⟩)
    · obtain rfl := Except.ok.inj hlength
      exact absurd hnone (by decide +kernel)
    · cases ChainSettings.toInt_field_eq_zero_iff.mpr hnaught
    · obtain rfl := Except.ok.inj htime
      exact absurd hstart (by decide +kernel)
    · cases ChainSettings.toInt_field_eq_zero_iff.mpr hnaught
  refine ⟨_, _, now, hhalved, hwhole, hnow, ?_, ?_, ?_⟩
  · refine ((resolved_unless_timeless hhalved hnow (some (.slotShift 1))).2 _).mpr ⟨?_, hempty⟩
    rintro date ⟨⟩
  · refine (resolved_unless_timeless hhalved hnow (some (.date ⟨3, 3⟩))).1.mpr fun h => ?_
    exact h.1 ⟨3, 3⟩ rfl
  · refine (resolved_unless_timeless hwhole hnow none).1.mpr ?_
    rintro ⟨_, e, htimeless⟩
    exact hdated e htimeless

end ValidUntil

end BallotWallet
