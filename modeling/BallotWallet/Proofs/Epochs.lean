import BallotWallet.Chain.Validity
import BallotWallet.Proofs.Failing
import Mathlib.Algebra.Order.Ring.Int
import Mathlib.Tactic.Linarith
import Mathlib.Tactic.Ring

/-!
# The calendar of slots

A date of the calendar is an epoch from the start of the chain on and a slot of that epoch. Such
dates and the absolute slots determine each other, and the earlier date has the lower slot.
Whatever date one starts from, moving it leads to a date of the calendar: as many slots away as
asked for, but never before the start.
-/

namespace BallotWallet

namespace BlockDate

variable {settings : ChainSettings} {date a b : BlockDate}

/-- A date of the calendar: its epoch is not before the start, and its slot is one of the epoch. -/
structure InCalendar (settings : ChainSettings) (date : BlockDate) : Prop where
  epoch_nonneg : 0 ≤ date.epoch
  slot_nonneg : 0 ≤ date.slot
  slot_lt : date.slot < settings.slotsPerEpoch

instance : DecidablePred (InCalendar settings) := fun date =>
  decidable_of_iff (0 ≤ date.epoch ∧ 0 ≤ date.slot ∧ date.slot < settings.slotsPerEpoch)
    ⟨fun h => ⟨h.1, h.2.1, h.2.2⟩, fun h => ⟨h.epoch_nonneg, h.slot_nonneg, h.slot_lt⟩⟩

/-! ## Dates and absolute slots -/

theorem InCalendar.slotsPerEpoch_pos (h : date.InCalendar settings) :
    0 < settings.slotsPerEpoch :=
  lt_of_le_of_lt h.slot_nonneg h.slot_lt

theorem ofSlots_eq (hlength : 0 < settings.slotsPerEpoch) (slots : Int) :
    ofSlots slots settings =
      .ok ⟨max slots 0 / settings.slotsPerEpoch, max slots 0 % settings.slotsPerEpoch⟩ := by
  unfold ofSlots
  rw [if_neg hlength.ne']
  dsimp only
  rw [Int.fdiv_eq_ediv_of_nonneg _ hlength.le, Int.fmod_eq_emod_of_nonneg _ hlength.le]

/-- Every slot has a date of the calendar, and slots before the start have that of the first one. -/
theorem exists_ofSlots (hlength : 0 < settings.slotsPerEpoch) (slots : Int) :
    ∃ date, ofSlots slots settings = .ok date ∧ date.InCalendar settings ∧
      date.absoluteSlot settings = max slots 0 := by
  refine ⟨_, ofSlots_eq hlength slots, ⟨?_, ?_, ?_⟩, ?_⟩
  · exact Int.ediv_nonneg (le_max_right slots 0) hlength.le
  · exact Int.emod_nonneg _ hlength.ne'
  · exact Int.emod_lt_of_pos _ hlength
  · exact Int.ediv_mul_add_emod _ _

theorem InCalendar.absoluteSlot_nonneg (h : date.InCalendar settings) :
    0 ≤ date.absoluteSlot settings :=
  add_nonneg (mul_nonneg h.epoch_nonneg h.slotsPerEpoch_pos.le) h.slot_nonneg

/-- A date of the calendar is the date of its absolute slot. -/
theorem InCalendar.ofSlots_absoluteSlot (h : date.InCalendar settings) :
    ofSlots (date.absoluteSlot settings) settings = .ok date := by
  have hsplit : date.slot + settings.slotsPerEpoch * date.epoch = date.absoluteSlot settings := by
    unfold absoluteSlot
    ring
  obtain ⟨hepoch, hslot⟩ := (Int.ediv_emod_unique h.slotsPerEpoch_pos).mpr
    ⟨hsplit, h.slot_nonneg, h.slot_lt⟩
  rw [ofSlots_eq h.slotsPerEpoch_pos, max_eq_left h.absoluteSlot_nonneg, hepoch, hslot]

/-- All slots of an earlier epoch are before those of a later one. -/
theorem InCalendar.absoluteSlot_lt_of_epoch (ha : a.InCalendar settings)
    (hb : b.InCalendar settings) (h : a.epoch < b.epoch) :
    a.absoluteSlot settings < b.absoluteSlot settings := by
  have hnext : (a.epoch + 1) * settings.slotsPerEpoch ≤ b.epoch * settings.slotsPerEpoch :=
    mul_le_mul_of_nonneg_right h ha.slotsPerEpoch_pos.le
  have hlast := ha.slot_lt
  have hfirst := hb.slot_nonneg
  unfold absoluteSlot
  linarith

/-- The order of dates is that of their slots. -/
theorem InCalendar.compare_eq (ha : a.InCalendar settings) (hb : b.InCalendar settings) :
    compare a b = Ord.compare (a.absoluteSlot settings) (b.absoluteSlot settings) := by
  unfold compare
  rcases lt_trichotomy a.epoch b.epoch with hlt | heq | hgt
  · rw [compare_lt_iff_lt.mpr hlt, compare_lt_iff_lt.mpr (ha.absoluteSlot_lt_of_epoch hb hlt)]
    rfl
  · -- within an epoch the slots decide on both sides
    rw [compare_eq_iff_eq.mpr heq]
    show Ord.compare a.slot b.slot = _
    unfold absoluteSlot
    rw [heq]
    rcases lt_trichotomy a.slot b.slot with hlt | hsame | hgt
    · rw [compare_lt_iff_lt.mpr hlt, compare_lt_iff_lt.mpr (by omega)]
    · rw [compare_eq_iff_eq.mpr hsame, compare_eq_iff_eq.mpr (by omega)]
    · rw [compare_gt_iff_gt.mpr hgt, compare_gt_iff_gt.mpr (by omega)]
  · rw [compare_gt_iff_gt.mpr hgt, compare_gt_iff_gt.mpr (hb.absoluteSlot_lt_of_epoch ha hgt)]
    rfl

/-! ## Moving dates -/

/-- Two moves are one, unless the first one stops at the start of the chain. -/
theorem shift_shift (hlength : 0 < settings.slotsPerEpoch) {m : Int}
    (hfirst : 0 ≤ date.absoluteSlot settings + m) (n : Int) :
    (date.shift m settings >>= fun moved => moved.shift n settings) =
      date.shift (m + n) settings := by
  obtain ⟨moved, hmoved, _, hslot⟩ :=
    exists_ofSlots hlength (date.absoluteSlot settings + m)
  rw [max_eq_left hfirst] at hslot
  unfold shift
  rw [hmoved]
  show ofSlots (moved.absoluteSlot settings + n) settings = _
  rw [hslot, add_assoc]

/-- A move by whole epochs keeps the slot. -/
theorem InCalendar.shift_epochs (h : date.InCalendar settings) {n : Int}
    (hepoch : 0 ≤ date.epoch + n) :
    date.shift (n * settings.slotsPerEpoch) settings = .ok ⟨date.epoch + n, date.slot⟩ := by
  have hmoved : InCalendar settings ⟨date.epoch + n, date.slot⟩ :=
    ⟨hepoch, h.slot_nonneg, h.slot_lt⟩
  rw [← hmoved.ofSlots_absoluteSlot]
  unfold shift absoluteSlot
  congr 1
  ring

/-- The clock has dates of the calendar only. -/
theorem inCalendar_of_ofTime (hlength : 0 < settings.slotsPerEpoch) {now : Binary64}
    (h : ofTime now settings = .ok date) : date.InCalendar settings := by
  obtain ⟨slots, _, hdate⟩ := exists_of_bind_ok h
  obtain ⟨found, hfound, hin, _⟩ := exists_ofSlots hlength slots
  obtain rfl : found = date := Except.ok.inj (hfound.symm.trans hdate)
  exact hin

/-- **Dates are a calendar of slots.** If epochs have slots, then absolute slots from the start on
and dates of the calendar determine each other, in one order. A date is moved to the date of the
calendar that is as many slots away, or to the start; moves add up unless the first one stops at
the start; and a move by epochs keeps the slot, as does a window of epochs from the date of the
clock. -/
theorem calendar_of_slots (hlength : 1 ≤ settings.slotsPerEpoch) :
    (∀ slots, 0 ≤ slots → ∃ date, ofSlots slots settings = .ok date ∧
      date.InCalendar settings ∧ date.absoluteSlot settings = slots) ∧
    (∀ date, InCalendar settings date → 0 ≤ date.absoluteSlot settings ∧
      ofSlots (date.absoluteSlot settings) settings = .ok date) ∧
    (∀ a b, InCalendar settings a → InCalendar settings b →
      compare a b = Ord.compare (a.absoluteSlot settings) (b.absoluteSlot settings)) ∧
    (∀ date n, ∃ moved, shift date n settings = .ok moved ∧ moved.InCalendar settings ∧
      moved.absoluteSlot settings = max (date.absoluteSlot settings + n) 0) ∧
    (∀ date m n, 0 ≤ date.absoluteSlot settings + m →
      (shift date m settings >>= fun moved => moved.shift n settings) =
        date.shift (m + n) settings) ∧
    (∀ date n, InCalendar settings date → 0 ≤ date.epoch + n →
      date.shift (n * settings.slotsPerEpoch) settings = .ok ⟨date.epoch + n, date.slot⟩) ∧
    ∀ now date, ofTime now settings = .ok date →
      (∀ n, (ValidUntil.slotShift n).expiry settings now = date.shift n settings) ∧
      ∀ n, 0 ≤ date.epoch + n →
        (ValidUntil.epochShift n).expiry settings now = .ok ⟨date.epoch + n, date.slot⟩ := by
  have hpos : 0 < settings.slotsPerEpoch := hlength
  refine ⟨fun slots hslots => ?_, fun date h => ?_, fun a b ha hb => ?_, fun date n => ?_,
    fun date m n hfirst => ?_, fun date n h hepoch => ?_, fun now date htime => ?_⟩
  · obtain ⟨date, hdate, hin, hslot⟩ := exists_ofSlots hpos slots
    exact ⟨date, hdate, hin, hslot.trans (max_eq_left hslots)⟩
  · exact ⟨h.absoluteSlot_nonneg, h.ofSlots_absoluteSlot⟩
  · exact ha.compare_eq hb
  · exact exists_ofSlots hpos _
  · exact shift_shift hpos hfirst n
  · exact h.shift_epochs hepoch
  · have hexpiry : ∀ slots, (ofTime now settings >>= fun current => current.shift slots settings) =
        date.shift slots settings := by
      intro slots
      rw [htime]
      rfl
    refine ⟨fun n => hexpiry n, fun n hepoch => ?_⟩
    exact (hexpiry _).trans ((inCalendar_of_ofTime hpos htime).shift_epochs hepoch)

/-- In epochs of sixty slots: five slots from the end of one epoch lead into the next, slots before
the start are cut off also for a date beyond the calendar, and two epochs keep the slot. -/
theorem calendar_of_slots_sixty :
    ∃ settings : ChainSettings, 1 ≤ settings.slotsPerEpoch ∧
      shift ⟨8, 58⟩ 5 settings = .ok ⟨9, 3⟩ ∧
      shift ⟨-1, 75⟩ (-16) settings = .ok ⟨0, 0⟩ ∧
      shift ⟨8, 20⟩ (2 * settings.slotsPerEpoch) settings = .ok ⟨10, 20⟩ ∧
      compare ⟨1, 59⟩ ⟨2, 0⟩ = .lt := by
  let settings : ChainSettings := { slotsPerEpoch := 60 }
  obtain ⟨hdates, hback, horder, hmoves, _, hepochs, _⟩ :=
    @calendar_of_slots settings (by decide)
  -- a date of the calendar is known by its slot
  have hmoved : ∀ (date found : BlockDate) n, found.InCalendar settings →
      found.absoluteSlot settings = max (date.absoluteSlot settings + n) 0 →
      shift date n settings = .ok found := by
    intro date found n hfound hslot
    obtain ⟨moved, hmoved, hcalendar, hsame⟩ := hmoves date n
    have hdate := (hback moved hcalendar).2
    rw [hsame, ← hslot, (hback found hfound).2] at hdate
    rw [hmoved, hdate]
  refine ⟨settings, by decide, ?_, ?_, ?_, ?_⟩
  · exact hmoved _ ⟨9, 3⟩ 5 (by decide) (by decide)
  · exact hmoved _ ⟨0, 0⟩ (-16) (by decide) (by decide)
  · exact hepochs ⟨8, 20⟩ 2 (by decide) (by decide)
  · rw [horder ⟨1, 59⟩ ⟨2, 0⟩ (by decide) (by decide)]
    decide

end BlockDate

end BallotWallet
