import BallotWallet.Bytes
import BallotWallet.Text.Blank
import BallotWallet.Text.Case
import BallotWallet.Text.Encoding
import Mathlib.Data.List.TakeWhile

/-!
# Plain characters

The first 128 characters are bytes of their own: a text of them is written byte by byte, and
whoever reads UTF-8 finds the same text again. Each of them has a letter case of its own, too,
whatever stands around it.
-/

namespace BallotWallet.Text

/-- A character that is one byte in UTF-8. -/
def IsAscii (c : Char) : Prop :=
  c.toNat < 0x80

instance (c : Char) : Decidable (IsAscii c) :=
  inferInstanceAs (Decidable (_ < _))

theorem isValidChar_toNat (c : Char) : c.toNat < 0xd800 ∨ (0xdfff < c.toNat ∧ c.toNat < 0x110000) :=
  c.valid

theorem ofNat_char {c : Char} : CodePoint.ofNat c.toNat = .char c := by
  have hvalid := isValidChar_toNat c
  unfold CodePoint.ofNat
  rw [dif_neg (by omega), Char.ofNat_toNat]

theorem toNat_ofNat {n : Nat} (h : n.isValidChar) : (Char.ofNat n).toNat = n := by
  rw [Char.ofNat, dif_pos h]
  rfl

/-! ## Writing -/

theorem toList_loop (bs : ByteArray) (i : Nat) (r : List UInt8) :
    ByteArray.toList.loop bs i r = r.reverse ++ bs.data.toList.drop i := by
  induction i, r using ByteArray.toList.loop.induct bs with
  | case1 i r h ih =>
      have hi : i < bs.data.toList.length := h
      have hget : bs.get! i = bs.data.toList[i] := getElem!_pos bs.data i h
      rw [ByteArray.toList.loop, if_pos h, ih, List.reverse_cons, List.append_assoc,
        List.drop_eq_getElem_cons hi, hget]
      rfl
  | case2 i r h =>
      have hi : bs.data.toList.length ≤ i := Nat.le_of_not_lt h
      rw [ByteArray.toList.loop, if_neg h, List.drop_eq_nil_of_le hi, List.append_nil]

/-- Different strings are written in different bytes. -/
theorem ofString_inj {s t : String} (h : Bytes.ofString s = Bytes.ofString t) : s = t := by
  have hlist : ∀ bs : ByteArray, bs.toList = bs.data.toList := fun bs => toList_loop bs 0 []
  unfold Bytes.ofString at h
  rw [hlist, hlist] at h
  have hdata : s.toUTF8.data = t.toUTF8.data := Array.toList_inj.mp h
  have hbytes : s.toByteArray = t.toByteArray := ByteArray.ext hdata
  exact String.toByteArray_inj.mp hbytes

/-- Plain characters are bytes of their own. -/
theorem ofString_ofList {cs : List Char} (h : ∀ c ∈ cs, IsAscii c) :
    Bytes.ofString (String.ofList cs) = cs.map fun c => UInt8.ofNat c.toNat := by
  have hlist : ∀ bs : ByteArray, bs.toList = bs.data.toList := fun bs => toList_loop bs 0 []
  unfold Bytes.ofString
  rw [String.toUTF8_eq_toByteArray, String.toByteArray_ofList, hlist]
  induction cs with
  | nil => rfl
  | cons c cs ih =>
      have hc := h c List.mem_cons_self
      have hsmall : c.val ≤ 0x7f := UInt32.le_iff_toNat_le.mpr (Nat.le_of_lt_succ hc)
      have hsize : c.utf8Size = 1 := if_pos hsmall
      rw [List.utf8Encode_cons, ByteArray.data_append, Array.toList_append,
        ih fun d hd => h d (List.mem_cons_of_mem _ hd), List.utf8Encode_singleton,
        String.utf8EncodeChar_eq_singleton hsize]
      rfl

theorem toNat_ofNat_of_isAscii {c : Char} (h : IsAscii c) : (UInt8.ofNat c.toNat).toNat = c.toNat :=
  UInt8.toNat_ofNat_of_lt' (Nat.lt_of_lt_of_le h (by decide))

/-! ## Reading -/

theorem utf8Points_map (halves : Bool) {cs : List Char} (h : ∀ c ∈ cs, IsAscii c) :
    utf8Points halves (cs.map fun c => UInt8.ofNat c.toNat) = cs.map fun c => some (.char c) := by
  unfold utf8Points
  induction cs with
  | nil => rfl
  | cons c cs ih =>
      have hc := h c List.mem_cons_self
      have hsmall : UInt8.ofNat c.toNat < 0x80 := by
        rw [UInt8.lt_iff_toNat_lt, toNat_ofNat_of_isAscii hc]
        exact hc
      have hstart : startChar (UInt8.ofNat c.toNat) = ([some (.char c)], none) := by
        unfold startChar
        rw [if_pos hsmall, toNat_ofNat_of_isAscii hc, ofNat_char]
      rw [List.map_cons, utf8From]
      show (startChar _).1 ++ utf8From halves (startChar _).2 _ = _
      rw [hstart, ih fun d hd => h d (List.mem_cons_of_mem _ hd)]
      rfl

theorem mapM_utf8Points_ofString (halves : Bool) {cs : List Char} (h : ∀ c ∈ cs, IsAscii c) :
    (utf8Points halves (Bytes.ofString (String.ofList cs))).mapM id = some (cs.map .char) := by
  rw [ofString_ofList h, utf8Points_map halves h, List.mapM_map]
  exact List.mapM_pure

/-- Plain characters that are written are read back. -/
theorem utf8?_ofString {cs : List Char} (h : ∀ c ∈ cs, IsAscii c) :
    utf8? (Bytes.ofString (String.ofList cs)) = some (ofChars cs) := by
  unfold utf8?
  rw [mapM_utf8Points_ofString false h]
  rfl

/-! ## Letter case -/

/-- The lower case of a plain code point. -/
def lowered : CodePoint → CodePoint
  | .char c => .char (if 'A' ≤ c ∧ c ≤ 'Z' then Char.ofNat (c.toNat + 32) else c)
  | .half n => .half n

/-- The upper case of a plain code point. -/
def raised : CodePoint → CodePoint
  | .char c => .char (if 'a' ≤ c ∧ c ≤ 'z' then Char.ofNat (c.toNat - 32) else c)
  | .half n => .half n

theorem lowerAfter_eq_map {ps : List CodePoint} (h : ∀ p ∈ ps, p.toNat < 0x80)
    (before : List CodePoint) : lowerAfter before ps = ps.map lowered := by
  induction ps generalizing before with
  | nil => rfl
  | cons p ps ih =>
      have hrest := ih fun q hq => h q (List.mem_cons_of_mem _ hq)
      cases p with
      | half n =>
          rw [lowerAfter, hrest]
          rfl
      | char c =>
          have hc : c.toNat < 0x80 := h _ List.mem_cons_self
          rw [lowerAfter, hrest, lowerChar]
          simp only [hc, if_true]
          rfl

theorem flatMap_upperPoint_eq_map {ps : List CodePoint} (h : ∀ p ∈ ps, p.toNat < 0x80) :
    ps.flatMap upperPoint = ps.map raised := by
  induction ps with
  | nil => rfl
  | cons p ps ih =>
      have hrest := ih fun q hq => h q (List.mem_cons_of_mem _ hq)
      rw [List.flatMap_cons, hrest]
      cases p with
      | half n => rfl
      | char c =>
          have hc : c.toNat < 0x80 := h _ List.mem_cons_self
          rw [upperPoint, upperChar]
          simp only [hc, if_true]
          rfl

theorem toNat_lowered {c : Char} (h : 65 ≤ c.toNat ∧ c.toNat ≤ 90) :
    (lowered (.char c)).toNat = c.toNat + 32 := by
  have hcapital : 'A' ≤ c ∧ c ≤ 'Z' := h
  have hvalid : (c.toNat + 32).isValidChar := Or.inl (by omega)
  rw [lowered, if_pos hcapital, CodePoint.toNat, Char.ofNat, dif_pos hvalid]
  rfl

/-- Only capitals have another lower case. -/
theorem lowered_eq_self {p : CodePoint} (h : ¬(65 ≤ p.toNat ∧ p.toNat ≤ 90)) : lowered p = p := by
  cases p with
  | half n => rfl
  | char c =>
      have hcapital : ¬('A' ≤ c ∧ c ≤ 'Z') := h
      rw [lowered, if_neg hcapital]

theorem raised_lowered {p : CodePoint} (h : p.toNat < 0x80) : raised (lowered p) = raised p := by
  have hall : ∀ i : Fin 0x80,
      raised (lowered (.char (Char.ofNat i))) = raised (.char (Char.ofNat i)) := by decide
  cases p with
  | half n => rfl
  | char c =>
      have hc := hall ⟨c.toNat, h⟩
      rwa [Char.ofNat_toNat] at hc

/-! ## Margins -/

variable {α : Type} {p : α → Bool}

theorem dropWhile_eq {xs : List α} (h : ∀ x ∈ xs, p x = false) : xs.dropWhile p = xs := by
  cases xs with
  | nil => rfl
  | cons x xs => rw [List.dropWhile_cons, h x List.mem_cons_self, if_neg Bool.false_ne_true]

/-- What is trimmed off on both sides is trimmed off, and nothing else is. -/
theorem trimWhile_append {before xs after : List α} (hbefore : ∀ x ∈ before, p x = true)
    (h : ∀ x ∈ xs, p x = false) (hafter : ∀ x ∈ after, p x = true) :
    trimWhile p (before ++ xs ++ after) = xs := by
  have hback : ∀ x ∈ after.reverse, p x = true := fun x hx => hafter x (List.mem_reverse.mp hx)
  have hkept : ∀ x ∈ xs.reverse, p x = false := fun x hx => h x (List.mem_reverse.mp hx)
  unfold trimWhile dropEndWhile
  rw [List.append_assoc, List.dropWhile_append_of_pos hbefore]
  cases xs with
  | nil =>
      have hnone : after.dropWhile p = [] := List.dropWhile_eq_nil_iff.mpr hafter
      rw [List.nil_append, hnone]
      rfl
  | cons x xs =>
      have hfront : (x :: xs ++ after).dropWhile p = x :: xs ++ after := by
        rw [List.cons_append, List.dropWhile_cons, h x List.mem_cons_self,
          if_neg Bool.false_ne_true]
      rw [hfront, List.reverse_append, List.dropWhile_append_of_pos hback, dropWhile_eq hkept,
        List.reverse_reverse]

theorem trimWhile_eq {xs : List α} (h : ∀ x ∈ xs, p x = false) : trimWhile p xs = xs := by
  have htrim := @trimWhile_append α p [] xs [] nofun h nofun
  rwa [List.append_nil] at htrim

end BallotWallet.Text
