import BallotWallet.Json.Reader
import BallotWallet.Json.Writer
import BallotWallet.Proofs.Numeral

/-!
# Numbers and texts in JSON

A written number is read as the same number. A written text consists of printable characters; it
is read as the same text, except that halves of surrogate pairs which follow one another in order
come back as one character.
-/

namespace BallotWallet.Json

open Text (CodePoint IsAscii isValidChar_toNat ofNat_char toNat_ofNat)

/-! ## Numbers -/

/-- Whether no number goes on with the code points. -/
def NoNumber (ps : List CodePoint) : Prop :=
  numericFront ps = []

theorem noNumber_nil : NoNumber [] :=
  rfl

theorem noNumber_cons {c : Char} {ps : List CodePoint} (h : isNumeric c = false) :
    NoNumber (.char c :: ps) := by
  unfold NoNumber numericFront
  rw [h, if_neg Bool.false_ne_true]

theorem isNumeric_of_isDigit {c : Char} (h : c.isDigit = true) : isNumeric c = true := by
  unfold isNumeric
  rw [h]
  rfl

theorem numericFront_digits {ds : List Char} (hds : ∀ c ∈ ds, c.isDigit = true)
    {rest : List CodePoint} (hrest : NoNumber rest) :
    numericFront (ds.map .char ++ rest) = ds := by
  induction ds with
  | nil => exact hrest
  | cons d ds ih =>
      have hd := isNumeric_of_isDigit (hds d List.mem_cons_self)
      have hrec := ih fun c hc => hds c (List.mem_cons_of_mem _ hc)
      show (if isNumeric d then d :: numericFront (ds.map .char ++ rest) else []) = _
      rw [if_pos hd, hrec]

theorem wholeDigits_digits (n : Int) : wholeDigits (Numeral.digits n) = Numeral.digits n := by
  cases hds : Numeral.digits n with
  | nil => rfl
  | cons d ds =>
      by_cases hd : d = '0'
      · subst hd
        rw [Numeral.digits_of_zero_front hds]
        rfl
      · have hall : ∀ c ∈ d :: ds, c.isDigit = true := by
          intro c hc
          exact Numeral.isDigit_of_mem_digits (hds ▸ hc)
        have hwhole : wholeDigits (d :: ds) = (d :: ds).takeWhile Char.isDigit := by
          unfold wholeDigits
          split
          · rename_i heq
            exact absurd (List.cons.inj heq).1 hd
          · rfl
        rw [hwhole]
        have happend : ((d :: ds) ++ []).takeWhile Char.isDigit =
            (d :: ds) ++ [].takeWhile Char.isDigit :=
          List.takeWhile_append_of_pos hall
        rwa [List.append_nil, List.takeWhile_nil, List.append_nil] at happend

/-- The digits of a number that can be written are read as the number. -/
theorem readNumber_digits {n : Int} (hn : Numeral.isWritable n = true) {rest : List CodePoint}
    (hrest : NoNumber rest) :
    readNumber (decide (n < 0)) ((Numeral.digits n).map .char ++ rest) = .ok (.int n, rest) := by
  have hfront : numericFront ((Numeral.digits n).map .char ++ rest) = Numeral.digits n :=
    numericFront_digits (fun c hc => Numeral.isDigit_of_mem_digits hc) hrest
  have hne : (Numeral.digits n).isEmpty = false :=
    List.isEmpty_eq_false_iff.mpr (Numeral.digits_ne_nil n)
  have hdrop : (Numeral.digits n).drop (Numeral.digits n).length = [] := List.drop_length
  have hlen := Numeral.length_digits_le hn
  unfold readNumber
  dsimp only
  rw [hfront, wholeDigits_digits]
  simp only [hne, hdrop, fractionDigits, exponentDigits, Bool.false_eq_true, if_false,
    List.length_nil, Nat.add_zero, List.isEmpty_nil, Bool.and_self, if_true]
  rw [if_neg (Nat.not_lt.mpr hlen), Numeral.signed_digits]
  rw [List.drop_left' (by simp)]

/-! ## Texts -/

/-- The code points of a text as the writer spells them, without the quotes. -/
def spelled (ps : List CodePoint) : List CodePoint :=
  (ps.flatMap escapePoint).map .char

theorem spelled_cons (p : CodePoint) (ps : List CodePoint) :
    spelled (p :: ps) = (escapePoint p).map .char ++ spelled ps := by
  simp [spelled]

/-- The code points with the halves that follow one another in order put together. -/
def paired : List CodePoint → List CodePoint
  | .half a :: .half b :: ps =>
    if CodePoint.isFirstHalf (CodePoint.half a).toNat &&
        CodePoint.isSecondHalf (CodePoint.half b).toNat then
      .ofPair (CodePoint.half a).toNat (CodePoint.half b).toNat :: paired ps
    else .half a :: paired (.half b :: ps)
  | p :: ps => p :: paired ps
  | [] => []

theorem toList_ofNat_four {n : Nat} (h : n < 0x10000) :
    (Hex.ofNat 4 n).toList = [Nat.digitChar (n / 16 / 16 / 16),
      Nat.digitChar (n / 16 / 16 % 16), Nat.digitChar (n / 16 % 16), Nat.digitChar (n % 16)] := by
  rw [Hex.toList_ofNat_succ (by decide), Hex.toList_ofNat_succ (by decide),
    Hex.toList_ofNat_succ (by decide), Hex.toList_ofNat_one (by omega)]
  rfl

theorem readUnit?_ofNat {n : Nat} (h : n < 0x10000) (rest : List CodePoint) :
    readUnit? ((Hex.ofNat 4 n).toList.map .char ++ rest) = some (n, rest) := by
  have hvalue : (((n / 16 / 16 / 16 * 16 + n / 16 / 16 % 16) * 16 + n / 16 % 16) * 16 + n % 16) =
      n := by
    omega
  have hread : readUnit? ((Hex.ofNat 4 n).toList.map .char ++ rest) =
      some ((((n / 16 / 16 / 16 * 16 + n / 16 / 16 % 16) * 16 + n / 16 % 16) * 16 + n % 16),
        rest) := by
    rw [toList_ofNat_four h]
    simp only [List.map_cons, List.map_nil, List.cons_append, List.nil_append, readUnit?]
    rw [Hex.value?_digitChar (by omega), Hex.value?_digitChar (Nat.mod_lt _ (by decide)),
      Hex.value?_digitChar (Nat.mod_lt _ (by decide)),
      Hex.value?_digitChar (Nat.mod_lt _ (by decide))]
    rfl
  rw [hread, hvalue]

theorem nextUnit?_escapeUnit {n : Nat} (h : n < 0x10000) (rest : List CodePoint) :
    nextUnit? ((escapeUnit n).map .char ++ rest) = some (n, rest) :=
  readUnit?_ofNat h rest

theorem escapeChar_of_large {c : Char} (h : 0x10000 ≤ c.toNat) :
    escapeChar c = escapeUnit (0xd800 + (c.toNat - 0x10000) / 0x400) ++
      escapeUnit (0xdc00 + (c.toNat - 0x10000) % 0x400) := by
  have hquote : c ≠ '"' := by
    rintro rfl
    exact absurd h (by decide)
  have hback : c ≠ '\\' := by
    rintro rfl
    exact absurd h (by decide)
  have hplain : (decide (0x20 ≤ c.toNat) && decide (c.toNat ≤ 0x7e)) = false := by
    simp
    omega
  unfold escapeChar
  dsimp only
  rw [if_neg (by simpa using hquote), if_neg (by simpa using hback), if_neg (by simp [hplain])]
  rw [if_neg (by simp; omega), if_neg (by simp; omega), if_neg (by simp; omega),
    if_neg (by simp; omega), if_neg (by simp; omega), if_neg (by omega)]

/-- How a character is written: as a short escape, as itself, as one unit, or as two. -/
theorem escapeChar_cases (c : Char) :
    (∃ e, escapeChar c = ['\\', e] ∧ e ≠ 'u' ∧ 0x20 ≤ e.toNat ∧ e.toNat ≤ 0x7e ∧
      shortEscape? e = some c) ∨
    (escapeChar c = [c] ∧ c ≠ '"' ∧ c ≠ '\\' ∧ 0x20 ≤ c.toNat ∧ c.toNat ≤ 0x7e) ∨
    (escapeChar c = escapeUnit c.toNat ∧ c.toNat < 0x10000) ∨ 0x10000 ≤ c.toNat := by
  have heq : ∀ {d : Char}, c.toNat = d.toNat → c = d := fun h => Char.toNat_inj.mp h
  unfold escapeChar
  dsimp only
  split
  · rename_i h
    obtain rfl : c = '"' := by simpa using h
    exact .inl ⟨'"', rfl, by decide⟩
  split
  · rename_i h
    obtain rfl : c = '\\' := by simpa using h
    exact .inl ⟨'\\', rfl, by decide⟩
  split
  · rename_i hquote hback h
    rw [Bool.and_eq_true, decide_eq_true_eq, decide_eq_true_eq] at h
    exact .inr (.inl ⟨rfl, by simpa using hquote, by simpa using hback, h.1, h.2⟩)
  split
  · rename_i h
    obtain rfl : c = '\n' := heq (by simpa using h)
    exact .inl ⟨'n', rfl, by decide⟩
  split
  · rename_i h
    obtain rfl : c = '\r' := heq (by simpa using h)
    exact .inl ⟨'r', rfl, by decide⟩
  split
  · rename_i h
    obtain rfl : c = '\t' := heq (by simpa using h)
    exact .inl ⟨'t', rfl, by decide⟩
  split
  · rename_i h
    obtain rfl : c = Char.ofNat 12 := heq (by simpa using h)
    exact .inl ⟨'f', rfl, by decide⟩
  split
  · rename_i h
    obtain rfl : c = Char.ofNat 8 := heq (by simpa using h)
    exact .inl ⟨'b', rfl, by decide⟩
  split
  · rename_i h
    exact .inr (.inr (.inl ⟨rfl, h⟩))
  · rename_i h
    exact .inr (.inr (.inr (Nat.not_lt.mp h)))

/-- The code point `q` is read from the front of some code points. -/
def Yields (ps : List CodePoint) (q : CodePoint) (rest : List CodePoint) : Prop :=
  ∀ fuel, readPoints? (fuel + 1) ps = (readPoints? fuel rest).map fun r => (q :: r.1, r.2)

theorem yields_escape {ps rest : List CodePoint} {q : CodePoint}
    (h : readEscape? ps = some (q, rest)) : Yields (.char '\\' :: ps) q rest := by
  intro fuel
  rw [readPoints?, if_neg (by decide), if_pos (by decide), h]
  show (readPoints? fuel rest >>= fun r => some (q :: r.1, r.2)) = _
  cases readPoints? fuel rest <;> rfl

theorem yields_plain {c : Char} (hquote : c ≠ '"') (hback : c ≠ '\\') (hlow : 0x20 ≤ c.toNat)
    (rest : List CodePoint) : Yields (.char c :: rest) (.char c) rest := by
  intro fuel
  have hquote' : (CodePoint.char c == .char '"') = false := by simpa using hquote
  have hback' : (CodePoint.char c == .char '\\') = false := by simpa using hback
  have hlow' : ¬(CodePoint.char c).toNat < 0x20 := Nat.not_lt.mpr hlow
  rw [readPoints?, if_neg (ne_true_of_eq_false hquote'), if_neg (ne_true_of_eq_false hback'),
    if_neg hlow']
  cases readPoints? fuel rest <;> rfl

theorem yields_unit {n : Nat} (h : n < 0x10000) (rest : List CodePoint) :
    Yields ((escapeUnit n).map .char ++ rest) (pairUp n rest).1 (pairUp n rest).2 := by
  have hspelled : (escapeUnit n).map CodePoint.char ++ rest =
      .char '\\' :: .char 'u' :: ((Hex.ofNat 4 n).toList.map .char ++ rest) :=
    rfl
  have hread : readEscape? (.char 'u' :: ((Hex.ofNat 4 n).toList.map .char ++ rest)) =
      some ((pairUp n rest).1, (pairUp n rest).2) := by
    rw [readEscape?, readUnit?_ofNat h]
    rfl
  rw [hspelled]
  exact yields_escape hread

theorem pairUp_pair {n m : Nat} (hn : CodePoint.isFirstHalf n = true)
    (hm : CodePoint.isSecondHalf m = true) (rest : List CodePoint) :
    pairUp n ((escapeUnit m).map .char ++ rest) = (.ofPair n m, rest) := by
  have hbound : m < 0x10000 := by
    unfold CodePoint.isSecondHalf at hm
    simp at hm
    omega
  unfold pairUp
  rw [nextUnit?_escapeUnit hbound]
  simp only [hn, hm, Bool.and_self, if_true]

theorem pairUp_single {n : Nat} {rest : List CodePoint}
    (h : ∀ m after, nextUnit? rest = some (m, after) →
      (CodePoint.isFirstHalf n && CodePoint.isSecondHalf m) = false) :
    pairUp n rest = (.ofNat n, rest) := by
  unfold pairUp
  split
  · rename_i m after hnext
    rw [h m after hnext, if_neg Bool.false_ne_true]
  · rfl

/-- What is written for a character is read as the character. -/
theorem yields_char (c : Char) (rest : List CodePoint) :
    Yields ((escapeChar c).map .char ++ rest) (.char c) rest := by
  have hvalid := isValidChar_toNat c
  -- one case for each way to write a character; only the last one needs two units
  obtain ⟨e, heq, hu, _, _, hshort⟩ | ⟨heq, hquote, hback, hlow, _⟩ | ⟨heq, hn⟩ | hlarge :=
    escapeChar_cases c
  · rw [heq]
    refine yields_escape ?_
    show readEscape? (.char e :: rest) = _
    unfold readEscape?
    split
    · rename_i hcons
      exact absurd (CodePoint.char.inj (List.cons.inj hcons).1) hu
    · rename_i hcons
      obtain ⟨hhead, htail⟩ := List.cons.inj hcons
      rw [← CodePoint.char.inj hhead, ← htail, hshort]
      rfl
    · rename_i hother
      exact absurd rfl (hother e rest)
  · rw [heq]
    exact yields_plain hquote hback hlow rest
  · rw [heq]
    -- a character is never the first half of a pair
    have hsingle : pairUp c.toNat rest = (.char c, rest) := by
      rw [pairUp_single, ofNat_char]
      intro m after _
      rw [Bool.and_eq_false_iff]
      left
      unfold CodePoint.isFirstHalf
      simp
      omega
    have hyields := yields_unit hn rest
    rwa [hsingle] at hyields
  · rw [escapeChar_of_large hlarge, List.map_append, List.append_assoc]
    have hpair : pairUp (0xd800 + (c.toNat - 0x10000) / 0x400)
        ((escapeUnit (0xdc00 + (c.toNat - 0x10000) % 0x400)).map .char ++ rest) =
        (.char c, rest) := by
      rw [pairUp_pair]
      · unfold CodePoint.ofPair
        have hback : 0x10000 + (0xd800 + (c.toNat - 0x10000) / 0x400 - 0xd800) * 0x400 +
            (0xdc00 + (c.toNat - 0x10000) % 0x400 - 0xdc00) = c.toNat := by
          omega
        rw [hback, Char.ofNat_toNat]
      · unfold CodePoint.isFirstHalf
        simp
        omega
      · unfold CodePoint.isSecondHalf
        simp
        omega
    have hyields := yields_unit (n := 0xd800 + (c.toNat - 0x10000) / 0x400) (by omega)
      ((escapeUnit (0xdc00 + (c.toNat - 0x10000) % 0x400)).map .char ++ rest)
    rwa [hpair] at hyields

theorem toNat_half_lt (a : Fin 0x800) : (CodePoint.half a).toNat < 0x10000 := by
  show 0xd800 + a.val < 0x10000
  omega

theorem yields_half (a : Fin 0x800) {rest : List CodePoint}
    (h : ∀ m after, nextUnit? rest = some (m, after) →
      (CodePoint.isFirstHalf (CodePoint.half a).toNat && CodePoint.isSecondHalf m) = false) :
    Yields ((escapePoint (.half a)).map .char ++ rest) (.half a) rest := by
  have hyields := yields_unit (toNat_half_lt a) rest
  rwa [pairUp_single h, CodePoint.ofNat_toNat_half] at hyields

theorem yields_halves {a b : Fin 0x800}
    (ha : CodePoint.isFirstHalf (CodePoint.half a).toNat = true)
    (hb : CodePoint.isSecondHalf (CodePoint.half b).toNat = true) (rest : List CodePoint) :
    Yields ((escapePoint (.half a)).map .char ++ ((escapePoint (.half b)).map .char ++ rest))
      (.ofPair (CodePoint.half a).toNat (CodePoint.half b).toNat) rest := by
  have hyields := yields_unit (toNat_half_lt a) ((escapePoint (.half b)).map .char ++ rest)
  have hpair : pairUp (CodePoint.half a).toNat ((escapePoint (.half b)).map .char ++ rest) =
      (.ofPair (CodePoint.half a).toNat (CodePoint.half b).toNat, rest) :=
    pairUp_pair ha hb rest
  rwa [hpair] at hyields

theorem nextUnit?_other {c : Char} (h : c ≠ '\\') (ps : List CodePoint) :
    nextUnit? (.char c :: ps) = none := by
  unfold nextUnit?
  split
  · rename_i heq
    exact absurd (CodePoint.char.inj (List.cons.inj heq).1) h
  · rfl

theorem nextUnit?_short {e : Char} (h : e ≠ 'u') (ps : List CodePoint) :
    nextUnit? (.char '\\' :: .char e :: ps) = none := by
  unfold nextUnit?
  split
  · rename_i heq
    exact absurd (CodePoint.char.inj (List.cons.inj (List.cons.inj heq).2).1) h
  · rfl

/-- Only a second half is written with the unit of a second half in front. -/
theorem nextUnit?_spelled {ps rest after : List CodePoint} {m : Nat}
    (h : nextUnit? (spelled ps ++ .char '"' :: rest) = some (m, after))
    (hm : CodePoint.isSecondHalf m = true) :
    ∃ b ps', ps = .half b :: ps' ∧ (CodePoint.half b).toNat = m := by
  unfold CodePoint.isSecondHalf at hm
  simp only [Bool.and_eq_true, decide_eq_true_eq] at hm
  cases ps with
  | nil =>
      rw [show spelled [] ++ .char '"' :: rest = .char '"' :: rest from rfl,
        nextUnit?_other (by decide)] at h
      cases h
  | cons p ps =>
      rw [spelled_cons, List.append_assoc] at h
      cases p with
      | half b =>
          refine ⟨b, ps, rfl, ?_⟩
          have hunit := nextUnit?_escapeUnit (toNat_half_lt b) (spelled ps ++ .char '"' :: rest)
          exact (Prod.mk.inj (Option.some.inj (hunit.symm.trans h))).1
      | char c =>
          -- a character starts with no unit, with its own one, or with that of a first half
          exfalso
          have hvalid := isValidChar_toNat c
          rw [show escapePoint (.char c) = escapeChar c from rfl] at h
          obtain ⟨e, heq, hu, _⟩ | ⟨heq, _, hback, _⟩ | ⟨heq, hn⟩ | hlarge := escapeChar_cases c
          · rw [heq] at h
            have hnone := nextUnit?_short hu (spelled ps ++ .char '"' :: rest)
            cases hnone.symm.trans h
          · rw [heq] at h
            have hnone := nextUnit?_other hback (spelled ps ++ .char '"' :: rest)
            cases hnone.symm.trans h
          · rw [heq, nextUnit?_escapeUnit hn] at h
            obtain ⟨rfl, _⟩ := Prod.mk.inj (Option.some.inj h)
            omega
          · rw [escapeChar_of_large hlarge, List.map_append, List.append_assoc,
              nextUnit?_escapeUnit (by omega)] at h
            obtain ⟨rfl, _⟩ := Prod.mk.inj (Option.some.inj h)
            omega

theorem yields_half_alone {a : Fin 0x800} {ps : List CodePoint}
    (h : ∀ b ps', ps = .half b :: ps' → (CodePoint.isFirstHalf (CodePoint.half a).toNat &&
      CodePoint.isSecondHalf (CodePoint.half b).toNat) = false) (rest : List CodePoint) :
    Yields ((escapePoint (.half a)).map .char ++ (spelled ps ++ .char '"' :: rest)) (.half a)
      (spelled ps ++ .char '"' :: rest) := by
  refine yields_half a fun m after hnext => Bool.eq_false_iff.mpr fun hboth => ?_
  obtain ⟨_, hm⟩ := Bool.and_eq_true_iff.mp hboth
  obtain ⟨b, ps', heq, rfl⟩ := nextUnit?_spelled hnext hm
  exact Bool.eq_false_iff.mp (h b ps' heq) hboth

/-- What is spelled is read, with the halves that follow one another in order put together. -/
theorem readPoints?_spelled (ps rest : List CodePoint) {fuel : Nat} (hfuel : ps.length < fuel) :
    readPoints? fuel (spelled ps ++ .char '"' :: rest) = some (paired ps, rest) := by
  induction ps using paired.induct generalizing fuel with
  | case1 a b ps h ih =>
      obtain ⟨ha, hb⟩ := Bool.and_eq_true_iff.mp h
      obtain ⟨fuel, rfl⟩ := Nat.exists_eq_add_one_of_ne_zero (Nat.ne_zero_of_lt hfuel)
      have hlen : ps.length < fuel := by
        simp only [List.length_cons] at hfuel
        omega
      rw [spelled_cons, spelled_cons, List.append_assoc, List.append_assoc,
        yields_halves ha hb, ih hlen, paired, if_pos h]
      rfl
  | case2 a b ps h ih =>
      obtain ⟨fuel, rfl⟩ := Nat.exists_eq_add_one_of_ne_zero (Nat.ne_zero_of_lt hfuel)
      have halone : ∀ b' ps', CodePoint.half b :: ps = .half b' :: ps' →
          (CodePoint.isFirstHalf (CodePoint.half a).toNat &&
            CodePoint.isSecondHalf (CodePoint.half b').toNat) = false := by
        rintro b' ps' heq
        obtain rfl := CodePoint.half.inj (List.cons.inj heq).1
        exact Bool.eq_false_iff.mpr h
      rw [spelled_cons, List.append_assoc, yields_half_alone halone,
        ih (Nat.lt_of_succ_lt_succ hfuel), paired, if_neg h]
      rfl
  | case3 p ps hother ih =>
      obtain ⟨fuel, rfl⟩ := Nat.exists_eq_add_one_of_ne_zero (Nat.ne_zero_of_lt hfuel)
      have hyields : Yields ((escapePoint p).map .char ++ (spelled ps ++ .char '"' :: rest)) p
          (spelled ps ++ .char '"' :: rest) := by
        cases p with
        | char c => exact yields_char c _
        | half a => exact yields_half_alone (fun b ps' heq => (hother a b ps' rfl heq).elim) rest
      rw [spelled_cons, List.append_assoc, hyields, ih (Nat.lt_of_succ_lt_succ hfuel), paired]
      · rfl
      · exact hother
  | case4 =>
      obtain ⟨fuel, rfl⟩ := Nat.exists_eq_add_one_of_ne_zero (Nat.ne_zero_of_lt hfuel)
      rfl

theorem escapePoint_ofPair {a b : Fin 0x800}
    (ha : CodePoint.isFirstHalf (CodePoint.half a).toNat = true)
    (hb : CodePoint.isSecondHalf (CodePoint.half b).toNat = true) :
    escapePoint (.ofPair (CodePoint.half a).toNat (CodePoint.half b).toNat) =
      escapePoint (.half a) ++ escapePoint (.half b) := by
  unfold CodePoint.isFirstHalf at ha
  unfold CodePoint.isSecondHalf at hb
  simp only [Bool.and_eq_true, decide_eq_true_eq] at ha hb
  generalize hn : (CodePoint.half a).toNat = n at ha
  generalize hm : (CodePoint.half b).toNat = m at hb
  have hvalid : (0x10000 + (n - 0xd800) * 0x400 + (m - 0xdc00)).isValidChar := by
    refine .inr ⟨?_, ?_⟩ <;> omega
  have htoNat : (Char.ofNat (0x10000 + (n - 0xd800) * 0x400 + (m - 0xdc00))).toNat =
      0x10000 + (n - 0xd800) * 0x400 + (m - 0xdc00) :=
    toNat_ofNat hvalid
  show escapeChar (Char.ofNat (0x10000 + (n - 0xd800) * 0x400 + (m - 0xdc00))) =
    escapeUnit (CodePoint.half a).toNat ++ escapeUnit (CodePoint.half b).toNat
  have hfirst : 0xd800 + (0x10000 + (n - 0xd800) * 0x400 + (m - 0xdc00) - 0x10000) / 0x400 = n := by
    omega
  have hsecond : 0xdc00 + (0x10000 + (n - 0xd800) * 0x400 + (m - 0xdc00) - 0x10000) % 0x400 =
      m := by
    omega
  rw [escapeChar_of_large (by rw [htoNat]; omega), htoNat, hn, hm, hfirst, hsecond]

/-- Put together or not, halves are written alike. -/
theorem flatMap_escapePoint_paired (ps : List CodePoint) :
    (paired ps).flatMap escapePoint = ps.flatMap escapePoint := by
  induction ps using paired.induct with
  | case1 a b ps h ih =>
      obtain ⟨ha, hb⟩ := Bool.and_eq_true_iff.mp h
      rw [paired, if_pos h]
      simp only [List.flatMap_cons]
      rw [escapePoint_ofPair ha hb, ih, List.append_assoc]
  | case2 a b ps h ih =>
      rw [paired, if_neg h, List.flatMap_cons, List.flatMap_cons, ih]
  | case3 p ps hother ih =>
      rw [paired, List.flatMap_cons, List.flatMap_cons, ih]
      exact hother
  | case4 => rfl

/-- Characters stay what they are. -/
theorem paired_map_char (cs : List Char) : paired (cs.map .char) = cs.map .char := by
  induction cs with
  | nil => rfl
  | cons c cs ih =>
      show .char c :: paired (cs.map .char) = _
      rw [ih]
      rfl

/-- A text with its halves put together. -/
def pairedText (t : Text) : Text :=
  ⟨paired t.points⟩

theorem pairedText_ofString (s : String) : pairedText s = s :=
  congrArg Text.mk (paired_map_char s.toList)

theorem writeText_pairedText (t : Text) : writeText (pairedText t) = writeText t := by
  unfold writeText pairedText
  rw [flatMap_escapePoint_paired]

theorem length_le_length_spelled (ps : List CodePoint) : ps.length ≤ (spelled ps).length := by
  induction ps with
  | nil => exact Nat.le_refl _
  | cons p ps ih =>
      have hpos : 0 < (escapePoint p).length := by
        cases p with
        | half a => exact Nat.succ_pos _
        | char c =>
            show 0 < (escapeChar c).length
            obtain ⟨e, heq, _⟩ | ⟨heq, _⟩ | ⟨heq, _⟩ | hlarge := escapeChar_cases c
            · rw [heq]
              exact Nat.succ_pos _
            · rw [heq]
              exact Nat.succ_pos _
            · rw [heq]
              exact Nat.succ_pos _
            · rw [escapeChar_of_large hlarge]
              exact Nat.succ_pos _
      rw [spelled_cons, List.length_append, List.length_map, List.length_cons]
      omega

/-- A written text is read as the text with its halves put together. -/
theorem readText_writeText (t : Text) (rest : List CodePoint) :
    readText (spelled t.points ++ .char '"' :: rest) = .ok (pairedText t, rest) := by
  have hfuel : t.points.length < (spelled t.points ++ .char '"' :: rest).length + 1 := by
    have hlen := length_le_length_spelled t.points
    rw [List.length_append]
    omega
  unfold readText
  rw [readPoints?_spelled t.points rest hfuel]
  rfl

theorem map_writeText (t : Text) (rest : List CodePoint) :
    (writeText t).map .char ++ rest = .char '"' :: (spelled t.points ++ .char '"' :: rest) := by
  simp [writeText, spelled]

/-! ## Printable characters -/

/-- A printable ASCII character. -/
def IsPrintable (c : Char) : Prop :=
  0x20 ≤ c.toNat ∧ c.toNat ≤ 0x7e

instance (c : Char) : Decidable (IsPrintable c) :=
  inferInstanceAs (Decidable (_ ∧ _))

theorem IsPrintable.isAscii {c : Char} (h : IsPrintable c) : IsAscii c :=
  Nat.lt_of_le_of_lt h.2 (by decide)

theorem isPrintable_ofNat {n : Nat} (h : n < 0x10000) {c : Char}
    (hc : c ∈ (Hex.ofNat 4 n).toList) : IsPrintable c := by
  have hall : ∀ i : Fin 16, IsPrintable (Nat.digitChar i) := by decide
  rw [toList_ofNat_four h] at hc
  simp only [List.mem_cons, List.not_mem_nil, or_false] at hc
  rcases hc with rfl | rfl | rfl | rfl
  · exact hall ⟨_, by omega⟩
  · exact hall ⟨_, Nat.mod_lt _ (by decide)⟩
  · exact hall ⟨_, Nat.mod_lt _ (by decide)⟩
  · exact hall ⟨_, Nat.mod_lt _ (by decide)⟩

theorem isPrintable_escapeUnit {n : Nat} (h : n < 0x10000) {c : Char} (hc : c ∈ escapeUnit n) :
    IsPrintable c := by
  unfold escapeUnit at hc
  simp only [List.mem_cons] at hc
  rcases hc with rfl | rfl | hc
  · decide
  · decide
  · exact isPrintable_ofNat h hc

theorem isPrintable_escapePoint {p : CodePoint} {c : Char} (hc : c ∈ escapePoint p) :
    IsPrintable c := by
  cases p with
  | half a => exact isPrintable_escapeUnit (toNat_half_lt a) hc
  | char d =>
      have hvalid := isValidChar_toNat d
      rw [show escapePoint (.char d) = escapeChar d from rfl] at hc
      obtain ⟨e, heq, _, hlow, hhigh, _⟩ | ⟨heq, _, _, hlow, hhigh⟩ | ⟨heq, hn⟩ | hlarge :=
        escapeChar_cases d
      · rw [heq] at hc
        simp only [List.mem_cons, List.not_mem_nil, or_false] at hc
        rcases hc with rfl | rfl
        · decide
        · exact ⟨hlow, hhigh⟩
      · rw [heq, List.mem_singleton] at hc
        exact hc ▸ ⟨hlow, hhigh⟩
      · rw [heq] at hc
        exact isPrintable_escapeUnit hn hc
      · rw [escapeChar_of_large hlarge] at hc
        rcases List.mem_append.mp hc with hc | hc
        · exact isPrintable_escapeUnit (by omega) hc
        · exact isPrintable_escapeUnit (by omega) hc

theorem isPrintable_writeText {t : Text} {c : Char} (hc : c ∈ writeText t) : IsPrintable c := by
  unfold writeText at hc
  rcases List.mem_cons.mp hc with rfl | hc
  · decide
  · rcases List.mem_append.mp hc with hc | hc
    · obtain ⟨p, _, hc⟩ := List.mem_flatMap.mp hc
      exact isPrintable_escapePoint hc
    · rw [List.mem_singleton] at hc
      exact hc ▸ (by decide)

end BallotWallet.Json
