import BallotWallet.Proofs.Canonical
import BallotWallet.Proofs.KeyFile
import Mathlib.Data.Nat.Bitwise

/-!
# Mistyped characters

A text with one wrong character behind its last digit one is never read, however long it is. One
step of the checksum loses nothing: the sum before it and the piece can each be told from the sum
behind it. So two runs that differ in one piece differ at once and never meet again, and at most one
of them ends at one.
-/

namespace BallotWallet.Bech32

open Text (CodePoint lowered raised lowered_eq_self toNat_lowered)

/-! ## A step loses nothing -/

theorem step_eq (sum : Nat) {word : Nat} (hword : word < 32) :
    step sum word = step sum 0 ^^^ word := by
  have hstep := step_xor sum (d := 0) (by decide) hword
  rwa [Nat.xor_zero, Nat.zero_mul, Nat.zero_add] at hstep

theorem step_lt (sum : Nat) {word : Nat} (hword : word < 32) : step sum word < 2 ^ 30 := by
  have hwide : word < 2 ^ 30 := Nat.lt_trans hword (by decide)
  rw [step_eq sum hword]
  exact Nat.xor_lt_two_pow (step_zero_lt sum) hwide

/-- The five highest bits can be told from what they are reduced to: the last coefficient of the
generator polynomial is `18`, whose inverse is `17`. -/
theorem times_reduction {top : Nat} (h : top < 32) : times (reduction top % 32) 17 = top := by
  have hall : ∀ i : Fin 32, times (reduction i % 32) 17 = i := by decide
  exact hall ⟨top, h⟩

theorem step_zero_inj {sum sum' : Nat} (hsum : sum < 2 ^ 30) (hsum' : sum' < 2 ^ 30)
    (h : step sum 0 = step sum' 0) : sum = sum' := by
  have hmod : ∀ s, step s 0 % 32 = reduction (s / 0x2000000) % 32 := by
    intro s
    have hlow : s % 0x2000000 * 32 % 2 ^ 5 = 0 := by omega
    rw [step, Nat.xor_zero]
    show (_ ^^^ _) % 2 ^ 5 = _
    rw [Nat.xor_mod_two_pow, hlow, Nat.zero_xor]
  have htop : sum / 0x2000000 = sum' / 0x2000000 := by
    calc sum / 0x2000000
        = times (step sum 0 % 32) 17 := by rw [hmod, times_reduction (by omega)]
      _ = times (step sum' 0 % 32) 17 := by rw [h]
      _ = sum' / 0x2000000 := by rw [hmod, times_reduction (by omega)]
  have hlow : sum % 0x2000000 * 32 = sum' % 0x2000000 * 32 := by
    rw [step, step, htop, Nat.xor_zero, Nat.xor_zero] at h
    exact Nat.xor_left_inj.mp h
  omega

theorem step_inj {sum sum' word : Nat} (hsum : sum < 2 ^ 30) (hsum' : sum' < 2 ^ 30)
    (hword : word < 32) (h : step sum word = step sum' word) : sum = sum' := by
  rw [step_eq sum hword, step_eq sum' hword] at h
  exact step_zero_inj hsum hsum' (Nat.xor_left_inj.mp h)

theorem step_word_inj (sum : Nat) {word word' : Nat} (hword : word < 32) (hword' : word' < 32)
    (h : step sum word = step sum word') : word = word' := by
  rw [step_eq sum hword, step_eq sum hword'] at h
  exact Nat.xor_right_inj.mp h

/-- Runs that differ never meet again. -/
theorem foldl_step_inj {words : List Nat} (hwords : ∀ word ∈ words, word < 32) {sum sum' : Nat}
    (hsum : sum < 2 ^ 30) (hsum' : sum' < 2 ^ 30)
    (h : words.foldl step sum = words.foldl step sum') : sum = sum' := by
  induction words generalizing sum sum' with
  | nil => exact h
  | cons word words ih =>
      have hword := hwords word List.mem_cons_self
      have hnext := ih (fun w hw => hwords w (List.mem_cons_of_mem _ hw)) (step_lt sum hword)
        (step_lt sum' hword) h
      exact step_inj hsum hsum' hword hnext

/-- Pieces that differ in one place have different checksums. -/
theorem checksum_inj_of_place {front back : List Nat} {word word' : Nat} (hword : word < 32)
    (hword' : word' < 32) (hback : ∀ w ∈ back, w < 32)
    (h : checksum (front ++ word :: back) = checksum (front ++ word' :: back)) : word = word' := by
  simp only [checksum, List.foldl_append, List.foldl_cons] at h
  have hplace := foldl_step_inj hback (step_lt _ hword) (step_lt _ hword') h
  exact step_word_inj _ hword hword' hplace

/-! ## Letter case -/

theorem eq_one_of_lowered {p : CodePoint} (h : lowered p = .char '1') : p = .char '1' := by
  by_cases hcapital : 65 ≤ p.toNat ∧ p.toNat ≤ 90
  · cases p with
    | half n => cases h
    | char c =>
        have hone : c.toNat + 32 = 49 := by rw [← toNat_lowered hcapital, h]; rfl
        have hlow : 65 ≤ c.toNat := hcapital.1
        omega
  · rwa [lowered_eq_self hcapital] at h

/-- Both cases of the character of a piece. -/
theorem case_char {word : Nat} (h : word < 32) :
    lowered (.char (char word)) = .char (char word) ∧
      raised (.char (char word)) = .char (char word).toUpper ∧
      lowered (.char (char word).toUpper) = .char (char word) := by
  have hall : ∀ i : Fin 32, lowered (.char (char i)) = .char (char i) ∧
      raised (.char (char i)) = .char (char i).toUpper ∧
      lowered (.char (char i).toUpper) = .char (char i) := by decide
  exact hall ⟨word, h⟩

section Case

variable {t : Text} {p q : CodePoint}

theorem toNat_lt_of_isGraphic (h : isGraphic t = true) : ∀ p ∈ t.points, p.toNat < 0x80 := by
  intro p hp
  have := isGraphic_iff.mp h p hp
  omega

theorem points_lower (h : isGraphic t = true) : (Text.lower t).points = t.points.map lowered :=
  Text.lowerAfter_eq_map (toNat_lt_of_isGraphic h) []

theorem lowered_eq_of_lower (h : isGraphic t = true) (hlower : Text.lower t = t)
    (hp : p ∈ t.points) : lowered p = p := by
  have hsame : t.points.map lowered = t.points.map id := by
    rw [← points_lower h, hlower, List.map_id]
  exact List.map_inj_left.mp hsame p hp

theorem raised_eq_of_upper (h : isGraphic t = true) (hupper : Text.upper t = t)
    (hp : p ∈ t.points) : raised p = p := by
  have hsame : t.points.map raised = t.points.map id := by
    rw [← Text.flatMap_upperPoint_eq_map (toNat_lt_of_isGraphic h), List.map_id]
    exact congrArg Text.points hupper
  exact List.map_inj_left.mp hsame p hp

/-- A character of the charset, in the letter case that a text is in. -/
def InCase (t : Text) (q : CodePoint) : Prop :=
  ∃ word < 32, (Text.lower t = t ∧ q = .char (char word)) ∨
    (Text.upper t = t ∧ q = .char (char word).toUpper)

/-- Another character in the case of a text has another lower case. -/
theorem InCase.lowered_ne (hq : InCase t q) (h : isGraphic t = true) (hp : p ∈ t.points)
    (hne : q ≠ p) : ∃ word < 32, lowered q = .char (char word) ∧ lowered q ≠ lowered p := by
  obtain ⟨word, hword, hcase⟩ := hq
  obtain ⟨hsmall, hlarge, hback⟩ := case_char hword
  obtain ⟨hlower, rfl⟩ | ⟨hupper, rfl⟩ := hcase
  · refine ⟨word, hword, hsmall, fun hsame => hne ?_⟩
    rw [hsmall, lowered_eq_of_lower h hlower hp] at hsame
    exact hsame
  · refine ⟨word, hword, hback, fun hsame => hne ?_⟩
    calc CodePoint.char (char word).toUpper
        = raised (lowered p) := by rw [← hsame, hback, hlarge]
      _ = raised p := Text.raised_lowered (toNat_lt_of_isGraphic h p hp)
      _ = p := raised_eq_of_upper h hupper hp

end Case

/-! ## One place of a text -/

section Place

variable {t hrp : Text} {words : List Nat} {before after : List CodePoint} {p q : CodePoint}

/-- A place behind the last digit one is the place of a piece. -/
theorem exists_piece (h : split? t = some (hrp, words)) (hplace : t.points = before ++ p :: after)
    (hbehind : CodePoint.char '1' ∉ p :: after) :
    ∃ front word back, (∀ w ∈ front ++ word :: back, w < 32) ∧
      checksum (expand hrp ++ (front ++ word :: back)) = 1 ∧
      before.map lowered = hrp.points ++ .char '1' :: body front ∧
      lowered p = .char (char word) ∧ after.map lowered = body back := by
  obtain ⟨⟨hgraphic, _⟩, hwords, hpoints⟩ := points_of_split? h
  have hsum := checksum_completion hrp words
  have hlt : ∀ w ∈ words ++ completion hrp words, w < 32 := by
    intro w hw
    rcases List.mem_append.mp hw with hw | hw
    · exact hwords w hw
    · exact completion_lt w hw
  generalize words ++ completion hrp words = all at hpoints hsum hlt
  have hone : CodePoint.char '1' ∉ (p :: after).map lowered := by
    intro hmem
    obtain ⟨r, hr, hr1⟩ := List.mem_map.mp hmem
    exact hbehind (eq_one_of_lowered hr1 ▸ hr)
  rw [points_lower hgraphic, hplace, List.map_append] at hpoints
  rcases List.append_eq_append_iff.mp hpoints with ⟨rest, hfront, hback⟩ | ⟨rest, hfront, hback⟩
  · -- the readable part would reach up to the place or beyond it
    exact absurd (hback ▸ List.mem_append_right _ List.mem_cons_self) hone
  · cases rest with
    | nil =>
        have hfirst : CodePoint.char '1' = lowered p := (List.cons.inj hback).1
        exact absurd (hfirst ▸ List.mem_cons_self) hone
    | cons r rest =>
        obtain ⟨rfl, hbody⟩ := List.cons.inj hback
        obtain ⟨front, pieces, rfl, rfl, hpieces⟩ := List.map_eq_append_iff.mp hbody
        obtain ⟨word, back, rfl, hword, hback⟩ := List.map_eq_cons_iff.mp hpieces
        exact ⟨front, word, back, hlt, hsum, hfront, hword.symm, hback.symm⟩

/-- A text is not read if its pieces have another checksum than one. -/
theorem split?_eq_none (hpoints : (Text.lower t).points = hrp.points ++ .char '1' :: body words)
    (hwords : ∀ w ∈ words, w < 32) (hsum : checksum (expand hrp ++ words) ≠ 1) :
    split? t = none := by
  have hlower : Text.lower t = ⟨hrp.points ++ .char '1' :: body words⟩ := congrArg Text.mk hpoints
  unfold split?
  split
  · rfl
  · rw [hlower, splitLast?_body hrp hwords]
    dsimp only
    split
    · rfl
    · rw [mapM_word?_body hwords]
      exact if_neg hsum

theorem exists_split?_of_decode {found : Text × Bytes} (h : decode t = .ok found) :
    ∃ hrp words, split? t = some (hrp, words) := by
  cases hsplit : split? t with
  | none =>
      rw [decode, hsplit] at h
      cases h
  | some parts => exact ⟨parts.1, parts.2, rfl⟩

/-- A text with another piece in one place is not read, in whatever letter case the new character
is. -/
theorem decode_replaced {found : Text × Bytes} (h : decode t = .ok found)
    (hplace : t.points = before ++ p :: after) (hbehind : CodePoint.char '1' ∉ p :: after)
    {word : Nat} (hword : word < 32) (hq : lowered q = .char (char word))
    (hne : lowered q ≠ lowered p) :
    decode ⟨before ++ q :: after⟩ = .error (.malformedKey "invalid bech32 string") := by
  obtain ⟨hrp, words, hread⟩ := exists_split?_of_decode h
  obtain ⟨front, old, back, hlt, hsum, hbefore, hold, hafter⟩ := exists_piece hread hplace hbehind
  obtain ⟨hfront, hlt⟩ := List.forall_mem_append.mp hlt
  obtain ⟨holdlt, hback⟩ := List.forall_mem_cons.mp hlt
  have hnone : split? ⟨before ++ q :: after⟩ = none := by
    cases hgraphic : isGraphic ⟨before ++ q :: after⟩ with
    | false =>
        rw [split?, hgraphic]
        rfl
    | true =>
        apply @split?_eq_none _ hrp (front ++ word :: back)
        · rw [points_lower hgraphic, List.map_append, List.map_cons, hbefore, hq, hafter]
          simp [body]
        · exact List.forall_mem_append.mpr ⟨hfront, List.forall_mem_cons.mpr ⟨hword, hback⟩⟩
        · intro hsum'
          rw [← List.append_assoc] at hsum hsum'
          obtain rfl := checksum_inj_of_place hword holdlt hback (hsum'.trans hsum.symm)
          exact hne (hq.trans hold.symm)
  rw [decode, hnone]

end Place

/-- **A mistyped character is always noticed.** Replacing a character behind the last digit one of
a text that is read, by another character of the charset in the letter case of the text, gives a
text that is refused as malformed; and so does every key file whose line it is. -/
theorem mistyped_refused {t : Text} {found : Text × Bytes} (h : decode t = .ok found)
    {before after : List CodePoint} {p q : CodePoint} (hplace : t.points = before ++ p :: after)
    (hbehind : CodePoint.char '1' ∉ p :: after) (hq : InCase t q) (hne : q ≠ p) :
    decode ⟨before ++ q :: after⟩ = .error (.malformedKey "invalid bech32 string") ∧
      ∀ path content line, Text.utf8? content = some line →
        Key.Source.keyLine line = ⟨before ++ q :: after⟩ →
        (Key.Source.keyFile path (some content)).identity =
          .error (.malformedKey "invalid bech32 string") := by
  have hgraphic : isGraphic t = true := (decode_eq_ok_iff.mp h).1
  have hp : p ∈ t.points := hplace ▸ List.mem_append_right _ List.mem_cons_self
  obtain ⟨word, hword, hlower, hother⟩ := hq.lowered_ne hgraphic hp hne
  have hrefused := decode_replaced h hplace hbehind hword hlower hother
  refine ⟨hrefused, fun path content line hline hsame => ?_⟩
  exact Key.Source.identity_of_line_error hline (hsame ▸ hrefused)

/-- A wrong letter in the checksum of a text in capitals; and a wrong letter in the payload of a
line of 112 characters, which a key file ends with a line break. -/
theorem mistyped_refused_twice :
    let front : Text := "sk1qypqxpq9qcrsszg2"
    let back : Text := "vxq6rs0zqg3yyc5z5tpwxqergd3c8g7ruszzg3rysjjvfeg9y4z" ++
      "ktpd9chnqvfjxv6r2d3h8qun5weu85lr7sq3d26ap"
    let data : Bytes := (List.range 64).map fun i => UInt8.ofNat (i + 1)
    let wrong : Text := ⟨front.points ++ .char 'q' :: back.points⟩
    let content : Bytes := wrong.points.map (fun p => UInt8.ofNat p.toNat) ++ [13, 10]
    decode "A12UEL5L" = .ok ("a", []) ∧
      decode "A12UEZ5L" = .error (.malformedKey "invalid bech32 string") ∧
      decode ⟨front.points ++ .char 'p' :: back.points⟩ = .ok ("sk", data) ∧
      decode wrong = .error (.malformedKey "invalid bech32 string") ∧
      (Key.Source.keyFile "secret.key" (some content)).identity =
        .error (.malformedKey "invalid bech32 string") := by
  intro front back data wrong content
  have hcapitals : decode "A12UEL5L" = .ok ("a", []) := by decide +kernel
  have hline : decode ⟨front.points ++ .char 'p' :: back.points⟩ = .ok ("sk", data) := by
    decide +kernel
  obtain ⟨hwrong, hfile⟩ := mistyped_refused hline (q := .char 'q') rfl (by decide +kernel)
    ⟨0, by decide, .inl ⟨by decide +kernel, by decide⟩⟩ (by decide)
  refine ⟨hcapitals, ?_, hline, hwrong, ?_⟩
  · have hplace : ("A12UEL5L" : Text).points =
        ("A12UE" : Text).points ++ .char 'L' :: ("5L" : Text).points := by decide
    exact (mistyped_refused hcapitals (q := .char 'Z') hplace (by decide)
      ⟨2, by decide, .inr ⟨by decide +kernel, by decide⟩⟩ (by decide)).1
  · exact hfile "secret.key" content ⟨wrong.points ++ [.char '\r', .char '\n']⟩ (by decide +kernel)
      (by decide +kernel)

end BallotWallet.Bech32
