import BallotWallet.Bech32
import BallotWallet.Proofs.Ascii
import BallotWallet.Proofs.Bits

/-!
# Reading Bech32

A byte string that is written behind a readable part is read again, together with that part. The
checksum is linear in the last six pieces, which is why the six pieces that a writer adds can
always bring it to one.
-/

namespace BallotWallet.Bech32

open Text (CodePoint)

/-! ## The checksum -/

theorem foldl_xor_lt {gs : List Nat} {sum k : Nat} (hsum : sum < 2 ^ k)
    (hgs : ∀ g ∈ gs, g < 2 ^ k) : gs.foldl (· ^^^ ·) sum < 2 ^ k := by
  induction gs generalizing sum with
  | nil => exact hsum
  | cons g gs ih =>
      refine ih ?_ fun g' hg' => hgs g' (List.mem_cons_of_mem _ hg')
      exact Nat.xor_lt_two_pow hsum (hgs g List.mem_cons_self)

theorem reduction_lt (top : Nat) : reduction top < 2 ^ 30 := by
  have hgenerators : ∀ g ∈ generators.zipIdx, g.1 < 2 ^ 30 := by decide
  unfold reduction
  apply foldl_xor_lt
  · decide
  · intro n hn
    obtain ⟨g, hg, rfl⟩ := List.mem_map.mp hn
    split
    · exact hgenerators g hg
    · decide

theorem step_zero_lt (sum : Nat) : step sum 0 < 2 ^ 30 := by
  have hlow : sum % 0x2000000 * 32 < 2 ^ 30 := by omega
  unfold step
  rw [Nat.xor_zero]
  exact Nat.xor_lt_two_pow hlow (reduction_lt _)

theorem mul_xor (d : Nat) {word : Nat} (hword : word < 32) : (d * 32) ^^^ word = d * 32 + word := by
  apply Nat.eq_of_testBit_eq
  intro i
  have hhigh : (d * 32).testBit i = if i < 5 then Nat.testBit 0 i else d.testBit (i - 5) := by
    rw [← Nat.testBit_two_pow_mul_add d (by decide : 0 < 2 ^ 5), Nat.add_zero, Nat.mul_comm]
  have hboth : (d * 32 + word).testBit i = if i < 5 then word.testBit i else d.testBit (i - 5) := by
    rw [← Nat.testBit_two_pow_mul_add d (hword : word < 2 ^ 5), Nat.mul_comm]
  rw [Nat.testBit_xor, hhigh, hboth]
  split
  · simp
  · have hpow : 2 ^ 5 ≤ 2 ^ i := Nat.pow_le_pow_right (by decide) (by omega)
    have hsmall : word < 2 ^ i := Nat.lt_of_lt_of_le hword hpow
    rw [Nat.testBit_lt_two_pow hsmall, Bool.xor_false]

theorem xor_mul (a b : Nat) : (a ^^^ b) * 32 = (a * 32) ^^^ (b * 32) := by
  have hdistrib := @Nat.shiftLeft_xor_distrib 5 a b
  simpa only [Nat.shiftLeft_eq] using hdistrib

/-- What differs in the lower bits of the checksum moves up by one piece. -/
theorem step_xor (sum : Nat) {d word : Nat} (hd : d < 2 ^ 25) (hword : word < 32) :
    step (sum ^^^ d) word = step sum 0 ^^^ (d * 32 + word) := by
  -- `d` lies in the bits that are kept, so what is reduced does not depend on it
  have hlow : (sum ^^^ d) % 0x2000000 = (sum % 0x2000000) ^^^ d := by
    rw [Nat.xor_mod_two_pow (n := 25), Nat.mod_eq_of_lt hd]
  have hhigh : (sum ^^^ d) / 0x2000000 = sum / 0x2000000 := by
    rw [Nat.xor_div_two_pow (n := 25), Nat.div_eq_of_lt hd, Nat.xor_zero]
  unfold step
  rw [hlow, hhigh, xor_mul, Nat.xor_zero, ← mul_xor d hword]
  ac_rfl

/-- The number that pieces write behind the number `d`. -/
def number (d : Nat) (words : List Nat) : Nat :=
  words.foldl (fun n word => n * 32 + word) d

/-- The last pieces enter the checksum as the number that they write. -/
theorem foldl_step_xor {words : List Nat} (hwords : ∀ word ∈ words, word < 32) (sum : Nat)
    {d k : Nat} (hd : d < 32 ^ k) (hk : words.length + k ≤ 6) :
    words.foldl step (sum ^^^ d) =
      (List.replicate words.length 0).foldl step sum ^^^ number d words := by
  -- `d` is what the pieces before have written: `k` of them, too few to reach the reduction
  induction words generalizing sum d k with
  | nil => rfl
  | cons word words ih =>
      have hword := hwords word List.mem_cons_self
      rw [List.length_cons] at hk
      have hsmall : d < 2 ^ 25 := by
        have hpow : 32 ^ k ≤ 32 ^ 5 := Nat.pow_le_pow_right (by decide) (by omega)
        exact Nat.lt_of_lt_of_le hd hpow
      have hnext : d * 32 + word < 32 ^ (k + 1) := by
        rw [Nat.pow_succ]
        omega
      rw [List.length_cons, List.replicate_succ, List.foldl_cons, List.foldl_cons,
        step_xor sum hsmall hword,
        ih (fun w hw => hwords w (List.mem_cons_of_mem _ hw)) _ hnext (by omega)]
      rfl

/-- The six pieces of a number below `2 ^ 30` write it. -/
theorem number_pieces {n : Nat} (h : n < 2 ^ 30) :
    number 0 ((List.range 6).map fun i => (n >>> (5 * (5 - i))) % 32) = n := by
  have hpieces : ((List.range 6).map fun i => (n >>> (5 * (5 - i))) % 32) =
      [n / 2 ^ 25 % 32, n / 2 ^ 20 % 32, n / 2 ^ 15 % 32, n / 2 ^ 10 % 32, n / 2 ^ 5 % 32,
        n % 32] := by
    simp [List.range, List.range.loop, Nat.shiftRight_eq_div_pow]
  rw [hpieces]
  simp only [number, List.foldl_cons, List.foldl_nil]
  omega

theorem completion_lt {hrp : Text} {words : List Nat} :
    ∀ word ∈ completion hrp words, word < 32 := by
  intro word hword
  obtain ⟨i, _, rfl⟩ := List.mem_map.mp hword
  exact Nat.mod_lt _ (by decide)

@[simp] theorem length_completion (hrp : Text) (words : List Nat) :
    (completion hrp words).length = 6 := by
  simp [completion]

/-- Six last pieces enter the checksum as the number that they write, on top of what it would be
with six zeros in their place. -/
theorem checksum_append_six {words last : List Nat} (hlast : ∀ word ∈ last, word < 32)
    (hsix : last.length = 6) :
    checksum (words ++ last) = checksum (words ++ List.replicate 6 0) ^^^ number 0 last := by
  have hsum := foldl_step_xor hlast (checksum words) (d := 0) (k := 0) (by decide) (by omega)
  rw [Nat.xor_zero, hsix] at hsum
  rw [checksum, List.foldl_append, checksum, List.foldl_append]
  exact hsum

theorem number_completion (hrp : Text) (words : List Nat) :
    number 0 (completion hrp words) =
      checksum (expand hrp ++ words ++ List.replicate 6 0) ^^^ 1 := by
  have hzeros : checksum (expand hrp ++ words ++ List.replicate 6 0) < 2 ^ 30 := by
    rw [checksum, List.foldl_append]
    exact step_zero_lt _
  exact number_pieces (Nat.xor_lt_two_pow hzeros (by decide))

/-- The six pieces complete any others. -/
theorem checksum_completion (hrp : Text) (words : List Nat) :
    checksum (expand hrp ++ (words ++ completion hrp words)) = 1 := by
  rw [← List.append_assoc, checksum_append_six completion_lt (length_completion hrp words),
    number_completion, ← Nat.xor_assoc, Nat.xor_self, Nat.zero_xor]

/-! ## The pieces of bytes -/

theorem wordsOf_lt {data : Bytes} : ∀ word ∈ wordsOf data, word < 32 := by
  intro word hword
  obtain ⟨group, hgroup, rfl⟩ := List.mem_map.mp hword
  have hlt := Bits.toNat_lt (Bits.padRight 5 group)
  rwa [Bits.length_padRight (Bits.length_le_of_mem_groupsFrom (by decide) hgroup)] at hlt

theorem ofNats_wordsOf (data : Bytes) :
    ∃ k < 5, Bits.ofNats 5 (wordsOf data) = Bits.ofBytes data ++ List.replicate k false := by
  obtain ⟨k, hk, hgroups⟩ := @Bits.flatMap_padRight_groupsFrom 5 [] (Bits.ofBytes data) (by decide)
  refine ⟨k, hk, ?_⟩
  rw [List.nil_append] at hgroups
  rw [← hgroups, Bits.ofNats, wordsOf, List.flatMap_map]
  apply List.flatMap_congr
  intro group hgroup
  have hlength := Bits.length_padRight (Bits.length_le_of_mem_groupsFrom (by decide) hgroup)
  have hback := Bits.ofNat_toNat (Bits.padRight 5 group)
  rwa [hlength] at hback

/-- Bytes come back from their pieces. -/
theorem bytesOf?_wordsOf (data : Bytes) : bytesOf? (wordsOf data) = some data := by
  obtain ⟨k, hk, hbits⟩ := ofNats_wordsOf data
  have hwhole : 8 * ((Bits.ofBytes data ++ List.replicate k false).length / 8) =
      (Bits.ofBytes data).length := by
    rw [List.length_append, List.length_replicate, Bits.length_ofBytes]
    omega
  have hfilling : ¬ 5 ≤ k := by omega
  simp only [bytesOf?, hbits, hwhole, List.drop_left, List.take_left, List.length_replicate,
    Bits.map_byte_groups]
  simp [hfilling]

/-! ## Texts -/

/-- A readable part: at least one printable character, none of them an upper-case letter. -/
structure IsPart (hrp : Text) : Prop where
  nonempty : hrp.points ≠ []
  printable : ∀ p ∈ hrp.points, 33 ≤ p.toNat ∧ p.toNat ≤ 126
  small : ∀ p ∈ hrp.points, ¬ (65 ≤ p.toNat ∧ p.toNat ≤ 90)

/-- The code points of the pieces of a text. -/
def body (words : List Nat) : List CodePoint :=
  words.map fun word => .char (char word)

/-- What every character of the charset is: printable, not a capital, not the digit one, and the
character of its own place. -/
theorem char_spec {word : Nat} (h : word < 32) :
    (33 ≤ (char word).toNat ∧ (char word).toNat ≤ 126) ∧
      ¬ (65 ≤ (char word).toNat ∧ (char word).toNat ≤ 90) ∧
      char word ≠ '1' ∧ word? (.char (char word)) = some word := by
  have hall : ∀ i : Fin 32, (33 ≤ (char i).toNat ∧ (char i).toNat ≤ 126) ∧
      ¬ (65 ≤ (char i).toNat ∧ (char i).toNat ≤ 90) ∧
      char i ≠ '1' ∧ word? (.char (char i)) = some i.val := by decide
  exact hall ⟨word, h⟩

theorem lowerAfter_eq {ps : List CodePoint} (hsmall : ∀ p ∈ ps, p.toNat < 0x80)
    (h : ∀ p ∈ ps, ¬ (65 ≤ p.toNat ∧ p.toNat ≤ 90)) (before : List CodePoint) :
    Text.lowerAfter before ps = ps := by
  rw [Text.lowerAfter_eq_map hsmall, List.map_congr_left fun p hp => Text.lowered_eq_self (h p hp),
    List.map_id']

theorem mapM_word?_body {words : List Nat} (h : ∀ word ∈ words, word < 32) :
    (body words).mapM word? = some words := by
  induction words with
  | nil => rfl
  | cons word words ih =>
      obtain ⟨_, _, _, hword⟩ := char_spec (h word List.mem_cons_self)
      have hrest := ih fun w hw => h w (List.mem_cons_of_mem _ hw)
      show List.mapM word? (.char (char word) :: body words) = _
      rw [List.mapM_cons, hword, hrest]
      rfl

/-- The last digit one is in front of the pieces. -/
theorem splitLast?_body (hrp : Text) {words : List Nat} (h : ∀ word ∈ words, word < 32) :
    splitLast? ⟨hrp.points ++ .char '1' :: body words⟩ = some (hrp, body words) := by
  have hbody : ∀ p ∈ (body words).reverse, (p != CodePoint.char '1') = true := by
    intro p hp
    obtain ⟨word, hword, rfl⟩ := List.mem_map.mp (List.mem_reverse.mp hp)
    obtain ⟨_, _, hone, _⟩ := char_spec (h word hword)
    simpa using hone
  have hbehind : ((hrp.points ++ .char '1' :: body words).reverse.takeWhile
      (· != CodePoint.char '1')).reverse = body words := by
    rw [List.reverse_append, List.reverse_cons, List.append_assoc,
      List.takeWhile_append_of_pos hbody]
    simp
  have hplace : (hrp.points ++ .char '1' :: body words).length - (body words).length - 1 =
      hrp.points.length := by
    simp only [List.length_append, List.length_cons]
    omega
  have hshorter : (body words).length < (hrp.points ++ .char '1' :: body words).length := by
    simp only [List.length_append, List.length_cons]
    omega
  simp only [splitLast?, hbehind, hshorter, if_true, hplace, Text.take, List.take_left]

theorem points_encode (hrp : Text) (data : Bytes) :
    (encode hrp data).points =
      hrp.points ++ .char '1' :: body (wordsOf data ++ completion hrp (wordsOf data)) := by
  show (hrp.points ++ [CodePoint.char '1']) ++ List.map CodePoint.char (List.map char _) = _
  rw [List.append_assoc, List.map_map]
  rfl

section Encoded

variable {hrp : Text} {data : Bytes}

theorem words_lt : ∀ word ∈ wordsOf data ++ completion hrp (wordsOf data), word < 32 := by
  intro word hword
  rcases List.mem_append.mp hword with hword | hword
  · exact wordsOf_lt word hword
  · exact completion_lt word hword

/-- A text that is written consists of printable characters without capitals. -/
theorem mem_points_encode (hpart : IsPart hrp) :
    ∀ p ∈ (encode hrp data).points,
      (33 ≤ p.toNat ∧ p.toNat ≤ 126) ∧ ¬ (65 ≤ p.toNat ∧ p.toNat ≤ 90) := by
  intro p hp
  rw [points_encode] at hp
  rcases List.mem_append.mp hp with hp | hp
  · exact ⟨hpart.printable p hp, hpart.small p hp⟩
  · rcases List.mem_cons.mp hp with rfl | hp
    · decide
    · obtain ⟨word, hword, rfl⟩ := List.mem_map.mp hp
      obtain ⟨hprintable, hsmall, _, _⟩ := char_spec (words_lt word hword)
      exact ⟨hprintable, hsmall⟩

theorem lower_encode (hpart : IsPart hrp) : Text.lower (encode hrp data) = encode hrp data := by
  have hpoints := @mem_points_encode hrp data hpart
  show Text.mk (Text.lowerAfter [] _) = _
  rw [lowerAfter_eq]
  · intro p hp
    have := (hpoints p hp).1
    omega
  · exact fun p hp => (hpoints p hp).2

/-- **What is written is read.** The readable part and the bytes of a text come back, unless the
text is too long to be read. -/
theorem decode_encode (hpart : IsPart hrp)
    (hlength : (encode hrp data).points.length ≤ maxLength) :
    decode (encode hrp data) = .ok (hrp, data) := by
  let words := wordsOf data ++ completion hrp (wordsOf data)
  have hgraphic : isGraphic (encode hrp data) = true := by
    apply List.all_eq_true.mpr
    intro p hp
    simpa using (mem_points_encode hpart p hp).1
  have hcase : oneCase (encode hrp data) = true := by
    simp [oneCase, lower_encode hpart]
  have hsplit : splitLast? (Text.lower (encode hrp data)) = some (hrp, body words) := by
    rw [lower_encode hpart, ← splitLast?_body hrp words_lt, ← points_encode]
  have hfront : hrp.isEmpty = false := List.isEmpty_eq_false_iff.mpr hpart.nonempty
  have hsix : ¬ (body words).length < 6 := by simp [body, words]
  have hwords : words.take (words.length - 6) = wordsOf data := by simp [words]
  have hread : split? (encode hrp data) = some (hrp, wordsOf data) := by
    unfold split?
    rw [hsplit]
    simp only [hgraphic, hcase, Nat.not_lt.mpr hlength, hfront, hsix, mapM_word?_body words_lt,
      checksum_completion, words, hwords, Bool.not_true, Bool.or_self, decide_false,
      Bool.false_eq_true, if_false, if_true]
  unfold decode
  rw [hread]
  dsimp only
  rw [bytesOf?_wordsOf]

end Encoded

end BallotWallet.Bech32
