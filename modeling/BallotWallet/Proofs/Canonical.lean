import BallotWallet.Key.Material
import BallotWallet.Proofs.Bech32

/-!
# Canonical Bech32

Writing and reading are inverse to each other: whatever is written is read again, and whatever is
read is, up to letter case, what would be written for it. A text could leave a choice in three
places, and leaves none: where its readable part ends, which six characters complete the others,
and how its bytes fill the pieces.
-/

namespace BallotWallet.Bech32

open Text (CodePoint)

/-! ## The checksum as a remainder

A piece is an element of the field with 32 elements, and six pieces are the coefficients of a
polynomial of degree below six. The checksum packs such a remainder into one number. -/

/-- A piece times the element `2`, whose fifth power is `2 ^ 3 + 1`. -/
def twice (a : Nat) : Nat :=
  if 16 ≤ a then (2 * a) ^^^ 0b101001 else 2 * a

/-- The product of two pieces, by the bits of the second one from the highest on. -/
def times (a b : Nat) : Nat :=
  [4, 3, 2, 1, 0].foldl (fun p i => twice p ^^^ if b.testBit i then a else 0) 0

/-- The coefficients of the generator polynomial behind its leading `x ^ 6`. -/
def generator : List Nat := [29, 22, 20, 21, 29, 18]

/-- The remainder of `x * r + word`: the leading coefficient of `r` takes away its multiple of the
generator. -/
def remainderStep (r : List Nat) (word : Nat) : List Nat :=
  List.zipWith (· ^^^ ·) (r.tail ++ [word]) (generator.map (times · (r.headD 0)))

/-- The remainder of the polynomial whose coefficients are a one and the pieces behind it. -/
def remainder (words : List Nat) : List Nat :=
  words.foldl remainderStep [0, 0, 0, 0, 0, 1]

/-- The reduction of the checksum is that multiple of the generator. -/
theorem reduction_eq {top : Nat} (h : top < 32) :
    reduction top = number 0 (generator.map (times · top)) := by
  have hall : ∀ i : Fin 32, reduction i = number 0 (generator.map (times · i)) := by decide
  exact hall ⟨top, h⟩

theorem times_generator_lt {top : Nat} (h : top < 32) :
    ∀ word ∈ generator.map (times · top), word < 32 := by
  have hall : ∀ i : Fin 32, ∀ word ∈ generator.map (times · i), word < 32 := by decide
  exact hall ⟨top, h⟩

theorem number_append (d : Nat) (words : List Nat) (word : Nat) :
    number d (words ++ [word]) = number d words * 32 + word := by
  rw [number, List.foldl_append]
  rfl

theorem number_eq (d : Nat) (words : List Nat) :
    number d words = d * 32 ^ words.length + number 0 words := by
  induction words generalizing d with
  | nil => simp [number]
  | cons word words ih =>
      show number (d * 32 + word) words = _ + number (0 * 32 + word) words
      rw [ih, ih (0 * 32 + word), List.length_cons]
      ring

theorem number_lt {words : List Nat} (h : ∀ word ∈ words, word < 32) :
    number 0 words < 32 ^ words.length := by
  induction words with
  | nil => exact Nat.one_pos
  | cons word words ih =>
      have hrest := ih fun w hw => h w (List.mem_cons_of_mem _ hw)
      have hword := h word List.mem_cons_self
      show number (0 * 32 + word) words < 32 ^ (words.length + 1)
      rw [number_eq, Nat.pow_succ]
      have htop : (0 * 32 + word) * 32 ^ words.length ≤ 31 * 32 ^ words.length :=
        Nat.mul_le_mul_right _ (by omega)
      omega

/-- Digits are combined one by one. -/
theorem number_zipWith_xor {xs ys : List Nat} (hlength : xs.length = ys.length)
    (hxs : ∀ x ∈ xs, x < 32) (hys : ∀ y ∈ ys, y < 32) (d e : Nat) :
    number (d ^^^ e) (List.zipWith (· ^^^ ·) xs ys) = number d xs ^^^ number e ys := by
  induction xs generalizing ys d e with
  | nil =>
      obtain rfl := List.eq_nil_of_length_eq_zero hlength.symm
      rfl
  | cons x xs ih =>
      obtain ⟨y, ys, rfl⟩ := List.exists_cons_of_length_eq_add_one hlength.symm
      have hx := hxs x List.mem_cons_self
      have hy := hys y List.mem_cons_self
      have hxor : x ^^^ y < 32 := Nat.xor_lt_two_pow (n := 5) hx hy
      have hfirst : (d ^^^ e) * 32 + (x ^^^ y) = (d * 32 + x) ^^^ (e * 32 + y) := by
        rw [← mul_xor _ hxor, ← mul_xor d hx, ← mul_xor e hy, xor_mul]
        ac_rfl
      show number ((d ^^^ e) * 32 + (x ^^^ y)) (List.zipWith (· ^^^ ·) xs ys) = _
      rw [hfirst, ih (Nat.succ.inj hlength) (fun z hz => hxs z (List.mem_cons_of_mem _ hz))
        (fun z hz => hys z (List.mem_cons_of_mem _ hz))]
      rfl

/-- Six pieces, as the coefficients of a remainder. -/
def IsRemainder (r : List Nat) : Prop :=
  r.length = 6 ∧ ∀ word ∈ r, word < 32

namespace IsRemainder

variable {r s : List Nat} {top word : Nat}

theorem multiple (h : top < 32) : IsRemainder (generator.map (times · top)) :=
  ⟨rfl, times_generator_lt h⟩

theorem shift (hr : IsRemainder r) (hword : word < 32) : IsRemainder (r.tail ++ [word]) := by
  constructor
  · rw [List.length_append, List.length_tail, hr.1]
    rfl
  · intro w hw
    rcases List.mem_append.mp hw with hw | hw
    · exact hr.2 w (List.mem_of_mem_tail hw)
    · exact List.mem_singleton.mp hw ▸ hword

theorem xor (hr : IsRemainder r) (hs : IsRemainder s) :
    IsRemainder (List.zipWith (· ^^^ ·) r s) := by
  constructor
  · rw [List.length_zipWith, hr.1, hs.1]
    rfl
  · intro w hw
    obtain ⟨i, hi, rfl⟩ := List.mem_iff_getElem.mp hw
    rw [List.getElem_zipWith]
    exact Nat.xor_lt_two_pow (n := 5) (hr.2 _ (List.getElem_mem _)) (hs.2 _ (List.getElem_mem _))

/-- One more piece leads to a remainder, and the checksum packs that one. -/
theorem step (hr : IsRemainder r) (hword : word < 32) :
    IsRemainder (remainderStep r word) ∧
      Bech32.step (number 0 r) word = number 0 (remainderStep r word) := by
  obtain ⟨top, rest, rfl⟩ := List.exists_cons_of_length_eq_add_one hr.1
  have htop : top < 32 := hr.2 top List.mem_cons_self
  have hshifted := hr.shift hword
  have htaken := multiple htop
  have hfive : rest.length = 5 := Nat.succ.inj hr.1
  have hlow : number 0 rest < 32 ^ 5 :=
    hfive ▸ number_lt fun w hw => hr.2 w (List.mem_cons_of_mem _ hw)
  have hpacked : number 0 (top :: rest) = top * 32 ^ 5 + number 0 rest := by
    rw [← hfive, ← number_eq]
    show number (0 * 32 + top) rest = _
    rw [Nat.zero_mul, Nat.zero_add]
  have hmod : number 0 (top :: rest) % 0x2000000 = number 0 rest := by omega
  have hdiv : number 0 (top :: rest) / 0x2000000 = top := by omega
  refine ⟨hshifted.xor htaken, ?_⟩
  calc Bech32.step (number 0 (top :: rest)) word
      = (number 0 rest * 32 + word) ^^^ number 0 (generator.map (times · top)) := by
        rw [Bech32.step, hmod, hdiv, mul_xor _ hword, reduction_eq htop]
    _ = number 0 (rest ++ [word]) ^^^ number 0 (generator.map (times · top)) := by
        rw [number_append]
    _ = number 0 (remainderStep (top :: rest) word) :=
        (number_zipWith_xor (hshifted.1.trans htaken.1.symm) hshifted.2 htaken.2 0 0).symm

end IsRemainder

/-- **The checksum is a remainder**: that of the pieces behind a leading one, modulo the generator
polynomial. -/
theorem checksum_eq {words : List Nat} (h : ∀ word ∈ words, word < 32) :
    checksum words = number 0 (remainder words) := by
  -- the run may begin with any remainder, the one of no pieces is only the first
  have hrun : ∀ r, IsRemainder r →
      words.foldl step (number 0 r) = number 0 (words.foldl remainderStep r) := by
    induction words with
    | nil => exact fun _ _ => rfl
    | cons word words ih =>
        intro r hr
        obtain ⟨hnext, hstep⟩ := hr.step (h word List.mem_cons_self)
        rw [List.foldl_cons, List.foldl_cons, hstep]
        exact ih (fun w hw => h w (List.mem_cons_of_mem _ hw)) _ hnext
  exact hrun [0, 0, 0, 0, 0, 1] ⟨rfl, by decide⟩

/-! ## Which six characters -/

theorem number_inj {xs ys : List Nat} (hlength : xs.length = ys.length) (hxs : ∀ x ∈ xs, x < 32)
    (hys : ∀ y ∈ ys, y < 32) {d e : Nat} (h : number d xs = number e ys) : d = e ∧ xs = ys := by
  induction xs generalizing ys d e with
  | nil =>
      obtain rfl := List.eq_nil_of_length_eq_zero hlength.symm
      exact ⟨h, rfl⟩
  | cons x xs ih =>
      obtain ⟨y, ys, rfl⟩ := List.exists_cons_of_length_eq_add_one hlength.symm
      have hx := hxs x List.mem_cons_self
      have hy := hys y List.mem_cons_self
      have hboth : d * 32 + x = e * 32 + y ∧ xs = ys :=
        ih (Nat.succ.inj hlength) (fun z hz => hxs z (List.mem_cons_of_mem _ hz))
          (fun z hz => hys z (List.mem_cons_of_mem _ hz)) h
      obtain ⟨hhead, rfl⟩ := hboth
      obtain ⟨rfl, rfl⟩ : d = e ∧ x = y := by omega
      exact ⟨rfl, rfl⟩

/-- Only one choice of six pieces completes others. -/
theorem eq_completion {hrp : Text} {words last : List Nat} (hlast : ∀ word ∈ last, word < 32)
    (hsix : last.length = 6) (h : checksum (expand hrp ++ (words ++ last)) = 1) :
    last = completion hrp words := by
  let zeros := checksum (expand hrp ++ words ++ List.replicate 6 0)
  rw [← List.append_assoc, checksum_append_six hlast hsix] at h
  have hnumber : number 0 last = number 0 (completion hrp words) := by
    calc number 0 last = zeros ^^^ (zeros ^^^ number 0 last) := by
          rw [← Nat.xor_assoc, Nat.xor_self, Nat.zero_xor]
      _ = zeros ^^^ 1 := by rw [h]
      _ = number 0 (completion hrp words) := (number_completion hrp words).symm
  exact (number_inj (hsix.trans (length_completion hrp words).symm) hlast completion_lt hnumber).2

/-! ## How bytes fill pieces -/

/-- Pieces that are read as bytes are the bits of the bytes, with fewer than five zeros behind. -/
theorem ofNats_of_bytesOf? {words : List Nat} {data : Bytes} (h : bytesOf? words = some data) :
    ∃ k < 5, Bits.ofNats 5 words = Bits.ofBytes data ++ List.replicate k false := by
  let bits := Bits.ofNats 5 words
  let whole := 8 * (bits.length / 8)
  unfold bytesOf? at h
  dsimp only at h
  split at h
  · cases h
  · rename_i hrest
    obtain rfl := Option.some.inj h
    rw [Bool.or_eq_true, not_or, decide_eq_true_eq, Bool.not_eq_true, List.any_eq_false] at hrest
    obtain ⟨hshort, hzero⟩ := hrest
    have hzeros : bits.drop whole = List.replicate (bits.drop whole).length false :=
      List.eq_replicate_iff.mpr ⟨rfl, fun b hb => Bool.eq_false_of_not_eq_true (hzero b hb)⟩
    have hwhole : (bits.take whole).length = 8 * (bits.length / 8) := by
      rw [List.length_take]
      omega
    refine ⟨(bits.drop whole).length, Nat.lt_of_not_le hshort, ?_⟩
    rw [Bits.ofBytes_groups hwhole, ← hzeros, List.take_append_drop]

/-- Only one choice of pieces is read as given bytes. -/
theorem wordsOf_of_bytesOf? {words : List Nat} {data : Bytes} (hwords : ∀ word ∈ words, word < 32)
    (h : bytesOf? words = some data) : wordsOf data = words := by
  obtain ⟨k, hk, hbits⟩ := ofNats_of_bytesOf? h
  obtain ⟨k', hk', hbits'⟩ := ofNats_wordsOf data
  -- both make up whole pieces behind the same bytes, with fewer than five bits
  have hfilling : k' = k := by
    have hlength := congrArg List.length hbits
    have hlength' := congrArg List.length hbits'
    simp only [Bits.length_ofNats, List.length_append, List.length_replicate] at hlength hlength'
    omega
  rw [hfilling, ← hbits] at hbits'
  exact Bits.ofNats_inj (by decide) wordsOf_lt hwords hbits'

/-! ## Where the readable part ends -/

/-- A list that goes on behind what is taken of it stops at something that does not belong there. -/
theorem exists_stop {α : Type} {p : α → Bool} {xs : List α}
    (h : (xs.takeWhile p).length < xs.length) :
    ∃ x rest, xs = xs.takeWhile p ++ x :: rest ∧ p x = false := by
  induction xs with
  | nil => cases h
  | cons x xs ih =>
      cases hx : p x with
      | false =>
          refine ⟨x, xs, ?_, hx⟩
          rw [List.takeWhile_cons, hx, if_neg Bool.false_ne_true]
          rfl
      | true =>
          rw [List.takeWhile_cons, hx, if_pos rfl] at h ⊢
          obtain ⟨stop, rest, hrest, hstop⟩ := ih (Nat.lt_of_succ_lt_succ h)
          exact ⟨stop, rest, congrArg (x :: ·) hrest, hstop⟩

theorem points_of_splitLast? {t hrp : Text} {behind : List CodePoint}
    (h : splitLast? t = some (hrp, behind)) : t.points = hrp.points ++ .char '1' :: behind := by
  let last := t.points.reverse.takeWhile (· != CodePoint.char '1')
  unfold splitLast? at h
  dsimp only at h
  split at h
  · rename_i hshorter
    obtain ⟨rfl, rfl⟩ := Prod.mk.inj (Option.some.inj h)
    have hshort : last.length < t.points.reverse.length := by simpa [last] using hshorter
    obtain ⟨q, front, hback, hq⟩ := exists_stop hshort
    obtain rfl : q = .char '1' := by simpa using hq
    have hparts : t.points = front.reverse ++ .char '1' :: last.reverse := by
      have hturned := congrArg List.reverse hback
      rwa [List.reverse_reverse, List.reverse_append, List.reverse_cons, List.append_assoc]
        at hturned
    have hplace : t.points.length - last.reverse.length - 1 = front.reverse.length := by
      have hlength := congrArg List.length hparts
      rw [List.length_append, List.length_cons] at hlength
      omega
    have hfront : t.points.take (t.points.length - last.reverse.length - 1) = front.reverse := by
      rw [hplace]
      exact (congrArg (List.take _) hparts).trans List.take_left
    exact hparts.trans (congrArg (· ++ _) hfront.symm)
  · cases h

theorem eq_of_word? {p : CodePoint} {word : Nat} (h : word? p = some word) :
    word < 32 ∧ p = .char (char word) := by
  obtain ⟨c, hc, hplace⟩ := Option.bind_eq_some_iff.mp h
  cases p with
  | half n => cases hc
  | char c' =>
      obtain rfl := Option.some.inj hc
      obtain ⟨hlt, hget, _⟩ := List.idxOf?_eq_some_iff.mp hplace
      refine ⟨hlt, congrArg CodePoint.char ?_⟩
      exact hget.symm.trans (List.getElem_eq_getD 'q')

theorem eq_body {ps : List CodePoint} {words : List Nat} (h : ps.mapM word? = some words) :
    (∀ word ∈ words, word < 32) ∧ ps = body words := by
  induction ps generalizing words with
  | nil =>
      obtain rfl := Option.some.inj h
      exact ⟨nofun, rfl⟩
  | cons p ps ih =>
      rw [List.mapM_cons] at h
      obtain ⟨word, hword, h⟩ := Option.bind_eq_some_iff.mp h
      obtain ⟨rest, hrest, h⟩ := Option.bind_eq_some_iff.mp h
      obtain rfl := Option.some.inj h
      obtain ⟨hlt, rfl⟩ := eq_of_word? hword
      obtain ⟨hrestlt, rfl⟩ := ih hrest
      exact ⟨List.forall_mem_cons.mpr ⟨hlt, hrestlt⟩, rfl⟩

/-! ## Letter case -/

/-- The lower case of a printable character is a printable character that is no capital. -/
theorem lowered_printable {p : CodePoint} (h : 33 ≤ p.toNat ∧ p.toNat ≤ 126) :
    (33 ≤ (Text.lowered p).toNat ∧ (Text.lowered p).toNat ≤ 126) ∧
      ¬ (65 ≤ (Text.lowered p).toNat ∧ (Text.lowered p).toNat ≤ 90) := by
  by_cases hcapital : 65 ≤ p.toNat ∧ p.toNat ≤ 90
  · cases p with
    | half n =>
        have hbig : 0xd800 + n.val ≤ 126 := h.2
        omega
    | char c =>
        have hrange : 65 ≤ c.toNat ∧ c.toNat ≤ 90 := hcapital
        rw [Text.toNat_lowered hrange]
        omega
  · rw [Text.lowered_eq_self hcapital]
    exact ⟨h, hcapital⟩

theorem lowerAfter_printable {ps : List CodePoint}
    (h : ∀ p ∈ ps, 33 ≤ p.toNat ∧ p.toNat ≤ 126) (before : List CodePoint) :
    (Text.lowerAfter before ps).length = ps.length ∧ ∀ p ∈ Text.lowerAfter before ps,
      (33 ≤ p.toNat ∧ p.toNat ≤ 126) ∧ ¬ (65 ≤ p.toNat ∧ p.toNat ≤ 90) := by
  have hsmall : ∀ p ∈ ps, p.toNat < 0x80 := fun p hp => Nat.lt_of_le_of_lt (h p hp).2 (by decide)
  rw [Text.lowerAfter_eq_map hsmall]
  refine ⟨List.length_map _, fun p hp => ?_⟩
  obtain ⟨q, hq, rfl⟩ := List.mem_map.mp hp
  exact lowered_printable (h q hq)

section Case

variable {t : Text}

theorem isGraphic_iff : isGraphic t = true ↔ ∀ p ∈ t.points, 33 ≤ p.toNat ∧ p.toNat ≤ 126 := by
  simp [isGraphic]

theorem lower_lower (h : isGraphic t = true) : Text.lower (Text.lower t) = Text.lower t := by
  obtain ⟨_, hplain⟩ := lowerAfter_printable (isGraphic_iff.mp h) []
  refine congrArg Text.mk (lowerAfter_eq (fun p hp => ?_) (fun p hp => (hplain p hp).2) [])
  have := (hplain p hp).1
  omega

/-- Reading does not see letter case, in a text whose letters are all of one. -/
theorem decode_lower (hgraphic : isGraphic t = true) (hcase : oneCase t = true) :
    decode (Text.lower t) = decode t := by
  obtain ⟨hlength, hplain⟩ := lowerAfter_printable (isGraphic_iff.mp hgraphic) []
  have hlower := lower_lower hgraphic
  have hgraphic' : isGraphic (Text.lower t) = true :=
    isGraphic_iff.mpr fun p hp => (hplain p hp).1
  have hcase' : oneCase (Text.lower t) = true := by simp [oneCase, hlower]
  have hlength' : (Text.lower t).points.length = t.points.length := hlength
  unfold decode split?
  rw [hgraphic, hcase, hgraphic', hcase', hlength', hlower]

end Case

/-! ## Texts that are read -/

section Read

variable {t hrp : Text} {words : List Nat} {data : Bytes}

/-- What is read off a text is written in it, up to letter case, in front of the completion. -/
theorem points_of_split? (h : split? t = some (hrp, words)) :
    (isGraphic t = true ∧ oneCase t = true ∧ t.points.length ≤ maxLength ∧ hrp.points ≠ []) ∧
      (∀ word ∈ words, word < 32) ∧
      (Text.lower t).points =
        hrp.points ++ .char '1' :: body (words ++ completion hrp words) := by
  unfold split? at h
  split at h
  · cases h
  rename_i hvalid
  split at h
  · cases h
  rename_i front behind hsplit
  split at h
  · cases h
  rename_i hparts
  split at h
  · cases h
  rename_i all hall
  split at h
  · rename_i hsum
    obtain ⟨rfl, rfl⟩ := Prod.mk.inj (Option.some.inj h)
    obtain ⟨hlt, rfl⟩ := eq_body hall
    simp only [Bool.or_eq_true, not_or, Bool.not_eq_true', Bool.not_eq_false, decide_eq_true_eq,
      Nat.not_lt] at hvalid hparts
    obtain ⟨⟨hgraphic, hcase⟩, hlength⟩ := hvalid
    obtain ⟨hfront, hsix⟩ := hparts
    have hsix : 6 ≤ all.length := by simpa [body] using hsix
    have hlast : all.drop (all.length - 6) = completion front (all.take (all.length - 6)) := by
      apply eq_completion
      · exact fun word hword => hlt word (List.mem_of_mem_drop hword)
      · rw [List.length_drop]
        omega
      · rwa [List.take_append_drop]
    refine ⟨⟨hgraphic, hcase, hlength, ?_⟩, ?_, ?_⟩
    · exact fun hnil => hfront (List.isEmpty_iff.mpr hnil)
    · exact fun word hword => hlt word (List.mem_of_mem_take hword)
    · rw [← hlast, List.take_append_drop]
      exact points_of_splitLast? hsplit
  · cases h

/-- **What is read determines the text**: a text is read as a readable part and bytes exactly if it
is printable, of one letter case and not too long, and its lower case is what is written for
them. -/
theorem decode_eq_ok_iff :
    decode t = .ok (hrp, data) ↔
      isGraphic t = true ∧ oneCase t = true ∧ t.points.length ≤ maxLength ∧
        IsPart hrp ∧ Text.lower t = encode hrp data := by
  constructor
  · intro h
    unfold decode at h
    split at h
    · cases h
    rename_i front words hread
    split at h
    · cases h
    rename_i bytes hbytes
    obtain ⟨rfl, rfl⟩ := Prod.mk.inj (Except.ok.inj h)
    obtain ⟨⟨hgraphic, hcase, hlength, hne⟩, hwords, hpoints⟩ := points_of_split? hread
    have hwritten : (Text.lower t).points = (encode front bytes).points := by
      rw [points_encode, wordsOf_of_bytesOf? hwords hbytes]
      exact hpoints
    have hplain : ∀ p ∈ front.points,
        (33 ≤ p.toNat ∧ p.toNat ≤ 126) ∧ ¬ (65 ≤ p.toNat ∧ p.toNat ≤ 90) := by
      intro p hp
      apply (lowerAfter_printable (isGraphic_iff.mp hgraphic) []).2
      show p ∈ (Text.lower t).points
      rw [hpoints]
      exact List.mem_append_left _ hp
    have hpart : IsPart front :=
      ⟨hne, fun p hp => (hplain p hp).1, fun p hp => (hplain p hp).2⟩
    exact ⟨hgraphic, hcase, hlength, hpart, congrArg Text.mk hwritten⟩
  · rintro ⟨hgraphic, hcase, hlength, hpart, hencode⟩
    have hsame : (encode hrp data).points.length = t.points.length := by
      rw [← hencode]
      exact (lowerAfter_printable (isGraphic_iff.mp hgraphic) []).1
    rw [← decode_lower hgraphic hcase, hencode]
    exact decode_encode hpart (hsame ▸ hlength)

end Read

/-- **Reading and writing are inverse to each other** on the whole format: what is written behind a
readable part is read again, an address is read as the hash of its public key, and a text that is
read is in lower case what is written for it. The checksum of all this is the remainder modulo the
generator polynomial. -/
theorem decode_inverts_encode :
    (∀ hrp data, IsPart hrp → (encode hrp data).points.length ≤ maxLength →
      decode (encode hrp data) = .ok (hrp, data)) ∧
    (∀ publicKey hrp, IsPart hrp → (Key.address publicKey hrp).points.length ≤ maxLength →
      decode (Key.address publicKey hrp) = .ok (hrp, Blake2b.hash publicKey)) ∧
    (∀ t hrp data, decode t = .ok (hrp, data) →
      encode hrp data = Text.lower t ∧ IsPart hrp ∧ (encode hrp data).points.length ≤ maxLength) ∧
    (∀ words, (∀ word ∈ words, word < 32) → checksum words = number 0 (remainder words)) := by
  refine ⟨fun _ _ => decode_encode, fun _ _ => decode_encode, ?_, fun _ => checksum_eq⟩
  intro t hrp data h
  obtain ⟨hgraphic, _, hlength, hpart, hencode⟩ := decode_eq_ok_iff.mp h
  have hsame : (Text.lower t).points.length = t.points.length :=
    (lowerAfter_printable (isGraphic_iff.mp hgraphic) []).1
  exact ⟨hencode.symm, hpart, hencode ▸ hsame ▸ hlength⟩

/-- A readable part that has a digit one in it, in front of twenty bytes and of an address; a text
in capitals; and the pieces of a text without bytes, which leave the remainder one. -/
theorem decode_inverts_encode_capitals :
    let data : Bytes := [0x00, 0x44, 0x32, 0x14, 0xc7, 0x42, 0x54, 0xb6, 0x35, 0xcf,
      0x84, 0x65, 0x3a, 0x56, 0xd7, 0xc6, 0x75, 0xbe, 0x77, 0xdf]
    let publicKey : Bytes := List.replicate 33 2
    let words := expand "a" ++ [10, 28, 25, 31, 20, 31]
    decode (encode "c1a" data) = .ok ("c1a", data) ∧
    decode (Key.address publicKey "c1a") = .ok ("c1a", Blake2b.hash publicKey) ∧
    encode "abcdef" data = Text.lower "ABCDEF1QPZRY9X8GF2TVDW0S3JN54KHCE6MUA7LMQQQXW" ∧
    checksum words = number 0 (remainder words) ∧ remainder words = [0, 0, 0, 0, 0, 1] := by
  intro data publicKey words
  obtain ⟨hbytes, haddress, hread, hsum⟩ := decode_inverts_encode
  have hpart : IsPart "c1a" := ⟨by decide, by decide, by decide⟩
  refine ⟨hbytes "c1a" data hpart (by decide +kernel),
    haddress publicKey "c1a" hpart (by decide +kernel), ?_, hsum words (by decide), by decide⟩
  exact (hread "ABCDEF1QPZRY9X8GF2TVDW0S3JN54KHCE6MUA7LMQQQXW" "abcdef" data
    (by decide +kernel)).1

end BallotWallet.Bech32
