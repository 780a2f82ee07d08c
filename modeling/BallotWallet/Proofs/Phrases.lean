import BallotWallet.Action
import BallotWallet.Key.Source
import BallotWallet.Proofs.WordList
import BallotWallet.Proofs.Words

/-!
# Generated phrases

A phrase writes down random bytes and a part of their hash in words of the list. The words are read
back from any text in which they are typed in order, and give back all bits, so recovery accepts
them, and different bytes have different phrases. A number of words that is not supported is
refused before anything is drawn.
-/

namespace BallotWallet

namespace Text

/-! ## Plain texts -/

theorem arrange_eq_self {cs : List Char} (h : ∀ c ∈ cs, IsAscii c) : arrange [] cs = cs := by
  induction cs with
  | nil => exact List.mergeSort_nil
  | cons c cs ih =>
      have hc : c.toNat < 0x80 := h c List.mem_cons_self
      have hclass : (markClass c == 0) = true := by
        unfold markClass
        rw [if_pos (by omega)]
        rfl
      rw [arrange, if_pos hclass, ih fun d hd => h d (List.mem_cons_of_mem _ hd), sortMarks,
        List.mergeSort_nil, List.nil_append]

/-- Plain characters do not come apart. -/
theorem decompose_eq_self {s : String} (h : ∀ c ∈ s.toList, IsAscii c) : decompose s = s := by
  have hparts : s.toList.flatMap parts = s.toList := by
    calc s.toList.flatMap parts
        = s.toList.flatMap fun c => [c] := List.flatMap_congr fun c hc => by
          have hplain : c.toNat < 0x80 := h c hc
          exact if_pos (by omega)
      _ = s.toList := List.flatMap_singleton' _
  unfold decompose
  rw [hparts, arrange_eq_self h, String.ofList_toList]

theorem isAscii_intercalate {ws : List String} (h : ∀ w ∈ ws, ∀ c ∈ w.toList, IsAscii c) :
    ∀ c ∈ (String.intercalate " " ws).toList, IsAscii c := by
  induction ws with
  | nil => nofun
  | cons w ws ih =>
      have hw := h w List.mem_cons_self
      cases ws with
      | nil =>
          rw [String.intercalate_singleton]
          exact hw
      | cons v ws =>
          intro c hc
          rw [String.intercalate_cons_cons, String.toList_append, String.toList_append,
            List.mem_append, List.mem_append] at hc
          rcases hc with (hc | hc) | hc
          · exact hw c hc
          · obtain rfl := List.mem_singleton.mp hc
            decide
          · exact ih (fun u hu => h u (List.mem_cons_of_mem _ hu)) c hc

theorem ofString_append (s t : String) : ofString (s ++ t) = ofString s ++ ofString t := by
  show ofChars (s ++ t).toList = ⟨s.toList.map .char ++ t.toList.map .char⟩
  rw [String.toList_append, ofChars, List.map_append]

theorem join_ofString (sep : String) (ws : List String) :
    join sep (ws.map ofString) = ofString (String.intercalate sep ws) := by
  induction ws with
  | nil => rfl
  | cons w ws ih =>
      cases ws with
      | nil => rw [String.intercalate_singleton]; rfl
      | cons v ws =>
          rw [String.intercalate_cons_cons, ofString_append, ofString_append, ← ih]
          rfl

end Text

namespace Key

theorem IsLetter.isAscii {c : Char} (h : IsLetter c) : Text.IsAscii c :=
  Nat.lt_of_le_of_lt h.2 (by decide)

theorem IsLetter.isBlank {c : Char} (h : IsLetter c) : Text.isBlank c = false := by
  obtain ⟨hlow, hhigh⟩ := h
  unfold Text.isBlank
  simp
  omega

theorem IsSpelling.isWord {w : String} (h : IsSpelling w) : Text.IsWord w where
  ne_nil := by
    show w.toList.map Text.CodePoint.char ≠ []
    simpa using h.1
  solid := by
    intro p hp
    obtain ⟨c, hc, rfl⟩ := List.mem_map.mp hp
    exact (h.2 c hc).isBlank

namespace Mnemonic

section Spelled

variable {ws : List String} (hne : ws ≠ []) (h : ∀ w ∈ ws, IsSpelling w)

include hne h

/-- Words are typed in the text that joins them by single blanks. -/
theorem typed_intercalate :
    Text.Typed (ws.map Text.ofString) (Text.ofString (String.intercalate " " ws)).points := by
  induction ws with
  | nil => exact absurd rfl hne
  | cons w ws ih =>
      have hword := (h w List.mem_cons_self).isWord
      cases ws with
      | nil =>
          have halone : Text.Typed [Text.ofString w] ([] ++ ((Text.ofString w).points ++ [])) :=
            .cons nofun hword (.nil nofun) nofun
          rw [List.append_nil, List.nil_append] at halone
          rw [String.intercalate_singleton]
          exact halone
      | cons v ws =>
          have hrest := ih (List.cons_ne_nil _ _) fun u hu => h u (List.mem_cons_of_mem _ hu)
          have hblank : Text.IsGap [.char ' '] := fun p hp => by
            rw [List.mem_singleton.mp hp]
            rfl
          have hnext : Text.Typed ((v :: ws).map Text.ofString)
              ([.char ' '] ++ (Text.ofString (String.intercalate " " (v :: ws))).points) :=
            Text.typed_iff.mpr ((Text.words_gap_append hblank _).trans hrest.words_eq)
          rw [String.intercalate_cons_cons, String.append_assoc, Text.ofString_append,
            Text.ofString_append]
          have hline := @Text.Typed.cons [] _ _ _ nofun hword hnext fun p hp => by
            obtain rfl := Option.some.inj hp
            rfl
          exact hline

/-- Words of the list are taken apart as they were joined. -/
theorem listWords_intercalate : listWords (String.intercalate " " ws) = ws := by
  have hascii := Text.isAscii_intercalate fun w hw c hc => ((h w hw).2 c hc).isAscii
  have hsep : ∀ cs ∈ ws.map String.toList, ' ' ∉ cs := by
    intro cs hcs hmem
    obtain ⟨w, hw, rfl⟩ := List.mem_map.mp hcs
    exact absurd ((h w hw).2 ' ' hmem) (by unfold IsLetter; decide)
  unfold listWords
  rw [Text.decompose_eq_self hascii, Text.cut_eq_splitOnP, ← List.splitOn_eq_splitOnP,
    String.toList_intercalate]
  have hblank : " ".toList = [' '] := rfl
  rw [hblank, List.splitOn_intercalate ' ' hsep (by simpa using hne), List.map_map]
  calc ws.map (String.ofList ∘ String.toList)
      = ws.map id := List.map_congr_left fun w _ => String.ofList_toList
    _ = ws := List.map_id _

end Spelled

/-! ## Bits of phrases -/

section Drawn

variable {count : Nat} {entropy : Bytes} (hcount : count ∈ wordCounts)
  (hsize : entropy.length = entropyLength count)

/-- Supported numbers of words come in threes. -/
theorem thirds_of_mem (hcount : count ∈ wordCounts) : count = 3 * (count / 3) ∧ count / 3 ≤ 8 := by
  have hall : ∀ n ∈ wordCounts, n = 3 * (n / 3) ∧ n / 3 ≤ 8 := by decide
  exact hall count hcount

/-- The places of words are the numbers of their bits. -/
theorem mapM_idxOf?_word {groups : List (List Bool)} (h : ∀ g ∈ groups, g.length = 11) :
    (groups.map word).mapM (wordList.idxOf? ·) = some (groups.map Bits.toNat) := by
  induction groups with
  | nil => rfl
  | cons g groups ih =>
      rw [List.map_cons, List.mapM_cons, idxOf?_word (h g List.mem_cons_self),
        ih fun k hk => h k (List.mem_cons_of_mem _ hk)]
      rfl

include hcount hsize

theorem length_hashBits : (hashBits entropy).length = count / 3 := by
  have hthirds := thirds_of_mem hcount
  unfold entropyLength at hsize
  unfold hashBits
  rw [List.length_take, Bits.length_ofBytes, Sha256.length_hash]
  omega

theorem length_bits : (Bits.ofBytes entropy ++ hashBits entropy).length = 11 * count := by
  have hthirds := thirds_of_mem hcount
  rw [List.length_append, Bits.length_ofBytes, length_hashBits hcount hsize, hsize, entropyLength]
  omega

theorem length_wordsOf : (wordsOf entropy).length = count := by
  unfold wordsOf
  rw [List.length_map, (Bits.groups_whole (by decide) (length_bits hcount hsize)).1]

theorem wordsOf_mem : ∀ w ∈ wordsOf entropy, w ∈ wordList := by
  intro w hw
  obtain ⟨g, hg, rfl⟩ := List.mem_map.mp hw
  exact word_mem ((Bits.groups_whole (by decide) (length_bits hcount hsize)).2.1 g hg)

/-- All bits are read back from the words. -/
theorem bitsOf?_wordsOf :
    bitsOf? (wordsOf entropy) = some (Bits.ofBytes entropy ++ hashBits entropy) := by
  have hbits := length_bits hcount hsize
  obtain ⟨_, hgroups, _⟩ := Bits.groups_whole (by decide) hbits
  unfold bitsOf? wordsOf
  rw [mapM_idxOf?_word hgroups, Option.map_some, Bits.ofNats_groups (by decide) hbits]

theorem length_random :
    (Bits.ofBytes entropy ++ hashBits entropy).length / 33 * 32 =
      (Bits.ofBytes entropy).length := by
  have hthirds := thirds_of_mem hcount
  rw [length_bits hcount hsize, Bits.length_ofBytes, hsize, entropyLength]
  omega

/-- The words pass the checks. -/
theorem isPhrase_wordsOf : isPhrase (wordsOf entropy) = true := by
  have hsupported : wordCounts.contains count = true := List.contains_iff_mem.mpr hcount
  unfold isPhrase
  rw [length_wordsOf hcount hsize, hsupported, bitsOf?_wordsOf hcount hsize]
  dsimp only
  rw [length_random hcount hsize, List.take_left, List.drop_left, Bits.map_byte_groups]
  exact beq_self_eq_true _

/-- The random bytes are read back from the bits. -/
theorem entropy_of_bits :
    (Bits.groups 8 ((Bits.ofBytes entropy ++ hashBits entropy).take
      ((Bits.ofBytes entropy ++ hashBits entropy).length / 33 * 32))).map Bits.byte = entropy := by
  rw [length_random hcount hsize, List.take_left, Bits.map_byte_groups]

theorem isSpelling_wordsOf : ∀ w ∈ wordsOf entropy, IsSpelling w :=
  fun w hw => isSpelling_of_mem (wordsOf_mem hcount hsize w hw)

theorem wordsOf_ne_nil : wordsOf entropy ≠ [] := by
  have hpos : ∀ n ∈ wordCounts, 0 < n := by decide
  apply List.ne_nil_of_length_pos
  rw [length_wordsOf hcount hsize]
  exact hpos count hcount

theorem listWords_phrase : listWords (phrase entropy) = wordsOf entropy :=
  listWords_intercalate (wordsOf_ne_nil hcount hsize) (isSpelling_wordsOf hcount hsize)

theorem typed_phrase :
    Text.Typed ((wordsOf entropy).map Text.ofString) (Text.ofString (phrase entropy)).points :=
  typed_intercalate (wordsOf_ne_nil hcount hsize) (isSpelling_wordsOf hcount hsize)

theorem isValid_phrase : isValid (phrase entropy) = true := by
  unfold isValid
  rw [Text.string?_ofString, Option.any_some, listWords_phrase hcount hsize]
  exact isPhrase_wordsOf hcount hsize

end Drawn

/-- Different random bytes have different phrases. -/
theorem phrase_inj {count count' : Nat} {entropy entropy' : Bytes} (hcount : count ∈ wordCounts)
    (hsize : entropy.length = entropyLength count) (hcount' : count' ∈ wordCounts)
    (hsize' : entropy'.length = entropyLength count') (h : phrase entropy = phrase entropy') :
    entropy = entropy' := by
  have hwords : wordsOf entropy = wordsOf entropy' := by
    rw [← listWords_phrase hcount hsize, h, listWords_phrase hcount' hsize']
  have hbits := congrArg bitsOf? hwords
  rw [bitsOf?_wordsOf hcount hsize, bitsOf?_wordsOf hcount' hsize', Option.some.injEq] at hbits
  rw [← entropy_of_bits hcount hsize, hbits, entropy_of_bits hcount' hsize']

/-! ## Drawing -/

/-- So many bytes from a source, or as many as it has; the others stay in it. -/
def draw (n : Nat) : Action Bytes Bytes :=
  .step fun source => (.ok (source.take n), source.drop n)

/-- A new phrase of `count` words from a source of random bytes. -/
def drawPhrase (count : Int) : Action Bytes String := do
  checkCount count
  let drawn ← draw (entropyLength count.toNat)
  if (wordCounts.map entropyLength).contains drawn.length then return phrase drawn
  else throw .badValue

theorem checkCount_of_mem {count : Nat} (h : count ∈ wordCounts) : checkCount count = .ok () :=
  if_pos (List.any_eq_true.mpr ⟨count, h, decide_eq_true rfl⟩)

theorem checkCount_of_ne {count : Int} (h : ∀ n ∈ wordCounts, (n : Int) ≠ count) :
    checkCount count = .error (.wordCount count [12, 15, 18, 21, 24]) := by
  refine if_neg fun hany => ?_
  obtain ⟨n, hn, heq⟩ := List.any_eq_true.mp hany
  exact h n hn (of_decide_eq_true heq)

theorem run_drawPhrase {count : Nat} (h : count ∈ wordCounts) (source : Bytes) :
    (drawPhrase count).run source =
      ⟨generate count source, source.drop (entropyLength count), []⟩ := by
  unfold drawPhrase generate
  rw [checkCount_of_mem h]
  show (ite _ _ _ : Action Bytes String).run _ = ⟨ite _ _ _, _, _⟩
  rw [Int.toNat_natCast]
  by_cases hdrawn : (wordCounts.map entropyLength).contains
      (source.take (entropyLength count)).length = true
  · rw [if_pos hdrawn, if_pos hdrawn]
    rfl
  · rw [if_neg hdrawn, if_neg hdrawn]
    rfl

theorem run_drawPhrase_unsupported {count : Int} (h : ∀ n ∈ wordCounts, (n : Int) ≠ count)
    (source : Bytes) :
    (drawPhrase count).run source = ⟨generate count source, source, []⟩ ∧
      generate count source = .error (.wordCount count [12, 15, 18, 21, 24]) := by
  unfold drawPhrase generate
  rw [checkCount_of_ne h]
  exact ⟨rfl, rfl⟩

theorem generate_eq {count : Nat} (h : count ∈ wordCounts) {source : Bytes}
    (hsource : entropyLength count ≤ source.length) :
    generate count source = .ok (phrase (source.take (entropyLength count))) := by
  have hsize : (wordCounts.map entropyLength).contains
      (source.take (entropyLength count)).length = true := by
    rw [List.length_take, Nat.min_eq_left hsource]
    exact List.contains_iff_mem.mpr (List.mem_map_of_mem h)
  unfold generate
  rw [checkCount_of_mem h]
  show (if _ then _ else _) = _
  rw [Int.toNat_natCast, if_pos hsize]
  rfl

/-! ## Recovering -/

/-- The keys that are found from a phrase once it has passed all checks. -/
def keysOf (phrase : String) (password : Text) (account index : Int) : Except Failure Material :=
  match password.string? with
  | some password =>
    (Node.ofSeed (stretch phrase password)).walk (walletPath account index) >>= Node.material
  | none => .error .unencodable

section Accepted

variable {count : Nat} {entropy : Bytes} {t : Text} (hcount : count ∈ wordCounts)
  (hsize : entropy.length = entropyLength count)
  (ht : Text.words t = (wordsOf entropy).map Text.ofString)

include ht

theorem join_typed : Text.join " " (Text.words t) = Text.ofString (phrase entropy) := by
  rw [ht, Text.join_ofString]
  rfl

include hcount hsize

theorem checkCount_typed : checkCount (Text.words t).length = .ok () := by
  rw [ht, List.length_map, length_wordsOf hcount hsize]
  exact checkCount_of_mem hcount

theorem isValid_typed : isValid (Text.join " " (Text.words t)) = true := by
  rw [join_typed ht]
  exact isValid_phrase hcount hsize

theorem seed_typed (password : Text) :
    seed t password =
      match password.string? with
      | some password => .ok (stretch (phrase entropy) password)
      | none => .error .unencodable := by
  unfold seed
  dsimp only
  rw [checkCount_typed hcount hsize ht, join_typed ht, Text.string?_ofString]
  cases password.string? with
  | some password => rfl
  | none => rfl

/-- Recovery goes on with the keys of the phrase. -/
theorem fromPhrase_typed (password : Text) (account index : Int) :
    Source.fromPhrase t password account index =
      keysOf (phrase entropy) password account index := by
  have hphrase := (typed_phrase hcount hsize).words_eq
  unfold Source.fromPhrase keysOf
  dsimp only
  rw [checkCount_typed hcount hsize ht, isValid_typed hcount hsize ht,
    join_typed ht, seed_typed hcount hsize hphrase]
  cases password.string? with
  | some password => rfl
  | none => rfl

end Accepted

/-- **A generated phrase is accepted.** Bytes drawn for a supported number of words make up a
phrase of so many words, all of them from the list. Recovery accepts these words in any text in
which they are typed, with whatever white space between and around them, and goes on with the keys
of the phrase; different bytes have different phrases. An unsupported number of words is refused
and leaves the source of random bytes as it is. The list has 2048 words, none of them twice. -/
theorem generated_phrase_accepted :
    (∀ count ∈ wordCounts, ∀ source : Bytes,
      (drawPhrase count).run source =
        ⟨generate count source, source.drop (entropyLength count), []⟩ ∧
      (entropyLength count ≤ source.length →
        generate count source = .ok (phrase (source.take (entropyLength count))))) ∧
    (∀ count ∈ wordCounts, ∀ entropy : Bytes, entropy.length = entropyLength count →
      (Text.words (phrase entropy)).length = count ∧
      Text.words (phrase entropy) = (wordsOf entropy).map Text.ofString ∧
      (∀ w ∈ wordsOf entropy, w ∈ wordList) ∧
      ∀ t : Text, Text.Typed (Text.words (phrase entropy)) t.points →
        checkCount (Text.words t).length = .ok () ∧
        isValid (Text.join " " (Text.words t)) = true ∧
        ∀ password account index, Source.fromPhrase t password account index =
          keysOf (phrase entropy) password account index) ∧
    (∀ count ∈ wordCounts, ∀ count' ∈ wordCounts, ∀ entropy entropy' : Bytes,
      entropy.length = entropyLength count → entropy'.length = entropyLength count' →
      phrase entropy = phrase entropy' → entropy = entropy') ∧
    (∀ count : Int, (∀ n ∈ wordCounts, (n : Int) ≠ count) → ∀ source : Bytes,
      (drawPhrase count).run source = ⟨generate count source, source, []⟩ ∧
      generate count source = .error (.wordCount count [12, 15, 18, 21, 24])) ∧
    wordList.length = 2048 ∧ wordList.Nodup := by
  refine ⟨fun count hcount source => ⟨run_drawPhrase hcount source, generate_eq hcount⟩,
    fun count hcount entropy hsize => ?_,
    fun count hcount count' hcount' entropy entropy' hsize hsize' =>
      phrase_inj hcount hsize hcount' hsize',
    fun count h => run_drawPhrase_unsupported h, length_wordList, nodup_wordList⟩
  have hwords : Text.words (phrase entropy) = (wordsOf entropy).map Text.ofString :=
    (typed_phrase hcount hsize).words_eq
  refine ⟨?_, hwords, wordsOf_mem hcount hsize, fun t ht => ?_⟩
  · rw [hwords, List.length_map, length_wordsOf hcount hsize]
  · have hsame := ht.words_eq.trans hwords
    exact ⟨checkCount_typed hcount hsize hsame, isValid_typed hcount hsize hsame,
      fromPhrase_typed hcount hsize hsame⟩

/-- The phrase of sixteen zero bytes, typed in lines and columns. -/
def scattered : String :=
  "\n abandon\tabandon abandon  abandon\n abandon\tabandon abandon  abandon\n" ++
  " abandon\tabandon abandon  about\n"

/-- The phrase of sixteen zero bytes is drawn from twenty bytes, is recovered from scattered
words, and is not that of other bytes; thirteen words are refused. -/
theorem generated_phrase_accepted_zeros :
    (drawPhrase 12).run (List.replicate 20 0) =
        ⟨.ok (phrase (List.replicate 16 0)), List.replicate 4 0, []⟩ ∧
      isValid (Text.join " " (Text.words scattered)) = true ∧
      (∀ password account index, Source.fromPhrase scattered password account index =
        keysOf (phrase (List.replicate 16 0)) password account index) ∧
      phrase (List.replicate 16 0) ≠ phrase (List.replicate 20 0) ∧
      generate 13 [] = .error (.wordCount 13 [12, 15, 18, 21, 24]) := by
  obtain ⟨hdrawn, haccepted, hinj, hrefused, _⟩ := generated_phrase_accepted
  obtain ⟨_, hwords, _, htyped⟩ := haccepted 12 (by decide) (List.replicate 16 0) rfl
  have hscattered : Text.words scattered = Text.words (phrase (List.replicate 16 0)) := by
    decide +kernel
  obtain ⟨_, hvalid, hkeys⟩ := htyped scattered (Text.typed_iff.mpr hscattered)
  obtain ⟨hrun, hgenerated⟩ := hdrawn 12 (by decide) (List.replicate 20 0)
  rw [hgenerated (by decide)] at hrun
  refine ⟨hrun, hvalid, hkeys, fun hsame => ?_, (hrefused 13 (by decide) []).2⟩
  exact absurd (hinj 12 (by decide) 15 (by decide) _ _ rfl rfl hsame) (by decide)

end Mnemonic

end Key

end BallotWallet
