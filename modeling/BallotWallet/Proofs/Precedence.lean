import BallotWallet.Config
import BallotWallet.Proofs.Failing
import Mathlib

/-!
# What decides a field of the configuration

The environment goes before the file, and the file before the defaults. In the file, the table of
the part that a field belongs to decides, and in the table the last entry that names the field.
Entries that name nothing are ignored. A key that means the part as a whole is not one of them: it
sweeps away what the table has said before.
-/

namespace BallotWallet.Config

variable {part : Section} {key : Text} {d : Document} {c c' : Config} {f : Field}
  {table inner fields : List (Text × Document)} {environment : Environment}

/-! ## Names -/

namespace Field

theorem mem_all (f : Field) : f ∈ all := by
  cases f <;> decide

theorem name_inj {f g : Field} (h : (f.name : Text) = g.name) : f = g := by
  have hall : ∀ f ∈ all, ∀ g ∈ all, (f.name : Text) = g.name → f = g := by decide
  exact hall f f.mem_all g g.mem_all h

/-- The keys that mean the part itself are not the names of fields. -/
theorem name_ne (f : Field) :
    (f.name : Text) ≠ wholeKey ∧ (f.name : Text) ≠ kindKey ∧ (f.name : Text) ≠ fixedKey := by
  cases f <;> decide

theorem named?_eq_some {name : Text} :
    named? part name = some f ↔ f.home = part ∧ name = f.name := by
  unfold named?
  constructor
  · intro h
    have hfound := List.find?_some h
    rw [Bool.and_eq_true, beq_iff_eq, beq_iff_eq] at hfound
    exact hfound
  · rintro ⟨rfl, rfl⟩
    cases hfound : all.find? fun g => g.home == f.home && (f.name : Text) == g.name with
    | none =>
        have hnot := List.find?_eq_none.mp hfound f f.mem_all
        simp at hnot
    | some g =>
        have hg := List.find?_some hfound
        rw [Bool.and_eq_true, beq_iff_eq, beq_iff_eq] at hg
        rw [name_inj hg.2]

end Field

/-! ## One entry -/

/-- The entries that a table must not have. -/
inductive Barred : Text × Document → Prop
  | kind {key : Text} {d : Document} : spelling key = kindKey → Barred (key, d)
  | fixed {key : Text} {d : Document} : spelling key = fixedKey → Barred (key, d)
  | whole {key : Text} {d : Document} : spelling key = wholeKey → (∀ inner, d ≠ .object inner) →
      Barred (key, d)

/-- What one entry does: it sets the field that it names, or all fields of its part, or nothing. -/
theorem assign_cases (h : c.assign part key d = .ok c') :
    (∃ f : Field, f.home = part ∧ spelling key = f.name ∧ c' = c.set f d) ∨
    (spelling key = wholeKey ∧ ∃ inner, d = .object inner ∧ c' = c.replace part inner) ∨
    (spelling key ≠ wholeKey ∧ (∀ f : Field, f.home = part → spelling key ≠ f.name) ∧ c' = c) := by
  unfold assign at h
  dsimp only at h
  split at h
  · rename_i f hnamed
    obtain ⟨hhome, hname⟩ := Field.named?_eq_some.mp hnamed
    cases h
    exact .inl ⟨f, hhome, hname, rfl⟩
  · rename_i hnamed
    split at h
    · rename_i hwhole
      split at h
      · cases h
        exact .inr (.inl ⟨hwhole, _, rfl, rfl⟩)
      · cases h
    · rename_i hwhole
      refine .inr (.inr ⟨hwhole, ?_, ?_⟩)
      · intro f hhome hname
        rw [Field.named?_eq_some.mpr ⟨hhome, hname⟩] at hnamed
        cases hnamed
      · split at h
        · cases h
        · split at h
          · cases h
          · cases h
            rfl

/-- An entry is taken just if it is not barred. -/
theorem assign_ok_iff (c : Config) (part : Section) :
    (∃ c', c.assign part key d = .ok c') ↔ ¬Barred (key, d) := by
  unfold assign
  dsimp only
  split
  · rename_i f hnamed
    obtain ⟨_, hname⟩ := Field.named?_eq_some.mp hnamed
    obtain ⟨hwhole, hkind, hfixed⟩ := f.name_ne
    refine iff_of_true ⟨_, rfl⟩ ?_
    rintro (h | h | h)
    · exact hkind (hname.symm.trans h)
    · exact hfixed (hname.symm.trans h)
    · exact hwhole (hname.symm.trans h)
  · split
    · rename_i hwhole
      split
      · refine iff_of_true ⟨_, rfl⟩ ?_
        rintro (h | h | ⟨_, hnot⟩)
        · exact absurd (hwhole.symm.trans h) (by decide)
        · exact absurd (hwhole.symm.trans h) (by decide)
        · exact hnot _ rfl
      · rename_i hnot
        refine iff_of_false (by rintro ⟨_, ⟨⟩⟩) (not_not_intro (.whole hwhole ?_))
        rintro inner rfl
        exact hnot inner rfl
    · rename_i hwhole
      split
      · rename_i hkind
        exact iff_of_false (by rintro ⟨_, ⟨⟩⟩) (not_not_intro (.kind hkind))
      · rename_i hkind
        split
        · rename_i hfixed
          exact iff_of_false (by rintro ⟨_, ⟨⟩⟩) (not_not_intro (.fixed hfixed))
        · rename_i hfixed
          refine iff_of_true ⟨_, rfl⟩ ?_
          rintro (h | h | ⟨h, _⟩)
          · exact hkind h
          · exact hfixed h
          · exact hwhole h

/-! ## The table of a part -/

/-- What a table says about a field: the value of the last entry that names it. -/
def lastSaid? (f : Field) (table : List (Text × Document)) : Option Document :=
  ((table.filter fun entry => spelling entry.1 == f.name).getLast?).map (·.2)

/-- A table gives all fields of a part at once, as the table `inner` says, and does not come back to
the field after that. -/
def Swept (f : Field) (table inner : List (Text × Document)) : Prop :=
  ∃ before key after, table = before ++ (key, .object inner) :: after ∧ spelling key = wholeKey ∧
    ∀ entry ∈ after, spelling entry.1 ≠ f.name ∧ spelling entry.1 ≠ wholeKey

/-- The value of a field after the entries of a table, from the value that it had before. -/
inductive Decides (f : Field) (table : List (Text × Document)) (before : Document) :
    Document → Prop
  | swept {inner : List (Text × Document)} : Swept f table inner →
      Decides f table before ((Document.getField? f.name inner).getD f.default)
  | said : (∀ inner, ¬Swept f table inner) →
      Decides f table before ((lastSaid? f table).getD before)

theorem lastSaid?_append_singleton :
    lastSaid? f (table ++ [(key, d)]) =
      if spelling key = f.name then some d else lastSaid? f table := by
  unfold lastSaid?
  rw [List.filter_append]
  split <;> rename_i hname <;> simp [hname]

theorem swept_append_singleton :
    Swept f (table ++ [(key, d)]) inner ↔ spelling key = wholeKey ∧ d = .object inner ∨
      spelling key ≠ f.name ∧ spelling key ≠ wholeKey ∧ Swept f table inner := by
  constructor
  · rintro ⟨before, k, after, heq, hwhole, hafter⟩
    rcases List.eq_nil_or_concat after with rfl | ⟨front, last, rfl⟩
    · obtain ⟨_, hlast⟩ := List.append_inj' heq rfl
      cases hlast
      exact .inl ⟨hwhole, rfl⟩
    · have hsplit : table ++ [(key, d)] = (before ++ (k, .object inner) :: front) ++ [last] := by
        rw [heq, List.concat_eq_append, List.append_assoc, List.cons_append]
      obtain ⟨rfl, hlast⟩ := List.append_inj' hsplit rfl
      cases hlast
      obtain ⟨hname, hkey⟩ := hafter (key, d) (by simp)
      refine .inr ⟨hname, hkey, before, k, front, rfl, hwhole, fun entry hentry => ?_⟩
      exact hafter entry (by simp [hentry])
  · rintro (⟨hwhole, rfl⟩ | ⟨hname, hkey, before, k, after, rfl, hwhole, hafter⟩)
    · exact ⟨table, key, [], rfl, hwhole, fun _ h => (List.not_mem_nil h).elim⟩
    · refine ⟨before, k, after ++ [(key, d)], by simp, hwhole, fun entry hentry => ?_⟩
      rcases List.mem_append.mp hentry with hentry | hentry
      · exact hafter entry hentry
      · obtain rfl := List.mem_singleton.mp hentry
        exact ⟨hname, hkey⟩

theorem not_swept_nil : ¬Swept f [] inner := by
  rintro ⟨before, key, after, heq, _⟩
  exact absurd heq.symm (List.append_ne_nil_of_right_ne_nil _ (List.cons_ne_nil _ _))

/-- The last entry that gives all fields at once is the one that counts. -/
theorem Swept.unique {inner' : List (Text × Document)} (h : Swept f table inner)
    (h' : Swept f table inner') : inner = inner' := by
  induction table using List.reverseRecOn with
  | nil => exact absurd h not_swept_nil
  | append_singleton table entry ih =>
      rcases swept_append_singleton.mp h with ⟨hwhole, hd⟩ | ⟨_, hkey, hbefore⟩
      · rcases swept_append_singleton.mp h' with ⟨_, hd'⟩ | ⟨_, hkey, _⟩
        · exact Document.object.inj (hd.symm.trans hd')
        · exact absurd hwhole hkey
      · rcases swept_append_singleton.mp h' with ⟨hwhole, _⟩ | ⟨_, _, hbefore'⟩
        · exact absurd hwhole hkey
        · exact ih hbefore hbefore'

/-- An entry that names a field decides it. -/
theorem decides_append_named (before : Document) (hname : spelling key = f.name) :
    Decides f (table ++ [(key, d)]) before d := by
  have hsaid : (lastSaid? f (table ++ [(key, d)])).getD before = d := by
    rw [lastSaid?_append_singleton, if_pos hname]
    rfl
  have hnot : ∀ inner, ¬Swept f (table ++ [(key, d)]) inner := by
    intro inner hswept
    rcases swept_append_singleton.mp hswept with ⟨hwhole, _⟩ | ⟨hother, _⟩
    · exact f.name_ne.1 (hname.symm.trans hwhole)
    · exact hother hname
  have hdecides : Decides f (table ++ [(key, d)]) before _ := .said hnot
  rw [hsaid] at hdecides
  exact hdecides

theorem Decides.of_swept {before after : Document} (h : Decides f table before after)
    (hswept : Swept f table inner) : after = (Document.getField? f.name inner).getD f.default := by
  cases h with
  | swept h => rw [h.unique hswept]
  | said hnot => exact absurd hswept (hnot inner)

theorem Decides.of_not_swept {before after : Document} (h : Decides f table before after)
    (hnot : ∀ inner, ¬Swept f table inner) : after = (lastSaid? f table).getD before := by
  cases h with
  | swept h => exact absurd h (hnot _)
  | said => rfl

/-- An entry that has nothing to do with a field leaves what was decided. -/
theorem Decides.append_other {before after : Document} (h : Decides f table before after)
    (hname : spelling key ≠ f.name) (hwhole : spelling key ≠ wholeKey) :
    Decides f (table ++ [(key, d)]) before after := by
  cases h with
  | swept hswept => exact .swept (swept_append_singleton.mpr (.inr ⟨hname, hwhole, hswept⟩))
  | said hnot =>
      have hsaid : lastSaid? f (table ++ [(key, d)]) = lastSaid? f table := by
        rw [lastSaid?_append_singleton, if_neg hname]
      rw [← hsaid]
      refine .said fun inner hswept => ?_
      rcases swept_append_singleton.mp hswept with ⟨hkey, _⟩ | ⟨_, _, hbefore⟩
      · exact hwhole hkey
      · exact hnot inner hbefore

theorem merge_append_singleton (c : Config) :
    c.merge part (table ++ [(key, d)]) = c.merge part table >>= fun c => c.assign part key d := by
  induction table generalizing c with
  | nil =>
      show c.assign part key d >>= pure = c.assign part key d
      exact bind_pure _
  | cons entry table ih =>
      show c.assign part entry.1 entry.2 >>= _ = (c.assign part entry.1 entry.2 >>= _) >>= _
      rw [bind_assoc]
      exact congrArg _ (funext ih)

/-- **One table.** It decides the fields of its part, and leaves those of the others. -/
theorem merge_value (h : c.merge part table = .ok c') (f : Field) :
    (f.home = part → Decides f table (c.value f) (c'.value f)) ∧
      (f.home ≠ part → c'.value f = c.value f) := by
  induction table using List.reverseRecOn generalizing c' with
  | nil =>
      cases h
      exact ⟨fun _ => .said fun _ => not_swept_nil, fun _ => rfl⟩
  | append_singleton table entry ih =>
      obtain ⟨key, d⟩ := entry
      rw [merge_append_singleton] at h
      obtain ⟨between, hmerge, hassign⟩ := exists_of_bind_ok h
      obtain ⟨hhere, hthere⟩ := ih hmerge
      obtain ⟨g, hhome, hname, rfl⟩ | ⟨hwhole, inner, rfl, rfl⟩ | ⟨hwhole, hnone, rfl⟩ :=
        assign_cases hassign
      · by_cases hfg : f = g
        · subst hfg
          have hset : (between.set f d).value f = d := if_pos rfl
          refine ⟨fun _ => ?_, fun hne => absurd hhome hne⟩
          rw [hset]
          exact decides_append_named _ hname
        · have hset : (between.set g d).value f = between.value f := if_neg hfg
          rw [hset]
          refine ⟨fun hpart => (hhere hpart).append_other ?_ ?_, hthere⟩
          · exact fun hother => hfg (Field.name_inj (hother.symm.trans hname))
          · exact fun hkey => g.name_ne.1 (hname.symm.trans hkey)
      · constructor
        · intro hpart
          have hreplaced : (between.replace part inner).value f =
              (Document.getField? f.name inner).getD f.default := if_pos hpart
          rw [hreplaced]
          exact .swept (swept_append_singleton.mpr (.inl ⟨hwhole, rfl⟩))
        · intro hpart
          exact (if_neg hpart).trans (hthere hpart)
      · exact ⟨fun hpart => (hhere hpart).append_other (hnone f hpart) hwhole, hthere⟩

theorem merge_ok_iff : (∃ c', c.merge part table = .ok c') ↔ ∀ entry ∈ table, ¬Barred entry := by
  induction table generalizing c with
  | nil => exact iff_of_true ⟨c, rfl⟩ fun _ h => (List.not_mem_nil h).elim
  | cons entry table ih =>
      rw [List.forall_mem_cons, ← assign_ok_iff c part]
      constructor
      · rintro ⟨c', h⟩
        obtain ⟨between, hassign, hmerge⟩ := exists_of_bind_ok h
        exact ⟨⟨between, hassign⟩, ih.mp ⟨c', hmerge⟩⟩
      · rintro ⟨⟨between, hassign⟩, hrest⟩
        obtain ⟨c', hmerge⟩ := ih.mpr hrest
        exact ⟨c', bind_ok_iff.mpr ⟨between, hassign, hmerge⟩⟩

/-! ## The file -/

/-- The table of a part among the fields of a file; there is none if it is not mentioned. -/
def tableOf (part : Section) (fields : List (Text × Document)) : List (Text × Document) :=
  match Document.getField? part.name fields with
  | some (.object table) => table
  | _ => []

/-- What the fields of a file say about the parts are tables. -/
def Tabular (fields : List (Text × Document)) : Prop :=
  ∀ (part : Section) (d : Document), Document.getField? part.name fields = some d →
    ∃ table, d = .object table

theorem mergeFile_cons (htabular : Tabular fields) (parts : List Section) (c : Config) :
    c.mergeFile (.object fields) (part :: parts) =
      c.merge part (tableOf part fields) >>= fun c => c.mergeFile (.object fields) parts := by
  unfold tableOf
  cases hfield : Document.getField? part.name fields with
  | none =>
      have hnull : (Document.object fields).field part.name = .ok .null :=
        congrArg (fun found => Except.ok (Option.getD found Document.null)) hfield
      rw [mergeFile, hnull]
      rfl
  | some d =>
      obtain ⟨table, rfl⟩ := htabular part d hfield
      have htable : (Document.object fields).field part.name = .ok (.object table) :=
        congrArg (fun found => Except.ok (Option.getD found Document.null)) hfield
      rw [mergeFile, htable]
      rfl

/-- Part by part, every table decides the fields of its own part. -/
theorem mergeFile_value (htabular : Tabular fields) {parts : List Section} (hparts : parts.Nodup)
    (h : c.mergeFile (.object fields) parts = .ok c') (f : Field) :
    (f.home ∈ parts → Decides f (tableOf f.home fields) (c.value f) (c'.value f)) ∧
      (f.home ∉ parts → c'.value f = c.value f) := by
  induction parts generalizing c with
  | nil =>
      cases h
      exact ⟨fun hnil => (List.not_mem_nil hnil).elim, fun _ => rfl⟩
  | cons part parts ih =>
      obtain ⟨hfresh, hrest⟩ := List.nodup_cons.mp hparts
      rw [mergeFile_cons htabular] at h
      obtain ⟨between, hmerge, hfile⟩ := exists_of_bind_ok h
      obtain ⟨hlater, hkept⟩ := ih hrest hfile
      obtain ⟨hhere, hthere⟩ := merge_value hmerge f
      constructor
      · intro hmem
        by_cases hpart : f.home = part
        · rw [hkept (hpart ▸ hfresh), hpart]
          exact hhere hpart
        · rw [← hthere hpart]
          exact hlater ((List.mem_cons.mp hmem).resolve_left hpart)
      · intro hnot
        obtain ⟨hpart, hparts⟩ := not_or.mp (mt List.mem_cons.mpr hnot)
        rw [hkept hparts, hthere hpart]

theorem mergeFile_ok_iff (htabular : Tabular fields) {parts : List Section} :
    (∃ c', c.mergeFile (.object fields) parts = .ok c') ↔
      ∀ part ∈ parts, ∀ entry ∈ tableOf part fields, ¬Barred entry := by
  induction parts generalizing c with
  | nil => exact iff_of_true ⟨c, rfl⟩ fun _ h => (List.not_mem_nil h).elim
  | cons part parts ih =>
      rw [mergeFile_cons htabular, List.forall_mem_cons, ← merge_ok_iff (c := c)]
      constructor
      · rintro ⟨c', h⟩
        obtain ⟨between, hmerge, hfile⟩ := exists_of_bind_ok h
        exact ⟨⟨between, hmerge⟩, ih.mp ⟨c', hfile⟩⟩
      · rintro ⟨⟨between, hmerge⟩, hrest⟩
        obtain ⟨c', hfile⟩ := ih.mpr hrest
        exact ⟨c', bind_ok_iff.mpr ⟨between, hmerge, hfile⟩⟩

/-! ## The environment -/

namespace Field

/-- The variable of the environment that sets a field, if there is one. -/
def source? : Field → Option Text
  | address => some "VOTEFLOW_BACKEND"
  | httpsForPost => some "VOTEFLOW_HTTPS_POST"
  | debug => some "VOTEFLOW_DEBUG"
  | timeout => some "VOTEFLOW_TIMEOUT"
  | pollInterval => some "VOTEFLOW_POLL_INTERVAL"
  | retryBudget => some "VOTEFLOW_RETRY_BUDGET"
  | discrimination => some "VOTEFLOW_DISCRIMINATION"
  | level => some "VOTEFLOW_LOG_LEVEL"
  | format => some "VOTEFLOW_LOG_FMT"
  | account | index | validSlots | file => none

/-- What the text of its variable means for a field: the text, a flag, a number, or the text in
lower or in upper case. -/
def Reads (t : Text) (d : Document) : Field → Prop
  | address | format => d = .text t
  | httpsForPost | debug => ∃ b : Bool, d = .bool b ∧
      (b = true ↔ Text.lower (Text.strip t) ∈ (["1", "true", "yes", "on"] : List Text))
  | timeout | pollInterval => ∃ x, Binary64.ofText? t = some x ∧ d = .float x
  | retryBudget => ∃ n, Numeral.toInt? t = some n ∧ d = .int n
  | discrimination => d = .text (Text.lower t)
  | level => d = .text (Text.upper t)
  | account | index | validSlots | file => False

end Field

section Conversions

variable {t : Text}

theorem flag_ok_iff : (.ok (.bool (isYes t)) : Except Failure Document) = .ok d ↔
    ∃ b : Bool, d = .bool b ∧
      (b = true ↔ Text.lower (Text.strip t) ∈ (["1", "true", "yes", "on"] : List Text)) := by
  have hyes : isYes t = true ↔
      Text.lower (Text.strip t) ∈ (["1", "true", "yes", "on"] : List Text) :=
    List.contains_iff_mem
  constructor
  · rintro ⟨⟩
    exact ⟨_, rfl, hyes⟩
  · rintro ⟨b, rfl, hb⟩
    rw [Bool.eq_iff_iff.mpr (hb.trans hyes.symm)]

theorem toFloat_ok_iff : toFloat t = .ok d ↔ ∃ x, Binary64.ofText? t = some x ∧ d = .float x := by
  unfold toFloat
  cases Binary64.ofText? t with
  | none => simp
  | some x => simp [eq_comm]

theorem toInt_ok_iff :
    .int <$> (Document.text t).toInt = .ok d ↔ ∃ n, Numeral.toInt? t = some n ∧ d = .int n := by
  unfold Document.toInt
  dsimp only
  cases Numeral.toInt? t with
  | none => simp
  | some n => simp [eq_comm]

/-- The variables are those of the fields, and their texts are converted as is meant. -/
theorem convert_ok_iff {v : Variable} (hv : v ∈ knownVariables) :
    v.field.source? = some v.name ∧ ∀ t d, v.convert t = .ok d ↔ v.field.Reads t d := by
  have htext : ∀ d e : Document, (.ok e : Except Failure Document) = .ok d ↔ d = e := by
    intro d e
    rw [Except.ok.injEq, eq_comm]
  simp only [knownVariables, List.mem_cons, List.not_mem_nil, or_false] at hv
  rcases hv with rfl | rfl | rfl | rfl | rfl | rfl | rfl | rfl | rfl
  · exact ⟨rfl, fun t d => htext d _⟩
  · exact ⟨rfl, fun t d => flag_ok_iff⟩
  · exact ⟨rfl, fun t d => flag_ok_iff⟩
  · exact ⟨rfl, fun t d => toFloat_ok_iff⟩
  · exact ⟨rfl, fun t d => toFloat_ok_iff⟩
  · exact ⟨rfl, fun t d => toInt_ok_iff⟩
  · exact ⟨rfl, fun t d => htext d _⟩
  · exact ⟨rfl, fun t d => htext d _⟩
  · exact ⟨rfl, fun t d => htext d _⟩

end Conversions

/-- The environment tells a text about a field: its variable is set, and not empty. -/
def Tells (environment : Environment) (f : Field) (t : Text) : Prop :=
  ∃ name, f.source? = some name ∧ environment.lookup name = some t ∧ t ≠ ""

theorem textOf?_eq_some {v : Variable} {t : Text} :
    textOf? environment v = some t ↔ environment.lookup v.name = some t ∧ t ≠ "" := by
  have hempty : (!t.isEmpty) = true ↔ t ≠ "" := by
    rw [Bool.not_eq_true', ← Bool.not_eq_true, not_iff_not]
    obtain ⟨points⟩ := t
    cases points with
    | nil => exact iff_of_true rfl rfl
    | cons => exact iff_of_false (by rintro ⟨⟩) (by rintro ⟨⟩)
  unfold textOf?
  rw [Option.filter_eq_some_iff, hempty]

theorem tells_iff {t : Text} :
    Tells environment f t ↔ ∃ v ∈ knownVariables, v.field = f ∧ textOf? environment v = some t := by
  constructor
  · rintro ⟨name, hsource, htext⟩
    have hknown : ∃ v ∈ knownVariables, v.field = f ∧ v.name = name := by
      cases f <;> cases hsource <;> simp [knownVariables]
    obtain ⟨v, hv, hfield, rfl⟩ := hknown
    exact ⟨v, hv, hfield, textOf?_eq_some.mpr htext⟩
  · rintro ⟨v, hv, rfl, htext⟩
    exact ⟨v.name, (convert_ok_iff hv).1, textOf?_eq_some.mp htext⟩

/-- Variables set their fields one after another, and no other fields. -/
theorem override_value {vs : List Variable} (hvs : (vs.map (·.field)).Nodup)
    (h : c.override environment vs = .ok c') (f : Field) :
    (∀ v ∈ vs, v.field = f → ∀ t, textOf? environment v = some t → v.convert t = .ok (c'.value f)) ∧
      ((∀ v ∈ vs, v.field = f → textOf? environment v = none) → c'.value f = c.value f) := by
  induction vs generalizing c with
  | nil =>
      cases h
      exact ⟨fun v hv => (List.not_mem_nil hv).elim, fun _ => rfl⟩
  | cons v vs ih =>
      obtain ⟨hfresh, hrest⟩ := List.nodup_cons.mp hvs
      rw [override] at h
      split at h
      · rename_i hnone
        obtain ⟨htold, hkept⟩ := ih hrest h
        constructor
        · intro u hu hfield t htext
          rcases List.mem_cons.mp hu with rfl | hu
          · rw [hnone] at htext
            cases htext
          · exact htold u hu hfield t htext
        · exact fun hall => hkept fun u hu => hall u (List.mem_cons_of_mem _ hu)
      · rename_i t hsome
        obtain ⟨d, hconvert, hlater⟩ := exists_of_bind_ok h
        obtain ⟨htold, hkept⟩ := ih hrest hlater
        constructor
        · intro u hu hfield t' htext
          rcases List.mem_cons.mp hu with rfl | hu
          · subst hfield
            -- no later variable sets the field again
            have hset : c'.value u.field = d := by
              refine (hkept fun w hw hsame => ?_).trans (if_pos rfl)
              exact absurd (List.mem_map.mpr ⟨w, hw, hsame⟩) hfresh
            rw [hsome] at htext
            cases htext
            rw [hset]
            exact hconvert
          · exact htold u hu hfield t' htext
        · intro hall
          have hother : f ≠ v.field := by
            rintro rfl
            rw [hall v List.mem_cons_self rfl] at hsome
            cases hsome
          rw [hkept fun u hu => hall u (List.mem_cons_of_mem _ hu)]
          exact if_neg hother

theorem override_ok_iff {vs : List Variable} :
    (∃ c', c.override environment vs = .ok c') ↔
      ∀ v ∈ vs, ∀ t, textOf? environment v = some t → ∃ d, v.convert t = .ok d := by
  induction vs generalizing c with
  | nil => exact iff_of_true ⟨c, rfl⟩ fun _ h => (List.not_mem_nil h).elim
  | cons v vs ih =>
      rw [override, List.forall_mem_cons]
      cases htext : textOf? environment v with
      | none =>
          dsimp only
          rw [ih]
          exact (and_iff_right fun t h => by cases h).symm
      | some t =>
          dsimp only
          constructor
          · rintro ⟨c', h⟩
            obtain ⟨d, hconvert, hlater⟩ := exists_of_bind_ok h
            refine ⟨?_, ih.mp ⟨c', hlater⟩⟩
            rintro _ ⟨⟩
            exact ⟨d, hconvert⟩
          · rintro ⟨hfirst, hrest⟩
            obtain ⟨d, hconvert⟩ := hfirst t rfl
            obtain ⟨c', hlater⟩ := ih.mpr hrest
            exact ⟨c', bind_ok_iff.mpr ⟨d, hconvert, hlater⟩⟩

/-! ## Loading -/

/-- The fields that a path supplies: those of the file that it leads to, and none without a path or
without a file there. -/
inductive Supplies (folder : Folder) : Option Text → List (Text × Document) → Prop
  | pathless : Supplies folder none []
  | absent {path : Text} : folder.read? path = .ok none → Supplies folder (some path) []
  | file {path : Text} {content : Bytes} {fields : List (Text × Document)} :
      folder.read? path = .ok (some content) → Toml.parseBytes content = .ok (.object fields) →
      Supplies folder (some path) fields

theorem load_eq {folder : Folder} {path : Option Text} (hfile : Supplies folder path fields) :
    load folder path environment =
      usual.mergeFile (.object fields) Section.all >>= fun c =>
        c.override environment knownVariables := by
  cases hfile with
  | pathless => rfl
  | absent hread =>
      unfold load
      dsimp only
      rw [hread]
      rfl
  | file hread hparse =>
      unfold load
      dsimp only
      rw [hread]
      show Toml.parseBytes _ >>= _ = _
      rw [hparse]
      rfl

/-- **Precedence.** A configuration is loaded unless a table has an entry that it must not have, or
what the environment tells is not understood. Then a field has the value that the environment tells;
if it tells nothing, the value of the last entry in the table of its part that names the field; and
if there is none, its default. The exception are tables in which a later entry gives all fields of
the part at once: the fields are then as that entry says, or have their defaults. -/
theorem load_value_unless_swept {folder : Folder} {path : Option Text}
    (hfile : Supplies folder path fields) (htabular : Tabular fields) :
    ((∃ c, load folder path environment = .ok c) ↔
      (∀ part, ∀ entry ∈ tableOf part fields, ¬Barred entry) ∧
        ∀ f t, Tells environment f t → ∃ d, f.Reads t d) ∧
    ∀ c, load folder path environment = .ok c → ∀ f : Field,
      (∀ t, Tells environment f t → f.Reads t (c.value f)) ∧
      ((∀ t, ¬Tells environment f t) →
        (∀ inner, Swept f (tableOf f.home fields) inner →
          c.value f = (Document.getField? f.name inner).getD f.default) ∧
        ((∀ inner, ¬Swept f (tableOf f.home fields) inner) →
          c.value f = (lastSaid? f (tableOf f.home fields)).getD f.default)) := by
  have hpart : ∀ part : Section, part ∈ Section.all := by
    intro part
    cases part <;> decide
  rw [load_eq hfile]
  constructor
  · constructor
    · rintro ⟨c, h⟩
      obtain ⟨between, hmerge, hoverride⟩ := exists_of_bind_ok h
      refine ⟨fun part => (mergeFile_ok_iff htabular).mp ⟨between, hmerge⟩ part (hpart part), ?_⟩
      intro f t htells
      obtain ⟨v, hv, rfl, htext⟩ := tells_iff.mp htells
      obtain ⟨d, hconvert⟩ := override_ok_iff.mp ⟨c, hoverride⟩ v hv t htext
      exact ⟨d, ((convert_ok_iff hv).2 t d).mp hconvert⟩
    · rintro ⟨htables, htold⟩
      obtain ⟨between, hmerge⟩ := (mergeFile_ok_iff (c := usual) htabular).mpr
        fun part _ => htables part
      obtain ⟨c, hoverride⟩ : ∃ c, between.override environment knownVariables = .ok c := by
        refine override_ok_iff.mpr fun v hv t htext => ?_
        obtain ⟨d, hreads⟩ := htold v.field t (tells_iff.mpr ⟨v, hv, rfl, htext⟩)
        exact ⟨d, ((convert_ok_iff hv).2 t d).mpr hreads⟩
      exact ⟨c, bind_ok_iff.mpr ⟨between, hmerge, hoverride⟩⟩
  · intro c h f
    obtain ⟨between, hmerge, hoverride⟩ := exists_of_bind_ok h
    obtain ⟨htold, hkept⟩ := override_value (by decide) hoverride f
    have hdecides := (mergeFile_value htabular (by decide) hmerge f).1 (hpart f.home)
    constructor
    · intro t htells
      obtain ⟨v, hv, rfl, htext⟩ := tells_iff.mp htells
      exact ((convert_ok_iff hv).2 t _).mp (htold v hv rfl t htext)
    · intro hnothing
      have hvalue : c.value f = between.value f := by
        refine hkept fun v hv hfield => ?_
        cases htext : textOf? environment v with
        | none => rfl
        | some t => exact absurd (tells_iff.mpr ⟨v, hv, hfield, htext⟩) (hnothing t)
      rw [hvalue]
      exact ⟨fun inner => hdecides.of_swept, hdecides.of_not_swept⟩

/-- A configuration that names the address of the node, and then gives all fields of the connection
at once. -/
def sweeping : List (Text × Document) :=
  [("backend", .object [("address", .text "x"), ("__dict__", .object [("address", .text "y")])])]

/-- A folder with that configuration. -/
def sweepingFolder : Folder where
  files := [("a.toml",
    ("[backend]\naddress = \"x\"\n__dict__ = \x7baddress = \"y\"\x7d\n".toList.map fun c =>
      UInt8.ofNat c.toNat))]

/-- The address is the one that was given with all fields, and not the one that was named. -/
theorem load_value_unless_swept_whole :
    Supplies sweepingFolder (some "a.toml") sweeping ∧ Tabular sweeping ∧
    lastSaid? .address (tableOf .node sweeping) = some (.text "x") ∧
    ∃ c, load sweepingFolder (some "a.toml") [("VOTEFLOW_LOG_LEVEL", "debug")] = .ok c ∧
      c.value .level = .text "DEBUG" ∧ c.value .address = .text "y" ∧
      c.value .timeout = Field.default .timeout := by
  have hfile : Supplies sweepingFolder (some "a.toml") sweeping := .file (by rfl) (by cbv)
  have htabular : Tabular sweeping := by
    intro part d hd
    cases part <;> cases hd
    exact ⟨_, rfl⟩
  have htold : Tells [("VOTEFLOW_LOG_LEVEL", "debug")] .level "debug" :=
    ⟨_, rfl, by decide, by decide⟩
  obtain ⟨c, hc⟩ : ∃ c, load sweepingFolder (some "a.toml")
      [("VOTEFLOW_LOG_LEVEL", "debug")] = .ok c := ⟨_, (load_eq hfile).trans rfl⟩
  have hvalue := (load_value_unless_swept hfile htabular).2 c hc
  have hswept : ∀ f : Field, Swept f (tableOf .node sweeping) [("address", .text "y")] :=
    fun f => ⟨[("address", .text "x")], "__dict__", [], rfl, by decide,
      fun _ h => (List.not_mem_nil h).elim⟩
  have hsilent : ∀ f : Field, f.home = .node →
      ∀ t, ¬Tells [("VOTEFLOW_LOG_LEVEL", "debug")] f t := by
    rintro f hhome t ⟨name, hsource, htext, _⟩
    cases f <;> cases hhome <;> cases hsource <;> cases htext
  refine ⟨hfile, htabular, rfl, c, hc, ?_, ?_, ?_⟩
  · exact (hvalue .level).1 _ htold
  · exact ((hvalue .address).2 (hsilent _ rfl)).1 _ (hswept _)
  · exact ((hvalue .timeout).2 (hsilent _ rfl)).1 _ (hswept _)

end BallotWallet.Config
