import BallotWallet.Log.Message
import BallotWallet.Proofs.Failing
import BallotWallet.Proofs.Shown

/-!
# What messages are made of

A message consists of code points of its template, of code points of texts among its arguments, of
letters that numbers among them stand for, and of printable characters. So whatever holds of all of
these holds of all that is in the message.
-/

namespace BallotWallet.Log

open Json (IsPrintable)
open Text (CodePoint)

variable {P : CodePoint → Prop}

/-! ## Arguments -/

/-- What goes from an argument into a message has a property, as far as it is not printable anyway:
the code points of a text, and the letter of a number. -/
def Brings (P : CodePoint → Prop) : Document → Prop
  | .text t => ∀ p ∈ t.points, P p
  | .int n => 0 ≤ n → n < 0x110000 → P (.ofNat n.toNat)
  | .bool b => P (.ofNat (if b then 1 else 0))
  | _ => True

/-- What is offered to the directives of a template: the arguments, and the fields of the only
one. -/
def Offered (args : List Document) (d : Document) : Prop :=
  d ∈ args ∨ ∃ fields, args = [.object fields] ∧ ∃ f ∈ fields, f.2 = d

/-- What a supply brings into a message has a property. -/
structure Supply.Brings (P : CodePoint → Prop) (supply : Supply) : Prop where
  items : ∀ d ∈ supply.items, Log.Brings P d
  fields : ∀ fields, supply.fields = some fields → ∀ f ∈ fields, Log.Brings P f.2

theorem brings_supplyOf {args : List Document} (h : ∀ d, Offered args d → Brings P d) :
    (supplyOf args).Brings P := by
  unfold supplyOf
  split
  · rename_i f fs
    refine ⟨fun d hd => h d (.inl hd), ?_⟩
    rintro _ ⟨⟩ g hg
    exact h g.2 (.inr ⟨_, rfl, g, hg, rfl⟩)
  · exact ⟨fun d hd => h d (.inl hd), nofun⟩

theorem Supply.Brings.next {supply supply' : Supply} {d : Document} (h : supply.Brings P)
    (hnext : supply.next = .ok (d, supply')) : Log.Brings P d ∧ supply'.Brings P := by
  unfold Supply.next at hnext
  split at hnext
  · rename_i first rest hitems
    cases hnext
    obtain ⟨hfirst, hrest⟩ := List.forall_mem_cons.mp (hitems ▸ h.items)
    exact ⟨hfirst, hrest, h.fields⟩
  · cases hnext

/-! ## Padding -/

theorem mem_padWith {α : Type} {blank : α} {d : Directive} {xs : List α} {x : α}
    (h : x ∈ padWith blank d xs) : x ∈ xs ∨ x = blank := by
  unfold padWith at h
  dsimp only at h
  split at h
  · rcases List.mem_append.mp h with h | h
    · exact .inl h
    · exact .inr (List.eq_of_mem_replicate h)
  · rcases List.mem_append.mp h with h | h
    · exact .inr (List.eq_of_mem_replicate h)
    · exact .inl h

theorem writeText_points (hblank : P (.char ' ')) {d : Directive} {t : Text}
    (ht : ∀ p ∈ t.points, P p) : ∀ p ∈ (writeText d t).points, P p := by
  intro p hp
  rcases mem_padWith hp with hp | rfl
  · split at hp
    · exact ht p (List.mem_of_mem_take hp)
    · exact ht p hp
  · exact hblank

theorem padNumber_printable {d : Directive} {negative : Bool} {mark ds : List Char}
    (hmark : ∀ c ∈ mark, IsPrintable c) (hds : ∀ c ∈ ds, IsPrintable c) :
    ∀ c ∈ padNumber d negative mark ds, IsPrintable c := by
  have hsign : ∀ c ∈ (if negative then ['-'] else if d.plus then ['+']
      else if d.blank then [' '] else [] : List Char), IsPrintable c := by
    intro c hc
    split at hc
    · exact List.mem_singleton.mp hc ▸ (by decide)
    · split at hc
      · exact List.mem_singleton.mp hc ▸ (by decide)
      · split at hc
        · exact List.mem_singleton.mp hc ▸ (by decide)
        · exact (List.not_mem_nil hc).elim
  have hfront : ∀ c ∈ (if negative then ['-'] else if d.plus then ['+']
      else if d.blank then [' '] else [] : List Char) ++ mark, IsPrintable c :=
    List.forall_mem_append.mpr ⟨hsign, hmark⟩
  intro c hc
  unfold padNumber at hc
  dsimp only at hc
  split at hc
  · rw [List.append_assoc] at hc
    rcases List.mem_append.mp hc with hc | hc
    · exact hfront c hc
    · exact isPrintable_of_mem_zeros hds hc
  · rcases mem_padWith hc with hc | rfl
    · rcases List.mem_append.mp hc with hc | hc
      · exact hfront c hc
      · exact hds c hc
    · decide

/-! ## Numbers -/

theorem digitsIn_printable {base least n : Nat} (hbase : 1 < base) (hsixteen : base ≤ 16) :
    ∀ c ∈ digitsIn base least n, IsPrintable c :=
  fun _ => isPrintable_of_mem_zeros fun _ => isPrintable_of_mem_toDigits hbase hsixteen

theorem withPoint_printable (alternate : Bool) (places n : Nat) :
    ∀ c ∈ withPoint alternate places n, IsPrintable c := by
  have hds : ∀ c ∈ digitsIn 10 (places + 1) n, IsPrintable c :=
    digitsIn_printable (by decide) (by decide)
  have hwhole : ∀ k, ∀ c ∈ (digitsIn 10 (places + 1) n).take k, IsPrintable c :=
    fun k c hc => hds c (List.mem_of_mem_take hc)
  unfold withPoint
  dsimp only
  split
  · split
    · exact List.forall_mem_append.mpr ⟨hwhole _, List.forall_mem_singleton.mpr (by decide)⟩
    · exact hwhole _
  · exact List.forall_mem_append.mpr ⟨hwhole _, List.forall_mem_cons.mpr
      ⟨by decide, fun c hc => hds c (List.mem_of_mem_drop hc)⟩⟩

theorem exponent_printable {cs : List Char} (hcs : ∀ c ∈ cs, IsPrintable c) (e : Int) :
    ∀ c ∈ cs ++ 'e' :: (Binary64.exponentText e).toList, IsPrintable c :=
  List.forall_mem_append.mpr ⟨hcs, List.forall_mem_cons.mpr
    ⟨by decide, Binary64.consists_exponentText e⟩⟩

theorem dropZeros_printable {cs : List Char} (hcs : ∀ c ∈ cs, IsPrintable c) :
    ∀ c ∈ dropZeros cs, IsPrintable c := by
  unfold dropZeros
  split
  · exact fun c hc => hcs c (Binary64.mem_of_mem_dropEndWhile (Binary64.mem_of_mem_dropEndWhile hc))
  · exact hcs

theorem generalForm_printable (alternate : Bool) (precision num den : Nat) :
    ∀ c ∈ generalForm alternate precision num den, IsPrintable c := by
  have htidy : ∀ cs : List Char, (∀ c ∈ cs, IsPrintable c) →
      ∀ c ∈ (if alternate then cs else dropZeros cs), IsPrintable c := by
    intro cs hcs
    split
    · exact hcs
    · exact dropZeros_printable hcs
  unfold generalForm
  dsimp only
  split
  · exact htidy _ (withPoint_printable _ _ _)
  · exact exponent_printable (htidy _ (withPoint_printable _ _ _)) _

theorem floatForm_printable (d : Directive) (form : Char) (x : Binary64) :
    ∀ c ∈ floatForm d form x, IsPrintable c := by
  unfold floatForm
  split
  · exact (by decide : Consists IsPrintable "nan")
  · exact (by decide : Consists IsPrintable "inf")
  · dsimp only
    split
    · exact withPoint_printable _ _ _
    · split
      · exact exponent_printable (withPoint_printable _ _ _) _
      · exact generalForm_printable _ _ _ _

theorem writeWhole_printable {d : Directive} {base : Nat} {mark : List Char} {n : Int}
    (hbase : 1 < base) (hsixteen : base ≤ 16) (hmark : ∀ c ∈ mark, IsPrintable c) :
    ∀ c ∈ writeWhole d base mark n, IsPrintable c := by
  refine padNumber_printable ?_ (digitsIn_printable hbase hsixteen)
  split
  · exact hmark
  · exact nofun

theorem toUpper_printable {cs : List Char} (hcs : ∀ c ∈ cs, IsPrintable c) :
    ∀ c ∈ cs.map Char.toUpper, IsPrintable c := by
  have hupper : ∀ n : Fin 0x7f, IsPrintable (Char.ofNat n.val) →
      IsPrintable (Char.ofNat n.val).toUpper := by
    decide
  intro c hc
  obtain ⟨b, hb, rfl⟩ := List.mem_map.mp hc
  have hprintable := hcs b hb
  have h := hupper ⟨b.toNat, Nat.lt_of_le_of_lt hprintable.2 (by decide)⟩
  rw [Char.ofNat_toNat] at h
  exact h hprintable

/-- Numbers are written in printable characters, whatever the form. -/
theorem writeNumber_printable {d : Directive} {form : Char} {arg : Document} {cs : List Char}
    (h : writeNumber d form arg = .ok cs) : ∀ c ∈ cs, IsPrintable c := by
  have hhex : ∀ c ∈ ['0', 'x'], IsPrintable c :=
    List.forall_mem_cons.mpr ⟨by decide, List.forall_mem_singleton.mpr (by decide)⟩
  have hoctal : ∀ c ∈ ['0', 'o'], IsPrintable c :=
    List.forall_mem_cons.mpr ⟨by decide, List.forall_mem_singleton.mpr (by decide)⟩
  unfold writeNumber at h
  split at h
  · obtain ⟨n, _, hn⟩ := exists_of_bind_ok h
    split at hn
    · cases hn
      exact writeWhole_printable (by decide) (by decide) nofun
    · cases hn
  · split at h
    · obtain ⟨n, _, rfl⟩ := exists_of_map_ok h
      exact writeWhole_printable (by decide) (by decide) hhex
    · split at h
      · obtain ⟨n, _, rfl⟩ := exists_of_map_ok h
        exact toUpper_printable (writeWhole_printable (by decide) (by decide) hhex)
      · split at h
        · obtain ⟨n, _, rfl⟩ := exists_of_map_ok h
          exact writeWhole_printable (by decide) (by decide) hoctal
        · split at h
          · obtain ⟨x, _, hx⟩ := exists_of_bind_ok h
            have hcs : ∀ c ∈ padNumber d (x.negative && !x.isNaN) [] (floatForm d form.toLower x),
                IsPrintable c :=
              padNumber_printable nofun (floatForm_printable _ _ _)
            dsimp only at hx
            cases hx
            split
            · exact toUpper_printable hcs
            · exact hcs
          · cases h

/-- Characters beyond ASCII are escaped by printable ones. -/
theorem asciiForm_consists {s : String} (h : Consists (Text.isPrintable · = true) s) :
    Consists (Text.isPrintable · = true) (asciiForm s) := by
  have hescape : ∀ {c e : Char} {width n : Nat}, Text.isPrintable e = true →
      c ∈ '\\' :: e :: (Hex.ofNat width n).toList → Text.isPrintable c = true :=
    fun he => Text.isPrintable_of_mem_escape he (consists_hex _ _)
  refine .ofList fun c hc => ?_
  obtain ⟨b, hb, hc⟩ := List.mem_flatMap.mp hc
  split at hc
  · exact List.mem_singleton.mp hc ▸ h b hb
  · split at hc
    · exact hescape (by decide) hc
    · split at hc
      · exact hescape (by decide) hc
      · exact hescape (by decide) hc

/-! ## Directives -/

/-- The letter of an argument is one of those that it brings. -/
theorem letter_points {arg : Document} {t : Text} (harg : Brings P arg) (h : letter arg = .ok t) :
    ∀ p ∈ t.points, P p := by
  unfold letter at h
  split at h
  · cases h
    exact harg
  · split at h
    · rename_i hrange
      cases h
      rw [Bool.and_eq_true, decide_eq_true_eq, decide_eq_true_eq] at hrange
      exact List.forall_mem_singleton.mpr (harg hrange.1 hrange.2)
    · cases h
  · cases h
    exact List.forall_mem_singleton.mpr harg
  · cases h

section Directives

variable (hprintable : ∀ c, Text.isPrintable c = true → P (.char c))

include hprintable

theorem ofString_points {s : String} (h : Consists (Text.isPrintable · = true) s) :
    ∀ p ∈ (Text.ofString s).points, P p := by
  intro p hp
  obtain ⟨c, hc, rfl⟩ := List.mem_map.mp hp
  exact hprintable c (h c hc)

theorem display_points {d : Document} (hd : Brings P d) : ∀ p ∈ d.display.points, P p := by
  unfold Document.display
  split
  · exact hd
  · exact ofString_points hprintable
      ((Time.Moment.consists_text (by decide) _).mono fun _ => Text.isPrintable_of_ascii)
  · exact ofString_points hprintable (Document.consists_shown _)

theorem write_points {d : Directive} {form : Char} {arg : Document} {t : Text}
    (harg : Brings P arg) (h : write d form arg = .ok t) : ∀ p ∈ t.points, P p := by
  have hblank : P (.char ' ') := hprintable _ (by decide)
  have hwritable : ∀ {x : Document}, arg.writable = .ok x → x = arg := by
    intro x hx
    unfold Document.writable at hx
    split at hx
    · cases hx
      rfl
    · cases hx
  unfold write at h
  split at h
  · obtain ⟨x, hx, rfl⟩ := exists_of_map_ok h
    exact writeText_points hblank (hwritable hx ▸ display_points hprintable harg)
  · split at h
    · obtain ⟨x, hx, rfl⟩ := exists_of_map_ok h
      exact writeText_points hblank (ofString_points hprintable (Document.consists_shown _))
    · split at h
      · obtain ⟨x, hx, rfl⟩ := exists_of_map_ok h
        exact writeText_points hblank (ofString_points hprintable
          (asciiForm_consists (Document.consists_shown _)))
      · split at h
        · obtain ⟨x, hx, rfl⟩ := exists_of_map_ok h
          exact writeText_points hblank (letter_points harg hx)
        · obtain ⟨cs, hcs, rfl⟩ := exists_of_map_ok h
          intro p hp
          obtain ⟨c, hc, rfl⟩ := List.mem_map.mp hp
          exact hprintable c (Text.isPrintable_of_ascii (writeNumber_printable hcs c hc))

end Directives

/-! ## Reading directives -/

theorem readFlags_suffix (d : Directive) (ps : List CodePoint) : (readFlags d ps).2 <:+ ps := by
  fun_induction readFlags d ps with
  | case1 d ps ih => exact ih.trans (List.suffix_cons _ _)
  | case2 d ps ih => exact ih.trans (List.suffix_cons _ _)
  | case3 d ps ih => exact ih.trans (List.suffix_cons _ _)
  | case4 d ps ih => exact ih.trans (List.suffix_cons _ _)
  | case5 d ps ih => exact ih.trans (List.suffix_cons _ _)
  | case6 => exact List.suffix_refl _

theorem readName?_suffix {depth : Nat} {ps name rest : List CodePoint}
    (h : readName? depth ps = some (name, rest)) : rest <:+ ps := by
  induction ps generalizing depth name with
  | nil => cases h
  | cons p ps ih =>
      unfold readName? at h
      split at h
      · cases h
        exact List.suffix_cons _ _
      · obtain ⟨⟨inner, after⟩, hinner, heq⟩ := Option.map_eq_some_iff.mp h
        cases heq
        exact (ih hinner).trans (List.suffix_cons _ _)

/-- What is left of a template and of its supply: code points at the end, and arguments that bring
nothing else. -/
def Leaves (P : CodePoint → Prop) (ps : List CodePoint) (left : Supply × List CodePoint) : Prop :=
  left.1.Brings P ∧ left.2 <:+ ps

theorem select_leaves {supply : Supply} {ps : List CodePoint} {left : Supply × List CodePoint}
    (hsupply : supply.Brings P) (h : select supply ps = .ok left) : Leaves P ps left := by
  unfold select at h
  split at h
  · split at h
    · cases h
    · rename_i fields hfields
      split at h
      · cases h
      · rename_i name rest hname
        split at h
        · rename_i d hfield
          cases h
          refine ⟨⟨?_, hsupply.fields⟩, (readName?_suffix hname).trans (List.suffix_cons _ _)⟩
          have hmem := Document.mem_of_getField? hfield
          exact List.forall_mem_singleton.mpr (hsupply.fields fields hfields _ hmem)
        · cases h
  · cases h
    exact ⟨hsupply, List.suffix_refl _⟩

theorem readAmount_leaves {limit : Nat} {supply : Supply} {ps : List CodePoint} {n : Int}
    {left : Supply × List CodePoint} (hsupply : supply.Brings P)
    (h : readAmount limit supply ps = .ok (n, left)) : Leaves P ps left := by
  unfold readAmount at h
  split at h
  · obtain ⟨⟨d, supply'⟩, hnext, h⟩ := exists_of_bind_ok h
    have hleft := (hsupply.next hnext).2
    cases d with
    | int n =>
        dsimp only at h
        split at h
        · cases h
        · cases h
          exact ⟨hleft, List.suffix_cons _ _⟩
    | bool b =>
        cases h
        exact ⟨hleft, List.suffix_cons _ _⟩
    | _ => cases h
  · dsimp only at h
    split at h
    · cases h
    · cases h
      exact ⟨hsupply, List.drop_suffix _ _⟩

theorem readPrecision_leaves {supply : Supply} {ps : List CodePoint} {precision : Option Nat}
    {left : Supply × List CodePoint} (hsupply : supply.Brings P)
    (h : readPrecision supply ps = .ok (precision, left)) : Leaves P ps left := by
  unfold readPrecision at h
  split at h
  · obtain ⟨⟨n, supply', ps'⟩, hread, heq⟩ := exists_of_bind_ok h
    cases heq
    obtain ⟨hbrings, hsuffix⟩ := readAmount_leaves hsupply hread
    exact ⟨hbrings, hsuffix.trans (List.suffix_cons _ _)⟩
  · cases h
    exact ⟨hsupply, List.suffix_refl _⟩

theorem skipSizeMark_suffix (ps : List CodePoint) : skipSizeMark ps <:+ ps := by
  cases ps with
  | nil => exact List.suffix_refl _
  | cons p ps =>
      rw [skipSizeMark]
      split
      · exact List.suffix_cons _ _
      · exact List.suffix_refl _

section Templates

variable (hprintable : ∀ c, Text.isPrintable c = true → P (.char c))

include hprintable

theorem writeNext_points {d : Directive} {supply : Supply} {ps : List CodePoint} {written : Text}
    {left : Supply × List CodePoint} (hsupply : supply.Brings P)
    (h : writeNext d supply ps = .ok (written, left)) :
    (∀ p ∈ written.points, P p) ∧ Leaves P ps left := by
  unfold writeNext at h
  split at h
  · cases h
  · obtain ⟨⟨arg, supply'⟩, hnext, h⟩ := exists_of_bind_ok h
    obtain ⟨harg, hleft⟩ := hsupply.next hnext
    dsimp only at h
    split at h
    · obtain ⟨t, hwrite, heq⟩ := exists_of_bind_ok h
      cases heq
      exact ⟨write_points hprintable harg hwrite, hleft, List.suffix_cons _ _⟩
    · cases h

/-- A directive writes what its argument brings, and leaves the rest of the template. -/
theorem directive_points {supply : Supply} {ps : List CodePoint} {written : Text}
    {left : Supply × List CodePoint} (hsupply : supply.Brings P)
    (h : directive supply ps = .ok (written, left)) :
    (∀ p ∈ written.points, P p) ∧ Leaves P ps left := by
  obtain ⟨⟨selected, ps₁⟩, hselect, h⟩ := exists_of_bind_ok h
  obtain ⟨⟨width, widened, ps₂⟩, hwidth, h⟩ := exists_of_bind_ok h
  obtain ⟨⟨precision, refined, ps₃⟩, hprecision, h⟩ := exists_of_bind_ok h
  obtain ⟨hselected, hsuffix₁⟩ := select_leaves hsupply hselect
  obtain ⟨hwidened, hsuffix₂⟩ := readAmount_leaves hselected hwidth
  obtain ⟨hrefined, hsuffix₃⟩ := readPrecision_leaves hwidened hprecision
  obtain ⟨hwritten, hleft, hsuffix⟩ := writeNext_points hprintable hrefined h
  have hflags := readFlags_suffix {} ps₁
  have hmark := skipSizeMark_suffix ps₃
  exact ⟨hwritten, hleft,
    ((((hsuffix.trans hmark).trans hsuffix₃).trans hsuffix₂).trans hflags).trans hsuffix₁⟩

theorem fillFrom_points {fuel : Nat} {supply : Supply} {ps filled : List CodePoint}
    (hsupply : supply.Brings P) (hps : ∀ p ∈ ps, P p) (h : fillFrom fuel supply ps = .ok filled) :
    ∀ p ∈ filled, P p := by
  induction fuel generalizing supply ps filled with
  | zero => cases h
  | succ fuel ih =>
      cases ps with
      | nil =>
          unfold fillFrom at h
          split at h
          · cases h
          · cases h
            exact nofun
      | cons p ps =>
          obtain ⟨hp, hrest⟩ := List.forall_mem_cons.mp hps
          unfold fillFrom at h
          split at h
          · split at h
            · rename_i rest
              obtain ⟨more, hmore, heq⟩ := exists_of_bind_ok h
              cases heq
              obtain ⟨hpercent, hrest⟩ := List.forall_mem_cons.mp hrest
              exact List.forall_mem_cons.mpr ⟨hpercent, ih hsupply hrest hmore⟩
            · obtain ⟨⟨written, supply', rest⟩, hdirective, h⟩ := exists_of_bind_ok h
              obtain ⟨more, hmore, heq⟩ := exists_of_bind_ok h
              cases heq
              obtain ⟨hwritten, hleft, hsuffix⟩ := directive_points hprintable hsupply hdirective
              exact List.forall_mem_append.mpr
                ⟨hwritten, ih hleft (fun q hq => hrest q (hsuffix.subset hq)) hmore⟩
          · obtain ⟨more, hmore, heq⟩ := exists_of_bind_ok h
            cases heq
            exact List.forall_mem_cons.mpr ⟨hp, ih hsupply hrest hmore⟩

/-- **What a message is made of.** What holds of printable characters, of the code points of the
template and of what the arguments bring holds of all code points of the message. -/
theorem message_points {template m : Text} {args : List Document}
    (h : message template args = .ok m) (htemplate : ∀ p ∈ template.points, P p)
    (hargs : ∀ d, Offered args d → Brings P d) : ∀ p ∈ m.points, P p := by
  unfold message at h
  split at h
  · cases h
    exact htemplate
  · cases hfill : fillFrom (template.points.length + 1) (supplyOf args) template.points with
    | error e =>
        rw [hfill] at h
        cases h
    | ok filled =>
        rw [hfill] at h
        cases h
        exact fillFrom_points hprintable (brings_supplyOf hargs) htemplate hfill

end Templates

end BallotWallet.Log
