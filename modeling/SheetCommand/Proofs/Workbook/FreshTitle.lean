import Mathlib.Data.Nat.Digits.Defs
import SheetCommand.Proofs.Number.Whole
import SheetCommand.Proofs.Text.NameChars
import SheetCommand.Workbook.Title

/-!
# Workbook — the title that is chosen

A title that is taken gets a number, which is found in a scan over all titles joined by commas and
is not compared with them afterwards. If the wanted title can have no comma in an occurrence, the
scan stays in step with the titles: no occurrence reaches beyond a comma, so the scan tries every
title from its first character (`counters_suffix`). The digits behind the wanted title in any other
title are then among those that the number exceeds, and the chosen title is no title of the list
(`fresh_not_mem`).

The numbers behind titles lie inside titles. So a title can be chosen as long as the titles are
shorter than the longest integer that can be written (`fresh_ne_error`).
-/

namespace SheetCommand.Title

open Text

variable {wanted text rest x : List Char} {titles : List String} {title : String}

/-! ### Commas -/

/-- No letter of the text agrees with a comma. -/
def CommaFree (wanted : List Char) : Prop := ∀ c ∈ wanted, sameLetter c ',' = false

theorem equivalents_not_comma : ∀ e ∈ equivalents, 44 ∉ e.2 := by decide +kernel

theorem sameLetter_comma {c : Char} (h : simpleLower c ≠ 44) : sameLetter c ',' = false := by
  have hcomma : simpleLower ',' = 44 := by decide
  have hvariants : 44 ∉ (equivalents.lookup (simpleLower c)).getD [] := by
    cases hl : equivalents.lookup (simpleLower c) with
    | none => simp
    | some codes =>
      obtain ⟨before, after, hsplit, -⟩ := List.lookup_eq_some_iff.mp hl
      exact equivalents_not_comma (simpleLower c, codes) (by rw [hsplit]; simp)
  simp [sameLetter, hcomma, h, hvariants]

theorem simpleLower_ne_comma {c : Char} (h : 128 ≤ c.toNat) : simpleLower c ≠ 44 := by
  unfold simpleLower lowerChar
  rw [if_neg (Nat.not_lt.mpr h)]
  split
  · simp
  · split
    · rename_i n hn
      have hlow := le_of_send? lowerRuns_targets hn
      intro hcomma
      rcases toNat_ofNat n with hcode | hcode <;> simp only [List.headD_cons] at hcomma <;> omega
    · intro hcomma
      simp only [List.headD_cons] at hcomma
      omega

theorem small_ne_comma : ∀ n < 128, isNameChar (Char.ofNat n) = true →
    simpleLower (Char.ofNat n) ≠ 44 := by
  decide

theorem commaFree_of_isName (h : IsName wanted) : CommaFree wanted := fun c hc =>
  sameLetter_comma (of_isNameChar (P := fun c => simpleLower c ≠ 44) (h c hc)
    simpleLower_ne_comma small_ne_comma)

/-! ### The scan stays in step -/

theorem suffix_of_suffix_cons {c : Char} (h : ',' :: rest <:+ c :: text) (hc : c ≠ ',') :
    ',' :: rest <:+ text :=
  (List.suffix_cons_iff.mp h).resolve_left fun e => hc (List.cons.inj e).1.symm

/-- An occurrence does not reach beyond a comma. -/
theorem suffix_after? (hfree : CommaFree wanted) {left : List Char}
    (h : after? wanted text = some left) (hrest : ',' :: rest <:+ text) : ',' :: rest <:+ left := by
  induction wanted generalizing text with
  | nil => exact Option.some.inj h ▸ hrest
  | cons c wanted ih =>
    cases text with
    | nil => cases h
    | cons d text =>
      rw [after?] at h
      split at h
      case isFalse => cases h
      case isTrue hsame =>
        refine ih (fun e he => hfree e (List.mem_cons_of_mem _ he)) h
          (suffix_of_suffix_cons hrest ?_)
        rintro rfl
        rw [hfree c List.mem_cons_self] at hsame
        cases hsame

/-- Nor do its digits. -/
theorem suffix_takeDigits (h : ',' :: rest <:+ text) : ',' :: rest <:+ (takeDigits text).2 := by
  induction text with
  | nil => exact h
  | cons c text ih =>
    cases hc : digitValue? c with
    | none => rwa [takeDigits_cons_of_none hc]
    | some d =>
      rw [takeDigits_cons_of_some hc]
      refine ih (suffix_of_suffix_cons h ?_)
      rintro rfl
      rw [show digitValue? ',' = none by decide] at hc
      cases hc

theorem length_le_dropComma (text : List Char) : text.length ≤ (dropComma text).length + 1 := by
  unfold dropComma
  split <;> simp

/-- **The scan stays in step**: if what is taken already ends at the latest with a comma, the scan
goes on right behind that comma. -/
theorem counters_suffix (hfree : CommaFree wanted) (hne : wanted ≠ []) {skip : Nat}
    (hrest : ',' :: rest <:+ text) (hskip : skip + rest.length ≤ text.length) :
    counters wanted 0 rest <:+ counters wanted skip text := by
  induction text generalizing skip with
  | nil => exact absurd (List.eq_nil_of_suffix_nil hrest) (by simp)
  | cons c text ih =>
    rw [counters]
    split
    · -- a character that is taken already; at the comma it is the last one
      rename_i htaken
      rcases List.suffix_cons_iff.mp hrest with hcomma | hlater
      · obtain ⟨-, rfl⟩ := List.cons.inj hcomma
        have hlast : skip - 1 = 0 := by rw [List.length_cons] at hskip; omega
        exact hlast ▸ List.suffix_refl _
      · exact ih hlater (by rw [List.length_cons] at hskip; omega)
    · split
      · rcases List.suffix_cons_iff.mp hrest with hcomma | hlater
        · exact (List.cons.inj hcomma).2 ▸ List.suffix_refl _
        · exact ih hlater (by have := hlater.length_le; rw [List.length_cons] at this; omega)
      · -- an occurrence begins before the comma and ends there at the latest
        rename_i left hleft
        have hlater : ',' :: rest <:+ text := by
          refine suffix_of_suffix_cons hrest ?_
          rintro rfl
          obtain ⟨d, wanted', rfl⟩ := List.exists_cons_of_ne_nil hne
          rw [after?, hfree d List.mem_cons_self] at hleft
          cases hleft
        have hend := (suffix_takeDigits (suffix_after? hfree hleft hrest)).length_le
        have hcomma := length_le_dropComma (takeDigits left).2
        have hlen := hlater.length_le
        rw [List.length_cons] at hend hlen
        exact (ih hlater (by omega)).trans (List.suffix_cons _ _)

/-! ### Titles among titles -/

/-- Nothing, or a comma and what follows it. -/
def Ends (back : List Char) : Prop := back = [] ∨ ∃ rest, back = ',' :: rest

theorem join_cons_cons (first second : List Char) (texts : List (List Char)) :
    join [','] (first :: second :: texts) = first ++ ',' :: join [','] (second :: texts) := by
  simp [join]

/-- The scan comes by the start of every text that is joined with others. -/
theorem exists_counters_suffix (hfree : CommaFree wanted) (hne : wanted ≠ [])
    {texts : List (List Char)} (hmem : text ∈ texts) :
    ∃ back, Ends back ∧ counters wanted 0 (text ++ back) <:+ counters wanted 0 (join [','] texts) := by
  induction texts with
  | nil => cases hmem
  | cons first texts ih =>
    cases texts with
    | nil =>
      obtain rfl := List.mem_singleton.mp hmem
      exact ⟨[], .inl rfl, by rw [List.append_nil]; exact List.suffix_refl _⟩
    | cons second texts =>
      rw [join_cons_cons]
      rcases List.mem_cons.mp hmem with rfl | hlater
      · exact ⟨_, .inr ⟨_, rfl⟩, List.suffix_refl _⟩
      · obtain ⟨back, hback, hsuffix⟩ := ih hlater
        refine ⟨back, hback, hsuffix.trans (counters_suffix hfree hne (List.suffix_append _ _) ?_)⟩
        rw [List.length_append, List.length_cons]
        omega

/-- The digits that stand behind the wanted title in some title are among those that are found. -/
theorem exists_mem_counters (hfree : CommaFree wanted) (hne : wanted ≠ [])
    (hmem : title ∈ titles) (htitle : title.toList = wanted ++ x) :
    ∃ back, Ends back ∧
      (takeDigits (x ++ back)).1 ∈ counters wanted 0 (join [','] (titles.map (·.toList))) := by
  obtain ⟨back, hback, hsuffix⟩ :=
    exists_counters_suffix hfree hne (List.mem_map.mpr ⟨title, hmem, rfl⟩)
  refine ⟨back, hback, hsuffix.subset ?_⟩
  rw [htitle, List.append_assoc]
  obtain ⟨c, wanted', rfl⟩ := List.exists_cons_of_ne_nil hne
  have hafter := after?_self (c :: wanted') (x ++ back)
  rw [List.cons_append] at hafter ⊢
  rw [counters, hafter]
  exact List.mem_cons_self

theorem takeDigits_decimal_append {n : Nat} {back : List Char} (h : Ends back) :
    digitsValue (takeDigits (decimal n ++ back)).1 = n := by
  obtain ⟨digits, hdigits, hvalue⟩ := exists_takeDigits_decimal n
  have hback : (takeDigits back).1 = [] := by
    rcases h with rfl | ⟨rest, rfl⟩
    · rfl
    · rw [takeDigits_cons_of_none (by decide)]
  rw [takeDigits_append hdigits, hback, List.append_nil, hvalue]

theorem foldl_max_le_iff {ns : List Nat} {first bound : Nat} :
    ns.foldl max first ≤ bound ↔ first ≤ bound ∧ ∀ n ∈ ns, n ≤ bound := by
  induction ns generalizing first with
  | nil => simp
  | cons n ns ih => rw [List.foldl_cons, ih, Nat.max_le, List.forall_mem_cons, and_assoc]

/-- The digits that the scan finds behind a wanted title. -/
def runs (titles : List String) (wanted : String) : List (List Nat) :=
  counters wanted.toList 0 (join [','] (titles.map (·.toList)))

/-- Some sheet has the title, in whatever case. -/
def Taken (titles : List String) (wanted : String) : Prop :=
  ∃ title ∈ titles, sameCase title.toList wanted.toList = true

instance (titles : List String) (wanted : String) : Decidable (Taken titles wanted) :=
  inferInstanceAs (Decidable (∃ title ∈ titles, sameCase title.toList wanted.toList = true))

theorem taken_of_mem {wanted : String} (h : wanted ∈ titles) : Taken titles wanted :=
  ⟨wanted, h, by simp [sameCase]⟩

theorem ne_append_decimal (wanted : String) (n : Nat) : wanted ≠ wanted ++ .ofList (decimal n) := by
  intro h
  have hlist := congrArg String.toList h
  rw [String.toList_append, String.toList_ofList] at hlist
  exact decimal_ne_nil n (List.self_eq_append_right.mp hlist)

/-- A title that no sheet has in any case, or that the scan does not find, is chosen as it is. Any
other gets a number beyond all that the scan has found. -/
theorem fresh_eq_ok {wanted : String} (h : fresh titles wanted = .ok title) :
    (title = wanted ∧ (Taken titles wanted → runs titles wanted = [])) ∨
      ∃ n, title = wanted ++ .ofList (decimal (n + 1)) ∧
        ∀ digits ∈ runs titles wanted, digitsValue digits ≤ n := by
  unfold fresh at h
  dsimp only at h
  split at h
  · split at h
    · rename_i hempty
      exact .inl ⟨(Except.ok.inj h).symm, fun _ => List.isEmpty_iff.mp hempty⟩
    · split at h
      · cases h
      · split at h
        · cases h
        · refine .inr ⟨_, (Except.ok.inj h).symm, fun digits hdigits => ?_⟩
          have hmax := foldl_max_le_iff.mp (Nat.le_refl
            (((runs titles wanted).map digitsValue).foldl max 0))
          exact hmax.2 _ (List.mem_map_of_mem hdigits)
  · rename_i hnone
    exact .inl ⟨(Except.ok.inj h).symm, fun htaken => absurd (List.any_eq_true.mpr htaken) hnone⟩

/-- Which titles are chosen as they are. -/
theorem fresh_eq_wanted_iff {wanted : String} :
    fresh titles wanted = .ok wanted ↔ (Taken titles wanted → runs titles wanted = []) := by
  constructor
  · intro h
    rcases fresh_eq_ok h with ⟨-, hruns⟩ | ⟨n, hnumber, -⟩
    · exact hruns
    · exact absurd hnumber (ne_append_decimal wanted (n + 1))
  · intro h
    unfold fresh
    dsimp only
    split
    · rename_i htaken
      rw [if_pos]
      exact List.isEmpty_iff.mpr (h (List.any_eq_true.mp htaken))
    · rfl

/-- **The chosen title** is not one of the titles. -/
theorem fresh_not_mem {wanted : String} (hfree : CommaFree wanted.toList) (hne : wanted.toList ≠ [])
    (h : fresh titles wanted = .ok title) : title ∉ titles := by
  intro hmem
  rcases fresh_eq_ok h with ⟨rfl, hruns⟩ | ⟨n, rfl, hruns⟩
  · -- the title is an occurrence of itself
    obtain ⟨back, -, hcount⟩ :=
      exists_mem_counters (x := []) hfree hne hmem (List.append_nil _).symm
    rw [show counters title.toList 0 _ = [] from hruns (taken_of_mem hmem)] at hcount
    cases hcount
  · -- the number exceeds the one that the scan has found in the title itself
    obtain ⟨back, hback, hcount⟩ :=
      exists_mem_counters hfree hne hmem (by rw [String.toList_append, String.toList_ofList])
    have hle := hruns _ hcount
    rw [takeDigits_decimal_append hback] at hle
    omega

/-- A name without marks is given to the sheet that has it, and else chosen. -/
theorem assign_of_valid {wanted : String} (hne : wanted ≠ "")
    (hmarks : ∀ c ∈ wanted.toList, c ∉ marks) (current : Option String) :
    assign titles current wanted =
      if current = some wanted then .ok wanted else fresh titles wanted := by
  have hfind : wanted.toList.find? (fun c => marks.contains c) = none :=
    List.find?_eq_none.mpr fun c hc hmark => hmarks c hc (List.contains_iff_mem.mp hmark)
  rw [assign, if_neg (by simpa using hne), hfind]

/-- A sheet gets its own title or one that no sheet has. -/
theorem assign_not_mem {wanted : String} {current : Option String} (hfree : CommaFree wanted.toList)
    (h : assign titles current wanted = .ok title) : current = some title ∨ title ∉ titles := by
  unfold assign at h
  split at h
  · cases h
  · rename_i hne
    split at h
    · cases h
    · split at h
      · rename_i hcurrent
        exact .inl (hcurrent.trans (congrArg some (Except.ok.inj h)))
      · exact .inr (fresh_not_mem hfree (by simpa using hne) h)

/-! ### The choice succeeds -/

theorem after?_suffix {left : List Char} (h : after? wanted text = some left) : left <:+ text := by
  induction wanted generalizing text with
  | nil => exact Option.some.inj h ▸ List.suffix_refl _
  | cons c wanted ih =>
    cases text with
    | nil => cases h
    | cons d text =>
      rw [after?] at h
      split at h
      · exact (ih h).trans (List.suffix_cons d text)
      · cases h

/-- The digits that are taken from a text are its beginning. -/
theorem exists_takeDigits (text : List Char) :
    ∃ run, run <+: text ∧ takeDigits run = ((takeDigits text).1, []) := by
  induction text with
  | nil => exact ⟨[], List.nil_prefix, rfl⟩
  | cons c text ih =>
    cases hc : digitValue? c with
    | none =>
      rw [takeDigits_cons_of_none hc]
      exact ⟨[], List.nil_prefix, rfl⟩
    | some d =>
      obtain ⟨run, hrun, hdigits⟩ := ih
      refine ⟨c :: run, List.cons_prefix_cons.mpr ⟨rfl, hrun⟩, ?_⟩
      rw [takeDigits_cons_of_some hc, takeDigits_cons_of_some hc, hdigits]

theorem exists_run_of_mem_counters {skip : Nat} {digits : List Nat}
    (h : digits ∈ counters wanted skip text) :
    ∃ run, run <:+: text ∧ takeDigits run = (digits, []) := by
  have later : ∀ {c : Char} {text : List Char}, (∃ run, run <:+: text ∧ takeDigits run = (digits, [])) →
      ∃ run, run <:+: c :: text ∧ takeDigits run = (digits, []) := fun ⟨run, hrun, hdigits⟩ =>
    ⟨run, hrun.trans (List.suffix_cons _ _).isInfix, hdigits⟩
  induction text generalizing skip with
  | nil => cases h
  | cons c text ih =>
    rw [counters] at h
    split at h
    · exact later (ih h)
    · split at h
      · exact later (ih h)
      · rename_i left hleft
        rcases List.mem_cons.mp h with rfl | h
        · obtain ⟨run, hrun, hdigits⟩ := exists_takeDigits left
          exact ⟨run, hrun.isInfix.trans (after?_suffix hleft).isInfix, hdigits⟩
        · exact later (ih h)

/-- Digits that are taken to the end of a text are as many as its characters, and none is a comma. -/
theorem takeDigits_eq {run : List Char} {digits : List Nat} (h : takeDigits run = (digits, [])) :
    digits.length = run.length ∧ (∀ d ∈ digits, d < 10) ∧ ',' ∉ run := by
  induction run generalizing digits with
  | nil => cases h; simp
  | cons c run ih =>
    cases hc : digitValue? c with
    | none => rw [takeDigits_cons_of_none hc] at h; cases h
    | some d =>
      rw [takeDigits_cons_of_some hc] at h
      obtain ⟨rfl, hrest⟩ := Prod.mk.inj h
      obtain ⟨hlength, hdigits, hcomma⟩ := ih (Prod.ext rfl hrest)
      refine ⟨by simp [hlength], List.forall_mem_cons.mpr ⟨lt_ten_of_digitValue? hc, hdigits⟩, ?_⟩
      rw [List.mem_cons, not_or]
      refine ⟨?_, hcomma⟩
      rintro rfl
      rw [show digitValue? ',' = none by decide] at hc
      cases hc

/-- A piece of joined texts without a comma is a piece of one of them. -/
theorem infix_of_infix_join {run : List Char} (hcomma : ',' ∉ run) {texts : List (List Char)}
    (h : run <:+: join [','] texts) : run = [] ∨ ∃ text ∈ texts, run <:+: text := by
  have split : ∀ {first rest : List Char}, run <:+: first ++ ',' :: rest →
      run <:+: first ∨ run <:+: rest := by
    rintro first rest ⟨before, after, h⟩
    rw [List.append_assoc, List.append_eq_append_iff] at h
    rcases h with ⟨front, rfl, hfront⟩ | ⟨front, rfl, hfront⟩
    · -- the piece begins inside the first text, and there it ends
      rcases List.append_eq_append_iff.mp hfront with ⟨back, rfl, -⟩ | ⟨back, rfl, hback⟩
      · exact .inl ⟨before, back, by simp⟩
      · cases back with
        | nil => exact .inl ⟨before, [], by simp⟩
        | cons c back => exact absurd (List.cons.inj hback).1 (by rintro rfl; simp at hcomma)
    · -- it begins at the comma or behind it
      cases front with
      | nil =>
        cases run with
        | nil => exact .inl List.nil_infix
        | cons c run => exact absurd (List.cons.inj hfront).1 (by rintro rfl; simp at hcomma)
      | cons c front => exact .inr ⟨front, after, by simpa using (List.cons.inj hfront).2.symm⟩
  induction texts with
  | nil => exact .inl (List.eq_nil_of_infix_nil h)
  | cons first texts ih =>
    cases texts with
    | nil => exact .inr ⟨first, List.mem_singleton_self first, h⟩
    | cons second texts =>
      rw [join_cons_cons] at h
      rcases split h with h | h
      · exact .inr ⟨first, List.mem_cons_self, h⟩
      · exact (ih h).imp_right fun ⟨text, htext, hrun⟩ => ⟨text, List.mem_cons_of_mem _ htext, hrun⟩

/-- Numbers behind titles are no longer than the titles. -/
theorem length_run_lt {bound : Nat} (h : ∀ t ∈ titles, t.length < bound + 1) {wanted : String}
    {digits : List Nat} (hmem : digits ∈ runs titles wanted) :
    digits.length ≤ bound ∧ digitsValue digits < 10 ^ bound := by
  obtain ⟨run, hrun, hdigits⟩ := exists_run_of_mem_counters hmem
  obtain ⟨hlength, hten, hcomma⟩ := takeDigits_eq hdigits
  have hle : digits.length ≤ bound := by
    rw [hlength]
    rcases infix_of_infix_join hcomma hrun with rfl | ⟨text, htext, hinfix⟩
    · exact Nat.zero_le _
    · obtain ⟨t, ht, rfl⟩ := List.mem_map.mp htext
      exact hinfix.length_le.trans (Nat.le_of_lt_succ (h t ht))
  exact ⟨hle, (digitsValue_lt hten).trans_le (Nat.pow_le_pow_right (by decide) hle)⟩

/-- **A title can be chosen** among titles that are short enough. -/
theorem fresh_ne_error (h : ∀ t ∈ titles, t.length < Numeral.digitLimit) (wanted : String)
    (f : Failure) : fresh titles wanted ≠ .error f := by
  -- the largest number has a digit less than can be written, so its successor can be
  obtain ⟨bound, hbound⟩ : ∃ bound, Numeral.digitLimit = bound + 1 := ⟨4299, rfl⟩
  rw [hbound] at h
  have hruns : ∀ digits ∈ runs titles wanted,
      digits.length ≤ bound ∧ digitsValue digits < 10 ^ bound := fun digits => length_run_lt h
  intro hf
  unfold fresh at hf
  dsimp only at hf
  split at hf
  · split at hf
    · cases hf
    · split at hf
      · rename_i digits hfind
        have hlong := List.find?_some hfind
        have hshort := (hruns digits (List.mem_of_find?_eq_some hfind)).1
        rw [decide_eq_true_eq, hbound] at hlong
        omega
      · split at hf
        · rename_i hlong
          have hmax : ((runs titles wanted).map digitsValue).foldl max 0 ≤ 10 ^ bound - 1 := by
            refine foldl_max_le_iff.mpr ⟨Nat.zero_le _, fun n hn => ?_⟩
            obtain ⟨digits, hdigits, rfl⟩ := List.mem_map.mp hn
            exact Nat.le_sub_one_of_lt (hruns digits hdigits).2
          have hnext : ((runs titles wanted).map digitsValue).foldl max 0 + 1 < 10 ^ (bound + 1) := by
            have hpos : 0 < 10 ^ bound := Nat.pow_pos (by decide)
            rw [Nat.pow_succ]
            omega
          rw [hbound] at hlong
          exact absurd (Nat.toDigits_length 10 _ _ (Nat.succ_pos bound) hnext) (Nat.not_le.mpr hlong)
        · cases hf
  · cases hf

/-- So every name without marks can be given to a sheet. -/
theorem assign_ne_error (h : ∀ t ∈ titles, t.length < Numeral.digitLimit) {wanted : String}
    (hne : wanted ≠ "") (hmarks : ∀ c ∈ wanted.toList, c ∉ marks) (current : Option String)
    (f : Failure) : assign titles current wanted ≠ .error f := by
  rw [assign_of_valid hne hmarks]
  split
  · nofun
  · exact fresh_ne_error h wanted f

end SheetCommand.Title
