import SheetCommand.Proofs.Text.Aligned
import SheetCommand.Proofs.Workbook.FreshTitle
import SheetCommand.Proofs.Workbook.Separation

/-!
# Workbook — a sheet's own title

A title that no other sheet has is set as it is wanted, without a warning, but for one case. The
title of the sheet that is renamed is among those that the wanted one is compared with, regardless
of case. So a title that is to change its case alone (`Recased`) gets a number, and a warning tells
that it exists already; any other warning tells of another sheet (`rename_as_asked`).

The scan looks for the wanted title letter by letter, which is another comparison than that of the
lower cases. They differ for the dotted capital `İ` alone (`recased_iff`).
-/

namespace SheetCommand

open Text

namespace Title

variable {wanted text : List Char} {titles : List String}

/-! ### Coming upon a title -/

/-- The wanted title stands somewhere in the text, letters compared regardless of case. -/
def Occurs (wanted text : List Char) : Prop :=
  ∃ rest, rest ≠ [] ∧ rest <:+ text ∧ (after? wanted rest).isSome = true

theorem occurs_cons {c : Char} :
    Occurs wanted (c :: text) ↔ (after? wanted (c :: text)).isSome = true ∨ Occurs wanted text := by
  constructor
  · rintro ⟨rest, hne, hrest, hsome⟩
    rcases List.suffix_cons_iff.mp hrest with rfl | hlater
    · exact .inl hsome
    · exact .inr ⟨rest, hne, hlater, hsome⟩
  · rintro (hsome | ⟨rest, hne, hrest, hsome⟩)
    · exact ⟨_, List.cons_ne_nil _ _, List.suffix_refl _, hsome⟩
    · exact ⟨rest, hne, hrest.trans (List.suffix_cons _ _), hsome⟩

/-- The scan finds something if the title occurs at all. -/
theorem counters_eq_nil_iff : counters wanted 0 text = [] ↔ ¬ Occurs wanted text := by
  induction text with
  | nil =>
    refine iff_of_true rfl ?_
    rintro ⟨rest, hne, hrest, -⟩
    exact hne (List.suffix_nil.mp hrest)
  | cons c text ih =>
    rw [counters, occurs_cons, not_or, ← ih]
    cases after? wanted (c :: text) <;> simp

theorem exists_suffix_join {texts : List (List Char)} (h : text ∈ texts) :
    ∃ back, text ++ back <:+ join [','] texts := by
  induction texts with
  | nil => cases h
  | cons first texts ih =>
    cases texts with
    | nil =>
      obtain rfl := List.mem_singleton.mp h
      exact ⟨[], by rw [List.append_nil]; exact List.suffix_refl _⟩
    | cons second texts =>
      rw [join_cons_cons]
      rcases List.mem_cons.mp h with rfl | hlater
      · exact ⟨_, List.suffix_refl _⟩
      · obtain ⟨back, hback⟩ := ih hlater
        exact ⟨back, hback.trans ((List.suffix_cons _ _).trans (List.suffix_append _ _))⟩

/-! ### The same but for case -/

/-- Characters with one lower case are letters that agree. -/
theorem sameLetter_of_lowered {c d e : Char} (hc : Lowered c e) (hd : Lowered d e) :
    sameLetter c d = true := by
  rcases hc with hc | ⟨rfl, rfl⟩ <;> rcases hd with hd | ⟨rfl, hsigma⟩
  · simp [sameLetter, simpleLower, hc, hd]
  · -- a small sigma beside a capital one
    have hl : simpleLower c = 0x3C2 := by rw [simpleLower, hc, hsigma]; rfl
    rw [sameLetter, hl]
    rfl
  · have hl : simpleLower d = 0x3C2 := by rw [simpleLower, hd]; rfl
    rw [sameLetter, hl]
    rfl
  · exact sameLetter_self _

theorem after?_of_lowered {title lowered : List Char} (hwanted : List.Forall₂ Lowered wanted lowered)
    (htitle : List.Forall₂ Lowered title lowered) (rest : List Char) :
    after? wanted (title ++ rest) = some rest := by
  induction hwanted generalizing title with
  | nil => cases htitle; rfl
  | cons hc _ ih =>
    cases htitle with
    | cons hd htail => rw [List.cons_append, after?, if_pos (sameLetter_of_lowered hc hd), ih htail]

/-- The wanted title is another than the sheet's own one, but the same regardless of case, and the
scan comes upon it among the titles. -/
structure Recased (titles : List String) (own wanted : String) : Prop where
  ne : wanted ≠ own
  sameCase : sameCase own.toList wanted.toList = true
  occurs : Occurs wanted.toList (join [','] (titles.map (·.toList)))

/-- Without a dotted capital the scan comes upon whatever is the same regardless of case. -/
theorem recased_iff {own wanted : String} (hmem : own ∈ titles) (hown : 'İ' ∉ own.toList)
    (hwanted : 'İ' ∉ wanted.toList) :
    Recased titles own wanted ↔
      wanted ≠ own ∧ Title.sameCase own.toList wanted.toList = true := by
  refine ⟨fun h => ⟨h.ne, h.sameCase⟩, fun ⟨hne, hsame⟩ => ⟨hne, hsame, ?_⟩⟩
  have hlower : lower own.toList = lower wanted.toList := eq_of_beq hsame
  have hafter := after?_of_lowered (lowered_lower hwanted) (hlower ▸ lowered_lower hown)
  obtain ⟨back, hback⟩ := exists_suffix_join (List.mem_map_of_mem (f := (·.toList)) hmem)
  refine ⟨own.toList ++ back, ?_, hback, by rw [hafter]; rfl⟩
  -- an empty title is the same as no other
  intro hempty
  have hnil := (List.append_eq_nil_iff.mp hempty).1
  have hlength := (lowered_lower hwanted).length_eq
  rw [← hlower, hnil] at hlength
  exact hne (String.toList_inj.mp ((List.eq_nil_of_length_eq_zero hlength).trans hnil.symm))

/-- A title is taken by another sheet than that at a place, or by the sheet itself. -/
theorem taken_iff_eraseIdx {i : Nat} {own wanted : String} (h : titles[i]? = some own) :
    Taken titles wanted ↔
      Taken (titles.eraseIdx i) wanted ∨ sameCase own.toList wanted.toList = true := by
  constructor
  · rintro ⟨title, hmem, hsame⟩
    obtain ⟨j, hj⟩ := List.getElem?_of_mem hmem
    by_cases hij : j = i
    · subst hij
      obtain rfl := Option.some.inj (h.symm.trans hj)
      exact .inr hsame
    · exact .inl ⟨title, List.mem_eraseIdx_iff_getElem?.mpr ⟨j, hij, hj⟩, hsame⟩
  · rintro (⟨title, hmem, hsame⟩ | hsame)
    · exact ⟨title, List.mem_of_mem_eraseIdx hmem, hsame⟩
    · exact ⟨own, List.mem_of_getElem? h, hsame⟩

/-- Which titles a sheet is given as they are wanted. -/
theorem assign_eq_wanted_iff {own wanted : String} (hne : wanted ≠ "")
    (hmarks : ∀ c ∈ wanted.toList, c ∉ marks) :
    assign titles (some own) wanted = .ok wanted ↔
      (wanted ≠ own → Taken titles wanted →
        ¬ Occurs wanted.toList (join [','] (titles.map (·.toList)))) := by
  rw [assign_of_valid hne hmarks]
  split
  · rename_i hown
    exact iff_of_true rfl fun hother => absurd (Option.some.inj hown).symm hother
  · rename_i hother
    rw [fresh_eq_wanted_iff, runs, counters_eq_nil_iff]
    exact ⟨fun h _ => h, fun h => h fun hown => hother (congrArg some hown.symm)⟩

/-- Any other gets a number, unless the number is too long. -/
theorem assign_of_ne_wanted {own wanted : String} (hne : wanted ≠ "")
    (hmarks : ∀ c ∈ wanted.toList, c ∉ marks)
    (h : assign titles (some own) wanted ≠ .ok wanted) :
    (∃ n, assign titles (some own) wanted = .ok (wanted ++ .ofList (decimal (n + 1)))) ∨
      (∃ f, assign titles (some own) wanted = .error f) ∧
        ∃ title ∈ titles, Numeral.digitLimit ≤ title.length := by
  cases ha : assign titles (some own) wanted with
  | error f =>
    refine .inr ⟨⟨f, rfl⟩, ?_⟩
    by_contra hshort
    push Not at hshort
    exact assign_ne_error hshort hne hmarks _ f ha
  | ok title =>
    rw [ha] at h
    rw [assign_of_valid hne hmarks] at ha
    split at ha
    · exact absurd ha.symm h
    · rcases fresh_eq_ok ha with ⟨rfl, -⟩ | ⟨n, rfl, -⟩
      · exact absurd rfl h
      · exact .inl ⟨n, rfl⟩

end Title

namespace Workbook

variable {protectedTitles : List String} {w : Workbook} {i : Nat} {sheet : Sheet}

/-- The record of a rename. -/
def renamed (own wanted title : String) : ChangeRecord :=
  ⟨.renameSheet, own, .applied (.sheetRenamed own wanted title)⟩

/-- A record warns that a title exists already. -/
def Warned (record : ChangeRecord) : Prop := ∃ warning ∈ record.warnings, warning.code = .sheetExists

theorem warned_renamed_iff {own wanted title : String} :
    Warned (renamed own wanted title) ↔ title ≠ wanted := by
  unfold Warned renamed ChangeRecord.warnings Effect.warnings
  by_cases h : title = wanted <;> simp [h]

/-- A rename sets the title that is assigned and tells so. -/
theorem apply_rename_of_assign {old wanted title : String} (hi : w.resolve (some old) = some i)
    (hs : w.sheets[i]? = some sheet) (hp : sheet.title ∉ protectedTitles)
    (h : Title.assign w.titles (some sheet.title) wanted = .ok title) :
    w.apply protectedTitles (.renameSheet old wanted) =
      (w.setTitle i title, .ok (renamed sheet.title wanted title)) := by
  rw [apply_of_not_mem (a := .renameSheet old wanted) hi hs hp]
  show w.renameSheet i sheet wanted = _
  rw [renameSheet, h]
  rfl

theorem apply_rename_of_error {old wanted : String} {f : Failure}
    (hi : w.resolve (some old) = some i) (hs : w.sheets[i]? = some sheet)
    (hp : sheet.title ∉ protectedTitles)
    (h : Title.assign w.titles (some sheet.title) wanted = .error f) :
    w.apply protectedTitles (.renameSheet old wanted) = (w, .error f) := by
  rw [apply_of_not_mem (a := .renameSheet old wanted) hi hs hp]
  show w.renameSheet i sheet wanted = _
  rw [renameSheet, h]

/-- What keeps a title from being assigned as it is wanted. -/
theorem taken_or_recased {wanted : String} (hs : w.sheets[i]? = some sheet) (hne : wanted ≠ "")
    (hmarks : ∀ c ∈ wanted.toList, c ∉ Title.marks)
    (h : Title.assign w.titles (some sheet.title) wanted ≠ .ok wanted) :
    Title.Taken (w.titles.eraseIdx i) wanted ∨ Title.Recased w.titles sheet.title wanted := by
  have hreason := mt (Title.assign_eq_wanted_iff hne hmarks).mpr h
  push Not at hreason
  obtain ⟨hother, htaken, hoccurs⟩ := hreason
  exact ((Title.taken_iff_eraseIdx (getElem?_titles hs)).mp htaken).imp_right fun hsame => ⟨hother, hsame, hoccurs⟩

/-- **A free title is set as asked**, or not. Let a sheet that is not protected be asked to get a
title without marks. If no other sheet has the title in any case, it is set and there is no warning
and no other change, unless the title is the sheet's own one in another case. Then the sheet gets
the title with a number, or the rename fails, which takes a title as long as the longest number
that can be written. Whatever titles the other sheets have, a warning tells of one of them that has
the title in some case, or of the sheet's own title in another case. -/
theorem rename_as_asked {old wanted : String} (hi : w.resolve (some old) = some i)
    (hs : w.sheets[i]? = some sheet) (hp : sheet.title ∉ protectedTitles) (hne : wanted ≠ "")
    (hmarks : ∀ c ∈ wanted.toList, c ∉ Title.marks) :
    let outcome := w.apply protectedTitles (.renameSheet old wanted)
    (¬ Title.Taken (w.titles.eraseIdx i) wanted → ¬ Title.Recased w.titles sheet.title wanted →
      outcome = (w.setTitle i wanted, .ok (renamed sheet.title wanted wanted)) ∧
        (renamed sheet.title wanted wanted).warnings = []) ∧
    (Title.Recased w.titles sheet.title wanted →
      (∃ n, let title := wanted ++ .ofList (decimal (n + 1))
        outcome = (w.setTitle i title, .ok (renamed sheet.title wanted title)) ∧
          Warned (renamed sheet.title wanted title)) ∨
        (∃ f, outcome = (w, .error f)) ∧ ∃ title ∈ w.titles, Numeral.digitLimit ≤ title.length) ∧
    ∀ record, outcome.2 = .ok record → Warned record →
      Title.Taken (w.titles.eraseIdx i) wanted ∨ Title.Recased w.titles sheet.title wanted := by
  intro outcome
  refine ⟨fun hfree hcase => ⟨?_, by simp [renamed, ChangeRecord.warnings, Effect.warnings]⟩,
    fun hcase => ?_, fun record hrecord hwarned => ?_⟩
  · by_cases h : Title.assign w.titles (some sheet.title) wanted = .ok wanted
    · exact apply_rename_of_assign hi hs hp h
    · exact absurd (taken_or_recased hs hne hmarks h) (not_or.mpr ⟨hfree, hcase⟩)
  · have h : Title.assign w.titles (some sheet.title) wanted ≠ .ok wanted := fun h =>
      (Title.assign_eq_wanted_iff hne hmarks).mp h hcase.ne
        ((Title.taken_iff_eraseIdx (getElem?_titles hs)).mpr (.inr hcase.sameCase)) hcase.occurs
    rcases Title.assign_of_ne_wanted hne hmarks h with ⟨n, hn⟩ | ⟨⟨f, hf⟩, hlong⟩
    · exact .inl ⟨n, apply_rename_of_assign hi hs hp hn,
        warned_renamed_iff.mpr (Title.ne_append_decimal wanted (n + 1)).symm⟩
    · exact .inr ⟨⟨f, apply_rename_of_error hi hs hp hf⟩, hlong⟩
  · cases ha : Title.assign w.titles (some sheet.title) wanted with
    | error f =>
      rw [show outcome = _ from apply_rename_of_error hi hs hp ha] at hrecord
      cases hrecord
    | ok title =>
      rw [show outcome = _ from apply_rename_of_assign hi hs hp ha] at hrecord
      cases hrecord
      refine taken_or_recased hs hne hmarks fun hsame => warned_renamed_iff.mp hwarned ?_
      exact Except.ok.inj (ha.symm.trans hsame)

/-- The second sheet is to have a title that no sheet has. -/
theorem rename_as_asked_stock :
    pair.resolve (some "Stock") = some 1 ∧ pair.titles[1]? = some "Stock" ∧
      ¬ Title.Taken (pair.titles.eraseIdx 1) "Store" ∧
      ¬ Title.Recased pair.titles "Stock" "Store" ∧
      pair.apply [] (.renameSheet "Stock" "Store") =
        (pair.setTitle 1 "Store", .ok (renamed "Stock" "Store" "Store")) := by
  have hi : pair.resolve (some "Stock") = some 1 := by decide
  have hp : "Stock" ∉ ([] : List String) := List.not_mem_nil
  have hne : "Store" ≠ "" := by decide
  have hfree : ¬ Title.Taken (pair.titles.eraseIdx 1) "Store" := by decide
  have hcase : ¬ Title.Recased pair.titles "Stock" "Store" := fun h =>
    absurd h.sameCase (by decide)
  have asked := rename_as_asked hi rfl hp hne (by decide)
  exact ⟨hi, rfl, hfree, hcase, (asked.1 hfree hcase).1⟩

/-- A title that no other sheet has is not always set as it is asked for: `Sales` cannot become
`SALES`. -/
theorem not_renamed_as_asked : ¬ ∀ (w : Workbook) (i : Nat) (own wanted : String),
    w.titles.Nodup → w.titles[i]? = some own → wanted ≠ "" →
      (∀ c ∈ wanted.toList, c ∉ Title.marks) → ¬ Title.Taken (w.titles.eraseIdx i) wanted →
        (w.apply [] (.renameSheet own wanted)).1.titles[i]? = some wanted ∧
          ∀ record, (w.apply [] (.renameSheet own wanted)).2 = .ok record → ¬ Warned record := by
  intro h
  have hset := (h pair 0 "Sales" "SALES" (by decide) rfl (by decide) (by decide) (by decide)).1
  rw [show (pair.apply [] (.renameSheet "Sales" "SALES")).1.titles[0]? = some "SALES1" by decide]
    at hset
  exact absurd hset (by decide)

end Workbook

end SheetCommand
