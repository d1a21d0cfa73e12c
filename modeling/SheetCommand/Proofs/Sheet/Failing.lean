import SheetCommand.Proofs.Sheet.Attempt
import SheetCommand.Proofs.Sheet.RowLoops

/-!
# Sheet — edits that fail

An edit that fails has changed no value, unless it writes row by row and fails at a row after its
first write. A column of sums then stays with its header and the sums above that row, and a
conditional change of values with the values above it (`Edit.Leaves`). Nothing takes them back.

* `apply_eq_error`: what an edit that fails leaves behind.
-/

namespace SheetCommand

namespace Grid

/-- A row whose cell in the column `condition` compares so with a text. -/
def MatchesAt (g : Grid) (condition : Nat) (op : Equality) (conditionValue : String) (r : Nat) :
    Prop :=
  ∃ shown, (g.value r condition).shown = .ok shown ∧
    op.holds (String.ofList shown = conditionValue) = true

/-- The rows before `k` are those below the headers and above `k`. -/
theorem mem_of_dataRows_eq {g : Grid} {done rest : List Nat} {k : Nat}
    (h : g.dataRows = done ++ k :: rest) :
    (2 ≤ k ∧ k ≤ g.height) ∧ ∀ r, r ∈ done ↔ 2 ≤ r ∧ r < k := by
  have hk : k ∈ g.dataRows := by simp [h]
  obtain ⟨n, -, hdone, hrest⟩ := List.range'_eq_append_iff.mp h
  have hstart : k = 2 + n := by
    have := congrArg List.head? hrest
    rw [List.head?_cons, List.head?_range'] at this
    split at this
    · cases this
    · simpa using this
  refine ⟨mem_dataRows.mp hk, fun r => ?_⟩
  rw [hdone, List.mem_range'_1, hstart]

/-- Where a sum is entered, there is one. -/
theorem exists_sumEntry {g : Grid} {first second row : Nat} {entry : Option CellValue}
    (h : g.sumEntry first second row = .ok entry) :
    ∃ n, g.sumAt first second row = .ok n ∧
      g.sumEntry first second row = .ok (some (.ofNumber n)) := by
  obtain ⟨n, hn, rfl⟩ := map_eq_ok_iff.mp h
  exact ⟨n, hn, h⟩

theorem shown_eq_of_whereEntry {g : Grid} {condition row : Nat} {passes : List Char → Bool}
    {v : CellValue} {f : Failure}
    (h : g.whereEntry condition passes (.ok v) row = .error f) :
    (g.value row condition).shown = .error f := by
  unfold whereEntry at h
  cases hs : (g.value row condition).shown with
  | error e =>
    rw [hs] at h
    exact congrArg Except.error (Except.error.inj h)
  | ok shown =>
    rw [hs] at h
    replace h : (if passes shown then Except.map some (.ok v) else .ok none) = .error f := h
    split at h <;> cases h

theorem whereEntry_ne_some {g : Grid} {condition row : Nat} {passes : List Char → Bool}
    {e : Failure} {v : CellValue} :
    g.whereEntry condition passes (.error e) row ≠ .ok (some v) := by
  intro h
  rw [whereEntry, bind_eq_ok_iff] at h
  obtain ⟨shown, -, h⟩ := h
  split at h <;> cases h

/-- An entry is made in the rows that match. -/
theorem whereEntry_eq_iff {g : Grid} {condition row : Nat} {op : Equality}
    {conditionValue : String} {v v' : CellValue} :
    g.whereEntry condition (fun shown => op.holds (String.ofList shown = conditionValue)) (.ok v)
        row = .ok (some v') ↔ g.MatchesAt condition op conditionValue row ∧ v = v' := by
  rw [whereEntry, bind_eq_ok_iff, MatchesAt, exists_and_right.symm]
  refine exists_congr fun shown => ?_
  rw [and_assoc]
  refine and_congr_right fun _ => ?_
  split
  · simp [*, Except.map]
  · simp [*, pure, Except.pure]

theorem sumAt_touchHeaders (g : Grid) (first second row : Nat) :
    g.touchHeaders.sumAt first second row = g.sumAt first second row := by
  simp only [sumAt, value_touchHeaders]

theorem matchesAt_touchHeaders (g : Grid) (condition : Nat) (op : Equality)
    (conditionValue : String) (row : Nat) :
    g.touchHeaders.MatchesAt condition op conditionValue row ↔
      g.MatchesAt condition op conditionValue row := by
  simp only [MatchesAt, value_touchHeaders]

end Grid

namespace Edit
open Grid

/-- The values that an edit of the grid `g` may leave behind when it fails midway, at row `k`. -/
inductive Leaves (g left : Grid) : Edit → Failure → Prop where
  /-- The sum of row `k` fails: the new column has its header and the sums above row `k`. -/
  | sums {first second new : String} {a b last k : Nat} {header : CellValue} {f : Failure}
      (hfirst : g.findColumn first = .ok (some a)) (hsecond : g.findColumn second = .ok (some b))
      (hlast : g.lastHeaderColumn = .ok last) (hnew : CellValue.ofText new = .ok header)
      (hk : 2 ≤ k ∧ k ≤ g.height) (hf : g.sumAt a b k = .error f)
      (hheader : left.value 1 (last + 1) = header)
      (hsums : ∀ r, 2 ≤ r → r < k →
        ∃ n, g.sumAt a b r = .ok n ∧ left.value r (last + 1) = .ofNumber n)
      (hframe : ∀ r c, ¬ (c = last + 1 ∧ 1 ≤ r ∧ r < k) → left.value r c = g.value r c) :
      Leaves g left (.addColumnSum first second new) f
  /-- The condition of row `k` cannot be shown: the matching rows above row `k` have the value. -/
  | values {target condition conditionValue value : String} {op : Equality} {t c k : Nat}
      {v : CellValue} {f : Failure} (htarget : g.findColumn target = .ok (some t))
      (hcondition : g.findColumn condition = .ok (some c)) (hvalue : CellValue.ofText value = .ok v)
      (hk : 2 ≤ k ∧ k ≤ g.height) (hf : (g.value k c).shown = .error f)
      (hset : ∀ r, 2 ≤ r → r < k → g.MatchesAt c op conditionValue r → left.value r t = v)
      (hframe : ∀ r j, ¬ (j = t ∧ 2 ≤ r ∧ r < k ∧ g.MatchesAt c op conditionValue r) →
        left.value r j = g.value r j) :
      Leaves g left (.setValueWhere target op condition conditionValue value) f

section
variable {title : String} {g : Grid} {f : Failure}

theorem renameAt_eq_error {new : String} {column : Nat}
    (h : (renameAt title new g column).result = .error f) :
    (renameAt title new g column).grid = g := by
  unfold renameAt at h ⊢
  split
  · rfl
  · rename_i hv
    rw [hv] at h
    cases h

theorem filterBy_eq_error {name : String} {op : Comparison} {value : Binary64} {column : Nat}
    (h : (filterBy title name op value g column).result = .error f) :
    g.SameValues (filterBy title name op value g column).grid := by
  have hsame := sameValues_rowsFailing column (·.satisfies op (.real value)) g.dataRows g
  unfold filterBy Attempt.andThen at h ⊢
  dsimp only at h ⊢
  split
  · rename_i hr
    rw [hr] at h
    cases h
  · exact hsame

theorem sortRows_eq_error {name : String} {direction : Direction} {column : Nat}
    (h : (sortRows title name direction g column).result = .error f) :
    g.SameValues (sortRows title name direction g column).grid := by
  unfold sortRows at h ⊢
  dsimp only at h ⊢
  split
  · exact fun _ _ => value_touchAll ..
  · rename_i hk
    rw [hk] at h
    cases h

/-- What an action that adds sums records. -/
def sumRecord (title first second new : String) (last height : Nat) : ChangeRecord :=
  ⟨.addColumnSum, title ++ "!" ++ .ofList (columnLetters (last + 1)),
    .applied (.columnAdded new (last + 1) first second (height - 1))⟩

/-- Sums are written once their header is put into row 1, which changes neither the rows below nor
what they hold. -/
theorem exists_headed {new : String} {last : Nat} {header : CellValue}
    (hlast : g.lastHeaderColumn = .ok last) (hnew : CellValue.ofText new = .ok header) (a b : Nat)
    (title first second : String) :
    ∃ headed,
      (∀ r c, headed.value r c = if (r, c) = (1, last + 1) then header else g.value r c) ∧
      headed.height = g.height ∧
      addSums title first second new g a b = (writeSums a b (last + 1) g.dataRows headed).map
        fun _ => sumRecord title first second new last g.height := by
  have htouch : (g.touch 1 (last + 1)).height = g.height :=
    (extent_touch g Prod.fst 1 (last + 1)).trans (Nat.max_eq_left (one_le_height g))
  have hput : ((g.touch 1 (last + 1)).put 1 (last + 1) header).height = g.height := by
    rw [height_put, htouch, Nat.max_eq_left (one_le_height g)]
  refine ⟨_, value_put_of_sameValues (sameValues_touch g 1 (last + 1)) 1 (last + 1) header, hput, ?_⟩
  rw [addSums, hlast]
  dsimp only
  rw [hnew]
  dsimp only
  rw [dataRows, hput, ← dataRows, length_dataRows]
  rfl

theorem value_below_header {headed : Grid} {column : Nat} {header : CellValue}
    (hput : ∀ r c, headed.value r c = if (r, c) = (1, column) then header else g.value r c) :
    ∀ r ∈ g.dataRows, ∀ c, headed.value r c = g.value r c := by
  intro r hr c
  rw [hput, if_neg]
  rintro ⟨⟩
  exact absurd (mem_dataRows.mp hr).1 (by decide)

/-- A header, and the sums of the rows above row `k` below it, are what a sum that fails at row `k`
leaves. -/
theorem leaves_sums {first second new : String} {a b last k : Nat} {header : CellValue}
    {headed left : Grid} {done : List Nat} (hfirst : g.findColumn first = .ok (some a))
    (hsecond : g.findColumn second = .ok (some b)) (hlast : g.lastHeaderColumn = .ok last)
    (hnew : CellValue.ofText new = .ok header) (hk : 2 ≤ k ∧ k ≤ g.height)
    (hput : ∀ r c, headed.value r c = if (r, c) = (1, last + 1) then header else g.value r c)
    (hdone : ∀ r, r ∈ done ↔ 2 ≤ r ∧ r < k) (hf : g.sumAt a b k = .error f)
    (hfilled : Filled (last + 1) (g.sumEntry a b) done headed left) :
    Leaves g left (.addColumnSum first second new) f := by
  have hone : 1 ∉ done := fun h => absurd ((hdone 1).mp h).1 (by decide)
  refine .sums hfirst hsecond hlast hnew hk hf ?_ ?_ ?_
  · rw [hfilled.frame 1 (last + 1) fun h => absurd h hone, hput, if_pos rfl]
  · intro r h2 hr
    have hmem := (hdone r).mpr ⟨h2, hr⟩
    obtain ⟨entry, hentry⟩ := hfilled.exists_entry hmem
    obtain ⟨n, hn, he⟩ := exists_sumEntry hentry
    exact ⟨n, hn, hfilled.value_eq hmem he⟩
  · intro r c hrc
    rw [hfilled.frame r c, hput, if_neg]
    · rintro ⟨⟩
      exact hrc ⟨rfl, Nat.le_refl 1, hk.1⟩
    · rintro hr rfl
      obtain ⟨h2, hr'⟩ := (hdone r).mp hr
      exact absurd ⟨rfl, Nat.le_of_succ_le h2, hr'⟩ hrc

theorem addSums_eq_error {first second new : String} {a b : Nat}
    (hfirst : g.findColumn first = .ok (some a)) (hsecond : g.findColumn second = .ok (some b))
    (h : (addSums title first second new g a b).result = .error f) :
    g.SameValues (addSums title first second new g a b).grid ∨
      Leaves g (addSums title first second new g a b).grid (.addColumnSum first second new) f := by
  cases hlast : g.lastHeaderColumn with
  | error e =>
    left
    rw [addSums, hlast]
    exact fun _ _ => rfl
  | ok last =>
    cases hnew : CellValue.ofText new with
    | error e =>
      left
      simp only [addSums, hlast, hnew]
      exact sameValues_touch g 1 (last + 1)
    | ok header =>
      right
      obtain ⟨headed, hput, -, hsums⟩ := exists_headed hlast hnew a b title first second
      rw [hsums] at h ⊢
      have passed := passed_writeSums g a b (last + 1) g.nodup_dataRows (value_below_header hput)
      replace h := map_eq_error_iff.mp h
      rw [Attempt.map]
      generalize writeSums a b (last + 1) g.dataRows headed = attempt at passed h ⊢
      obtain ⟨left, result⟩ := attempt
      obtain rfl : result = .error f := h
      cases passed with
      | upTo hrows hf hfilled =>
        obtain ⟨hk, hdone⟩ := mem_of_dataRows_eq hrows
        exact leaves_sums hfirst hsecond hlast hnew hk hput hdone (map_eq_error_iff.mp hf) hfilled

theorem setWhere_eq_error {target condition conditionValue value : String} {op : Equality}
    {t c : Nat} (htarget : g.findColumn target = .ok (some t))
    (hcondition : g.findColumn condition = .ok (some c))
    (h : (setWhere title target op condition conditionValue value g t c).result = .error f) :
    g.SameValues (setWhere title target op condition conditionValue value g t c).grid ∨
      Leaves g (setWhere title target op condition conditionValue value g t c).grid
        (.setValueWhere target op condition conditionValue value) f := by
  unfold setWhere at h ⊢
  simp only [Attempt.map] at h ⊢
  have passed := passed_writeWhere g t c
    (fun shown => op.holds (String.ofList shown = conditionValue)) (CellValue.ofText value)
    g.nodup_dataRows fun _ _ _ => rfl
  replace h := map_eq_error_iff.mp h
  generalize writeWhere t c _ _ g.dataRows g = attempt at passed h ⊢
  obtain ⟨left, result⟩ := attempt
  obtain rfl : result = .error f := h
  cases passed with
  | upTo hrows hf hfilled =>
    obtain ⟨hk, hdone⟩ := mem_of_dataRows_eq hrows
    cases hvalue : CellValue.ofText value with
    | error e =>
      rw [hvalue] at hfilled
      refine .inl fun r j => hfilled.frame r j fun hr _ => ?_
      refine (hfilled.entered r hr).resolve_right ?_
      rintro ⟨v, he, -⟩
      exact whereEntry_ne_some he
    | ok v =>
      rw [hvalue] at hf hfilled
      refine .inr (.values htarget hcondition hvalue hk (shown_eq_of_whereEntry hf) ?_ ?_)
      · intro r h2 hr hm
        exact hfilled.value_eq ((hdone r).mpr ⟨h2, hr⟩) (whereEntry_eq_iff.mpr ⟨hm, rfl⟩)
      · intro r j hrj
        refine hfilled.frame r j fun hr ej => ?_
        obtain ⟨h2, hr'⟩ := (hdone r).mp hr
        refine (hfilled.entered r hr).resolve_right ?_
        rintro ⟨v', he', -⟩
        exact hrj ⟨ej, h2, hr', (whereEntry_eq_iff.mp he').1⟩

theorem Leaves.of_touchHeaders {left : Grid} {e : Edit} (h : Leaves g.touchHeaders left e f) :
    Leaves g left e f := by
  cases h with
  | sums hfirst hsecond hlast hnew hk hf hheader hsums hframe =>
    simp only [findColumn_touchHeaders, lastHeaderColumn_touchHeaders, height_touchHeaders,
      sumAt_touchHeaders, value_touchHeaders] at *
    exact .sums hfirst hsecond hlast hnew hk hf hheader hsums hframe
  | values htarget hcondition hvalue hk hf hset hframe =>
    simp only [findColumn_touchHeaders, height_touchHeaders, matchesAt_touchHeaders,
      value_touchHeaders] at *
    exact .values htarget hcondition hvalue hk hf hset hframe

end

/-- What an edit that fails leaves behind: the values as they were, or those of a loop up to the row
at which it failed. -/
theorem apply_eq_error {e : Edit} {title : String} {g : Grid} {f : Failure}
    (h : (e.apply title g).result = .error f) :
    g.SameValues (e.apply title g).grid ∨ Leaves g (e.apply title g).grid e f := by
  have t := tried_apply e title g
  generalize e.apply title g = attempt at t h ⊢
  have hscan : g.SameValues g.touchHeaders := value_touchHeaders g
  cases t with
  | unreadable _ => exact .inl hscan
  | missing _ => cases h
  | found hc =>
    rw [← locate_touchHeaders] at hc
    cases e with
    | renameColumn old new =>
      obtain ⟨column, rfl, -⟩ := locate_eq_ok_one hc
      rw [applyAt] at h ⊢
      rw [renameAt_eq_error h]
      exact .inl hscan
    | deleteColumn name =>
      obtain ⟨column, rfl, -⟩ := locate_eq_ok_one hc
      cases h
    | filterRows name op value =>
      obtain ⟨column, rfl, -⟩ := locate_eq_ok_one hc
      rw [applyAt] at h ⊢
      exact .inl (hscan.trans (filterBy_eq_error h))
    | sortBy name direction =>
      obtain ⟨column, rfl, -⟩ := locate_eq_ok_one hc
      rw [applyAt] at h ⊢
      exact .inl (hscan.trans (sortRows_eq_error h))
    | addColumnSum first second new =>
      obtain ⟨a, b, rfl, ha, hb⟩ := locate_eq_ok_two hc
      rw [applyAt] at h ⊢
      exact (addSums_eq_error ha hb h).imp hscan.trans Leaves.of_touchHeaders
    | setValueWhere target op condition conditionValue value =>
      obtain ⟨t, c, rfl, ht, hcondition⟩ := locate_eq_ok_two hc
      rw [applyAt] at h ⊢
      exact (setWhere_eq_error ht hcondition h).imp hscan.trans Leaves.of_touchHeaders

end Edit
end SheetCommand
