import Mathlib.Data.Nat.Digits.Defs
import SheetCommand.Proofs.Number.Exact
import SheetCommand.Proofs.Sheet.Failing
import SheetCommand.Proofs.Sheet.Provenance

/-!
# Sheet — why edits fail

Let no integer in a grid have more digits than can be written, and let the headers that an edit
writes have none of the characters that cells refuse. Then the headers can be read, every cell shows a text, and
there are two reasons left for an edit to fail (`apply_eq_error_cases`): the value that a
conditional change writes has a character that cells refuse, or some cell under an operand stands
for an integer beyond the range of real numbers.
-/

namespace SheetCommand

namespace Binary64

theorem isFinite_ofInt_zero : (ofInt 0).isFinite = true := by decide

theorem mul_pow_lt_of_le {m bits e top : Nat} (hm : m < 2 ^ bits) (he : e ≤ top) :
    m * 2 ^ e < 2 ^ (bits + top) := by
  rw [Nat.pow_add]
  exact Nat.mul_lt_mul_of_lt_of_le hm (Nat.pow_le_pow_right (by decide) he) (Nat.two_pow_pos top)

theorem two_pow_le_ten_pow {k l : Nat} (h : k ≤ l) : 2 ^ k ≤ 10 ^ l :=
  (Nat.pow_le_pow_left (by decide) k).trans (Nat.pow_le_pow_right (by decide) h)

/-- An integer that a real number is equal to is in their range. -/
theorem natAbs_lt_of_toInt? {x : Binary64} {n : Int} (h : x.toInt? = some n) :
    n.natAbs < 2 ^ (53 + 971) := by
  cases x with
  | nan | infinity => cases h
  | finite negative mantissa exponent canonical =>
    simp only [toInt?] at h
    split at h
    case isFalse => cases h
    case isTrue =>
      obtain rfl := Option.some.inj h
      rw [natAbs_signed]
      have hm : mantissa < 2 ^ 53 := by rcases canonical with h | h <;> omega
      have he : exponent.toNat ≤ 971 := by rcases canonical with h | h <;> omega
      exact mul_pow_lt_of_le ((Nat.div_le_self ..).trans_lt hm) he

end Binary64

/-! ### Cells -/

namespace CellValue

variable {v : CellValue} {f : Failure}

/-- The cell stands for an integer beyond the range of real numbers: it holds one, or the text of
one. -/
def IsBeyondRange (v : CellValue) : Prop :=
  ∃ n, (v = .int n ∨ ∃ s, v = .text s ∧ Numeral.number? s.toList = some (.int n)) ∧
    (Binary64.ofInt n).isFinite = false

/-- An integer in the cell has no more digits than can be written. -/
def IsShort (v : CellValue) : Prop :=
  ∀ n, v = .int n → (Text.decimal n.natAbs).length ≤ Numeral.digitLimit

theorem intText_ne_error {n : Int} (h : (Text.decimal n.natAbs).length ≤ Numeral.digitLimit) :
    intText n ≠ .error f := by
  rw [intText, if_neg (Nat.not_lt.mpr h)]
  intro h
  cases h

theorem label_ne_error (h : v.IsShort) : v.label ≠ .error f := by
  cases v with
  | int n => exact intText_ne_error (h n rfl)
  | blank | bool | real | text | moment => intro h; cases h

/-- A whole real number has far fewer digits than can be written. -/
theorem length_decimal_of_toInt? {x : Binary64} {n : Int} (h : x.toInt? = some n) :
    (Text.decimal n.natAbs).length ≤ Numeral.digitLimit := by
  have hlt : n.natAbs < 10 ^ Numeral.digitLimit :=
    (Binary64.natAbs_lt_of_toInt? h).trans_le (Binary64.two_pow_le_ten_pow (by decide))
  exact Nat.toDigits_length 10 _ _ (by decide) hlt

theorem shown_ne_error (h : v.IsShort) : v.shown ≠ .error f := by
  cases v with
  | real x =>
    intro hf
    simp only [shown] at hf
    split at hf
    · rename_i n hn
      exact intText_ne_error (length_decimal_of_toInt? hn) hf
    · cases hf
  | blank | bool | int | text | moment => exact label_ne_error h

theorem number?_eq_error (h : v.number? = .error f) : f = .overflow ∧ v.IsBeyondRange := by
  cases v with
  | int n =>
    rw [number?] at h
    split at h
    · cases h
    · rename_i hn
      exact ⟨(Except.error.inj h).symm, n, .inl rfl, Bool.eq_false_iff.mpr hn⟩
  | blank | bool | real | text | moment => cases h

theorem isBeyondRange_of_number? {n : Int} (h : v.number? = .ok (some (.int n)))
    (hn : (Binary64.ofInt n).isFinite = false) : v.IsBeyondRange := by
  cases v with
  | int m =>
    rw [number?] at h
    split at h <;> cases h
    exact ⟨_, .inl rfl, hn⟩
  | text s => exact ⟨n, .inr ⟨s, rfl, Except.ok.inj h⟩, hn⟩
  | real x =>
    have hnone := Except.ok.inj h
    split at hnone <;> cases hnone
  | blank | bool | moment => cases h

theorem satisfies_eq_error {op : Comparison} {target : Number}
    (h : v.satisfies op target = .error f) : f = .overflow ∧ v.IsBeyondRange := by
  rcases bind_eq_error_iff.mp h with h | ⟨number, -, h⟩
  · exact number?_eq_error h
  · cases number <;> cases h

theorem sortKey_eq_error (hshort : v.IsShort) (h : v.sortKey = .error f) :
    f = .overflow ∧ v.IsBeyondRange := by
  rcases bind_eq_error_iff.mp h with h | ⟨number, -, h⟩
  · exact number?_eq_error h
  · rcases bind_eq_error_iff.mp h with h | ⟨text, -, h⟩
    · exact absurd h (shown_ne_error hshort)
    · cases h

theorem addend_eq_error (h : v.addend = .error f) : f = .overflow ∧ v.IsBeyondRange := by
  rcases bind_eq_error_iff.mp h with h | ⟨number, -, h⟩
  · exact number?_eq_error h
  · rcases number with _ | n | x
    · cases h
    · cases h
    · dsimp only at h
      split at h <;> cases h

theorem isBeyondRange_of_addend {n : Int} (h : v.addend = .ok (.int n))
    (hn : (Binary64.ofInt n).isFinite = false) : v.IsBeyondRange := by
  -- what counts as zero is in range
  have hzero : n ≠ 0 := by
    rintro rfl
    rw [Binary64.isFinite_ofInt_zero] at hn
    cases hn
  obtain ⟨number, hnumber, h⟩ := bind_eq_ok_iff.mp h
  rcases number with _ | m | x
  · exact absurd (Number.int.inj (Except.ok.inj h)).symm hzero
  · obtain rfl := Number.int.inj (Except.ok.inj h)
    exact isBeyondRange_of_number? hnumber hn
  · dsimp only at h
    split at h
    · exact absurd (Number.int.inj (Except.ok.inj h)).symm hzero
    · cases h

end CellValue

theorem Number.add_eq_error {m n : Number} {f : Failure} (h : m.add n = .error f) :
    f = .overflow ∧ ∃ k, (m = .int k ∨ n = .int k) ∧ (Binary64.ofInt k).isFinite = false := by
  cases m with
  | int m =>
    cases n with
    | int n => cases h
    | real y =>
      simp only [add] at h
      split at h
      · cases h
      · rename_i hm
        exact ⟨(Except.error.inj h).symm, m, .inl rfl, Bool.eq_false_iff.mpr hm⟩
  | real x =>
    cases n with
    | real y => cases h
    | int n =>
      simp only [add] at h
      split at h
      · cases h
      · rename_i hn
        exact ⟨(Except.error.inj h).symm, n, .inr rfl, Bool.eq_false_iff.mpr hn⟩

/-! ### Grids -/

namespace Grid

variable {g : Grid} {f : Failure}

/-- No integer in the grid has more digits than can be written. -/
def IsShort (g : Grid) : Prop := ∀ r c, (g.value r c).IsShort

/-- A cell below a header, under one of the operands, stands for an integer beyond the range of real
numbers. -/
def Exceeds (g : Grid) (operands : List String) : Prop :=
  ∃ name ∈ operands, ∃ column, g.findColumn name = .ok (some column) ∧
    ∃ row, 2 ≤ row ∧ (g.value row column).IsBeyondRange

theorem headers_ne_error (h : g.IsShort) : g.headers ≠ .error f := by
  intro hf
  rcases bind_eq_error_iff.mp hf with hf | ⟨labels, -, hf⟩
  · obtain ⟨column, -, hlabel⟩ := exists_of_mapM_eq_error hf
    exact CellValue.label_ne_error (h 1 column) hlabel
  · cases hf

theorem findColumn_ne_error (h : g.IsShort) (name : String) : g.findColumn name ≠ .error f := by
  intro hf
  rcases bind_eq_error_iff.mp hf with hf | ⟨headers, -, hf⟩
  · exact headers_ne_error h hf
  · cases hf

theorem lastHeaderColumn_ne_error (h : g.IsShort) : g.lastHeaderColumn ≠ .error f := by
  intro hf
  rcases bind_eq_error_iff.mp hf with hf | ⟨headers, -, hf⟩
  · exact headers_ne_error h hf
  · cases hf

theorem locate_ne_error (h : g.IsShort) (names : List String) : g.locate names ≠ .error f := by
  intro hf
  rcases bind_eq_error_iff.mp hf with hf | ⟨found, -, hf⟩
  · obtain ⟨name, -, hname⟩ := exists_of_mapM_eq_error hf
    rcases bind_eq_error_iff.mp hname with hname | ⟨column, -, hname⟩
    · exact findColumn_ne_error h name hname
    · cases hname
  · cases hf

theorem isShort_touchHeaders (h : g.IsShort) : g.touchHeaders.IsShort := fun r c => by
  rw [value_touchHeaders]; exact h r c

theorem exceeds_touchHeaders {operands : List String} :
    g.touchHeaders.Exceeds operands ↔ g.Exceeds operands := by
  simp only [Exceeds, findColumn_touchHeaders, value_touchHeaders]

/-! ### Loops over rows -/

theorem rowsFailing_eq_error {column : Nat} {test : CellValue → Except Failure Bool}
    {rows : List Nat} (h : (rowsFailing column test rows g).result = .error f) :
    ∃ row ∈ rows, test (g.value row column) = .error f := by
  induction rows generalizing g with
  | nil => cases h
  | cons row rows ih =>
    unfold rowsFailing at h
    dsimp only at h
    rw [value_touch] at h
    split at h
    · rename_i htest
      exact ⟨row, List.mem_cons_self, htest.trans (congrArg _ (Except.error.inj h))⟩
    · obtain ⟨r, hr, hf⟩ := ih (map_eq_error_iff.mp h)
      rw [value_touch] at hf
      exact ⟨r, List.mem_cons_of_mem _ hr, hf⟩

theorem sumAt_eq_error {first second row : Nat} (h : g.sumAt first second row = .error f) :
    f = .overflow ∧
      ((g.value row first).IsBeyondRange ∨ (g.value row second).IsBeyondRange) := by
  rcases bind_eq_error_iff.mp h with h | ⟨a, ha, h⟩
  · exact (CellValue.addend_eq_error h).imp_right .inl
  · rcases bind_eq_error_iff.mp h with h | ⟨b, hb, h⟩
    · exact (CellValue.addend_eq_error h).imp_right .inr
    · obtain ⟨hf, n, hn, hrange⟩ := Number.add_eq_error h
      refine ⟨hf, hn.imp ?_ ?_⟩
      · rintro rfl; exact CellValue.isBeyondRange_of_addend ha hrange
      · rintro rfl; exact CellValue.isBeyondRange_of_addend hb hrange

theorem writeSums_eq_error {first second target : Nat} {rows : List Nat} (hn : rows.Nodup)
    (h : (writeSums first second target rows g).result = .error f) :
    ∃ row ∈ rows, g.sumAt first second row = .error f := by
  have hpassed := passed_writeSums g first second target hn fun _ _ _ => rfl
  rw [h] at hpassed
  cases hpassed with
  | @upTo done rest row _ hrows hf _ => exact ⟨row, by simp [hrows], map_eq_error_iff.mp hf⟩

theorem writeWhere_eq_error (hshort : g.IsShort) {target condition : Nat}
    {passes : List Char → Bool} {value : Except Failure CellValue} {rows : List Nat}
    (hn : rows.Nodup)
    (h : (writeWhere target condition passes value rows g).result = .error f) :
    value = .error f := by
  have hpassed := passed_writeWhere g target condition passes value hn fun _ _ _ => rfl
  rw [h] at hpassed
  cases hpassed with
  | @upTo done rest row _ hrows hf _ =>
    rcases bind_eq_error_iff.mp hf with hf | ⟨shown, -, hf⟩
    · exact absurd hf (CellValue.shown_ne_error (hshort row condition))
    · split at hf
      · exact map_eq_error_iff.mp hf
      · cases hf

/-- Sorting looks at the cells of one column. -/
theorem keyed_eq_error (hshort : g.IsShort) {column : Nat} (hcolumn : 1 ≤ column)
    {rows columns : List Nat} (hcolumns : columns = span 1 columns.length)
    (h : keyed column (rows.map fun row => columns.map fun c => g.value row c) = .error f) :
    f = .overflow ∧ ∃ row ∈ rows, (g.value row column).IsBeyondRange := by
  rw [keyed] at h
  split at h
  · cases h
  · obtain ⟨values, hvalues, hf⟩ := exists_of_mapM_eq_error h
    obtain ⟨row, hrow, rfl⟩ := List.mem_map.mp hvalues
    have hcell : ((columns.map fun c => g.value row c)[column - 1]?).getD .blank = .blank ∨
        ((columns.map fun c => g.value row c)[column - 1]?).getD .blank = g.value row column := by
      rw [List.getElem?_map]
      by_cases hlt : column - 1 < columns.length
      · right
        rw [hcolumns, span, Nat.add_sub_cancel, List.getElem?_range' (by simpa using hlt)]
        simp [Nat.add_sub_cancel' hcolumn]
      · left
        rw [List.getElem?_eq_none (Nat.le_of_not_lt hlt)]
        rfl
    rcases bind_eq_error_iff.mp hf with hf | ⟨key, -, hf⟩
    · rcases hcell with hcell | hcell <;> rw [hcell] at hf
      · cases hf
      · exact (CellValue.sortKey_eq_error (hshort row column) hf).imp_right fun h => ⟨row, hrow, h⟩
    · cases hf

end Grid

/-! ### Edits -/

theorem CellValue.ofText_eq_ok {s : String} {v : CellValue} (h : CellValue.ofText s = .ok v) :
    v = .text (.ofList (s.toList.take 32767)) := by
  unfold ofText at h
  dsimp only at h
  split at h
  · cases h
  · exact (Except.ok.inj h).symm

theorem CellValue.ofText_eq_error {s : String} {f : Failure} (h : CellValue.ofText s = .error f) :
    f = .forbiddenText (.ofList (s.toList.take textLimit)) ∧ ∃ c ∈ s.toList, isForbidden c = true := by
  unfold ofText at h
  dsimp only at h
  split at h
  · rename_i hany
    obtain ⟨c, hc, hforbidden⟩ := List.any_eq_true.mp hany
    exact ⟨(Except.error.inj h).symm, c, List.mem_of_mem_take hc, hforbidden⟩
  · cases h

namespace Edit

open Grid

variable {g : Grid} {f : Failure} {title : String}

/-- The headers that an edit writes. -/
def headers : Edit → List String
  | renameColumn _ new => [new]
  | addColumnSum _ _ new => [new]
  | _ => []

/-- A name that a cell may hold. -/
def IsAllowed (name : String) : Prop := ∀ c ∈ name.toList, CellValue.isForbidden c = false

theorem ofText_ne_error {name : String} (h : IsAllowed name) : CellValue.ofText name ≠ .error f := by
  intro hf
  obtain ⟨-, c, hc, hforbidden⟩ := CellValue.ofText_eq_error hf
  rw [h c hc] at hforbidden
  cases hforbidden

theorem addSums_error (hshort : g.IsShort) {first second new : String} {a b : Nat}
    (hnew : IsAllowed new) (h : (addSums title first second new g a b).result = .error f) :
    f = .overflow ∧ ∃ row, 2 ≤ row ∧
      ((g.value row a).IsBeyondRange ∨ (g.value row b).IsBeyondRange) := by
  cases hlast : g.lastHeaderColumn with
  | error e => exact absurd hlast (lastHeaderColumn_ne_error hshort)
  | ok last =>
    cases hheader : CellValue.ofText new with
    | error e => exact absurd hheader (ofText_ne_error hnew)
    | ok header =>
      obtain ⟨headed, hput, -, hsums⟩ := exists_headed hlast hheader a b title first second
      rw [hsums] at h
      obtain ⟨row, hrow, hf⟩ := writeSums_eq_error (nodup_dataRows _) (map_eq_error_iff.mp h)
      -- the header that is written first is in none of the rows that are summed
      have hvalue := value_below_header hput row hrow
      obtain ⟨hover, hcell⟩ := sumAt_eq_error hf
      rw [hvalue, hvalue] at hcell
      exact ⟨hover, row, (mem_dataRows.mp hrow).1, hcell⟩

theorem filterBy_error {name : String} {op : Comparison} {value : Binary64} {column : Nat}
    (h : (filterBy title name op value g column).result = .error f) :
    f = .overflow ∧ ∃ row, 2 ≤ row ∧ (g.value row column).IsBeyondRange := by
  unfold filterBy Attempt.andThen at h
  dsimp only at h
  split at h
  · cases h
  · rename_i hrows
    obtain ⟨row, hrow, hf⟩ := rowsFailing_eq_error (hrows.trans (congrArg _ (Except.error.inj h)))
    obtain ⟨hover, hcell⟩ := CellValue.satisfies_eq_error hf
    exact ⟨hover, row, (mem_dataRows.mp hrow).1, hcell⟩

theorem sortRows_error (hshort : g.IsShort) {name : String} {direction : Direction} {column : Nat}
    (hcolumn : 1 ≤ column) (h : (sortRows title name direction g column).result = .error f) :
    f = .overflow ∧ ∃ row, 2 ≤ row ∧ (g.value row column).IsBeyondRange := by
  unfold sortRows at h
  dsimp only at h
  have hvalue : ∀ r c, (g.touchAll (rectangle g.dataRows g.columns)).value r c = g.value r c :=
    fun r c => value_touchAll ..
  generalize g.touchAll (rectangle g.dataRows g.columns) = touched at h hvalue
  split at h
  · rename_i hkeyed
    obtain ⟨hover, row, hrow, hcell⟩ := keyed_eq_error
      (fun r c => by rw [hvalue]; exact hshort r c) hcolumn
      (by rw [length_columns]; rfl) (hkeyed.trans (congrArg _ (Except.error.inj h)))
    rw [hvalue] at hcell
    exact ⟨hover, row, (mem_dataRows.mp hrow).1, hcell⟩
  · cases h

theorem setWhere_error (hshort : g.IsShort) {target condition conditionValue value : String}
    {op : Equality} {t c : Nat}
    (h : (setWhere title target op condition conditionValue value g t c).result = .error f) :
    CellValue.ofText value = .error f :=
  writeWhere_eq_error hshort (nodup_dataRows g) (map_eq_error_iff.mp h)

/-- **Why an edit fails**: the value of a conditional change has a character that cells refuse, or a
cell of an operand is beyond the range of real numbers. -/
theorem apply_eq_error_cases {e : Edit} (hshort : g.IsShort)
    (hheaders : ∀ name ∈ e.headers, IsAllowed name)
    (h : (e.apply title g).result = .error f) :
    (∃ target op condition conditionValue value,
        e = .setValueWhere target op condition conditionValue value ∧
          f = .forbiddenText (.ofList (value.toList.take CellValue.textLimit)) ∧
          ∃ c ∈ value.toList, CellValue.isForbidden c = true) ∨
      (f = .overflow ∧ g.Exceeds e.operands) := by
  have t := tried_apply e title g
  generalize e.apply title g = attempt at t h
  have hscanned := isShort_touchHeaders hshort
  cases t with
  | unreadable hf => exact absurd hf (locate_ne_error hshort e.operands)
  | missing _ => cases h
  | @found columns hc =>
    rw [← exceeds_touchHeaders]
    rw [← locate_touchHeaders] at hc
    generalize g.touchHeaders = scanned at h hc hscanned ⊢
    cases e with
    | renameColumn old new =>
      obtain ⟨column, rfl, -⟩ := locate_eq_ok_one hc
      simp only [applyAt, renameAt] at h
      split at h
      · rename_i hnew
        exact absurd hnew (ofText_ne_error (hheaders new (List.mem_singleton_self new)))
      · cases h
    | addColumnSum first second new =>
      obtain ⟨a, b, rfl, ha, hb⟩ := locate_eq_ok_two hc
      obtain ⟨hover, row, hrow, hcell⟩ :=
        addSums_error hscanned (hheaders new (List.mem_singleton_self new)) h
      refine .inr ⟨hover, ?_⟩
      rcases hcell with hcell | hcell
      · exact ⟨first, by simp [operands], a, ha, row, hrow, hcell⟩
      · exact ⟨second, by simp [operands], b, hb, row, hrow, hcell⟩
    | deleteColumn name =>
      obtain ⟨column, rfl, -⟩ := locate_eq_ok_one hc
      cases h
    | filterRows name op value =>
      obtain ⟨column, rfl, hcolumn⟩ := locate_eq_ok_one hc
      obtain ⟨hover, hcell⟩ := filterBy_error h
      exact .inr ⟨hover, name, List.mem_singleton_self name, column, hcolumn, hcell⟩
    | sortBy name direction =>
      obtain ⟨column, rfl, hcolumn⟩ := locate_eq_ok_one hc
      obtain ⟨hover, hcell⟩ :=
        sortRows_error hscanned (mem_columns.mp (of_findColumn hcolumn).1).1 h
      exact .inr ⟨hover, name, List.mem_singleton_self name, column, hcolumn, hcell⟩
    | setValueWhere target op condition conditionValue value =>
      obtain ⟨t, c, rfl, -, -⟩ := locate_eq_ok_two hc
      obtain ⟨hf, hforbidden⟩ := CellValue.ofText_eq_error (setWhere_error hscanned h)
      exact .inl ⟨_, _, _, _, _, rfl, hf, hforbidden⟩

end Edit

end SheetCommand
