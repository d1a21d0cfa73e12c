import SheetCommand.Proofs.Sheet.IntegerText
import SheetCommand.Proofs.Sheet.Sorting

/-!
# Sheet — integers that are stored as texts

A cell may hold an integer as a text: its digits, with commas between them and blanks around
(`Spells`). Filters, sorts and sums take such a cell for the integer, so a sheet on which some
integers have been restated so (`Restated`) is treated like the sheet before.

* `number?_of_spells`: a text that spells an integer is read as that integer.
* `restated_alike`: the same rows are kept, they are arranged in the same order, and the same sums
  are written.
-/

namespace SheetCommand

/-! ### Texts -/

/-- Blanks around a text without any are trimmed. -/
theorem Text.trim_surrounded {before body after : List Char} (hne : body ≠ [])
    (hbody : ∀ c ∈ body, isBlank c = false) (hbefore : ∀ c ∈ before, isBlank c = true)
    (hafter : ∀ c ∈ after, isBlank c = true) : trim (before ++ body ++ after) = body := by
  have hstart : ∀ rest, (body ++ rest).dropWhile isBlank = body ++ rest := by
    intro rest
    obtain ⟨c, more, rfl⟩ := List.exists_cons_of_ne_nil hne
    rw [List.cons_append, List.dropWhile_cons_of_neg]
    rw [hbody c List.mem_cons_self]
    decide
  have hend : body.reverse.dropWhile isBlank = body.reverse :=
    dropWhile_eq_self fun c hc => hbody c (List.mem_reverse.mp hc)
  rw [trim, trimBy, List.append_assoc, List.dropWhile_append_of_pos hbefore, hstart,
    List.reverse_append, List.dropWhile_append_of_pos (by simpa using hafter), hend,
    List.reverse_reverse]

/-- A text spells an integer: but for commas it is the digits of the integer, with a minus sign if
it is negative, and blanks around them. Zeros in front do not make it longer than an integer may
be. -/
def Spells (s : String) (n : ℤ) : Prop :=
  ∃ (t : IntegerText) (before after : List Char), t.value = n ∧ t.IsUnpadded ∧
    (∀ c ∈ before ++ after, Text.isBlank c = true) ∧
    s.toList.filter (· ≠ ',') = before ++ t.chars ++ after

namespace IntegerText

variable (t : IntegerText)

theorem chars_ne_nil : t.chars ≠ [] := by
  simp [chars, Numeral.numeral, t.ne_nil]

/-- An integer in range has as many digits as are read as an integer. -/
theorem length_digits_le (ht : t.IsUnpadded) (h : (Binary64.ofInt t.value).isFinite = true) :
    t.digits.length ≤ Numeral.digitLimit := by
  rcases ht with hfew | hhead
  · exact hfew
  · refine Nat.le_of_not_lt fun hmany => ?_
    rw [Binary64.isFinite_ofInt_eq_false (two_pow_le_natAbs_value hmany hhead)] at h
    cases h

end IntegerText

/-- **A text that spells an integer** is read as that integer. -/
theorem number?_of_spells {s : String} {n : ℤ} (h : Spells s n)
    (hn : (Binary64.ofInt n).isFinite = true) : Numeral.number? s.toList = some (.int n) := by
  obtain ⟨t, before, after, rfl, hunpadded, hblank, hs⟩ := h
  obtain ⟨hbefore, hafter⟩ := List.forall_mem_append.mp hblank
  have hbody : Text.trim (s.toList.filter (· ≠ ',')) = t.chars := by
    rw [hs]
    exact Text.trim_surrounded t.chars_ne_nil (fun c hc => (t.isKept hc).2.2) hbefore hafter
  simp only [Numeral.number?, hbody, t.int?_chars, if_pos (t.length_digits_le hunpadded hn)]

/-! ### Cells -/

namespace CellValue

/-- A cell is as it was, or has a text for the integer that it held. -/
inductive Restates : CellValue → CellValue → Prop
  | same (v : CellValue) : Restates v v
  | text {n : ℤ} {s : String} (h : Spells s n) : Restates (.int n) (.text s)

/-- A cell stands for a number. -/
def IsNumber (v : CellValue) : Prop := ∃ m, v.number? = .ok (some m)

instance : DecidablePred IsNumber := fun v =>
  match h : v.number? with
  | .ok (some m) => isTrue ⟨m, h⟩
  | .ok none => isFalse fun ⟨_, hm⟩ => nomatch h.symm.trans hm
  | .error _ => isFalse fun ⟨_, hm⟩ => nomatch h.symm.trans hm

variable {v w : CellValue}

theorem IsNumber.isInRange (h : v.IsNumber) : v.IsInRange := by
  obtain ⟨m, hm⟩ := h
  cases v with
  | int n =>
    rw [number?] at hm
    split at hm
    · assumption
    · cases hm
  | blank | bool | real | text | moment => trivial

theorem Restates.number?_eq (h : v.Restates w) (hv : v.IsInRange) : w.number? = v.number? := by
  cases h with
  | same => rfl
  | @text n s hs =>
    have hn : (Binary64.ofInt n).isFinite = true := hv
    rw [number?, number?, if_pos hn, number?_of_spells hs hn]

theorem Restates.isInRange (h : v.Restates w) (hv : v.IsInRange) : w.IsInRange := by
  cases h with
  | same => exact hv
  | text => trivial

theorem Restates.satisfies_eq (h : v.Restates w) (hv : v.IsInRange) (op : Comparison)
    (target : Number) : w.satisfies op target = v.satisfies op target := by
  rw [satisfies, satisfies, h.number?_eq hv]

theorem Restates.addend_eq (h : v.Restates w) (hv : v.IsInRange) : w.addend = v.addend := by
  rw [addend, addend, h.number?_eq hv]

/-- The value of the number that a cell stands for. -/
def worth (v : CellValue) : ℚ :=
  match v.number? with
  | .ok (some m) => m.value?.getD 0
  | _ => 0

theorem Restates.worth_eq (h : v.Restates w) (hv : v.IsInRange) : w.worth = v.worth := by
  rw [worth, worth, h.number?_eq hv]

theorem Restates.isNumber (h : v.Restates w) (hv : v.IsNumber) : w.IsNumber := by
  rwa [IsNumber, h.number?_eq hv.isInRange]

theorem isFinite_of_isNumber {m : Number} (h : v.number? = .ok (some m)) : m.IsFinite := by
  rintro x rfl
  cases v with
  | text s => exact isFinite_of_number? (Except.ok.inj h) x rfl
  | real y =>
    rw [number?] at h
    split at h
    · cases h
      assumption
    · cases h
  | int n =>
    rw [number?] at h
    split at h <;> cases h
  | blank | bool | moment => cases h

/-- The key of a cell that stands for a number, and the value of that number. -/
theorem IsNumber.exists_key (h : v.IsNumber) :
    ∃ m shown, v.key = ⟨some m, shown⟩ ∧ m.value? = some v.worth := by
  have hkey := sortKey_of_isInRange h.isInRange
  obtain ⟨m, hm⟩ := h
  obtain ⟨p, hp⟩ := (isFinite_of_isNumber hm).exists_value?
  obtain ⟨number, hnumber, hkey⟩ := bind_eq_ok_iff.mp hkey
  obtain ⟨shown, -, hkey⟩ := bind_eq_ok_iff.mp hkey
  obtain rfl := Except.ok.inj (hm.symm.trans hnumber)
  refine ⟨m, shown, (Except.ok.inj hkey).symm, ?_⟩
  rw [worth, hm]
  simp only [hp, Option.getD_some]

/-- Cells that stand for numbers compare as these do, whatever their texts are. -/
theorem compares_worth (hv : v.IsNumber) (hw : w.IsNumber) :
    (v.key.compare w.key).Compares (Rank.number v.worth) (Rank.number w.worth) := by
  obtain ⟨m, shown, hkey, hm⟩ := hv.exists_key
  obtain ⟨n, shown', hkey', hn⟩ := hw.exists_key
  rw [hkey, hkey']
  change ((m.compare? n).getD .eq).Compares _ _
  rw [Number.compare?_eq_cmp hm hn]
  exact Rank.strictMono_number.compares.mpr (cmp_compares ..)

end CellValue

/-! ### Grids -/

namespace Grid

/-- A grid with some integers below the headers stored as texts. -/
structure Restated (g g' : Grid) : Prop where
  there : ∀ r c, (g'.get? r c).isSome = (g.get? r c).isSome
  headers : ∀ c, g'.value 1 c = g.value 1 c
  values : ∀ r c, (g.value r c).Restates (g'.value r c)

variable {g g' g'' : Grid} {row column : Nat}

/-- The rank of a row by the number that a cell of it stands for. -/
def worthRank (g : Grid) (column row : Nat) : Rank := Rank.number (g.value row column).worth

theorem pairwise_sortedRows_of_isNumber
    (h : ∀ row ∈ g.dataRows, (g.value row column).IsNumber) (direction : Direction) :
    (g.sortedRows column direction).Pairwise (direction.Sorts (g.worthRank column)) :=
  pairwise_sortedRows_of_compares
    (fun r hr s hs => CellValue.compares_worth (h r hr) (h s hs)) direction

theorem Restated.refl (g : Grid) : Restated g g :=
  ⟨fun _ _ => rfl, fun _ => rfl, fun _ _ => .same _⟩

theorem Restated.trans (h : Restated g g') (h' : Restated g' g'') : Restated g g'' := by
  refine ⟨fun r c => (h'.there r c).trans (h.there r c),
    fun c => (h'.headers c).trans (h.headers c), fun r c => ?_⟩
  have hfirst := h.values r c
  have hsecond := h'.values r c
  generalize g.value r c = v, g'.value r c = w, g''.value r c = u at hfirst hsecond ⊢
  cases hfirst with
  | same => exact hsecond
  | text hs =>
    cases hsecond with
    | same => exact .text hs

/-- One integer below the headers may be stored as a text. -/
theorem restated_put {n : ℤ} {s : String} (hrow : 2 ≤ row) (hvalue : g.value row column = .int n)
    (hs : Spells s n) : Restated g (g.put row column (.text s)) := by
  have hthere : (g.get? row column).isSome = true := by
    cases hget : g.get? row column with
    | none => rw [value, hget] at hvalue; cases hvalue
    | some v => rfl
  refine ⟨fun r c => ?_, fun c => ?_, fun r c => ?_⟩
  · rw [get?_put]
    split
    · rename_i heq
      cases heq
      exact hthere.symm
    · rfl
  · rw [value_put, if_neg]
    rintro ⟨⟩
    omega
  · rw [value_put]
    split
    · rename_i heq
      cases heq
      rw [hvalue]
      exact .text hs
    · exact .same _

section
variable (h : Restated g g')
include h

theorem Restated.extent_eq (line : Nat × Nat → Nat) : g'.extent line = g.extent line := by
  refine Nat.le_antisymm (extent_le_iff.mpr ⟨one_le_extent .., fun r c hs => ?_⟩)
    (extent_le_iff.mpr ⟨one_le_extent .., fun r c hs => ?_⟩)
  · exact le_extent line (h.there r c ▸ hs)
  · exact le_extent line ((h.there r c).symm ▸ hs)

theorem Restated.height_eq : g'.height = g.height := h.extent_eq _

theorem Restated.dataRows_eq : g'.dataRows = g.dataRows := by
  rw [dataRows, dataRows, h.height_eq]

theorem Restated.width_eq : g'.width = g.width := h.extent_eq _

theorem Restated.headers_eq : g'.headers = g.headers := by
  simp only [Grid.headers, labels, columns, h.width_eq, h.headers]

theorem Restated.findColumn_eq (name : String) : g'.findColumn name = g.findColumn name := by
  simp only [findColumn, columnOf, h.headers_eq]

theorem Restated.lastHeaderColumn_eq : g'.lastHeaderColumn = g.lastHeaderColumn := by
  simp only [lastHeaderColumn, h.headers_eq]

theorem Restated.touchHeaders : Restated g.touchHeaders g'.touchHeaders := by
  refine ⟨fun r c => ?_, fun c => ?_, fun r c => ?_⟩
  · rw [Bool.eq_iff_iff]
    simp only [Grid.touchHeaders, isSome_get?_touchAll, columns, h.width_eq, h.there]
  · rw [value_touchHeaders, value_touchHeaders, h.headers]
  · rw [value_touchHeaders, value_touchHeaders]
    exact h.values r c

theorem Restated.isInRange (hrange : ∀ row ∈ g.dataRows, (g.value row column).IsInRange) :
    ∀ row ∈ g'.dataRows, (g'.value row column).IsInRange := fun row hrow =>
  (h.values row column).isInRange (hrange row (h.dataRows_eq ▸ hrow))

theorem Restated.rowsWhere_eq (hrange : ∀ row ∈ g.dataRows, (g.value row column).IsInRange)
    (op : Comparison) (value : Binary64) :
    g'.rowsWhere column op value = g.rowsWhere column op value := by
  rw [rowsWhere, rowsWhere, h.dataRows_eq]
  refine List.filter_congr fun row hrow => ?_
  rw [(h.values row column).satisfies_eq (hrange row hrow)]

theorem Restated.sortedRows_eq (hnumber : ∀ row ∈ g.dataRows, (g.value row column).IsNumber)
    (direction : Direction) : g'.sortedRows column direction = g.sortedRows column direction := by
  have hnumber' : ∀ row ∈ g'.dataRows, (g'.value row column).IsNumber := fun row hrow =>
    (h.values row column).isNumber (hnumber row (h.dataRows_eq ▸ hrow))
  have hworth : ∀ row ∈ g'.dataRows, g'.worthRank column row = g.worthRank column row := by
    intro row hrow
    rw [worthRank, (h.values row column).worth_eq (hnumber row (h.dataRows_eq ▸ hrow)).isInRange]
    rfl
  have hperm := sortedRows_perm g' column direction
  have hsorts :
      (g'.sortedRows column direction).Pairwise (direction.Sorts (g.worthRank column)) := by
    refine (pairwise_sortedRows_of_isNumber hnumber' direction).imp_of_mem fun {r s} hr hs => ?_
    rw [Direction.Sorts, hworth r (hperm.mem_iff.mp hr), hworth s (hperm.mem_iff.mp hs)]
    exact id
  rw [h.dataRows_eq] at hperm
  exact Direction.eq_of_sorts (hperm.trans (sortedRows_perm g column direction).symm)
    (pairwise_sortedRows_of_isNumber hnumber direction) hsorts

theorem Restated.sumAt_eq {a b : Nat} (ha : (g.value row a).IsInRange)
    (hb : (g.value row b).IsInRange) : g'.sumAt a b row = g.sumAt a b row := by
  rw [sumAt, sumAt, (h.values row a).addend_eq ha, (h.values row b).addend_eq hb]

end

/-! ### Sums -/

/-- Grids whose cells add up to the same get the same answer from a loop that writes sums. -/
theorem result_writeSums_congr {a b target : Nat} {rows : List Nat} (hn : rows.Nodup)
    (h : ∀ r ∈ rows, g'.sumAt a b r = g.sumAt a b r) :
    (writeSums a b target rows g').result = (writeSums a b target rows g).result := by
  induction rows generalizing g g' with
  | nil => rfl
  | cons row rest ih =>
    obtain ⟨hrow, hrest⟩ := List.nodup_cons.mp hn
    obtain ⟨hhere, hothers⟩ := List.forall_mem_cons.mp h
    cases hs : g.sumAt a b row with
    | error f =>
      obtain ⟨left, -, he⟩ := writeSums_of_error target rest hs
      obtain ⟨left', -, he'⟩ := writeSums_of_error target rest (hhere.trans hs)
      rw [he, he']
    | ok n =>
      obtain ⟨next, hsame, he⟩ := writeSums_of_ok target rest hs
      obtain ⟨next', hsame', he'⟩ := writeSums_of_ok target rest (hhere.trans hs)
      have hput : ∀ {g next : Grid}, g.SameValues next → ∀ r ∈ rest,
          (next.put row target (.ofNumber n)).sumAt a b r = g.sumAt a b r := by
        intro g next hsame r hr
        have hne : ∀ c, (r, c) ≠ (row, target) := by
          rintro c ⟨⟩
          exact hrow hr
        simp only [sumAt, value_put_of_sameValues hsame, if_neg (hne _)]
      rw [he, he']
      refine ih hrest fun r hr => ?_
      rw [hput hsame r hr, hput hsame' r hr, hothers r hr]

variable {a b : Nat} {title first second new : String}

theorem Restated.result_addSums (h : Restated g g')
    (hsums : ∀ r ∈ g.dataRows, g'.sumAt a b r = g.sumAt a b r) :
    (Edit.addSums title first second new g' a b).result =
      (Edit.addSums title first second new g a b).result := by
  cases hlast : g.lastHeaderColumn with
  | error f => simp only [Edit.addSums, h.lastHeaderColumn_eq, hlast]
  | ok last =>
    cases hnew : CellValue.ofText new with
    | error f => simp only [Edit.addSums, h.lastHeaderColumn_eq, hlast, hnew]
    | ok header =>
      obtain ⟨headed, hput, -, hadd⟩ := Edit.exists_headed hlast hnew a b title first second
      obtain ⟨headed', hput', -, hadd'⟩ :=
        Edit.exists_headed (h.lastHeaderColumn_eq.trans hlast) hnew a b title first second
      have hbelow := Edit.value_below_header hput
      have hbelow' := Edit.value_below_header hput'
      rw [h.dataRows_eq] at hbelow' hadd'
      have hloop : (writeSums a b (last + 1) g.dataRows headed').result =
          (writeSums a b (last + 1) g.dataRows headed).result := by
        refine result_writeSums_congr g.nodup_dataRows fun r hr => ?_
        simp only [sumAt, hbelow r hr, hbelow' r hr]
        exact hsums r hr
      rw [hadd, hadd', Attempt.map, Attempt.map, hloop, h.height_eq]

theorem addend_of_int {n : ℤ} (h : (CellValue.int n).IsInRange) :
    (CellValue.int n).addend = .ok (.int n) := by
  have hn : (Binary64.ofInt n).isFinite = true := h
  rw [CellValue.addend, CellValue.number?, if_pos hn]
  rfl

/-- The sum of two integers is found. -/
theorem sumAt_of_int {m n : ℤ} (ha : g.value row a = .int m) (hb : g.value row b = .int n)
    (hrange : (g.value row a).IsInRange) (hrange' : (g.value row b).IsInRange) :
    g.sumAt a b row = .ok (.int (m + n)) := by
  rw [ha] at hrange
  rw [hb] at hrange'
  rw [sumAt, ha, hb, addend_of_int hrange, addend_of_int hrange']
  rfl

/-- The action is not refused if the new name may be stored and each row has a sum. -/
theorem exists_record_of_sums (hfirst : g.findColumn first = .ok (some a))
    (hsecond : g.findColumn second = .ok (some b)) {header : CellValue}
    (hnew : CellValue.ofText new = .ok header)
    (hsums : ∀ r ∈ g.dataRows, ∃ n, g.sumAt a b r = .ok n) (title : String) :
    ∃ record, ((Edit.addColumnSum first second new).apply title g).result = .ok record := by
  obtain ⟨headers, hheaders, -⟩ := bind_eq_ok_iff.mp hfirst
  have hlast : ∃ last, g.touchHeaders.lastHeaderColumn = .ok last := by
    rw [lastHeaderColumn_touchHeaders, lastHeaderColumn, hheaders]
    exact ⟨_, rfl⟩
  obtain ⟨last, hlast⟩ := hlast
  obtain ⟨headed, hput, -, hadd⟩ := Edit.exists_headed hlast hnew a b title first second
  rw [apply_addColumnSum hfirst hsecond, hadd, Attempt.map]
  cases hloop : (writeSums a b (last + 1) g.touchHeaders.dataRows headed).result with
  | ok => exact ⟨_, rfl⟩
  | error f =>
    obtain ⟨r, hr, hf⟩ := writeSums_eq_error g.touchHeaders.nodup_dataRows hloop
    have hsame : headed.sumAt a b r = g.sumAt a b r := by
      simp only [sumAt, Edit.value_below_header hput r hr, value_touchHeaders]
    rw [dataRows, height_touchHeaders] at hr
    obtain ⟨n, hn⟩ := hsums r hr
    rw [hsame, hn] at hf
    cases hf

/-! ### Edits -/

/-- An edit does the same to two grids: it records the same and leaves the same rows of each. -/
def Alike (e : Edit) (title : String) (g g' : Grid) (rows : List Nat) : Prop :=
  ∃ left left' record, e.apply title g = ⟨left, .ok record⟩ ∧
    e.apply title g' = ⟨left', .ok record⟩ ∧
    left.rows = g.readRows (1 :: rows) ∧ left'.rows = g'.readRows (1 :: rows)

variable {name : String}

theorem Restated.alike_filterRows (h : Restated g g')
    (hcolumn : g.findColumn name = .ok (some column))
    (hrange : ∀ row ∈ g.dataRows, (g.value row column).IsInRange) (title : String)
    (op : Comparison) (value : Binary64) :
    Alike (.filterRows name op value) title g g' (g.rowsWhere column op value) := by
  obtain ⟨left, hleft, happly⟩ := exists_filterRows hcolumn hrange title op value
  obtain ⟨left', hleft', happly'⟩ := exists_filterRows ((h.findColumn_eq name).trans hcolumn)
    (h.isInRange hrange) title op value
  rw [h.rowsWhere_eq hrange] at hleft' happly'
  refine ⟨left, left', _, happly, happly'.trans ?_, hleft.rows_eq, hleft'.rows_eq⟩
  rw [filterRecord, filterRecord, h.dataRows_eq, h.width_eq]

theorem Restated.alike_sortBy (h : Restated g g')
    (hcolumn : g.findColumn name = .ok (some column))
    (hnumber : ∀ row ∈ g.dataRows, (g.value row column).IsNumber) (title : String)
    (direction : Direction) :
    Alike (.sortBy name direction) title g g' (g.sortedRows column direction) := by
  have hrange : ∀ row ∈ g.dataRows, (g.value row column).IsInRange := fun row hrow =>
    (hnumber row hrow).isInRange
  obtain ⟨left, happly, hshows, -⟩ := apply_sortBy hcolumn hrange title direction
  obtain ⟨left', happly', hshows', -⟩ := apply_sortBy ((h.findColumn_eq name).trans hcolumn)
    (h.isInRange hrange) title direction
  rw [h.sortedRows_eq hnumber] at hshows'
  refine ⟨left, left', _, happly, happly'.trans ?_, hshows.rows_eq, hshows'.rows_eq⟩
  rw [sortRecord, sortRecord, h.dataRows_eq, h.width_eq]

/-- What is written into a row is the same. -/
theorem Restated.entryAt_eq {r : Nat} (h : Restated g g') (ha : (g.value r a).IsInRange)
    (hb : (g.value r b).IsInRange) : g'.entryAt a b new r = g.entryAt a b new r := by
  rw [entryAt, entryAt, h.sumAt_eq ha hb]

section
variable (h : Restated g g') (ha : g.findColumn first = .ok (some a))
  (hb : g.findColumn second = .ok (some b))
  (hrange : ∀ row ∈ g.dataRows, (g.value row a).IsInRange ∧ (g.value row b).IsInRange)
include h ha hb hrange

theorem Restated.result_addColumnSum (title new : String) :
    ((Edit.addColumnSum first second new).apply title g').result =
      ((Edit.addColumnSum first second new).apply title g).result := by
  rw [apply_addColumnSum ha hb, apply_addColumnSum ((h.findColumn_eq first).trans ha)
    ((h.findColumn_eq second).trans hb)]
  refine h.touchHeaders.result_addSums fun r hr => ?_
  rw [dataRows, height_touchHeaders] at hr
  rw [sumAt_touchHeaders, sumAt_touchHeaders]
  exact h.sumAt_eq (hrange r hr).1 (hrange r hr).2

theorem Restated.value_addColumnSum {record : ChangeRecord}
    (hrecord : ((Edit.addColumnSum first second new).apply title g).result = .ok record) :
    ∃ last, g.IsLastHeader last ∧ ∀ row, 1 ≤ row → row ≤ g.height →
      ((Edit.addColumnSum first second new).apply title g').grid.value row (last + 1) =
        ((Edit.addColumnSum first second new).apply title g).grid.value row (last + 1) := by
  obtain ⟨last, hlast, -, hsummed⟩ := summed_of_findColumn ha hb hrecord
  obtain ⟨_, hlast', -, hsummed'⟩ := summed_of_findColumn ((h.findColumn_eq first).trans ha)
    ((h.findColumn_eq second).trans hb)
    ((h.result_addColumnSum ha hb hrange title new).trans hrecord)
  obtain rfl := Except.ok.inj ((h.lastHeaderColumn_eq.symm.trans hlast').symm.trans hlast)
  refine ⟨_, isLastHeader_of_findColumn ha hlast, fun row hone hle => ?_⟩
  have hentry := hsummed.entryAt_eq hone hle
  have hentry' := hsummed'.entryAt_eq hone (hle.trans h.height_eq.ge)
  have hsame : g'.entryAt a b new row = g.entryAt a b new row := by
    rcases Nat.eq_or_lt_of_le hone with rfl | htwo
    · rfl
    · have hr := hrange row (mem_dataRows.mpr ⟨htwo, hle⟩)
      exact h.entryAt_eq hr.1 hr.2
  exact Except.ok.inj (hentry'.symm.trans (hsame.trans hentry))

end

/-- What came in and what went out. -/
def stock : Grid :=
  ⟨[((1, 1), .text "Item"), ((1, 2), .text "In"), ((1, 3), .text "Out"), ((2, 1), .text "Nails"),
    ((2, 2), .int 700), ((2, 3), .int (-1200)), ((3, 1), .text "Glue"), ((3, 2), .int 9),
    ((3, 3), .int (-9)), ((4, 1), .text "Tape"), ((4, 2), .int 80), ((4, 3), .int (-4))]⟩

/-- One number of the stock as a text. -/
def typedStock : Grid := stock.put 2 3 (.text " -1,200 ")

theorem restated_typedStock : Restated stock typedStock := by
  have hspells : Spells " -1,200 " (-1200) :=
    ⟨.ofInt (-1200), [' '], [' '], IntegerText.value_ofInt _, .inl (by decide), by decide,
      by decide⟩
  exact restated_put (by decide) (by decide +kernel) hspells

end Grid

end SheetCommand
