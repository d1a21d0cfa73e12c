import SheetCommand.Proofs.Number.Exact
import SheetCommand.Proofs.Sheet.Reasons
import SheetCommand.Proofs.Sheet.Resolution

/-!
# Sheet — the column of sums

The sums of two columns are written into the column to the right of the last header. A header of
white space is none, and data may reach further than the headers, so that column need not be empty:
what stands there is overwritten, and nothing else is (`Summed`).

* `addColumnSum_spec`: the header and the sums that are written, the frame and the record.
* `addColumnSum_keeps`: which cells still hold what they held.
-/

namespace SheetCommand

/-! ### Sums -/

namespace Number

/-- The real number next to which an integer is added. -/
def toReal : Number → Binary64
  | int n => .nearest n
  | real x => x

/-- Integers add exactly. Any other sum is the real number nearest to the sum of the two, integers
having become real first. -/
inductive IsSum : Number → Number → Number → Prop where
  | int (m n : Int) : IsSum (.int m) (.int n) (.int (m + n))
  | real {m n : Number} {p q : ℚ} {x : Binary64}
      (hreal : (∃ y, m = .real y) ∨ ∃ y, n = .real y) (hm : m.toReal.value? = some p)
      (hn : n.toReal.value? = some q) (hx : x.Rounds (p + q)) : IsSum m n (.real x)

/-- A real number is finite. -/
def IsFinite (n : Number) : Prop := ∀ x, n = .real x → x.isFinite = true

theorem toReal_int (n : Int) : (int n).toReal = .ofInt n := (Binary64.ofInt_eq_nearest n).symm

theorem exists_value?_of_isFinite {x : Binary64} (h : x.isFinite = true) : ∃ p, x.value? = some p :=
  Option.isSome_iff_exists.mp (Binary64.isSome_value?.trans h)

theorem IsFinite.exists_value? {n : Number} (h : n.IsFinite) : ∃ p, n.value? = some p := by
  cases n with
  | int n => exact ⟨n, rfl⟩
  | real x => exact exists_value?_of_isFinite (h x rfl)

/-- **A sum that is found** is the sum. -/
theorem isSum_of_add {m n s : Number} (hm : m.IsFinite) (hn : n.IsFinite) (h : m.add n = .ok s) :
    m.IsSum n s := by
  cases m with
  | int m =>
    cases n with
    | int n =>
      obtain rfl := Except.ok.inj h
      exact .int m n
    | real y =>
      simp only [add] at h
      split at h
      · rename_i hfinite
        obtain rfl := Except.ok.inj h
        obtain ⟨p, hp⟩ := exists_value?_of_isFinite hfinite
        obtain ⟨q, hq⟩ := exists_value?_of_isFinite (hn y rfl)
        exact .real (.inr ⟨y, rfl⟩) (toReal_int m ▸ hp) hq (Binary64.rounds_add hp hq)
      · cases h
  | real x =>
    obtain ⟨p, hp⟩ := exists_value?_of_isFinite (hm x rfl)
    cases n with
    | int n =>
      simp only [add] at h
      split at h
      · rename_i hfinite
        obtain rfl := Except.ok.inj h
        obtain ⟨q, hq⟩ := exists_value?_of_isFinite hfinite
        exact .real (.inl ⟨x, rfl⟩) hp (toReal_int n ▸ hq) (Binary64.rounds_add hp hq)
      · cases h
    | real y =>
      obtain rfl := Except.ok.inj h
      obtain ⟨q, hq⟩ := exists_value?_of_isFinite (hn y rfl)
      exact .real (.inl ⟨x, rfl⟩) hp hq (Binary64.rounds_add hp hq)

/-- A real zero counts as the integer, so that adding it changes nothing. -/
def counted : Number → Number
  | int n => .int n
  | real x => if x.isZero then .int 0 else .real x

end Number

namespace CellValue

/-- What a cell counts in a sum: zero, unless it stands for a finite number. -/
def counted : CellValue → Number
  | int n => .int n
  | real x => if x.isFinite then (Number.real x).counted else .int 0
  | text s => ((Numeral.number? s.toList).getD (.int 0)).counted
  | blank | bool _ | moment _ => .int 0

theorem isFinite_of_number? {text : List Char} {n : Number} (h : Numeral.number? text = some n) :
    n.IsFinite := by
  rintro x rfl
  simp only [Numeral.number?] at h
  split at h
  · cases h
  · split at h
    · split at h
      · obtain rfl := Number.real.inj (Option.some.inj h)
        assumption
      · cases h
    · cases h

theorem isFinite_counted_number {n : Number} (h : n.IsFinite) : n.counted.IsFinite := by
  rintro x hx
  cases n with
  | int n => cases hx
  | real y =>
    rw [Number.counted] at hx
    split at hx
    · cases hx
    · obtain rfl := Number.real.inj hx
      exact h y rfl

theorem isFinite_counted (v : CellValue) : v.counted.IsFinite := by
  have hint : ∀ n : Int, (Number.int n).IsFinite := fun n x hx => by cases hx
  cases v with
  | int n => exact hint n
  | blank | bool | moment => exact hint 0
  | real x =>
    rw [counted]
    split
    · rename_i hx
      exact isFinite_counted_number fun y hy => by cases hy; exact hx
    · exact hint 0
  | text s =>
    refine isFinite_counted_number ?_
    cases h : Numeral.number? s.toList with
    | none => exact hint 0
    | some n => exact isFinite_of_number? h

theorem eq_counted_of_addend {v : CellValue} {n : Number} (h : v.addend = .ok n) :
    n = v.counted := by
  obtain ⟨number, hnumber, h⟩ := bind_eq_ok_iff.mp h
  -- what is made of a number that the cell stands for
  have hcounted : n = (number.getD (.int 0)).counted := by
    rcases number with _ | m | x
    · exact (Except.ok.inj h).symm
    · exact (Except.ok.inj h).symm
    · dsimp only at h
      rw [Option.getD_some, Number.counted]
      split at h <;> rename_i hzero <;> simp only [hzero] <;> exact (Except.ok.inj h).symm
  rw [hcounted]
  cases v with
  | blank | bool | moment | text =>
    obtain rfl := Except.ok.inj hnumber
    rfl
  | int m =>
    rw [CellValue.number?] at hnumber
    split at hnumber
    · obtain rfl := Except.ok.inj hnumber
      rfl
    · cases hnumber
  | real x =>
    obtain rfl := Except.ok.inj hnumber
    rw [counted]
    split <;> rfl

end CellValue

namespace Grid

variable {g left : Grid} {a b column last : Nat} {first second new title : String}
  {record : ChangeRecord}

/-! ### The last header -/

/-- A header cell that shows nothing but white space. -/
def HeaderBlank (g : Grid) (column : Nat) : Prop :=
  ∃ label, (g.value 1 column).label = .ok label ∧ Text.trim label = []

/-- The column of the last header. -/
structure IsLastHeader (g : Grid) (last : Nat) : Prop where
  mem : last ∈ g.columns
  header : ¬ g.HeaderBlank last
  beyond : ∀ c, last < c → g.HeaderBlank c

/-- **The last header** of a grid with some header. -/
theorem isLastHeader_of_findColumn (hfirst : g.findColumn first = .ok (some a))
    (hlast : g.lastHeaderColumn = .ok last) : g.IsLastHeader last := by
  obtain ⟨headers, hheaders, hgetLast⟩ := bind_eq_ok_iff.mp hlast
  obtain ⟨hsorted, hsound, hcomplete⟩ := mem_headers hheaders
  rcases List.eq_nil_or_concat' headers with rfl | ⟨before, ⟨c, label⟩, rfl⟩
  · obtain ⟨headers', hheaders', hfound⟩ := bind_eq_ok_iff.mp hfirst
    obtain rfl := Except.ok.inj (hheaders.symm.trans hheaders')
    cases hfound
  · rw [List.getLast?_concat] at hgetLast
    obtain rfl := Except.ok.inj hgetLast
    obtain ⟨hmem, hlabel, htrim⟩ := hsound _ (List.mem_concat_self ..)
    refine ⟨hmem, ?_, fun d hd => ?_⟩
    · rintro ⟨label', hlabel', hblank⟩
      obtain rfl := Except.ok.inj (hlabel.symm.trans hlabel')
      exact htrim hblank
    · by_cases hd' : d ∈ g.columns
      · obtain ⟨label', hlabel', hkept⟩ := hcomplete d hd'
        refine ⟨label', hlabel', Classical.byContradiction fun hne => ?_⟩
        -- a later header would stand behind the last one
        rcases List.mem_append.mp (hkept hne) with hbefore | hself
        · have := (List.pairwise_append.mp hsorted).2.2 _ hbefore _ (List.mem_singleton_self _)
          exact Nat.lt_asymm hd this
        · obtain rfl := (Prod.mk.inj (List.mem_singleton.mp hself)).1
          exact Nat.lt_irrefl _ hd
      · have hbeyond : g.width < d := by
          rw [mem_columns] at hd'
          omega
        exact ⟨[], by rw [value_of_width_lt hbeyond]; rfl, rfl⟩

/-! ### Writing the sums -/

theorem height_writeSums {target : Nat} {rows : List Nat} (h : ∀ r ∈ rows, r ≤ g.height) :
    (writeSums a b target rows g).grid.height = g.height := by
  induction rows generalizing g with
  | nil => rfl
  | cons row rows ih =>
    obtain ⟨hrow, hrest⟩ := List.forall_mem_cons.mp h
    have hfirst : (g.touch row a).height = g.height := height_touch_of_le hrow
    have hsecond : ((g.touch row a).touch row b).height = g.height :=
      (height_touch_of_le (hrow.trans hfirst.ge)).trans hfirst
    rw [writeSums]
    dsimp only
    split
    · exact hfirst
    · split
      · exact hsecond
      · rename_i sum _
        have hput : (((g.touch row a).touch row b).put row target (.ofNumber sum)).height =
            g.height := (height_put_of_le (hrow.trans hsecond.ge)).trans hsecond
        rw [ih fun r hr => (hrest r hr).trans hput.ge, hput]

/-- A grid has a header and the sums of two columns of another one in a column, and otherwise what
the other one has. -/
structure Summed (g : Grid) (a b column : Nat) (new : String) (left : Grid) : Prop where
  height : left.height = g.height
  header : CellValue.ofText new = .ok (left.value 1 column)
  sums : ∀ r ∈ g.dataRows, ∃ n, g.sumAt a b r = .ok n ∧ left.value r column = .ofNumber n
  frame : ∀ r c, c ≠ column → left.value r c = g.value r c

/-- The rows that got their sums are all of them if no sum failed. -/
theorem summed_of_filled {headed : Grid} {header : CellValue}
    (hnew : CellValue.ofText new = .ok header)
    (hput : ∀ r c, headed.value r c = if (r, c) = (1, column) then header else g.value r c)
    (hheight : left.height = g.height) (h : Filled column (g.sumEntry a b) g.dataRows headed left) :
    Summed g a b column new left := by
  have hone : 1 ∉ g.dataRows := fun hm => absurd (mem_dataRows.mp hm).1 (by decide)
  refine ⟨hheight, ?_, fun r hr => ?_, fun r c hc => ?_⟩
  · rw [h.frame 1 column fun hm => absurd hm hone, hput, if_pos rfl]
    exact hnew
  · obtain ⟨entry, hentry⟩ := h.exists_entry hr
    obtain ⟨n, hn, he⟩ := exists_sumEntry hentry
    exact ⟨n, hn, h.value_eq hr he⟩
  · rw [h.frame r c fun _ hc' => absurd hc' hc, hput, if_neg]
    rintro ⟨⟩
    exact hc rfl

theorem summed_addSums (h : (Edit.addSums title first second new g a b).result = .ok record) :
    ∃ last, g.lastHeaderColumn = .ok last ∧
      record = Edit.sumRecord title first second new last g.height ∧
      Summed g a b (last + 1) new (Edit.addSums title first second new g a b).grid := by
  obtain ⟨last, hlast⟩ : ∃ last, g.lastHeaderColumn = .ok last := by
    cases hlast : g.lastHeaderColumn with
    | ok last => exact ⟨last, rfl⟩
    | error e => rw [Edit.addSums, hlast] at h; cases h
  obtain ⟨header, hnew⟩ : ∃ header, CellValue.ofText new = .ok header := by
    cases hnew : CellValue.ofText new with
    | ok header => exact ⟨header, rfl⟩
    | error e => rw [Edit.addSums, hlast, hnew] at h; cases h
  obtain ⟨headed, hput, hheight, hsums⟩ := Edit.exists_headed hlast hnew a b title first second
  rw [hsums] at h ⊢
  have hleft : (writeSums a b (last + 1) g.dataRows headed).grid.height = headed.height :=
    height_writeSums fun r hr => (mem_dataRows.mp hr).2.trans hheight.ge
  have hpassed :=
    passed_writeSums g a b (last + 1) g.nodup_dataRows (Edit.value_below_header hput)
  obtain ⟨_, hresult, rfl⟩ := map_eq_ok_iff.mp h
  rw [hresult] at hpassed
  cases hpassed with
  | all hfilled =>
    exact ⟨last, hlast, rfl, summed_of_filled hnew hput (hleft.trans hheight) hfilled⟩

theorem Summed.of_touchHeaders (h : Summed g.touchHeaders a b column new left) :
    Summed g a b column new left := by
  refine ⟨h.height.trans (height_touchHeaders g), h.header, fun r hr => ?_, fun r c hc => ?_⟩
  · rw [← sumAt_touchHeaders]
    refine h.sums r ?_
    rwa [dataRows, height_touchHeaders]
  · rw [h.frame r c hc, value_touchHeaders]

/-- An action that finds its columns adds them once the headers have been scanned. -/
theorem apply_addColumnSum (hfirst : g.findColumn first = .ok (some a))
    (hsecond : g.findColumn second = .ok (some b)) (title new : String) :
    (Edit.addColumnSum first second new).apply title g =
      Edit.addSums title first second new g.touchHeaders a b := by
  simp only [Edit.apply, locate_touchHeaders, Edit.operands,
    locate_of_findColumn_two hfirst hsecond, Edit.applyAt]

/-- An action that finds its columns and is not refused adds them. -/
theorem summed_of_findColumn (hfirst : g.findColumn first = .ok (some a))
    (hsecond : g.findColumn second = .ok (some b))
    (h : ((Edit.addColumnSum first second new).apply title g).result = .ok record) :
    ∃ last, g.lastHeaderColumn = .ok last ∧
      record = Edit.sumRecord title first second new last g.height ∧
      Summed g a b (last + 1) new ((Edit.addColumnSum first second new).apply title g).grid := by
  rw [apply_addColumnSum hfirst hsecond] at h ⊢
  obtain ⟨last, hlast, hrecord, hsummed⟩ := summed_addSums h
  rw [lastHeaderColumn_touchHeaders] at hlast
  rw [height_touchHeaders] at hrecord
  exact ⟨last, hlast, hrecord, hsummed.of_touchHeaders⟩

/-- **The column of sums.** Let both headers have a column, and let the action not be refused. Then
the column after the last header has the new name, cut to the length that a cell may have, and below
it in every row the sum of what the two cells of that row count; no other column has changed, the
sheet is as high as it was, and the record counts the rows and, with the name, the cells. -/
theorem addColumnSum_spec (hfirst : g.findColumn first = .ok (some a))
    (hsecond : g.findColumn second = .ok (some b))
    (h : ((Edit.addColumnSum first second new).apply title g).result = .ok record) :
    let left := ((Edit.addColumnSum first second new).apply title g).grid
    ∃ last, g.IsLastHeader last ∧
      left.value 1 (last + 1) = .text (.ofList (new.toList.take 32767)) ∧
      (∀ r ∈ g.dataRows, ∃ sum, (g.value r a).counted.IsSum (g.value r b).counted sum ∧
        left.value r (last + 1) = .ofNumber sum) ∧
      (∀ r c, c ≠ last + 1 → left.value r c = g.value r c) ∧ left.height = g.height ∧
      let effect := Effect.columnAdded new (last + 1) first second (g.height - 1)
      record = ⟨.addColumnSum, title ++ "!" ++ .ofList (columnLetters (last + 1)),
        .applied effect⟩ ∧
      effect.impact = [("rows", g.height - 1), ("cells", g.height)] := by
  intro left
  obtain ⟨last, hlast, hrecord, hsummed⟩ := summed_of_findColumn hfirst hsecond h
  refine ⟨last, isLastHeader_of_findColumn hfirst hlast, CellValue.ofText_eq_ok hsummed.header,
    fun r hr => ?_, hsummed.frame, hsummed.height, hrecord, ?_⟩
  · obtain ⟨n, hn, hvalue⟩ := hsummed.sums r hr
    obtain ⟨x, hx, hn⟩ := bind_eq_ok_iff.mp hn
    obtain ⟨y, hy, hn⟩ := bind_eq_ok_iff.mp hn
    rw [CellValue.eq_counted_of_addend hx, CellValue.eq_counted_of_addend hy] at hn
    exact ⟨n, Number.isSum_of_add (CellValue.isFinite_counted _) (CellValue.isFinite_counted _) hn,
      hvalue⟩
  · rw [Effect.impact, Nat.sub_add_cancel (one_le_height g)]

/-- A bill on which one tax is a text and one net amount is missing. -/
def bill : Grid :=
  ⟨[((1, 1), .text "Net"), ((1, 2), .text "Tax"), ((2, 1), .int 2), ((2, 2), .text "1,000"),
    ((3, 2), .real (.ofRatio false 1 2))]⟩

theorem addColumnSum_spec_bill :
    bill.findColumn "net" = .ok (some 1) ∧ bill.findColumn "tax" = .ok (some 2) ∧
      ((Edit.addColumnSum "net" "tax" "Gross").apply "Bill" bill).result =
        .ok ⟨.addColumnSum, "Bill!C", .applied (.columnAdded "Gross" 3 "net" "tax" 2)⟩ ∧
      let left := ((Edit.addColumnSum "net" "tax" "Gross").apply "Bill" bill).grid
      left.value 1 3 = .text "Gross" ∧ left.value 2 3 = .int 1002 ∧ left.value 3 2 = bill.value 3 2 ∧
        left.height = 3 := by
  have hnet : bill.findColumn "net" = .ok (some 1) := by decide +kernel
  have htax : bill.findColumn "tax" = .ok (some 2) := by decide +kernel
  have hresult : ((Edit.addColumnSum "net" "tax" "Gross").apply "Bill" bill).result =
      .ok ⟨.addColumnSum, "Bill!C", .applied (.columnAdded "Gross" 3 "net" "tax" 2)⟩ := by
    decide +kernel
  obtain ⟨last, -, hheader, hsums, hframe, hheight, hrecord, -⟩ :=
    addColumnSum_spec hnet htax hresult
  obtain ⟨rfl, -⟩ : last = 2 ∧ bill.height = 3 := by
    simpa using (congrArg ChangeRecord.outcome hrecord).symm
  obtain ⟨sum, hsum, hvalue⟩ := hsums 2 (by decide +kernel)
  have hcounted : (bill.value 2 1).counted = .int 2 ∧ (bill.value 2 2).counted = .int 1000 := by
    decide +kernel
  rw [hcounted.1, hcounted.2] at hsum
  refine ⟨hnet, htax, hresult, hheader, ?_, hframe 3 2 (by decide), hheight⟩
  cases hsum with
  | int => exact hvalue
  | real hreal => rcases hreal with ⟨y, hy⟩ | ⟨y, hy⟩ <;> cases hy

/-! ### What is kept -/

/-- What an action writes into a row of the column of sums. -/
def entryAt (g : Grid) (a b : Nat) (new : String) (r : Nat) : Except Failure CellValue :=
  if r = 1 then CellValue.ofText new else (g.sumAt a b r).map .ofNumber

theorem Summed.entryAt_eq {r : Nat} (h : Summed g a b column new left) (hone : 1 ≤ r)
    (hle : r ≤ g.height) : g.entryAt a b new r = .ok (left.value r column) := by
  rcases Nat.eq_or_lt_of_le hone with rfl | htwo
  · rw [entryAt, if_pos rfl, h.header]
  · obtain ⟨n, hn, hvalue⟩ := h.sums r (mem_dataRows.mpr ⟨htwo, hle⟩)
    rw [entryAt, if_neg (by omega), hn, hvalue]
    rfl

theorem le_height_of_value_ne_blank {r c : Nat} (h : g.value r c ≠ .blank) : r ≤ g.height := by
  cases hget : g.get? r c with
  | none => exact absurd (by rw [value, hget]; rfl) h
  | some v => exact le_height (by rw [hget]; rfl)

/-- An action that adds sums, and is neither refused nor skipped, finds its columns. -/
theorem exists_findColumn_of_applied
    (h : ((Edit.addColumnSum first second new).apply title g).result = .ok record)
    (happlied : record.isSkipped = false) :
    ∃ a b, g.findColumn first = .ok (some a) ∧ g.findColumn second = .ok (some b) := by
  have t := Edit.tried_apply (.addColumnSum first second new) title g
  generalize (Edit.addColumnSum first second new).apply title g = attempt at t h
  cases t with
  | unreadable _ => cases h
  | missing _ =>
    obtain rfl := Except.ok.inj h
    cases happlied
  | found hcolumns =>
    obtain ⟨a, b, -, ha, hb⟩ := locate_eq_ok_two hcolumns
    exact ⟨a, b, ha, hb⟩

/-- **What a column of sums leaves of the data.** Let the action be applied. Then a cell that held
something still holds it, unless it is in the column after the last header; there it does if it held
what is written: the new name, or the sum of its row. -/
theorem addColumnSum_keeps
    (h : ((Edit.addColumnSum first second new).apply title g).result = .ok record)
    (happlied : record.isSkipped = false) :
    let left := ((Edit.addColumnSum first second new).apply title g).grid
    ∃ a b last, g.findColumn first = .ok (some a) ∧ g.findColumn second = .ok (some b) ∧
      g.IsLastHeader last ∧
      ∀ r c, 1 ≤ r → g.value r c ≠ .blank →
        (left.value r c = g.value r c ↔
          (c = last + 1 → g.entryAt a b new r = .ok (g.value r c))) := by
  intro left
  obtain ⟨a, b, ha, hb⟩ := exists_findColumn_of_applied h happlied
  obtain ⟨last, hlast, -, hsummed⟩ := summed_of_findColumn ha hb h
  refine ⟨a, b, last, ha, hb, isLastHeader_of_findColumn ha hlast, fun r c hone hne => ?_⟩
  by_cases hc : c = last + 1
  · subst hc
    rw [hsummed.entryAt_eq hone (le_height_of_value_ne_blank hne), Except.ok.injEq]
    exact ⟨fun h _ => h, fun h => h rfl⟩
  · exact ⟨fun _ hc' => absurd hc' hc, fun _ => hsummed.frame r c hc⟩

/-- A sheet with a value to the right of its headers. -/
def overhang : Grid :=
  ⟨[((1, 1), .text "A"), ((1, 2), .text "B"), ((2, 1), .int 1), ((2, 2), .int 2),
    ((2, 3), .int 99)]⟩

theorem addColumnSum_keeps_overhang :
    ((Edit.addColumnSum "A" "B" "Total").apply "S" overhang).result =
        .ok ⟨.addColumnSum, "S!C", .applied (.columnAdded "Total" 3 "A" "B" 1)⟩ ∧
      let left := ((Edit.addColumnSum "A" "B" "Total").apply "S" overhang).grid
      left.value 2 1 = .int 1 ∧ ∃ a b last, overhang.IsLastHeader last ∧
        (left.value 2 3 = .int 99 ↔
          (3 = last + 1 → overhang.entryAt a b "Total" 2 = .ok (.int 99))) := by
  have hresult : ((Edit.addColumnSum "A" "B" "Total").apply "S" overhang).result =
      .ok ⟨.addColumnSum, "S!C", .applied (.columnAdded "Total" 3 "A" "B" 1)⟩ := by
    decide +kernel
  obtain ⟨a, b, last, -, -, hlast, hkeeps⟩ := addColumnSum_keeps hresult rfl
  have hone := (mem_columns.mp hlast.mem).1
  exact ⟨hresult, (hkeeps 2 1 (by decide) (by decide +kernel)).mpr fun hc => by omega,
    a, b, last, hlast, hkeeps 2 3 (by decide) (by decide +kernel)⟩

/-- Data to the right of the headers can be lost. -/
theorem addColumnSum_overwrites :
    ¬ ∀ (g : Grid) (title first second new : String) (record : ChangeRecord),
      ((Edit.addColumnSum first second new).apply title g).result = .ok record →
        record.isSkipped = false → ∀ r c, g.value r c ≠ .blank →
          ((Edit.addColumnSum first second new).apply title g).grid.value r c = g.value r c := by
  intro h
  have hkept := h overhang "S" "A" "B" "Total"
    ⟨.addColumnSum, "S!C", .applied (.columnAdded "Total" 3 "A" "B" 1)⟩ (by decide +kernel) rfl 2 3
    (by decide +kernel)
  revert hkept
  decide +kernel

end Grid

end SheetCommand
