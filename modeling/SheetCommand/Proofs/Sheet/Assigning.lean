import SheetCommand.Proofs.Number.Whole
import SheetCommand.Proofs.Sheet.Reasons
import SheetCommand.Proofs.Sheet.Resolution

/-!
# Sheet — values set under a condition

A value is written into one column of the rows whose cell in another column shows a given text, or
does not. The two columns may be the same: every row is compared before it is written, so the rows
are told by the sheet before the action (`Assigned`), and a row that the action has made match holds
the value already.

* `shown_eq_ok_iff`: the text that a cell shows.
* `exists_assigned`: an action that finds its columns and may write its value sets it.
* `setValueWhere_spec`: the rows, the cells, the record, and a second action.
-/

namespace SheetCommand

/-! ### The text of a cell -/

namespace CellValue

variable {v : CellValue} {text : List Char}

/-- A cell shows a text. Nothing shows as the empty text, and a whole number without a fraction. -/
inductive Displays : CellValue → List Char → Prop where
  | blank : Displays .blank []
  | bool (b : Bool) : Displays (.bool b) (if b then "True".toList else "False".toList)
  | int (n : Int) : Displays (.int n) (Numeral.written n)
  | whole {x : Binary64} {n : Int} (h : x.value? = some (n : ℚ)) :
      Displays (.real x) (Numeral.written n)
  | real {x : Binary64} (h : ∀ n : Int, x.value? ≠ some (n : ℚ)) : Displays (.real x) x.shown
  | text (s : String) : Displays (.text s) s.toList
  | moment (m : Moment) : Displays (.moment m) m.shown.toList

theorem intText_eq {n : Int} (h : (Text.decimal n.natAbs).length ≤ Numeral.digitLimit) :
    intText n = .ok (Numeral.written n) := by
  rw [intText, if_neg (Nat.not_lt.mpr h), Numeral.written]
  split <;> rfl

theorem displays_of_shown (hshort : v.IsShort) (h : v.shown = .ok text) : v.Displays text := by
  cases v with
  | blank => cases h; exact .blank
  | bool b => cases b <;> cases h <;> exact .bool _
  | int n =>
    obtain rfl := Except.ok.inj ((intText_eq (hshort n rfl)).symm.trans h)
    exact .int n
  | real x =>
    rw [shown] at h
    cases hx : x.toInt? with
    | some n =>
      rw [hx] at h
      obtain rfl := Except.ok.inj ((intText_eq (length_decimal_of_toInt? hx)).symm.trans h)
      exact .whole (Binary64.toInt?_eq_some_iff.mp hx)
    | none =>
      rw [hx] at h
      obtain rfl := Except.ok.inj h
      refine .real fun n hn => ?_
      rw [Binary64.toInt?_eq_some_iff.mpr hn] at hx
      cases hx
  | text s => cases h; exact .text s
  | moment m => cases h; exact .moment m

theorem Displays.unique {text' : List Char} (h : v.Displays text) (h' : v.Displays text') :
    text = text' := by
  cases h with
  | whole h =>
    cases h' with
    | whole h' => rw [Int.cast_injective (Option.some.inj (h.symm.trans h'))]
    | real h' => exact absurd h (h' _)
  | real h =>
    cases h' with
    | whole h' => exact absurd h' (h _)
    | real => rfl
  | blank | bool | int | text | moment => cases h'; rfl

theorem exists_shown (h : v.IsShort) : ∃ text, v.shown = .ok text := by
  cases hv : v.shown with
  | ok text => exact ⟨text, rfl⟩
  | error f => exact absurd hv (shown_ne_error h)

/-- **The text of a cell** whose integer can be written. -/
theorem shown_eq_ok_iff (h : v.IsShort) : v.shown = .ok text ↔ v.Displays text := by
  refine ⟨displays_of_shown h, fun hdisplays => ?_⟩
  obtain ⟨text', htext⟩ := exists_shown h
  rw [htext, hdisplays.unique (displays_of_shown h htext)]

end CellValue

namespace Grid

variable {g left again : Grid} {t c : Nat} {target condition conditionValue value title : String}
  {op : Equality} {v : CellValue} {rows rows' : List Nat}

/-! ### The rows that are written -/

/-- A loop that is nowhere refused collects the rows with an entry. -/
theorem result_writeWhere (g₀ : Grid) {g : Grid} {target condition : Nat} {passes : List Char → Bool}
    {entered : Nat → Bool} (hn : rows.Nodup) (h : ∀ r ∈ rows, ∀ c, g.value r c = g₀.value r c)
    (hentry : ∀ r ∈ rows, g₀.whereEntry condition passes (.ok v) r =
      .ok (if entered r then some v else none)) :
    (writeWhere target condition passes (.ok v) rows g).result = .ok (rows.filter entered) := by
  induction rows generalizing g with
  | nil => rfl
  | cons row rest ih =>
    obtain ⟨hrow, hrest⟩ := List.nodup_cons.mp hn
    obtain ⟨hfirst, hentries⟩ := List.forall_mem_cons.mp hentry
    have here : g.whereEntry condition passes (.ok v) row =
        g₀.whereEntry condition passes (.ok v) row := by
      simp only [whereEntry, h row List.mem_cons_self]
    cases he : entered row with
    | false =>
      rw [he, if_neg Bool.false_ne_true] at hfirst
      obtain ⟨g', hsame, e⟩ := writeWhere_of_none target rest (here.trans hfirst)
      rw [e, List.filter_cons_of_neg (by rw [he]; decide)]
      exact ih hrest (fun r hr c => (hsame r c).trans (h r (List.mem_cons_of_mem _ hr) c)) hentries
    | true =>
      rw [he, if_pos rfl] at hfirst
      obtain ⟨g', hsame, e⟩ := writeWhere_of_some target rest (here.trans hfirst)
      have hnext := value_put_of_sameValues hsame row target v
      rw [e, Attempt.map, ih hrest (agree_of_put h hrow hnext) hentries,
        List.filter_cons_of_pos he]
      rfl

theorem height_writeWhere {target condition : Nat} {passes : List Char → Bool}
    {value : Except Failure CellValue} (h : ∀ r ∈ rows, r ≤ g.height) :
    (writeWhere target condition passes value rows g).grid.height = g.height := by
  induction rows generalizing g with
  | nil => rfl
  | cons row rest ih =>
    obtain ⟨hrow, hrest⟩ := List.forall_mem_cons.mp h
    have hread : (g.touch row condition).height = g.height := height_touch_of_le hrow
    have hwritten : ((g.touch row condition).touch row target).height = g.height :=
      (height_touch_of_le (hrow.trans hread.ge)).trans hread
    rw [writeWhere]
    dsimp only
    split
    · exact hread
    · split
      · split
        · exact hwritten
        · rename_i v
          have hput : (((g.touch row condition).touch row target).put row target v).height =
              g.height := (height_put_of_le (hrow.trans hwritten.ge)).trans hwritten
          exact (ih fun r hr => (hrest r hr).trans hput.ge).trans hput
      · exact (ih fun r hr => (hrest r hr).trans hread.ge).trans hread

/-! ### What is left -/

/-- A row of the data whose cell in a column shows a text that compares so with another one. -/
def Meets (g : Grid) (c : Nat) (op : Equality) (conditionValue : String) (r : Nat) : Prop :=
  r ∈ g.dataRows ∧ ∃ text, (g.value r c).Displays text ∧
    op.holds (String.ofList text = conditionValue) = true

/-- A grid has a value in one column of the rows that meet a condition, which are listed from top to
bottom, and otherwise what another one has. -/
structure Assigned (g : Grid) (t c : Nat) (op : Equality) (conditionValue : String) (v : CellValue)
    (rows : List Nat) (left : Grid) : Prop where
  ascending : rows.Pairwise (· < ·)
  mem_iff : ∀ r, r ∈ rows ↔ g.Meets c op conditionValue r
  value : ∀ r k, left.value r k = if r ∈ rows ∧ k = t then v else g.value r k
  height : left.height = g.height

theorem Assigned.dataRows (h : Assigned g t c op conditionValue v rows left) :
    left.dataRows = g.dataRows := by
  rw [Grid.dataRows, Grid.dataRows, h.height]

theorem Assigned.findColumn {name : String} {k : Nat}
    (h : Assigned g t c op conditionValue v rows left) (hfound : g.findColumn name = .ok (some k)) :
    left.findColumn name = .ok (some k) := by
  refine findColumn_congr (fun d _ => ?_) hfound
  rw [h.value, if_neg]
  rintro ⟨hone, -⟩
  exact absurd (mem_dataRows.mp ((h.mem_iff 1).mp hone).1).1 (by decide)

/-- **Assigning twice.** A row that meets the condition only since the value was assigned has the
value, and any other one that meets it did so before. -/
theorem Assigned.sameValues (h : Assigned g t c op conditionValue v rows left)
    (h' : Assigned left t c op conditionValue v rows' again) : left.SameValues again := by
  intro r k
  rw [h'.value]
  split
  · rename_i hrk
    obtain ⟨hr, rfl⟩ := hrk
    by_cases hrow : r ∈ rows
    · rw [h.value, if_pos ⟨hrow, rfl⟩]
    · obtain ⟨hdata, text, hdisplays, hholds⟩ := (h'.mem_iff r).mp hr
      rw [h.value, if_neg fun hself => hrow hself.1] at hdisplays
      exact absurd ((h.mem_iff r).mpr ⟨h.dataRows ▸ hdata, text, hdisplays, hholds⟩) hrow
  · rfl

/-! ### Assigning -/

/-- Where a cell shows a text, it is known whether an entry is made. -/
theorem whereEntry_eq_of_shown {passes : List Char → Bool} {text : List Char} {r : Nat}
    (h : (g.value r c).shown = .ok text) :
    g.whereEntry c passes (.ok v) r = .ok (if passes text then some v else none) := by
  rw [whereEntry, h]
  cases hpasses : passes text <;> simp [hpasses, bind, Except.bind, Except.map, pure, Except.pure]

/-- Writing where a condition is met, if it can be told everywhere and the value may be written. -/
theorem exists_writeWhere_eq (hshort : ∀ r ∈ g.dataRows, (g.value r c).IsShort) (op : Equality)
    (conditionValue : String) :
    ∃ rows left, Assigned g t c op conditionValue v rows left ∧
      writeWhere t c (fun shown => op.holds (String.ofList shown = conditionValue)) (.ok v)
        g.dataRows g.touchHeaders = ⟨left, .ok rows⟩ := by
  let passes (shown : List Char) := op.holds (String.ofList shown = conditionValue)
  let entered (r : Nat) := decide (g.whereEntry c passes (.ok v) r = .ok (some v))
  have hentry : ∀ r ∈ g.dataRows, g.whereEntry c passes (.ok v) r =
      .ok (if entered r then some v else none) := by
    intro r hr
    obtain ⟨text, htext⟩ := CellValue.exists_shown (hshort r hr)
    simp only [entered, whereEntry_eq_of_shown htext]
    cases passes text <;> simp
  have hagree : ∀ r ∈ g.dataRows, ∀ k, g.touchHeaders.value r k = g.value r k :=
    fun r _ k => value_touchHeaders g r k
  have hresult : (writeWhere t c passes (.ok v) g.dataRows g.touchHeaders).result =
      .ok (g.dataRows.filter entered) :=
    result_writeWhere g g.nodup_dataRows hagree hentry
  have hpassed := passed_writeWhere g t c passes (.ok v) g.nodup_dataRows hagree
  have hheight : (writeWhere t c passes (.ok v) g.dataRows g.touchHeaders).grid.height = g.height :=
    (height_writeWhere fun r hr => (mem_dataRows.mp hr).2.trans (height_touchHeaders g).ge).trans
      (height_touchHeaders g)
  refine ⟨g.dataRows.filter entered, _, ?_, congrArg (Attempt.mk _) hresult⟩
  rw [hresult] at hpassed
  generalize (writeWhere t c passes (.ok v) g.dataRows g.touchHeaders).grid = left
    at hpassed hheight ⊢
  cases hpassed with
  | all hfilled =>
    have hentered : ∀ r, entered r = true ↔ g.MatchesAt c op conditionValue r := fun r =>
      decide_eq_true_iff.trans (whereEntry_eq_iff.trans (and_iff_left rfl))
    refine ⟨?_, fun r => ?_, fun r k => ?_, hheight⟩
    · exact List.Pairwise.filter _ List.pairwise_lt_range'
    · rw [List.mem_filter, hentered]
      refine and_congr_right fun hr => exists_congr fun text => and_congr_left fun _ => ?_
      exact CellValue.shown_eq_ok_iff (hshort r hr)
    · split
      · rename_i hrk
        obtain ⟨hr, rfl⟩ := hrk
        obtain ⟨hdata, he⟩ := List.mem_filter.mp hr
        exact hfilled.value_eq hdata (of_decide_eq_true he)
      · rename_i hrk
        refine (hfilled.frame r k fun hr hk => ?_).trans (value_touchHeaders g r k)
        rw [hentry r hr, if_neg fun he => hrk ⟨List.mem_filter.mpr ⟨hr, he⟩, hk⟩]

/-- An action that finds its columns, can read the condition everywhere and may write its value sets
it. -/
theorem exists_assigned (htarget : g.findColumn target = .ok (some t))
    (hcondition : g.findColumn condition = .ok (some c)) (hv : CellValue.ofText value = .ok v)
    (hshort : ∀ r ∈ g.dataRows, (g.value r c).IsShort) (op : Equality)
    (conditionValue title : String) :
    ∃ rows left, Assigned g t c op conditionValue v rows left ∧
      (Edit.setValueWhere target op condition conditionValue value).apply title g =
        ⟨left, .ok ⟨.setValueWhere, title ++ "!" ++ target,
          .applied (.valuesSet value condition op conditionValue rows)⟩⟩ := by
  obtain ⟨rows, left, hassigned, hwrite⟩ :=
    exists_writeWhere_eq (t := t) (v := v) hshort op conditionValue
  have hrows : g.touchHeaders.dataRows = g.dataRows := by
    rw [dataRows, height_touchHeaders, dataRows]
  refine ⟨rows, left, hassigned, ?_⟩
  simp only [Edit.apply, locate_touchHeaders, Edit.operands,
    locate_of_findColumn_two htarget hcondition, Edit.applyAt, Edit.setWhere, hv, hrows, hwrite]
  rfl

/-- A sheet with one column, in which the same text is shown by cells of three kinds. -/
def grades : Grid :=
  ⟨[((1, 1), .text "Grade"), ((2, 1), .real (.ofInt 5)), ((4, 1), .text "5"), ((5, 1), .int 5),
    ((6, 1), .bool true)]⟩

end Grid

end SheetCommand
