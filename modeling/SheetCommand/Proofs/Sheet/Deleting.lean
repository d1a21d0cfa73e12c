import SheetCommand.Proofs.Sheet.Summing

/-!
# Sheet — a deleted column

The column that a name resolves to is taken out, and the columns to its right move up. What a
position holds, the headers and the width follow from where each column came from.

* `headers_eraseColumn`: the headers that are left.
* `deleteColumn_spec`: the cells, the width, the headers and the record.
* `deleteColumn_addColumnSum`: a column of sums that is deleted again leaves nothing behind.
-/

namespace SheetCommand.Grid

variable {g : Grid} {column c : Nat} {name : String} {label : List Char}
  {before after : List (Nat × List Char)}

/-! ### The headers that are left -/

theorem hasHeader_eraseColumn (hcolumn : 1 ≤ column) :
    (g.eraseColumn column).HasHeader c label ↔ g.HasHeader (unshift column c) label := by
  constructor
  · rintro ⟨hone, hlabel, hne⟩
    exact ⟨(one_le_unshift_iff hcolumn).mpr hone, value_eraseColumn .. ▸ hlabel, hne⟩
  · rintro ⟨hone, hlabel, hne⟩
    exact ⟨(one_le_unshift_iff hcolumn).mp hone, by rwa [value_eraseColumn], hne⟩

/-- The headers to the left of a column that is erased stay, and those to its right move up. -/
theorem headers_eraseColumn (h : g.headers = .ok (before ++ (column, label) :: after)) :
    (g.eraseColumn column).headers = .ok (before ++ after.map fun p => (p.1 - 1, p.2)) := by
  obtain ⟨hreadable, hsorted, hmem⟩ := headers_eq_ok_iff.mp h
  obtain ⟨hbefore, hrest, hcross⟩ := List.pairwise_append.mp hsorted
  obtain ⟨hright, hafter⟩ := List.pairwise_cons.mp hrest
  have hleft : ∀ p ∈ before, p.1 < column := fun p hp => hcross p hp _ List.mem_cons_self
  have hone : 1 ≤ column := ((hmem (column, label)).mp (by simp)).one_le
  refine headers_eq_ok_iff.mpr ⟨fun c hc => ?_, List.pairwise_append.mpr ⟨hbefore, ?_, ?_⟩,
    fun p => ?_⟩
  · rw [value_eraseColumn]
    exact hreadable _ ((one_le_unshift_iff hone).mpr hc)
  · refine List.pairwise_map.mpr (hafter.imp_of_mem fun {p q} hp _ hlt => ?_)
    have := hright p hp
    dsimp only at this ⊢
    omega
  · intro p hp moved hmoved
    obtain ⟨q, hq, rfl⟩ := List.mem_map.mp hmoved
    have := hleft p hp
    have := hright q hq
    dsimp only at this ⊢
    omega
  · rw [hasHeader_eraseColumn hone, ← hmem (unshift column p.1, p.2), List.mem_append,
      List.mem_append, List.mem_cons, List.mem_map]
    constructor
    · rintro (hp | ⟨q, hq, rfl⟩)
      · rw [unshift_of_lt (hleft p hp)]
        exact .inl hp
      · have := hright q hq
        dsimp only at this ⊢
        rw [unshift_of_le (by omega), Nat.sub_add_cancel (by omega)]
        exact .inr (.inr hq)
    · rintro (hp | e | hp)
      · rw [unshift_of_lt (unshift_lt_iff.mp (hleft _ hp))] at hp
        exact .inl hp
      · exact absurd (Prod.mk.inj e).1 (unshift_ne column p.1)
      · rw [unshift_of_le (lt_unshift_iff.mp (hright _ hp))] at hp
        exact .inr ⟨_, hp, rfl⟩

/-! ### Deleting -/

/-- An action that finds its column erases it. -/
theorem apply_deleteColumn (h : g.findColumn name = .ok (some c)) (title : String) :
    (Edit.deleteColumn name).apply title g = Edit.deleteAt title name g.touchHeaders c := by
  simp only [Edit.apply, locate_touchHeaders, Edit.operands, locate_of_findColumn h, Edit.applyAt]

theorem result_deleteColumn (h : g.findColumn name = .ok (some c)) (title : String) :
    ((Edit.deleteColumn name).apply title g).result = .ok ⟨.deleteColumn, title ++ "!" ++ name,
      .applied (.columnDeleted (g.value 1 c) c g.height)⟩ := by
  rw [apply_deleteColumn h, Edit.deleteAt, value_touchHeaders, height_touchHeaders]
  rfl

/-- What is to the right of a deleted column moves up. -/
theorem value_deleteColumn (h : g.findColumn name = .ok (some c)) (title : String) (r k : Nat) :
    ((Edit.deleteColumn name).apply title g).grid.value r k =
      if k < c then g.value r k else g.value r (k + 1) := by
  rw [apply_deleteColumn h, Edit.deleteAt, value_eraseColumn, value_touchHeaders, unshift]
  split <;> rfl

/-- **A deleted column.** Let a name have a column; it is the first one whose header is the name
without regard to case and spacing. Then the action is applied and records the place of that column.
What is to the left of it stays, what is to its right moves up by one column, and the sheet is one
column narrower, unless it had only one. The headers that are left are the old ones in their order
without the one of the column. -/
theorem deleteColumn_spec (h : g.findColumn name = .ok (some c)) (title : String) :
    let attempt := (Edit.deleteColumn name).apply title g
    let effect := Effect.columnDeleted (g.value 1 c) c g.height
    g.IsFirstHeader (CellValue.headerKey name.toList) c ∧
      attempt.result = .ok ⟨.deleteColumn, title ++ "!" ++ name, .applied effect⟩ ∧
      effect.before.field? "index" = some (.ofNat c) ∧
      (∀ r k, attempt.grid.value r k = if k < c then g.value r k else g.value r (k + 1)) ∧
      attempt.grid.width = max 1 (g.width - 1) ∧
      ∃ before label after, g.headers = .ok (before ++ (c, label) :: after) ∧
        attempt.grid.headers = .ok (before ++ after.map fun p => (p.1 - 1, p.2)) := by
  intro attempt effect
  have happly : attempt = Edit.deleteAt title name g.touchHeaders c := apply_deleteColumn h title
  obtain ⟨before, label, after, hheaders, -⟩ := exists_of_findColumn h
  refine ⟨isFirstHeader_of_findColumn h, result_deleteColumn h title, rfl,
    value_deleteColumn h title, ?_, before, label, after, hheaders, ?_⟩
  · have hcolumn : c ∈ g.touchHeaders.columns := by
      rw [columns_touchHeaders]
      exact (of_findColumn h).1
    rw [happly, Edit.deleteAt, width_eraseColumn hcolumn (headed_touchHeaders g),
      width_touchHeaders]
  · rw [happly]
    exact headers_eraseColumn ((headers_touchHeaders g).trans hheaders)

/-- A sheet with a duplicated, a missing and a blank header. -/
def journal : Grid :=
  ⟨[((1, 1), .text "Date"), ((1, 3), .text "Net  Amount"), ((1, 4), .text " "),
    ((1, 5), .text "net amount"), ((2, 3), .int 7), ((3, 5), .int 9)]⟩

theorem deleteColumn_spec_journal :
    journal.findColumn "NET amount" = .ok (some 3) ∧
      let attempt := (Edit.deleteColumn "NET amount").apply "Bill" journal
      attempt.result = .ok ⟨.deleteColumn, "Bill!NET amount",
        .applied (.columnDeleted (.text "Net  Amount") 3 3)⟩ ∧
      attempt.grid.value 2 3 = .blank ∧ attempt.grid.value 3 4 = .int 9 ∧ attempt.grid.width = 4 ∧
      attempt.grid.headers = .ok [(1, "Date".toList), (4, "net amount".toList)] := by
  have hfound : journal.findColumn "NET amount" = .ok (some 3) := by decide +kernel
  obtain ⟨-, hresult, -, hvalue, hwidth, before, label, after, hheaders, hleft⟩ :=
    deleteColumn_spec hfound "Bill"
  have hlisted : journal.headers = .ok ([(1, "Date".toList)] ++ (3, "Net  Amount".toList) ::
    [(5, "net amount".toList)]) := by decide +kernel
  -- the column stands once among the headers, so there is one way to split them at it
  obtain ⟨rfl, hrest⟩ : before = [(1, "Date".toList)] ∧ (3, label) :: after =
      [(3, "Net  Amount".toList), (5, "net amount".toList)] := by
    have hsplit := Except.ok.inj (hheaders.symm.trans hlisted)
    rcases before with _ | ⟨p, _ | ⟨q, _ | ⟨o, rest⟩⟩⟩ <;> simp_all
  obtain rfl := (List.cons.inj hrest).2
  refine ⟨hfound, hresult, ?_, ?_, ?_, hleft⟩
  · rw [hvalue]; decide +kernel
  · rw [hvalue]; decide +kernel
  · rw [hwidth]; decide +kernel

/-! ### Adding a column and deleting it -/

variable {first second new title : String} {record : ChangeRecord}

/-- Nothing stands to the right of the last header. -/
def EndsAtHeaders (g : Grid) : Prop :=
  ∀ last, g.IsLastHeader last → ∀ r c, last < c → g.value r c = .blank

/-- The name of a new column finds it, unless another header has that name or the name is blank. -/
theorem findColumn_of_summed {left : Grid} {a b : Nat} (hsummed : Summed g a b column new left)
    (hcolumn : 1 ≤ column) (hreadable : g.Readable) (hlength : new.toList.length ≤ 32767)
    (hvisible : Text.trim new.toList ≠ [])
    (hnew : ∀ c label, g.HasHeader c label →
      CellValue.headerKey label ≠ CellValue.headerKey new.toList) :
    left.findColumn new = .ok (some column) := by
  have hlabel : (left.value 1 column).label = .ok new.toList := by
    rw [CellValue.ofText_eq_ok hsummed.header, List.take_of_length_le hlength, String.ofList_toList]
    rfl
  refine findColumn_eq_some_iff.mpr ⟨fun c hc => ?_, ⟨new.toList, ⟨hcolumn, hlabel, hvisible⟩, rfl⟩,
    fun c label hheader hkey => ?_⟩
  · by_cases hself : c = column
    · exact ⟨new.toList, hself ▸ hlabel⟩
    · rw [hsummed.frame 1 c hself]
      exact hreadable c hc
  · refine Nat.le_of_eq (Classical.byContradiction fun hne => ?_)
    have hold : g.HasHeader c label :=
      ⟨hheader.one_le, hsummed.frame 1 c (Ne.symm hne) ▸ hheader.label_eq, hheader.ne_blank⟩
    exact hnew c label hold hkey

/-- **A column of sums that is deleted again** leaves the sheet as it was. Let nothing stand to the
right of the last header, let the sums be added under a name that fits into a cell, is not blank and
is not yet a header, in whatever case and spacing. Then deleting that name is applied, and every
cell holds what it held before the two actions. -/
theorem deleteColumn_addColumnSum (hends : g.EndsAtHeaders)
    (hadded : ((Edit.addColumnSum first second new).apply title g).result = .ok record)
    (happlied : record.isSkipped = false) (hlength : new.toList.length ≤ 32767)
    (hvisible : Text.trim new.toList ≠ [])
    (hnew : ∀ c label, g.HasHeader c label →
      CellValue.headerKey label ≠ CellValue.headerKey new.toList) :
    let widened := ((Edit.addColumnSum first second new).apply title g).grid
    let attempt := (Edit.deleteColumn new).apply title widened
    ∃ deleted, attempt.result = .ok deleted ∧ deleted.isSkipped = false ∧
      g.SameValues attempt.grid := by
  intro widened attempt
  obtain ⟨a, b, ha, hb⟩ := exists_findColumn_of_applied hadded happlied
  obtain ⟨last, hlast, -, hsummed⟩ := summed_of_findColumn ha hb hadded
  have hclear := hends last (isLastHeader_of_findColumn ha hlast)
  have hfound : widened.findColumn new = .ok (some (last + 1)) :=
    findColumn_of_summed hsummed (Nat.le_add_left ..) (findColumn_eq_some_iff.mp ha).1 hlength
      hvisible hnew
  refine ⟨_, result_deleteColumn hfound title, rfl, fun r k => ?_⟩
  rw [value_deleteColumn hfound]
  split
  · rw [hsummed.frame r k (by omega)]
  · rw [hsummed.frame r (k + 1) (by omega), hclear r (k + 1) (by omega), hclear r k (by omega)]

theorem deleteColumn_addColumnSum_bill :
    let widened := ((Edit.addColumnSum "net" "tax" "Gross").apply "Bill" bill).grid
    let attempt := (Edit.deleteColumn "Gross").apply "Bill" widened
    widened.value 2 3 = .int 1002 ∧ ∃ deleted, attempt.result = .ok deleted ∧
      deleted.isSkipped = false ∧ bill.SameValues attempt.grid := by
  have hlisted : bill.headers = .ok [(1, "Net".toList), (2, "Tax".toList)] := by decide +kernel
  have hwidth : bill.width = 2 := by decide +kernel
  have htax : (bill.value 1 2).label = .ok "Tax".toList := by decide +kernel
  have hends : bill.EndsAtHeaders := by
    intro last hlast r c hc
    refine value_of_width_lt (hwidth ▸ Nat.lt_of_le_of_lt (Nat.le_of_not_lt fun hlt => ?_) hc)
    obtain ⟨label, hlabel, hblank⟩ := hlast.beyond 2 hlt
    obtain rfl := Except.ok.inj (htax.symm.trans hlabel)
    exact absurd hblank (by decide +kernel)
  have hadded : ((Edit.addColumnSum "net" "tax" "Gross").apply "Bill" bill).result =
      .ok ⟨.addColumnSum, "Bill!C", .applied (.columnAdded "Gross" 3 "net" "tax" 2)⟩ := by
    decide +kernel
  refine ⟨by decide +kernel, deleteColumn_addColumnSum hends hadded rfl (by decide +kernel)
    (by decide +kernel) fun c label hheader => ?_⟩
  have hmem := (mem_headers_iff hlisted (p := (c, label))).mpr hheader
  simp only [List.mem_cons, List.not_mem_nil, or_false] at hmem
  rcases hmem with ⟨rfl, rfl⟩ | ⟨rfl, rfl⟩ <;> decide +kernel

end SheetCommand.Grid
