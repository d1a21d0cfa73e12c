/-!
# Sheet — arranging

Sorting by a test that may fail to be transitive, as columns of numbers mixed with texts have it. The
result is then not determined by the test alone, so the steps are part of the rule: the longest run
at the front that does not descend, or else that descends strictly and is reversed, is taken as it
is; every further item is inserted by halving, after its equals.
-/

namespace SheetCommand.Arrange

variable {α : Type}

/-- The longest beginning of a list in which each item is linked to the one before it, `last` at
first. -/
def chain (linked : α → α → Bool) (last : α) : List α → List α × List α
  | [] => ([], [])
  | x :: rest =>
    if linked last x then (x :: (chain linked x rest).1, (chain linked x rest).2)
    else ([], x :: rest)

/-- The first run in ascending order, and the rest. -/
def firstRun (precedes : α → α → Bool) : List α → List α × List α
  | x :: y :: rest =>
    if precedes y x then
      let (run, rest) := chain (fun a b => precedes b a) x (y :: rest)
      ((x :: run).reverse, rest)
    else
      let (run, rest) := chain (fun a b => !precedes b a) x (y :: rest)
      (x :: run, rest)
  | items => (items, [])

/-- The place between `low` and `high` where halving ends: left of an item that `x` precedes, right
of any other. -/
def place (precedes : α → α → Bool) (x : α) (items : List α) (low high : Nat) : Nat :=
  if low < high then
    let middle := (low + high) / 2
    if items[middle]?.any (precedes x) then place precedes x items low middle
    else place precedes x items (middle + 1) high
  else low
termination_by high - low

def insert (precedes : α → α → Bool) (items : List α) (x : α) : List α :=
  let k := place precedes x items 0 items.length
  items.take k ++ x :: items.drop k

def arrange (precedes : α → α → Bool) (items : List α) : List α :=
  let (run, rest) := firstRun precedes items
  rest.foldl (insert precedes) run

/-! ### The items are kept -/

theorem chain_append (linked : α → α → Bool) (last : α) (items : List α) :
    (chain linked last items).1 ++ (chain linked last items).2 = items := by
  induction items generalizing last with
  | nil => rfl
  | cons x rest ih =>
    unfold chain
    split
    · simp [ih]
    · rfl

theorem insert_perm (precedes : α → α → Bool) (items : List α) (x : α) :
    (insert precedes items x).Perm (x :: items) := by
  unfold insert
  refine List.perm_middle.trans (.cons _ ?_)
  rw [List.take_append_drop]

theorem firstRun_perm (precedes : α → α → Bool) (items : List α) :
    ((firstRun precedes items).1 ++ (firstRun precedes items).2).Perm items := by
  match items with
  | [] | [x] => simp [firstRun]
  | x :: y :: rest =>
    by_cases h : precedes y x = true
    · simp only [firstRun, h, if_true]
      refine ((List.reverse_perm _).append_right _).trans ?_
      simp [chain_append]
    · simp [firstRun, h, chain_append]

theorem foldl_insert_perm (precedes : α → α → Bool) (rest run : List α) :
    (rest.foldl (insert precedes) run).Perm (run ++ rest) := by
  induction rest generalizing run with
  | nil => simp
  | cons x rest ih =>
    refine (ih _).trans (((insert_perm precedes run x).append_right rest).trans ?_)
    exact List.perm_middle.symm

theorem arrange_perm (precedes : α → α → Bool) (items : List α) :
    (arrange precedes items).Perm items :=
  (foldl_insert_perm ..).trans (firstRun_perm ..)

end SheetCommand.Arrange
