import Mathlib.Data.List.Chain
import Mathlib.Order.Lattice
import SheetCommand.Sheet.Arrange

/-!
# Sheet — what arranging guarantees

Two things can be said of an arranged list, by what is known of the test.

* Of a test that is never true both ways, as that of a column of numbers mixed with texts: no item
  precedes the one in front of it (`isChain_arrange`), and a list of which that holds is left as it
  is (`arrange_of_isChain`). Halving ends between two neighbours that both suit the new item, in
  whatever order the others are, so an insertion keeps what holds of neighbours.
* Of a test that compares ranks in a linear order: the items are ordered by rank, and those of one
  rank are in the order they had before (`pairwise_arrange`).
-/

namespace SheetCommand.Arrange

variable {α β : Type} {precedes : α → α → Bool} {items : List α}

/-- The second of two items does not precede the first. -/
def Settled (precedes : α → α → Bool) (a b : α) : Prop := precedes b a = false

/-! ### Runs -/

theorem isChain_chain (linked : α → α → Bool) (last : α) (items : List α) :
    (last :: (chain linked last items).1).IsChain (fun a b => linked a b = true) := by
  induction items generalizing last with
  | nil => exact .singleton last
  | cons x rest ih =>
    unfold chain
    split
    · rename_i hlinked
      exact .cons_cons hlinked (ih x)
    · exact .singleton last

theorem chain_of_isChain {linked : α → α → Bool} {last : α}
    (h : (last :: items).IsChain fun a b => linked a b = true) :
    chain linked last items = (items, []) := by
  induction items generalizing last with
  | nil => rfl
  | cons x rest ih =>
    obtain ⟨hlinked, hrest⟩ := List.isChain_cons_cons.mp h
    rw [chain, if_pos hlinked, ih hrest]

/-- The first run is a beginning of the list in which no item precedes the one in front of it, or
one in which each item does, turned round. -/
theorem exists_firstRun (precedes : α → α → Bool) (items : List α) :
    ∃ start, start ++ (firstRun precedes items).2 = items ∧
      ((firstRun precedes items).1 = start ∧ start.IsChain (Settled precedes) ∨
        (firstRun precedes items).1 = start.reverse ∧
          start.IsChain fun a b => precedes b a = true) := by
  match items with
  | [] => exact ⟨[], rfl, .inl ⟨rfl, .nil⟩⟩
  | [x] => exact ⟨[x], rfl, .inl ⟨rfl, .singleton x⟩⟩
  | x :: y :: rest =>
    by_cases h : precedes y x = true
    · simp only [firstRun, h, if_true]
      exact ⟨x :: (chain (fun a b => precedes b a) x (y :: rest)).1,
        by rw [List.cons_append, chain_append], .inr ⟨rfl, isChain_chain ..⟩⟩
    · simp only [firstRun, h, Bool.false_eq_true, if_false]
      refine ⟨x :: (chain (fun a b => !precedes b a) x (y :: rest)).1,
        by rw [List.cons_append, chain_append], .inl ⟨rfl, ?_⟩⟩
      exact (isChain_chain ..).imp fun a b hlinked => (Bool.not_eq_true' _).mp hlinked

theorem firstRun_of_isChain (h : items.IsChain (Settled precedes)) :
    firstRun precedes items = (items, []) := by
  match items with
  | [] | [x] => rfl
  | x :: y :: rest =>
    have hnot : precedes y x = false := (List.isChain_cons_cons.mp h).1
    have hall := chain_of_isChain (h.imp fun a b hab => (Bool.not_eq_true' _).mpr hab)
    simp only [firstRun, hnot, Bool.false_eq_true, if_false, hall]

/-- A list in which no item precedes the one in front of it is one run. -/
theorem arrange_of_isChain (h : items.IsChain (Settled precedes)) :
    arrange precedes items = items := by
  rw [arrange, firstRun_of_isChain h]
  rfl

theorem arrange_of_length_lt_two (h : items.length < 2) : arrange precedes items = items := by
  match items, h with
  | [], _ | [x], _ => rfl

/-! ### Insertions -/

/-- The place that is found suits the item before it and the item at it. -/
theorem place_spec (precedes : α → α → Bool) (x : α) (items : List α) {low high : Nat}
    (hle : low ≤ high)
    (hleft : ∀ k, k + 1 = low → ∀ a ∈ items[k]?, precedes x a = false)
    (hright : ∀ b ∈ items[high]?, precedes x b = true) :
    place precedes x items low high ≤ high ∧
      (∀ k, k + 1 = place precedes x items low high → ∀ a ∈ items[k]?, precedes x a = false) ∧
      ∀ b ∈ items[place precedes x items low high]?, precedes x b = true := by
  fun_induction place precedes x items low high with
  | case1 low high hlt middle hbefore ih =>
    have hmiddle : ∀ b ∈ items[middle]?, precedes x b = true := by
      intro b hb
      rw [Option.mem_def.mp hb] at hbefore
      exact hbefore
    obtain ⟨hhigh, hspec⟩ := ih (by omega) hleft hmiddle
    exact ⟨by omega, hspec⟩
  | case2 low high hlt middle hafter ih =>
    have hmiddle : ∀ k, k + 1 = middle + 1 → ∀ a ∈ items[k]?, precedes x a = false := by
      rintro k ⟨⟩ a ha
      rw [Option.mem_def.mp ha] at hafter
      exact Bool.eq_false_iff.mpr hafter
    exact ih (by omega) hmiddle hright
  | case3 low high hge =>
    obtain rfl : low = high := by omega
    exact ⟨Nat.le_refl low, hleft, hright⟩

/-- An item is inserted between two neighbours, the first of which it does not precede and the
second of which it does. -/
theorem exists_insert (precedes : α → α → Bool) (items : List α) (x : α) :
    ∃ before after, items = before ++ after ∧ insert precedes items x = before ++ x :: after ∧
      (∀ a ∈ before.getLast?, precedes x a = false) ∧ ∀ b ∈ after.head?, precedes x b = true := by
  obtain ⟨hle, hleft, hright⟩ := place_spec precedes x items (Nat.zero_le _)
    (fun k hk => absurd hk (Nat.succ_ne_zero k))
    (by rw [List.getElem?_eq_none (Nat.le_refl _)]; exact fun b hb => by cases hb)
  refine ⟨_, _, (List.take_append_drop (place precedes x items 0 items.length) items).symm, rfl,
    fun a ha => ?_, fun b hb => hright b (List.head?_drop ▸ hb)⟩
  cases hplace : place precedes x items 0 items.length with
  | zero =>
    rw [hplace] at ha
    cases ha
  | succ k =>
    refine hleft k hplace.symm a ?_
    have hlt : k < items.length := by omega
    rw [hplace, List.getLast?_take, if_neg (Nat.succ_ne_zero k), Nat.add_sub_cancel,
      List.getElem?_eq_getElem hlt] at ha
    rw [List.getElem?_eq_getElem hlt]
    exact ha

/-! ### A test that is never true both ways -/

section
variable (hasymm : ∀ a b, precedes a b = true → precedes b a = false)
include hasymm

theorem isChain_firstRun (items : List α) :
    (firstRun precedes items).1.IsChain (Settled precedes) := by
  obtain ⟨start, -, ⟨hrun, hstart⟩ | ⟨hrun, hstart⟩⟩ := exists_firstRun precedes items
  · rwa [hrun]
  · rw [hrun]
    exact List.isChain_reverse.mpr (hstart.imp fun a b => hasymm b a)

/-- **An insertion** keeps what holds of neighbours. -/
theorem isChain_insert {items : List α} (h : items.IsChain (Settled precedes)) (x : α) :
    (insert precedes items x).IsChain (Settled precedes) := by
  obtain ⟨before, after, rfl, hinsert, hleft, hright⟩ := exists_insert precedes items x
  obtain ⟨hbefore, hafter, -⟩ := List.isChain_append.mp h
  rw [hinsert]
  refine List.isChain_append.mpr ⟨hbefore, ?_, fun a ha b hb => ?_⟩
  · exact List.isChain_cons.mpr ⟨fun b hb => hasymm x b (hright b hb), hafter⟩
  · cases hb
    exact hleft a ha

/-- **In an arranged list no item precedes the one in front of it.** -/
theorem isChain_arrange (items : List α) : (arrange precedes items).IsChain (Settled precedes) := by
  have hfold : ∀ (rest run : List α), run.IsChain (Settled precedes) →
      (rest.foldl (insert precedes) run).IsChain (Settled precedes) := by
    intro rest
    induction rest with
    | nil => exact fun run h => h
    | cons x rest ih => exact fun run h => ih _ (isChain_insert hasymm h x)
  exact hfold _ _ (isChain_firstRun hasymm items)

end

/-! ### A test that compares ranks -/

section
variable [LinearOrder β] {rank : α → β} {earlier : α → α → Prop}

/-- An item is of lower rank than another, or of the same rank and earlier. -/
def Ranked (rank : α → β) (earlier : α → α → Prop) (a b : α) : Prop :=
  rank a < rank b ∨ rank a = rank b ∧ earlier a b

theorem Ranked.le {a b : α} (h : Ranked rank earlier a b) : rank a ≤ rank b :=
  h.elim le_of_lt fun h => le_of_eq h.1

theorem ranked_of_le {a b : α} (hle : rank a ≤ rank b) (h : earlier a b) :
    Ranked rank earlier a b :=
  (lt_or_eq_of_le hle).imp_right (⟨·, h⟩)

/-- Among the given items, one precedes another if it is of lower rank. -/
def FollowsRank (precedes : α → α → Bool) (rank : α → β) (items : List α) : Prop :=
  ∀ a ∈ items, ∀ b ∈ items, precedes a b = true ↔ rank a < rank b

theorem FollowsRank.settled {a b : α} (h : FollowsRank precedes rank items) (ha : a ∈ items)
    (hb : b ∈ items) : Settled precedes a b ↔ rank a ≤ rank b := by
  rw [Settled, Bool.eq_false_iff, Ne, h b hb a ha, not_lt]

theorem FollowsRank.mono {others : List α} (h : FollowsRank precedes rank items)
    (hsub : ∀ a ∈ others, a ∈ items) : FollowsRank precedes rank others :=
  fun a ha b hb => h a (hsub a ha) b (hsub b hb)

theorem pairwise_firstRun (h : FollowsRank precedes rank items) (hearlier : items.Pairwise earlier) :
    (firstRun precedes items).1.Pairwise (Ranked rank earlier) := by
  obtain ⟨start, happend, hrun⟩ := exists_firstRun precedes items
  have hbefore := (List.pairwise_append.mp (happend ▸ hearlier)).1
  have hfollows : FollowsRank precedes rank start :=
    h.mono fun a ha => happend ▸ List.mem_append_left _ ha
  rcases hrun with ⟨hrun, hstart⟩ | ⟨hrun, hstart⟩
  · have hle : start.IsChain fun a b => rank a ≤ rank b :=
      hstart.imp_of_mem_imp fun a b ha hb => (hfollows.settled ha hb).mp
    have : Trans (fun a b => rank a ≤ rank b) (fun a b => rank a ≤ rank b)
        (fun a b => rank a ≤ rank b) := ⟨le_trans⟩
    rw [hrun]
    exact ((List.isChain_iff_pairwise.mp hle).and hbefore).imp fun hab => ranked_of_le hab.1 hab.2
  · have hgt : start.IsChain fun a b => rank b < rank a :=
      hstart.imp_of_mem_imp fun a b ha hb => (hfollows b hb a ha).mp
    have : Trans (fun a b => rank b < rank a) (fun a b => rank b < rank a)
        (fun a b => rank b < rank a) := ⟨fun hab hbc => lt_trans hbc hab⟩
    rw [hrun]
    exact List.pairwise_reverse.mpr ((List.isChain_iff_pairwise.mp hgt).imp .inl)

/-- An item that comes after all others is inserted after those of its rank. -/
theorem pairwise_insert {x : α} (h : FollowsRank precedes rank (x :: items))
    (hitems : items.Pairwise (Ranked rank earlier)) (hx : ∀ a ∈ items, earlier a x) :
    (insert precedes items x).Pairwise (Ranked rank earlier) := by
  obtain ⟨before, after, rfl, hinsert, hleft, hright⟩ := exists_insert precedes items x
  obtain ⟨hbefore, hafter, hacross⟩ := List.pairwise_append.mp hitems
  have hxmem : x ∈ x :: (before ++ after) := List.mem_cons_self
  have hmem : ∀ a ∈ before ++ after, a ∈ x :: (before ++ after) := fun a ha =>
    List.mem_cons_of_mem x ha
  -- ranks do not fall, so what holds of the neighbours holds of all items on their side
  have hlow : ∀ a ∈ before, rank a ≤ rank x := by
    rcases List.eq_nil_or_concat' before with rfl | ⟨start, last, rfl⟩
    · exact fun a ha => by cases ha
    · have hlast : rank last ≤ rank x :=
        (h.settled (hmem last (by simp)) hxmem).mp (hleft last (by simp))
      intro a ha
      rcases List.mem_append.mp ha with ha | ha
      · exact ((List.pairwise_append.mp hbefore).2.2 a ha last (by simp)).le.trans hlast
      · rw [List.mem_singleton.mp ha]
        exact hlast
  have hhigh : ∀ b ∈ after, rank x < rank b := by
    cases after with
    | nil => exact fun b hb => by cases hb
    | cons first rest =>
      have hfirst : rank x < rank first :=
        (h x hxmem first (hmem first (by simp))).mp (hright first rfl)
      intro b hb
      rcases List.mem_cons.mp hb with rfl | hb
      · exact hfirst
      · exact hfirst.trans_le ((List.pairwise_cons.mp hafter).1 b hb).le
  rw [hinsert]
  refine List.pairwise_append.mpr ⟨hbefore,
    List.pairwise_cons.mpr ⟨fun b hb => .inl (hhigh b hb), hafter⟩, fun a ha b hb => ?_⟩
  rcases List.mem_cons.mp hb with rfl | hb
  · exact ranked_of_le (hlow a ha) (hx a (List.mem_append_left _ ha))
  · exact hacross a ha b hb

/-- Insertions of items that come after all others, one after the other. -/
theorem pairwise_foldl_insert {rest run : List α} (h : FollowsRank precedes rank (run ++ rest))
    (hrun : run.Pairwise (Ranked rank earlier)) (hrest : rest.Pairwise earlier)
    (hacross : ∀ a ∈ run, ∀ x ∈ rest, earlier a x) :
    (rest.foldl (insert precedes) run).Pairwise (Ranked rank earlier) := by
  induction rest generalizing run with
  | nil => exact hrun
  | cons x rest ih =>
    obtain ⟨hx, hrest⟩ := List.pairwise_cons.mp hrest
    have hperm : (x :: run ++ rest).Perm (run ++ x :: rest) := List.perm_middle.symm
    have hinserted : ∀ a, a ∈ insert precedes run x ↔ a ∈ x :: run := fun a =>
      (insert_perm precedes run x).mem_iff
    refine ih ?_ ?_ hrest fun a ha y hy => ?_
    · refine h.mono fun a ha => hperm.mem_iff.mp ?_
      rwa [List.mem_append, ← hinserted, ← List.mem_append]
    · refine pairwise_insert (h.mono fun a ha => hperm.mem_iff.mp ?_) hrun fun a ha =>
        hacross a ha x List.mem_cons_self
      exact List.mem_append_left rest ha
    · rcases List.mem_cons.mp ((hinserted a).mp ha) with rfl | ha
      · exact hx y hy
      · exact hacross a ha y (List.mem_cons_of_mem x hy)

/-- **A list that is arranged by rank** is ordered by rank, and items of one rank are in the order
they had before. -/
theorem pairwise_arrange (h : FollowsRank precedes rank items) (hearlier : items.Pairwise earlier) :
    (arrange precedes items).Pairwise (Ranked rank earlier) := by
  have hperm := firstRun_perm precedes items
  obtain ⟨start, happend, hrun⟩ := exists_firstRun precedes items
  have hparts := List.pairwise_append.mp (happend ▸ hearlier)
  have hstart : ∀ a ∈ (firstRun precedes items).1, a ∈ start := by
    intro a ha
    rcases hrun with ⟨hrun, -⟩ | ⟨hrun, -⟩ <;> simpa [hrun] using ha
  exact pairwise_foldl_insert (h.mono fun a ha => hperm.mem_iff.mp ha)
    (pairwise_firstRun h hearlier) hparts.2.1 fun a ha => hparts.2.2 a (hstart a ha)

end

/-! ### Items that stand for others -/

theorem chain_map (linked : β → β → Bool) (f : α → β) (last : α) (items : List α) :
    chain linked (f last) (items.map f) =
      ((chain (fun a b => linked (f a) (f b)) last items).1.map f,
        (chain (fun a b => linked (f a) (f b)) last items).2.map f) := by
  induction items generalizing last with
  | nil => rfl
  | cons x rest ih =>
    simp only [List.map_cons, chain, ih]
    split <;> rfl

theorem place_map (precedes : β → β → Bool) (f : α → β) (x : α) (items : List α) (low high : Nat) :
    place precedes (f x) (items.map f) low high =
      place (fun a b => precedes (f a) (f b)) x items low high := by
  have hany : ∀ k : Nat, (items.map f)[k]?.any (precedes (f x)) =
      items[k]?.any fun b => precedes (f x) (f b) := by
    intro k
    rw [List.getElem?_map, Option.any_map]
  fun_induction place (fun a b => precedes (f a) (f b)) x items low high with
  | case1 low high hlt middle hbefore ih =>
    rw [place, if_pos hlt, ← ih]
    exact if_pos ((hany middle).trans hbefore)
  | case2 low high hlt middle hafter ih =>
    rw [place, if_pos hlt, ← ih]
    exact if_neg fun h => hafter ((hany middle).symm.trans h)
  | case3 low high hge => rw [place, if_neg hge]

theorem insert_map (precedes : β → β → Bool) (f : α → β) (items : List α) (x : α) :
    insert precedes (items.map f) (f x) =
      (insert (fun a b => precedes (f a) (f b)) items x).map f := by
  simp only [insert, List.length_map, place_map, List.map_append, List.map_take, List.map_cons,
    List.map_drop]

theorem firstRun_map (precedes : β → β → Bool) (f : α → β) (items : List α) :
    firstRun precedes (items.map f) =
      ((firstRun (fun a b => precedes (f a) (f b)) items).1.map f,
        (firstRun (fun a b => precedes (f a) (f b)) items).2.map f) := by
  match items with
  | [] | [x] => rfl
  | x :: y :: rest =>
    have hrun (linked : β → β → Bool) := chain_map linked f x (y :: rest)
    simp only [List.map_cons] at hrun ⊢
    simp only [firstRun, hrun]
    split <;> simp

/-- Arranging items that stand for others arranges the others. -/
theorem arrange_map (precedes : β → β → Bool) (f : α → β) (items : List α) :
    arrange precedes (items.map f) =
      (arrange (fun a b => precedes (f a) (f b)) items).map f := by
  have hfold : ∀ rest run : List α, (rest.map f).foldl (insert precedes) (run.map f) =
      (rest.foldl (insert fun a b => precedes (f a) (f b)) run).map f := by
    intro rest
    induction rest with
    | nil => exact fun run => rfl
    | cons x rest ih =>
      intro run
      rw [List.map_cons, List.foldl_cons, insert_map, ih, List.foldl_cons]
  simp only [arrange, firstRun_map, hfold]

end SheetCommand.Arrange
