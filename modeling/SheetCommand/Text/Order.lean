/-!
# Text — order

Texts are ordered as in a dictionary over code points; a text comes after its own beginnings.
-/

namespace SheetCommand.Text

def order : List Char → List Char → Ordering
  | [], [] => .eq
  | [], _ :: _ => .lt
  | _ :: _, [] => .gt
  | c :: s, d :: t => (compare c.toNat d.toNat).then (order s t)

theorem order_self (s : List Char) : order s s = .eq := by
  induction s with
  | nil => rfl
  | cons c s ih => simp [order, ih]

theorem order_swap (s t : List Char) : (order s t).swap = order t s := by
  induction s generalizing t with
  | nil => cases t <;> rfl
  | cons c s ih =>
    cases t with
    | nil => rfl
    | cons d t => simp [order, Ordering.swap_then, ih, Nat.compare_swap]

theorem eq_of_order_eq {s t : List Char} (h : order s t = .eq) : s = t := by
  induction s generalizing t with
  | nil => cases t <;> simp_all [order]
  | cons c s ih =>
    cases t with
    | nil => simp [order] at h
    | cons d t =>
      simp only [order, Ordering.then_eq_eq, Nat.compare_eq_eq] at h
      rw [Char.toNat_inj.mp h.1, ih h.2]

end SheetCommand.Text
