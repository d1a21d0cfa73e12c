import Mathlib.Data.Char
import Mathlib.Data.List.Lex
import Mathlib.Data.Prod.Lex
import Mathlib.Data.Sum.Order
import Mathlib.Order.Compare
import Mathlib.Order.WithBot
import SheetCommand.Proofs.Number.Exact
import SheetCommand.Proofs.Number.Leading
import SheetCommand.Proofs.Sheet.Filtering
import SheetCommand.Proofs.Sheet.Reasons

/-!
# Sheet — the rank of a cell

Two cells compare as numbers if both stand for one, and otherwise as texts, so that in a column of
any cells `10` comes after `9`, `9` after `1a` and `1a` after `10`. In a column of blanks, numbers
and texts that start with a letter there is no such circle: each cell has a rank in a linear order,
and cells compare as their ranks do (`compares_rank`).

* `compare_swap`: in a column of any cells, one comes before another if that comes after it.
* `exists_sortKey`: cells are compared unless one is an integer out of range.
-/

namespace SheetCommand

/-! ### Texts -/

namespace Text

variable {s t : List Char}

theorem order_eq_lt_iff : order s t = .lt ↔ s < t := by
  induction s generalizing t with
  | nil => cases t <;> simp [order]
  | cons c s ih =>
    cases t with
    | nil => simp [order]
    | cons d t =>
      rw [order, Ordering.then_eq_lt, ih, Nat.compare_eq_lt, Nat.compare_eq_eq,
        List.cons_lt_cons_iff, Char.toNat_inj]
      rfl

/-- The order of a dictionary is the lexicographic one. -/
theorem order_compares (s t : List Char) : (order s t).Compares s t := by
  cases h : order s t with
  | lt => exact order_eq_lt_iff.mp h
  | eq => exact eq_of_order_eq h
  | gt =>
    rw [← Ordering.swap_inj, order_swap] at h
    exact order_eq_lt_iff.mp h

end Text

/-! ### Keys -/

theorem SortKey.compare_swap (a b : SortKey) : (a.compare b).swap = b.compare a := by
  obtain ⟨m, s⟩ := a
  obtain ⟨n, t⟩ := b
  cases m with
  | none => cases n <;> simp [compare, Ordering.swap_then, Text.order_swap]
  | some m =>
    cases n with
    | none => simp [compare, Ordering.swap_then, Text.order_swap]
    | some n =>
      simp only [compare, ← Number.compare?_swap m n]
      cases m.compare? n <;> rfl

namespace CellValue

/-- What a cell is sorted by, if it can be. -/
def key (v : CellValue) : SortKey :=
  match v.sortKey with
  | .ok key => key
  | .error _ => ⟨none, []⟩

variable {v w : CellValue}

theorem isShort_of_isInRange (h : v.IsInRange) : v.IsShort := by
  rintro n rfl
  have hlt : n.natAbs < 2 ^ 1024 := by
    refine Nat.lt_of_not_le fun hle => ?_
    rw [IsInRange, Binary64.isFinite_ofInt_eq_false hle] at h
    cases h
  exact Nat.toDigits_length 10 _ _ (by decide)
    (hlt.trans_le (Binary64.two_pow_le_ten_pow (by decide)))

theorem sortKey_of_isInRange (h : v.IsInRange) : v.sortKey = .ok v.key := by
  have hnumber : ∃ number, v.number? = .ok number := by
    cases v with
    | int n => exact ⟨some (.int n), if_pos h⟩
    | blank | bool | real | text | moment => exact ⟨_, rfl⟩
  obtain ⟨number, hnumber⟩ := hnumber
  cases hshown : v.shown with
  | error f => exact absurd hshown (shown_ne_error (isShort_of_isInRange h))
  | ok shown =>
    have hkey : v.sortKey = .ok ⟨number, shown⟩ := by
      rw [sortKey, hnumber]
      simp only [hshown]
      rfl
    rw [key, hkey]

theorem compare_of_isInRange (hv : v.IsInRange) (hw : w.IsInRange) :
    v.compare w = .ok (v.key.compare w.key) := by
  rw [compare, sortKey_of_isInRange hv, sortKey_of_isInRange hw]
  rfl

end CellValue

/-! ### Ranks -/

/-- Blanks come first, then numbers by value, then texts by their folded form and their letters. -/
abbrev Rank := WithBot (ℚ ⊕ₗ (List Char ×ₗ List Char))

namespace Rank

def blank : Rank := ⊥

def number (q : ℚ) : Rank := WithBot.some (Sum.inlₗ q)

def text (s : List Char) : Rank := WithBot.some (Sum.inrₗ (toLex (Text.fold s, s)))

theorem blank_lt_number (q : ℚ) : blank < number q := WithBot.bot_lt_coe _

theorem blank_lt_text (s : List Char) : blank < text s := WithBot.bot_lt_coe _

theorem number_lt_text (q : ℚ) (s : List Char) : number q < text s :=
  WithBot.coe_lt_coe.mpr (Sum.Lex.inl_lt_inr _ _)

theorem strictMono_number : StrictMono number :=
  WithBot.coe_strictMono.comp Sum.Lex.inl_strictMono

theorem text_lt_text {s t : List Char} : text s < text t ↔
    Text.fold s < Text.fold t ∨ Text.fold s = Text.fold t ∧ s < t := by
  rw [text, text, WithBot.coe_lt_coe, Sum.Lex.inr_lt_inr_iff, Prod.Lex.toLex_lt_toLex]

theorem compares_text (s t : List Char) :
    ((Text.order (Text.fold s) (Text.fold t)).then (Text.order s t)).Compares (text s) (text t) := by
  have hfolded := Text.order_compares (Text.fold s) (Text.fold t)
  have hletters := Text.order_compares s t
  cases hf : Text.order (Text.fold s) (Text.fold t) with
  | lt =>
    rw [hf] at hfolded
    exact text_lt_text.mpr (.inl hfolded)
  | gt =>
    rw [hf] at hfolded
    exact text_lt_text.mpr (.inl hfolded)
  | eq =>
    rw [hf] at hfolded
    cases hl : Text.order s t with
    | lt =>
      rw [hl] at hletters
      exact text_lt_text.mpr (.inr ⟨hfolded, hletters⟩)
    | gt =>
      rw [hl] at hletters
      exact text_lt_text.mpr (.inr ⟨hfolded.symm, hletters⟩)
    | eq => rw [Text.eq_of_order_eq hl]; exact rfl

end Rank

/-- How a cell of a given rank is compared: the text of a number does not start like that of a
word. -/
inductive SortKey.Has : SortKey → Rank → Prop where
  | blank : Has ⟨none, []⟩ Rank.blank
  | number {n : Number} {q : ℚ} {shown : List Char} (hvalue : n.value? = some q)
      (hlow : Text.StartsLow shown) : Has ⟨some n, shown⟩ (Rank.number q)
  | text {s : List Char} (h : Text.startsWithLetter s = true) : Has ⟨none, s⟩ (Rank.text s)

namespace SortKey

open Text

variable {a b : SortKey} {p q : Rank}

theorem order_fold_nil_eq_lt {c : Char} (hc : c.toNat < 128) (rest : List Char) :
    order (fold []) (fold (c :: rest)) = .lt := by
  rw [fold_nil, fold_cons, foldChar, if_pos hc]
  rfl

/-! Of each two kinds the one that comes first is told; the other follows by exchange. -/

theorem compares_blank_number {n : Number} {shown : List Char} (q : ℚ) (h : StartsLow shown) :
    (SortKey.compare ⟨none, []⟩ ⟨some n, shown⟩).Compares Rank.blank (Rank.number q) := by
  obtain ⟨c, rest, rfl, hc⟩ := h
  have hlt : SortKey.compare ⟨none, []⟩ ⟨some n, c :: rest⟩ = .lt := by
    simp only [compare, order_fold_nil_eq_lt (show c.toNat < 128 by omega), Ordering.then]
  rw [hlt]
  exact Rank.blank_lt_number q

theorem compares_blank_text {s : List Char} (h : startsWithLetter s = true) :
    (SortKey.compare ⟨none, []⟩ ⟨none, s⟩).Compares Rank.blank (Rank.text s) := by
  obtain ⟨c, rest, rfl, hc⟩ := exists_of_startsWithLetter h
  have hlt : SortKey.compare ⟨none, []⟩ ⟨none, c :: rest⟩ = .lt := by
    simp only [compare, order_fold_nil_eq_lt (toNat_of_isAlpha hc).2.1, Ordering.then]
  rw [hlt]
  exact Rank.blank_lt_text _

theorem compares_number_text {n : Number} {shown s : List Char} (q : ℚ) (hlow : StartsLow shown)
    (h : startsWithLetter s = true) :
    (SortKey.compare ⟨some n, shown⟩ ⟨none, s⟩).Compares (Rank.number q) (Rank.text s) := by
  have hlt : SortKey.compare ⟨some n, shown⟩ ⟨none, s⟩ = .lt := by
    simp only [compare, order_fold_eq_lt hlow h, Ordering.then]
  rw [hlt]
  exact Rank.number_lt_text q s

/-- Numbers compare by their values, whatever their texts. -/
theorem compares_number {n m : Number} {q r : ℚ} {shown shown' : List Char}
    (hn : n.value? = some q) (hm : m.value? = some r) :
    (SortKey.compare ⟨some n, shown⟩ ⟨some m, shown'⟩).Compares (Rank.number q) (Rank.number r) := by
  change ((Number.compare? n m).getD .eq).Compares _ _
  rw [Number.compare?_eq_cmp hn hm]
  exact Rank.strictMono_number.compares.mpr (cmp_compares ..)

/-- **Keys compare as their ranks do.** -/
theorem Has.compares (ha : a.Has p) (hb : b.Has q) : (a.compare b).Compares p q := by
  cases ha with
  | blank =>
    cases hb with
    | blank => exact rfl
    | number hvalue hlow => exact compares_blank_number _ hlow
    | text hs => exact compares_blank_text hs
  | number hvalue hlow =>
    cases hb with
    | blank => exact compare_swap .. ▸ (compares_blank_number _ hlow).swap
    | number hvalue' hlow' => exact compares_number hvalue hvalue'
    | text hs => exact compares_number_text _ hlow hs
  | text hs =>
    cases hb with
    | blank => exact compare_swap .. ▸ (compares_blank_text hs).swap
    | number hvalue' hlow' => exact compare_swap .. ▸ (compares_number_text _ hlow' hs).swap
    | text hs' => exact Rank.compares_text ..

end SortKey

namespace CellValue

variable {v w : CellValue}

/-- The rank of a blank cell or an empty text, of a number in range, of an ASCII text that stands for
a number, and of a text that starts with a letter. Other cells have none. -/
def rank? : CellValue → Option Rank
  | blank => some Rank.blank
  | int n => if (Binary64.ofInt n).isFinite then some (Rank.number n) else none
  | real x => x.value?.map Rank.number
  | text s =>
    if s.toList = [] then some Rank.blank
    else if Text.startsWithLetter s.toList then some (Rank.text s.toList)
    else if s.toList.all fun c => decide (c.toNat < 128) then
      ((Numeral.number? s.toList).bind Number.value?).map Rank.number
    else none
  | bool _ | moment _ => none

theorem isInRange_of_rank? {p : Rank} (h : v.rank? = some p) : v.IsInRange := by
  cases v with
  | int n =>
    rw [rank?] at h
    split at h
    · assumption
    · cases h
  | blank | bool | real | text | moment => trivial

theorem startsLow_shown_real {x : Binary64} {shown : List Char} (hx : x.isFinite = true)
    (h : (real x).shown = .ok shown) : Text.StartsLow shown := by
  rw [CellValue.shown] at h
  split at h
  · exact startsLow_intText h
  · obtain rfl := Except.ok.inj h
    exact Binary64.startsLow_shown hx

/-- A text with a rank is compared by it. -/
theorem has_of_rank?_text {s : String} {p : Rank} (h : (text s).rank? = some p) :
    (⟨Numeral.number? s.toList, s.toList⟩ : SortKey).Has p := by
  rw [rank?] at h
  split at h
  · rename_i hnil
    obtain rfl := Option.some.inj h
    rw [hnil]
    exact .blank
  · split at h
    · rename_i hletter
      obtain rfl := Option.some.inj h
      rw [Numeral.number?_eq_none_of_letter hletter]
      exact .text hletter
    · split at h
      · rename_i hascii
        obtain ⟨q, hq, rfl⟩ := Option.map_eq_some_iff.mp h
        obtain ⟨n, hn, hvalue⟩ := Option.bind_eq_some_iff.mp hq
        have hlow : ∀ c ∈ s.toList, c.toNat < 128 := fun c hc =>
          of_decide_eq_true (List.all_eq_true.mp hascii c hc)
        rw [hn]
        exact .number hvalue (Numeral.startsLow_of_number? hlow hn)
      · cases h

/-- A cell with a rank is compared by it. -/
theorem has_of_rank? {p : Rank} (h : v.rank? = some p) : v.key.Has p := by
  have hkey := sortKey_of_isInRange (isInRange_of_rank? h)
  obtain ⟨number, hnumber, hkey⟩ := bind_eq_ok_iff.mp hkey
  obtain ⟨shown, hshown, hkey⟩ := bind_eq_ok_iff.mp hkey
  rw [← Except.ok.inj hkey]
  cases v with
  | blank =>
    obtain rfl := Except.ok.inj hnumber
    obtain rfl := Except.ok.inj hshown
    obtain rfl := Option.some.inj h
    exact .blank
  | bool | moment => cases h
  | int n =>
    have hrange : (Binary64.ofInt n).isFinite = true := isInRange_of_rank? h
    rw [rank?, if_pos hrange] at h
    rw [CellValue.number?, if_pos hrange] at hnumber
    obtain rfl := Option.some.inj h
    obtain rfl := Except.ok.inj hnumber
    exact .number rfl (startsLow_intText hshown)
  | real x =>
    obtain ⟨q, hq, rfl⟩ := Option.map_eq_some_iff.mp h
    have hfinite : x.isFinite = true := by rw [← Binary64.isSome_value?, hq]; rfl
    rw [CellValue.number?, if_pos hfinite] at hnumber
    obtain rfl := Except.ok.inj hnumber
    exact .number hq (startsLow_shown_real hfinite hshown)
  | text s =>
    obtain rfl := Except.ok.inj hnumber
    obtain rfl := Except.ok.inj hshown
    exact has_of_rank?_text h

/-- **Cells with a rank** compare as their ranks do. -/
theorem compares_rank {p q : Rank} (hv : v.rank? = some p) (hw : w.rank? = some q) :
    ∃ o, v.compare w = .ok o ∧ o.Compares p q :=
  ⟨_, compare_of_isInRange (isInRange_of_rank? hv) (isInRange_of_rank? hw),
    (has_of_rank? hv).compares (has_of_rank? hw)⟩

end CellValue

end SheetCommand
