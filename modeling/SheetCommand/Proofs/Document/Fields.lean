import SheetCommand.Document.Field

/-!
# Document — what a field denotes

A field is read successfully exactly if it is there and holds a document of the right shape
(`require_eq_ok_iff`). The shapes are those of a text, of one of a few texts, and of a number
(`IsNumber`), which may also be given as a truth value, as an integer or as a text.
-/

namespace SheetCommand

variable {α β γ : Type} {fields : List (String × Document)} {name : String}

theorem bothOrFaults_eq_ok_iff {f : α → β → γ} {x : Except (List Fault) α}
    {y : Except (List Fault) β} {c : γ} :
    bothOrFaults f x y = .ok c ↔ ∃ a b, x = .ok a ∧ y = .ok b ∧ f a b = c := by
  cases x <;> cases y <;> simp [bothOrFaults]

namespace Document

theorem require_eq_ok_iff {read : Document → Except FaultKind α} {value : α} :
    require fields name read = .ok value ↔
      ∃ d, fields.lookup name = some d ∧ read d = .ok value := by
  unfold require
  cases fields.lookup name with
  | none => simp
  | some d => cases hread : read d <;> simp [hread]

/-- A field that may be left out stands for the standard value then, and only then. -/
theorem orElse_eq_ok_iff {standard value : α} {read : Document → Except FaultKind α} :
    orElse fields name standard read = .ok value ↔
      fields.lookup name = none ∧ standard = value ∨ require fields name read = .ok value := by
  unfold orElse require
  cases fields.lookup name <;> simp

theorem asText_eq_ok_iff {d : Document} {s : String} : asText d = .ok s ↔ d = text s := by
  cases d <;> simp [asText]

theorem asOneOf_eq_ok_iff {find? : String → Option α} {d : Document} {a : α} :
    asOneOf find? d = .ok a ↔ ∃ s, d = text s ∧ find? s = some a := by
  cases d with
  | text s => cases hs : find? s <;> simp [asOneOf, hs]
  | _ => simp [asOneOf]

/-- What stands for a number: a number, a truth value, an integer that is not too large, and a text
that is written like a number. -/
inductive IsNumber : Document → Binary64 → Prop
  | real (x : Binary64) : IsNumber (.real x) x
  | bool (b : Bool) : IsNumber (.bool b) (.ofInt (if b then 1 else 0))
  | int {n : Int} (h : (Binary64.ofInt n).isFinite = true) : IsNumber (.int n) (.ofInt n)
  | text {s : String} {x : Binary64} (h : Numeral.field? s.toList = some x) : IsNumber (.text s) x

theorem asReal_eq_ok_iff {d : Document} {x : Binary64} : asReal d = .ok x ↔ IsNumber d x := by
  constructor
  · intro h
    cases d with
    | real y => cases h; exact .real _
    | bool b => cases h; exact .bool b
    | int n =>
      by_cases hn : (Binary64.ofInt n).isFinite = true
      · simp only [asReal, hn, if_true] at h
        cases h
        exact .int hn
      · simp [asReal, hn] at h
    | text s => cases hs : Numeral.field? s.toList <;> simp_all [asReal, IsNumber.text]
    | _ => cases h
  · rintro (_ | _ | h | h)
    · rfl
    · rfl
    · simp [asReal, h]
    · simp [asReal, h]

end Document

end SheetCommand
