import SheetCommand.Text.Digit

/-!
# Files — stamps

A stamp writes a moment in universal time as `20240102T030405Z`, from the seconds since the beginning
of 1970. Calendar days are counted from the first of March of the year zero, so that the day that leap
years add is the last of its year.
-/

namespace SheetCommand

/-- A day of the calendar. -/
structure CalendarDay where
  year : Nat
  month : Nat
  day : Nat

namespace CalendarDay

/-- Days from the first of March of the year zero to the beginning of 1970. -/
def epoch : Nat := 719468

/-- Days in four hundred years. -/
def cycle : Nat := 146097

/-- The day of a number of days since the beginning of 1970. -/
def ofEpoch (days : Nat) : CalendarDay :=
  let n := days + epoch
  let inCycle := n % cycle
  let yearInCycle := (inCycle - inCycle / 1460 + inCycle / 36524 - inCycle / 146096) / 365
  let inYear := inCycle - (365 * yearInCycle + yearInCycle / 4 - yearInCycle / 100)
  let monthFromMarch := (5 * inYear + 2) / 153
  let month := if monthFromMarch < 10 then monthFromMarch + 3 else monthFromMarch - 9
  let year := yearInCycle + n / cycle * 400
  ⟨if month ≤ 2 then year + 1 else year, month, inYear - (153 * monthFromMarch + 2) / 5 + 1⟩

end CalendarDay

/-- Decimal digits, filled up with zeros. -/
def paddedDecimal (width n : Nat) : List Char :=
  let digits := Text.decimal n
  List.replicate (width - digits.length) '0' ++ digits

/-- The stamp of a moment. -/
def stamp (seconds : Nat) : String :=
  let date := CalendarDay.ofEpoch (seconds / 86400)
  let time := seconds % 86400
  .ofList (paddedDecimal 4 date.year ++ paddedDecimal 2 date.month ++ paddedDecimal 2 date.day ++
    'T' :: paddedDecimal 2 (time / 3600) ++ paddedDecimal 2 (time / 60 % 60) ++
    paddedDecimal 2 (time % 60) ++ ['Z'])

end SheetCommand
