import SheetCommand.Instruction.Fragment

/-!
# Instruction — the grammar

The phrases of the seven kinds of request, in the order in which they are tried. A phrase may be
found anywhere in an instruction unless it begins with `scope`, which stands at its start; all but
those of the filter and of the conditional assignment run to its end.
-/

namespace SheetCommand.Instruction

open Pattern

/-! ### Renaming a sheet -/

def renameSheetPhrases : List Phrase := [
  -- Sales sheet ka naam Revenue rakho
  all [phraseWithout .old columnWords, blank, sheetWord, blank, opt (texts ["ka ", "ke "]),
    nameWord, blank, phraseWithout .new (columnWords ++ verbWords), opt verbStop, ending],
  -- rename sheet Sales to Revenue
  all [edge, renameVerb, blank, the, sheetWord, blank,
    opt (all [opt (text "ka "), nameWord, blank]), phraseWithout .old columnWords, blank,
    texts ["ko", "to", "se", "as"], blank, phraseWithout .new columnWords, renameTrail, ending],
  -- sheet ka naam Sales se Revenue karo
  all [edge, sheetWord, blank, opt (text "ka "), nameWord, blank, phraseWithout .old columnWords,
    blank, texts ["ko", "to", "se"], blank, phraseWithout .new columnWords, renameTrail, ending],
  -- sheet Sales ko Revenue rename karo
  all [edge, sheetWord, blank, phraseWithout .old (columnWords ++ locatorWords), blank,
    texts ["ko", "to"], blank, phraseWithout .new (columnWords ++ ["sort", "set"]), renameLoose,
    ending],
  -- rename Sales sheet to Revenue
  all [edge, renameVerb, blank, the, phraseWithout .old columnWords, blank, sheetWord, blank,
    texts ["to", "as"], blank, phraseWithout .new columnWords, ending]]

/-! ### Renaming a column -/

def renameColumnPhrases : List Phrase := [
  -- Price column ka naam Cost rakho
  all [scope, phrase .old, blank, columnWord, blank, opt (texts ["ka ", "ke "]), nameWord, blank,
    phraseWithout .new verbWords, choice verbStop tail, ending],
  -- rename column Price to Cost
  all [edge, renameVerb, blank, the, columnWord, blank,
    opt (all [opt (text "ka "), nameWord, blank]), phrase .old, blank,
    texts ["ko", "to", "se", "as"], blank, phrase .new, renameTrail, tail, ending],
  -- column ka naam Price se Cost karo
  all [edge, columnWord, blank, opt (text "ka "), nameWord, blank, phrase .old, blank,
    texts ["ko", "to", "se"], blank, phrase .new, renameTrail, tail, ending],
  -- column Price ko Cost rename karo
  all [edge, columnWord, blank, phrase .old, blank, texts ["ko", "to"], blank,
    phraseWithout .new ["sort", "set"], renameLoose, tail, ending],
  -- rename Price column to Cost
  all [edge, renameVerb, blank, the, phrase .old, blank, columnWord, blank, texts ["to", "as"],
    blank, phrase .new, tail, ending]]

/-! ### Adding a column of sums -/

/-- `A + B`. -/
def sum : Phrase := all [phrase .first, opt blank, char '+', opt blank, phrase .second]

def addColumnSumPhrases : List Phrase := [
  -- Total column add karo jo Price + Tax ho
  all [scope, phrase .new, blank, columnWord, blank,
    texts ["add", "create", "banao", "bana do", "jodo", "jod do", "insert", "daalo", "dalo"],
    opt (blank ++ texts ["karo", "kar do", "do", "kijiye"]),
    opt (choice (blank ++ texts ["jo", "jisme", "which is", "that is", "where"])
      (opt blank ++ oneOf ['=', ':'])),
    blank, sum, opt (blank ++ texts ["ho", "hai", "hoga", "ka sum", "ka total", "ka jod"]), tail,
    ending],
  -- add column Total = Price + Tax
  all [edge, texts ["add", "create", "insert"], blank, opt (texts ["a ", "an ", "the "]),
    opt (text "new "), columnWord, blank, opt (texts ["named ", "called "]), phrase .new, blank,
    texts ["=", "as", "which is", "that is", "with", "jo"], blank, sum, tail, ending]]

/-! ### Deleting a column -/

def deleteVerb : Phrase :=
  texts ["delete", "remove", "drop", "hatao", "hatado", "hata do", "mitao", "nikalo", "nikal do"]

def deleteColumnPhrases : List Phrase := [
  -- delete column Discount
  all [edge, deleteVerb, blank, opt (texts ["the ", "karo "]), columnWord, blank, phrase .name,
    tail, ending],
  -- delete the Discount column
  all [edge, deleteVerb, blank, the, phrase .name, blank, columnWord, tail, ending],
  -- Discount column hatao
  all [scope, phrase .name, blank, columnWord, blank, opt (text "ko "), deleteVerb,
    opt (blank ++ texts ["karo", "kar do", "do", "kijiye"]), tail, ending]]

/-! ### Filtering rows -/

/-- Between one and three digits, as many as possible. -/
def fewDigits : Phrase := digit ++ opt (digit ++ opt digit)

/-- Digits in groups of three, or any number of digits, with an optional sign and fraction. -/
def numeral : Phrase :=
  all [opt (char '-'),
    choice (fewDigits ++ oneOrMore true (char ',' ++ times 3 digit)) (oneOrMore true digit),
    opt (char '.' ++ oneOrMore true digit)]

/-- The numeral goes on in a way that makes it another word or a malformed number. -/
def numeralGoesOn : Phrase := choice wordChar (oneOf ['.', ','] ++ digit)

def filterRowsPhrases : List Phrase := [
  -- sirf woh rows rakho jahan Quantity > 10
  all [edge,
    texts ["where", "jahan", "jahaan", "jaha", "jisme", "jismein", "jinme", "jinmein"], blank,
    phrase .column, opt blank, keep .comparison (texts [">=", "<=", "==", "!=", ">", "<", "="]),
    opt blank, keep .number numeral, absent numeralGoesOn]]

/-- A word that makes a condition a filter. -/
def filterTrigger : Phrase :=
  all [edge, choice (texts ["sirf", "keep", "only", "retain", "bas"])
    (text "rakh" ++ many true wordChar), edge]

/-! ### Sorting -/

def sortByPhrases : List Phrase := [
  -- Amount ke hisaab se sort karo desc
  all [scope, phrase .column, opt (blank ++ columnWord), blank,
    any [all [text "ke ", texts ["hisaab", "hisab", "anusaar", "mutabik"], text " se"],
      text "ke basis par", text "wise"],
    blank, opt (keep .direction directionWord ++ blank), text "sort",
    opt (blank ++ texts ["karo", "kar do", "do"]), opt (blank ++ keep .laterDirection directionWord),
    opt (blank ++ texts ["order", "me", "mein"]), tail, ending],
  -- sort the rows by Amount in descending order
  all [edge, text "sort ",
    opt (all [the, any [text "rows", text "data", text "table",
      opt (nameChars ++ blank) ++ text "sheet"], blank]),
    opt (texts ["by ", "on "]),
    absent (choice (text "karo" ++ edge) (text "kar do" ++ edge)), phrase .column,
    opt (blank ++ columnWord),
    opt (all [blank, opt (text "in "), keep .direction directionWord, opt (text " order")]),
    opt (blank ++ texts ["karo", "kar do"]), tail, ending]]

/-! ### Setting values under a condition -/

def equality : Phrase := keep .comparison (texts ["==", "!=", "="])

def setValueWherePhrases : List Phrase := [
  -- set Status to 'Done' where Type == 'A'
  all [edge, text "set ", the, phrase .target, blank, opt (columnWord ++ blank),
    texts ["to", "=", "as"], opt blank, quoted .literal, opt blank, opt (char ','), opt blank,
    texts ["where", "jahan", "when", "if"], blank, phrase .condition, opt blank, equality,
    opt blank, quoted .conditionLiteral],
  -- Status ko 'Done' set karo jahan Type == 'A'
  all [scope, phrase .target, blank, opt (columnWord ++ blank),
    opt (any [text "ko ", text "to ", text "me ", text "mein ", char '=' ++ opt blank]),
    quoted .literal, opt blank,
    opt (texts ["set", "rakho", "likho", "karo", "kar do", "daalo", "dalo"]),
    opt (blank ++ texts ["karo", "kar do", "do"]), opt blank, opt (char ','), opt blank,
    texts ["jahan", "jahaan", "jaha", "where", "jisme", "jinme"], blank, phrase .condition,
    opt blank, opt (columnWord ++ blank), equality, opt blank, quoted .conditionLiteral]]

end SheetCommand.Instruction
