import SheetCommand.Pattern.Reading

/-!
# Instruction — fragments of patterns

The words that instructions are made of, in Hindi and English, and the pieces that several rules
share: names of one or more words, quoted literals, the sheet locator in front (`scope`) and behind
(`tail`), and the verbs that end a phrase.
-/

namespace SheetCommand.Instruction

/-- The pieces of an instruction that actions are built from. -/
inductive Slot where
  | old | new | name | first | second | column | comparison | number
  | target | literal | condition | conditionLiteral | direction | laterDirection
  deriving DecidableEq

abbrev Phrase := Pattern Slot

open Pattern

/-! ### Words -/

def columnWords : List String := ["column", "col", "stambh"]

def columnWord : Phrase := texts columnWords

def sheetWord : Phrase := text "sheet" ++ opt (char 's')

def directionWord : Phrase := texts ["ascending", "asc", "descending", "desc"]

def nameWord : Phrase := texts ["naam", "name"]

def locatorWords : List String := ["me", "mein", "main", "par", "pe"]

/-- Words that may end a request. -/
def closingVerbs : List String :=
  ["rakho", "rakh do", "karo", "kar do", "banao", "bana do", "kijiye", "do"]

/-- Words that a new name may not contain, as they begin a closing verb. -/
def verbWords : List String := ["rakho", "rakh", "karo", "kar", "banao", "bana", "kijiye", "do"]

/-! ### Names and literals -/

/-- A word character followed by word characters and hyphens. -/
def nameChars : Phrase := wordChar ++ many true (one .name)

/-- One or more of the given words with single spaces between them, as few as possible. -/
def phraseOf (slot : Slot) (word : Phrase) : Phrase :=
  keep slot (word ++ many false (blank ++ word))

def phrase (slot : Slot) : Phrase := phraseOf slot nameChars

/-- A phrase without any of the given words. -/
def phraseWithout (slot : Slot) (excluded : List String) : Phrase :=
  phraseOf slot (absent (texts excluded ++ edge) ++ nameChars)

/-- A nonempty literal between two equal quotes, up to the first closing one that serves. -/
def quotedBy (slot : Slot) (quote : Char) : Phrase :=
  char quote ++ keep slot (oneOrMore false anyChar) ++ char quote

def quoted (slot : Slot) : Phrase := choice (quotedBy slot '\'') (quotedBy slot '"')

/-! ### Shared pieces -/

/-- Blanks and marks up to the end. -/
def ending : Phrase :=
  many true (one (.either .blank (.only ['.', '!', '?']))) ++ stop

def the : Phrase := opt (text "the ")

def verb : Phrase := opt (blank ++ texts closingVerbs)

def renameVerb : Phrase := texts ["rename", "change"]

/-- A closing verb and whatever follows it. -/
def verbStop : Phrase := blank ++ texts closingVerbs ++ edge ++ many true anyChar

def renameSuffix : Phrase :=
  blank ++ any [
    text "naam " ++ texts ["rakho", "rakh do", "do", "badlo", "karo", "kar do"],
    text "rename " ++ texts ["karo", "kar do"]]

def renameTrail : Phrase := choice renameSuffix verb

def renameLoose : Phrase :=
  choice renameSuffix (blank ++ texts ["rakho", "rakh do", "karo", "kar do"])

/-- `Sales sheet me …`, `in sheet Sales, …`: everything up to the word "sheet", at the start of the
instruction. -/
def scope : Phrase :=
  start ++ opt (all [many false anyChar, edge, sheetWord, edge,
    opt (blank ++ texts ["me", "mein", "main", "par", "pe", "ke andar"]),
    oneOrMore true (one (.either .blank (.only [',', ':'])))])

/-- A sheet name inside a locator. -/
def locatedName : Phrase :=
  wordChar ++ many false (one (.either .name .blank))

/-- `… from Sales sheet`, `… in sheet Sales`, `… Sales sheet se`. -/
def tail : Phrase :=
  opt (all [opt (char ','), blank, choice
    (all [texts ["from", "in", "of", "on"], blank, the, choice
      (all [sheetWord, blank, locatedName])
      (all [locatedName, blank, sheetWord])])
    (all [locatedName, blank, sheetWord, blank,
      texts ["se", "me", "mein", "main", "par", "pe"]])])

end SheetCommand.Instruction
