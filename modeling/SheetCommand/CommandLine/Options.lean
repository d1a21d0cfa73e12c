/-!
# Command line — options

Options stand among the arguments of a command line. An option has spellings: `-x` or `--word`. A
value follows as the next argument, behind `=` in the same argument for a word, or directly behind a
letter. Letters of options without a value may be written together. After `--` there are no more
options.
-/

namespace SheetCommand.CommandLine

/-- One spelling of an option. -/
structure Spelling (κ : Type) where
  text : String
  key : κ
  takesValue : Bool

/-- Options as they were given, with their values, and the arguments that are none. -/
structure Given (κ : Type) where
  options : List (κ × String)
  others : List String

/-- Options read from the front of the arguments, and the arguments that are left. -/
abbrev Taken (κ : Type) := List (κ × String) × List String

section
variable {κ : Type} (spellings : List (Spelling κ))

/-- The option that a text spells. -/
def spelled? (text : List Char) : Option (Spelling κ) := spellings.find? (·.text.toList = text)

/-- Options that are written as letters in one argument. -/
def takeLetters : List Char → List String → Option (Taken κ)
  | [], arguments => some ([], arguments)
  | letter :: letters, arguments => do
    let s ← spelled? spellings ['-', letter]
    if !s.takesValue then
      let (options, rest) ← takeLetters letters arguments
      some ((s.key, "") :: options, rest)
    else match letters, arguments with
      | _ :: _, _ => some ([(s.key, .ofList letters)], arguments)
      | [], value :: rest => some ([(s.key, value)], rest)
      | [], [] => none

/-- An option that is written as a word, with what stands behind `=` in its argument. -/
def takeWord (s : Spelling κ) (attached : Option String) (arguments : List String) : Option (Taken κ) :=
  match s.takesValue, attached, arguments with
  | true, some value, _ => some ([(s.key, value)], arguments)
  | true, none, value :: rest => some ([(s.key, value)], rest)
  | false, none, _ => some ([(s.key, "")], arguments)
  | _, _, _ => none

def startsWord (argument : List Char) : Bool := argument.take 2 == ['-', '-']

/-- The options of an argument that begins with a dash. -/
def takeOption (argument : List Char) (arguments : List String) : Option (Taken κ) :=
  let name := argument.takeWhile (· ≠ '=')
  let attached := if name.length = argument.length then none
    else some (String.ofList (argument.drop (name.length + 1)))
  if startsWord argument then do takeWord (← spelled? spellings name) attached arguments
  else takeLetters spellings (argument.drop 1) arguments

/-- Reads arguments, at most `fuel` of them. Unless options may stand behind other arguments, the
first such argument ends them. -/
def readFrom (mixed : Bool) : Nat → List String → Option (Given κ)
  | 0, arguments => some ⟨[], arguments⟩
  | _ + 1, [] => some ⟨[], []⟩
  | fuel + 1, argument :: arguments =>
    if argument = "--" then some ⟨[], arguments⟩
    else if argument.toList.head? = some '-' ∧ argument ≠ "-" then do
      let (options, rest) ← takeOption spellings argument.toList arguments
      let given ← readFrom mixed fuel rest
      some ⟨options ++ given.options, given.others⟩
    else if mixed then do
      let given ← readFrom mixed fuel arguments
      some ⟨given.options, argument :: given.others⟩
    else some ⟨[], argument :: arguments⟩

/-- Reads arguments; none if an option is unknown, lacks its value or has one that it does not
take. -/
def read? (mixed : Bool) (arguments : List String) : Option (Given κ) :=
  readFrom spellings mixed (arguments.length + 1) arguments

theorem takeLetters_nil (arguments : List String) :
    takeLetters spellings [] arguments = some ([], arguments) := rfl

theorem read?_nil (mixed : Bool) : read? spellings mixed [] = some ⟨[], []⟩ := rfl

end

namespace Given

variable {κ : Type} [DecidableEq κ]

/-- The value of an option; the last one counts. -/
def value? (given : Given κ) (key : κ) : Option String :=
  ((given.options.filter (·.1 = key)).map (·.2)).getLast?

def has (given : Given κ) (key : κ) : Bool := given.options.any (·.1 = key)

/-- Which of two options came last. -/
def lastOf? (given : Given κ) (yes no : κ) : Option Bool :=
  ((given.options.filter fun o => o.1 = yes ∨ o.1 = no).map fun o => decide (o.1 = yes)).getLast?

end Given

end SheetCommand.CommandLine
