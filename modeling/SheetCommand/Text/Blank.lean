/-!
# Text — white space

One set of white-space characters serves trimming, splitting into words and the collapsing of runs,
so the three agree on every text. Numbers in documents are trimmed by a smaller set, which leaves
out the four separators U+001C to U+001F.
-/

namespace SheetCommand.Text

/-- White space that only a program's own trimming leaves in place: everything that separates
words, the four information separators apart. -/
def isPlainBlank (c : Char) : Bool :=
  let n := c.toNat
  (9 ≤ n && n ≤ 13) || n == 0x20 || n == 0x85 || n == 0xA0 || n == 0x1680 ||
    (0x2000 ≤ n && n ≤ 0x200A) || n == 0x2028 || n == 0x2029 || n == 0x202F || n == 0x205F ||
    n == 0x3000

/-- White space: what separates the words of an instruction or a header. -/
def isBlank (c : Char) : Bool :=
  isPlainBlank c || (0x1C ≤ c.toNat && c.toNat ≤ 0x1F)

/-- Removes the characters of a class from both ends. -/
def trimBy (drop : Char → Bool) (text : List Char) : List Char :=
  ((text.dropWhile drop).reverse.dropWhile drop).reverse

def trim (text : List Char) : List Char := trimBy isBlank text

/-- The maximal runs of characters that are not white space. `word` is the run being read, last
character first. -/
def wordsFrom (word : List Char) : List Char → List (List Char)
  | [] => if word.isEmpty then [] else [word.reverse]
  | c :: rest =>
    if isBlank c then
      if word.isEmpty then wordsFrom [] rest else word.reverse :: wordsFrom [] rest
    else wordsFrom (c :: word) rest

def words (text : List Char) : List (List Char) := wordsFrom [] text

/-- Joins texts with a separator between each two. -/
def join (separator : List Char) : List (List Char) → List Char
  | [] => []
  | [text] => text
  | text :: rest => text ++ separator ++ join separator rest

/-- White space at the ends is dropped and every run inside becomes a single space. -/
def collapse (text : List Char) : List Char := join [' '] (words text)

/-- The parts of a text between the occurrences of one character; there is always at least one. -/
def splitAt (mark : Char) : List Char → List (List Char)
  | [] => [[]]
  | c :: rest =>
    if c = mark then [] :: splitAt mark rest
    else match splitAt mark rest with
      | [] => [[c]]
      | part :: parts => (c :: part) :: parts

theorem wordsFrom_nil (word : List Char) :
    wordsFrom word [] = if word.isEmpty then [] else [word.reverse] := rfl

theorem words_nil : words [] = [] := rfl

theorem collapse_nil : collapse [] = [] := rfl

theorem wordsFrom_blank_cons {c : Char} (h : isBlank c = true) (rest : List Char) :
    wordsFrom [] (c :: rest) = wordsFrom [] rest := by
  simp [wordsFrom, h]

theorem words_blank_cons {c : Char} (h : isBlank c = true) (rest : List Char) :
    words (c :: rest) = words rest := wordsFrom_blank_cons h rest

theorem wordsFrom_append_blank_cons {c : Char} (h : isBlank c = true) (word text rest : List Char) :
    wordsFrom word (text ++ c :: rest) = wordsFrom word text ++ words rest := by
  induction text generalizing word with
  | nil => by_cases hw : word = [] <;> simp [wordsFrom, words, h, hw]
  | cons d text ih =>
    by_cases hd : isBlank d = true
    · by_cases hw : word = [] <;> simp [wordsFrom, hd, hw, ih]
    · simp [wordsFrom, hd, ih]

/-- **White space separates words**: those before it and those after it. -/
theorem words_append_blank_cons {c : Char} (h : isBlank c = true) (text rest : List Char) :
    words (text ++ c :: rest) = words text ++ words rest := wordsFrom_append_blank_cons h [] text rest

theorem splitAt_ne_nil (mark : Char) (text : List Char) : splitAt mark text ≠ [] := by
  cases text with
  | nil => simp [splitAt]
  | cons c rest =>
    unfold splitAt
    split
    · simp
    · split <;> simp

end SheetCommand.Text
