import CustomResource.Unicode.Alphanumeric
import CustomResource.Unicode.CaseMapping
import CustomResource.Unicode.LetterCase

/-!
# Words of a name

A name in any of the usual conventions is a sequence of words, and a convention is a way to write that
sequence.  Words end at every character that is neither letter nor digit, before an upper-case letter that
follows a lower-case one, and before the last letter of an upper-case run that a lower-case letter follows.
Digits and letters without case belong to the word around them and keep its case.

The module holds the splitting and the three conventions the library writes.  It does not know about
reserved words, see `CustomResource.Naming`.
-/

namespace CustomResource.Text

/-! ## Splitting -/

/-- The case of the last cased character since the last word boundary. -/
inductive WordMode where
  | boundary
  | lower
  | upper
  deriving DecidableEq, Repr

/-- The mode after a character, provided that no word ends there. -/
def WordMode.after (mode : WordMode) (c : Char) : WordMode :=
  if Unicode.isLowercase c then .lower
  else if Unicode.isUppercase c then .upper
  else mode

/-- The words of a run of letters and digits, where `word` holds the letters of the current word so far. -/
def splitCase : WordMode → List Char → List Char → List (List Char)
  | _, _, [] => []
  | _, word, [c] => [word ++ [c]]
  | mode, word, c :: next :: rest =>
      if mode.after c = .lower ∧ Unicode.isUppercase next then
        (word ++ [c]) :: splitCase .boundary [] (next :: rest)
      else if mode = .upper ∧ Unicode.isUppercase c ∧ Unicode.isLowercase next then
        word :: splitCase .boundary [c] (next :: rest)
      else splitCase (mode.after c) (word ++ [c]) (next :: rest)

/-- The words of a name. -/
def words (name : List Char) : List (List Char) :=
  (name.splitOnP fun c => !Unicode.isAlphanumeric c).flatMap (splitCase .boundary [])

/-! ## Conventions -/

/-- A word in lower case; a capital sigma that ends the word becomes the final small sigma. -/
def lowerWord : List Char → List Char
  | [] => []
  | [c] => if c = 'Σ' then ['ς'] else Unicode.toLowercase c
  | c :: rest => Unicode.toLowercase c ++ lowerWord rest

/-- A word with its first character in upper case and the others in lower case. -/
def capitalizeWord : List Char → List Char
  | [] => []
  | c :: rest => Unicode.toUppercase c ++ lowerWord rest

/-- Words in lower case, joined by underscores. -/
def snakeCase (name : List Char) : List Char :=
  ['_'].intercalate ((words name).map lowerWord)

/-- Capitalized words without a separator. -/
def upperCamelCase (name : List Char) : List Char :=
  (words name).flatMap capitalizeWord

/-- The first word in lower case, the others capitalized, without a separator. -/
def lowerCamelCase (name : List Char) : List Char :=
  match words name with
  | [] => []
  | first :: rest => lowerWord first ++ rest.flatMap capitalizeWord

/-! ## Lower case of running text -/

/-- Whether the first character that is not transparent to casing is cased. -/
def beginsCased (text : List Char) : Bool :=
  match text.dropWhile Unicode.isCaseIgnorable with
  | c :: _ => Unicode.isCased c
  | [] => false

/-- Running text in lower case after the reversed text `before`.  A capital sigma becomes the final small
sigma when a cased character stands before it and none after it. -/
def lowerTextAfter : List Char → List Char → List Char
  | _, [] => []
  | before, c :: rest =>
      (if c = 'Σ' then
        if beginsCased before && !beginsCased rest then ['ς'] else ['σ']
      else Unicode.toLowercase c) ++ lowerTextAfter (c :: before) rest

/-- Running text in lower case. -/
def lowerText (text : List Char) : List Char :=
  lowerTextAfter [] text

end CustomResource.Text
