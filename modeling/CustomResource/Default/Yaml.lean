import CustomResource.Default.Document

/-!
# Documents in YAML

One member a line.  A text is written plainly if it can be read back as text.  One that would be read as
something else, or that begins with an indicator or holds one, stands in single quotes, and one with
characters that cannot be shown in double quotes.  Text of several lines is written as a block.

A key of more than a line, or of more than 128 bytes, takes a line of its own after a question mark.
-/

namespace CustomResource

namespace Yaml

/-! ## Texts that are read as something else -/

/-- The words for nothing, for truth and for numbers that are not finite. -/
def words : List String :=
  ["", "~", "null", "Null", "NULL", "true", "True", "TRUE", "false", "False", "FALSE", ".inf", ".Inf",
    ".INF", "+.inf", "+.Inf", "+.INF", "-.inf", "-.Inf", "-.INF", ".nan", ".NaN", ".NAN"]

/-- The base that a letter after a zero marks. -/
def markedBase? (mark : Char) : Option Nat :=
  if mark = 'x' then some 16 else if mark = 'o' then some 8 else if mark = 'b' then some 2 else none

/-- The number that digits of a base spell. -/
def valueInBase? (base : Nat) (digits : List Char) : Option Nat :=
  if digits.isEmpty then none
  else digits.foldlM (fun value digit => (digitIn? base digit).map (base * value + ·)) 0

/-- Whether a text is an integer in a marked base that fits 128 bits. -/
def isMarkedInteger (text : List Char) : Bool :=
  let (negative, unsigned) := splitSign text
  match unsigned with
  | '0' :: mark :: digits =>
      match (markedBase? mark).bind (valueInBase? · digits) with
      | some value => if negative then value ≤ 170141183460469231731687303715884105728 else value < 340282366920938463463374607431768211456
      | none => false
  | _ => false

/-- Whether a text is a decimal number that is finite with 64 bits. -/
def isFiniteNumber (text : List Char) : Bool :=
  let (negative, unsigned) := splitSign text
  match readDecimal unsigned with
  | some (digits, exponent) =>
      match FloatFormat.double.roundDecimal negative digits exponent with
      | .finite _ _ => true
      | _ => false
  | none => false

/-- Whether a text would be read as something else than text.  Decimal digits after a zero look like a
number too. -/
def isAmbiguous (text : String) : Bool :=
  text ∈ words || isMarkedInteger text.toList || isFiniteNumber text.toList

/-! ## Characters -/

/-- Whether a character ends a line. -/
def isBreak (char : Char) : Bool :=
  [0x0A, 0x0D, 0x85, 0x2028, 0x2029].contains char.toNat

/-- Whether a character is shown as it is. -/
def isShown (char : Char) : Bool :=
  let code := char.toNat
  code == 0x0A || (0x20 ≤ code && code ≤ 0x7E) ||
    (0xA0 ≤ code && code != 0xFEFF && code != 0xFFFE && code != 0xFFFF)

/-- Whether a text begins with a blank or is at its end. -/
def beginsBlank : List Char → Bool
  | [] => true
  | char :: _ => char = ' ' || char = '\t' || isBreak char

/-- Whether the first character of a text is an indicator. -/
def beginsIndicator : List Char → Bool
  | [] => false
  | char :: rest =>
      "#,[]\x7b\x7d&*!|>\x27\"%@\x60".toList.contains char ||
        (['?', ':', '-'].contains char && beginsBlank rest)

/-- Whether an indicator stands after the first character: a colon before a blank, or a hash after one. -/
def holdsIndicator : (afterBlank : Bool) → List Char → Bool
  | _, [] => false
  | afterBlank, char :: rest =>
      (char = ':' && beginsBlank rest) || (char = '#' && afterBlank) ||
        holdsIndicator (beginsBlank [char]) rest

/-- Whether two characters follow each other that pass tests. -/
def anyPair (first second : Char → Bool) (text : List Char) : Bool :=
  (text.zip text.tail).any fun (char, next) => first char && second next

/-! ## Styles -/

/-- How a text is written. -/
inductive Style where
  | plain
  | singleQuoted
  | doubleQuoted
  | block
  deriving DecidableEq, Repr

/-- Whether a text that is not empty may stand without quotes. -/
def allowsPlain (text : List Char) : Bool :=
  let edge := fun (char : Option Char) => char.any fun char => char = ' ' || isBreak char
  !"---".toList.isPrefixOf text && !"...".toList.isPrefixOf text &&
    !beginsIndicator text && !holdsIndicator (beginsBlank (text.take 1)) text.tail &&
    !edge text.head? && !edge text.getLast? && !text.any isBreak && text.all isShown

/-- Whether a text may stand in single quotes. -/
def allowsSingleQuotes (text : List Char) : Bool :=
  text.all isShown && !anyPair isBreak (· == ' ') text && !anyPair (· == ' ') isBreak text

/-- Whether a text may stand as a block. -/
def allowsBlock (text : List Char) : Bool :=
  text.all isShown && !anyPair (· == ' ') isBreak text && text.getLast? != some ' '

/-- The style of a text. -/
def style (text : String) : Style :=
  let chars := text.toList
  if chars.contains '\n' then if allowsBlock chars then .block else .doubleQuoted
  else if !isAmbiguous text && allowsPlain chars then .plain
  else if allowsSingleQuotes chars then .singleQuoted
  else .doubleQuoted

/-! ## Writing -/

/-- The blanks before each line of a text that takes several. -/
def margin : List Char :=
  [' ', ' ']

/-- A text with the margin before every line that is not empty; `atStart` tells that a line starts. -/
def indentLines : (atStart : Bool) → List Char → List Char
  | _, [] => []
  | atStart, char :: rest =>
      if isBreak char then char :: indentLines true rest
      else (if atStart then margin else []) ++ char :: indentLines false rest

/-- Upper-case hexadecimal digits of a number, as many as given. -/
def hexText : (count number : Nat) → List Char
  | 0, _ => []
  | count + 1, number => hexText count (number / 16) ++ [(Nat.digitChar (number % 16)).toUpper]

/-- The letters of short escapes. -/
def escapeLetters : List (Nat × Char) :=
  [(0x00, '0'), (0x07, 'a'), (0x08, 'b'), (0x09, 't'), (0x0A, 'n'), (0x0B, 'v'), (0x0C, 'f'), (0x0D, 'r'),
    (0x1B, 'e'), (0x22, '"'), (0x5C, '\\'), (0x85, 'N'), (0xA0, '_'), (0x2028, 'L'), (0x2029, 'P')]

/-- A character between double quotes. -/
def quotedChar (char : Char) : List Char :=
  if isShown char && !isBreak char && char != '"' && char != '\\' then [char]
  else
    match escapeLetters.lookup char.toNat with
    | some letter => ['\\', letter]
    | none =>
        if char.toNat ≤ 0xFF then '\\' :: 'x' :: hexText 2 char.toNat
        else if char.toNat ≤ 0xFFFF then '\\' :: 'u' :: hexText 4 char.toNat
        else '\\' :: 'U' :: hexText 8 char.toNat

/-- The marks after the bar of a block: the margin if the text begins blank, and what becomes of the line
ends after the text. -/
def blockMarks (text : List Char) : List Char :=
  let margined := match text.head? with
    | some char => if char = ' ' ∨ isBreak char then ['2'] else []
    | none => []
  let ends := match text.reverse with
    | [] => ['-']
    | [last] => if isBreak last then ['+'] else ['-']
    | last :: before :: _ => if !isBreak last then ['-'] else if isBreak before then ['+'] else []
  margined ++ ends

/-- A text in a style. -/
def write (text : List Char) : Style → List Char
  | .plain => text
  | .singleQuoted =>
      let doubled := (indentLines false text).flatMap fun char =>
        if char.toNat = 0x27 then [char, char] else [char]
      ['\x27'] ++ doubled ++ (if text.getLast?.any isBreak then margin else []) ++ ['\x27']
  | .doubleQuoted => ['"'] ++ text.flatMap quotedChar ++ ['"']
  | .block => ['|'] ++ blockMarks text ++ ['\n'] ++ indentLines true text

/-- A text in YAML. -/
def writeText (text : String) : String :=
  String.ofList (write text.toList (style text))

/-- Text with its last line ended. -/
def endLine (text : String) : String :=
  if text.toList.getLast?.any isBreak then text else text ++ "\n"

/-- The most bytes of a key that shares a line with its value. -/
def maxKeySize : Nat :=
  128

/-- Whether a key shares a line with its value. -/
def isSimpleKey (key : String) : Bool :=
  !key.toList.any isBreak && key.utf8ByteSize ≤ maxKeySize

/-- A value in YAML. -/
def writeValue : DefaultValue → String
  | .null => "null"
  | .truth value => if value then "true" else "false"
  | .integer value => toString value
  | .decimal digits => digits
  | .text content => writeText content
  | .emptyList => "[]"
  | .emptyMap => "\x7b\x7d"

/-- A member of an object. -/
def writeMember (key : String) (value : DefaultValue) : String :=
  if isSimpleKey key then writeText key ++ ": " ++ endLine (writeValue value)
  else "? " ++ endLine (writeText key) ++ ": " ++ endLine (writeValue value)

end Yaml

/-- A document in YAML. -/
def DefaultDocument.yaml : DefaultDocument → String
  | .value single => Yaml.endLine (Yaml.writeValue single)
  | .object [] => Yaml.endLine (Yaml.writeValue .emptyMap)
  | .object members => String.join (members.map fun member => Yaml.writeMember member.1 member.2)

end CustomResource
