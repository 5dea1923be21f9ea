import CustomResource.Unicode.Identifier
import CustomResource.Unicode.Ranges

/-!
# Literals

Readers of string, byte, character and number literals.  A reader takes the characters from the start of a
literal and returns those after it, or nothing if there is no literal of its kind.  Every literal may carry
a suffix, an identifier that follows it directly.

String literals also have a value: `stringValue?` reads it back from the text of the literal.
-/

namespace CustomResource.Source

/-! ## Identifiers -/

/-- The longest identifier at the start, and the rest. -/
def takeIdentifier : List Char → Option (List Char × List Char)
  | c :: rest =>
      if Unicode.isIdentifierStart c then
        some (c :: rest.takeWhile Unicode.isIdentifierContinue,
          rest.dropWhile Unicode.isIdentifierContinue)
      else none
  | [] => none

/-- What follows an optional suffix. -/
def afterSuffix (text : List Char) : List Char :=
  match takeIdentifier text with
  | some (_, rest) => rest
  | none => text

/-! ## Escapes -/

/-- What a quoted literal holds: text, bytes, or text without NUL. -/
inductive Quotation where
  | text
  | bytes
  | terminated
  deriving DecidableEq, Repr

/-- The value of a hexadecimal digit. -/
def hexValue? (c : Char) : Option Nat :=
  if '0' ≤ c ∧ c ≤ '9' then some (c.toNat - '0'.toNat)
  else if 'a' ≤ c ∧ c ≤ 'f' then some (c.toNat - 'a'.toNat + 10)
  else if 'A' ≤ c ∧ c ≤ 'F' then some (c.toNat - 'A'.toNat + 10)
  else none

/-- The character with a code point, if there is one. -/
def charOfCode? (code : Nat) : Option Char :=
  if code.isValidChar then some (Char.ofNat code) else none

/-- Read the digits of an escape by code point up to the closing brace: one to six, with underscores after
the first. -/
def readCodePoint : (value length : Nat) → List Char → Option (Char × List Char)
  | _, _, [] => none
  | value, length, c :: rest =>
      match hexValue? c with
      | some digit => if length = 6 then none else readCodePoint (16 * value + digit) (length + 1) rest
      | none =>
          if length = 0 then none
          else if c = '_' then readCodePoint value length rest
          else if c.toNat = 0x7D then (charOfCode? value).map fun char => (char, rest)
          else none

/-- Read an escape of two hexadecimal digits. -/
def readHexPair (quotation : Quotation) : List Char → Option (Char × List Char)
  | high :: low :: rest => do
      let code := 16 * (← hexValue? high) + (← hexValue? low)
      match quotation with
      | .text => if code < 128 then some (Char.ofNat code, rest) else none
      | .bytes => some (Char.ofNat code, rest)
      | .terminated => if code = 0 then none else some (Char.ofNat code, rest)
  | _ => none

/-- Read an escape after its backslash. -/
def readEscape (quotation : Quotation) : List Char → Option (Char × List Char)
  | 'n' :: rest => some ('\n', rest)
  | 'r' :: rest => some ('\r', rest)
  | 't' :: rest => some ('\t', rest)
  | '\\' :: rest => some ('\\', rest)
  | '"' :: rest => some ('"', rest)
  | '0' :: rest => if quotation = .terminated then none else some (Char.ofNat 0, rest)
  | 'x' :: rest => readHexPair quotation rest
  | 'u' :: brace :: rest => do
      if quotation = .bytes ∨ brace.toNat ≠ 0x7B then none
      else
        let (char, rest) ← readCodePoint 0 0 rest
        if quotation = .terminated ∧ char.toNat = 0 then none else some (char, rest)
  | c :: rest => if c.toNat = 0x27 then some (c, rest) else none
  | [] => none

/-- Skip the blanks after a backslash at the end of a line; `afterReturn` tells that a carriage return was
read last, which only a line feed may follow. -/
def skipContinuation : (afterReturn : Bool) → List Char → Option (List Char)
  | _, [] => none
  | true, c :: rest => if c = '\n' then skipContinuation false rest else none
  | false, c :: rest =>
      if c = ' ' ∨ c = '\t' ∨ c = '\n' then skipContinuation false rest
      else if c = '\r' then skipContinuation true rest
      else some (c :: rest)

/-! ## Strings -/

/-- Whether a quoted literal may hold a character as it is. -/
def Quotation.admits (quotation : Quotation) (c : Char) : Bool :=
  match quotation with
  | .text => true
  | .bytes => c.toNat < 128
  | .terminated => c.toNat != 0

/-- Read the body of a string with escapes up to its closing quote: its value and the rest.  Every step
takes a character, so `fuel` need not exceed their number. -/
def readCooked (quotation : Quotation) : (fuel : Nat) → List Char → Option (List Char × List Char)
  | 0, _ => none
  | _, [] => none
  | fuel + 1, c :: rest =>
      if c = '"' then some ([], rest)
      else if c = '\r' then
        match rest with
        | '\n' :: rest => (readCooked quotation fuel rest).map fun (value, rest) => ('\n' :: value, rest)
        | _ => none
      else if c = '\\' then
        match rest with
        | '\n' :: rest => skipContinuation false rest >>= readCooked quotation fuel
        | '\r' :: rest => skipContinuation true rest >>= readCooked quotation fuel
        | _ => do
            let (char, rest) ← readEscape quotation rest
            let (value, rest) ← readCooked quotation fuel rest
            return (char :: value, rest)
      else if quotation.admits c then
        (readCooked quotation fuel rest).map fun (value, rest) => (c :: value, rest)
      else none

/-- Read the body of a raw string up to a quote with as many hashes as it began with. -/
def readRawBody (quotation : Quotation) (hashes : List Char) :
    List Char → Option (List Char × List Char)
  | [] => none
  | c :: rest =>
      if c = '"' ∧ hashes.isPrefixOf rest then some ([], rest.drop hashes.length)
      else if c = '\r' ∧ rest.head? ≠ some '\n' then none
      else if quotation.admits c then
        (readRawBody quotation hashes rest).map fun (value, rest) => (c :: value, rest)
      else none

/-- Read a raw string from its hashes on. -/
def readRaw (quotation : Quotation) (text : List Char) : Option (List Char × List Char) :=
  let hashes := text.takeWhile (· == '#')
  match text.dropWhile (· == '#') with
  | '"' :: body => if hashes.length ≤ 255 then readRawBody quotation hashes body else none
  | _ => none

/-- Read a string: its value and what follows its closing quote. -/
def readString : List Char → Option (List Char × List Char)
  | '"' :: body => readCooked .text body.length body
  | 'r' :: rest => readRaw .text rest
  | _ => none

/-- Read a byte string. -/
def readByteString : List Char → Option (List Char × List Char)
  | 'b' :: '"' :: body => readCooked .bytes body.length body
  | 'b' :: 'r' :: rest => readRaw .bytes rest
  | _ => none

/-- Read a string that ends in NUL. -/
def readTerminatedString : List Char → Option (List Char × List Char)
  | 'c' :: '"' :: body => readCooked .terminated body.length body
  | 'c' :: 'r' :: rest => readRaw .terminated rest
  | _ => none

/-- Skip a single quote. -/
def afterQuote : List Char → Option (List Char)
  | c :: rest => if c.toNat = 0x27 then some rest else none
  | [] => none

/-- Read one character, or an escape of one, and the quote after it. -/
def readQuotedChar (quotation : Quotation) : List Char → Option (List Char)
  | '\\' :: rest => do
      let (_, rest) ← readEscape quotation rest
      afterQuote rest
  | c :: rest => if quotation.admits c then afterQuote rest else none
  | [] => none

/-- Read a byte in single quotes. -/
def readByte : List Char → Option (List Char)
  | 'b' :: rest => afterQuote rest >>= readQuotedChar .bytes
  | _ => none

/-- Read a character in single quotes. -/
def readCharacter (text : List Char) : Option (List Char) :=
  afterQuote text >>= readQuotedChar .text

/-- The value of the string that is all of a text, its suffix apart. -/
def stringValue? (text : String) : Option String :=
  match readString text.toList with
  | some (value, rest) => if (afterSuffix rest).isEmpty then some (String.ofList value) else none
  | none => none

/-! ## Numbers -/

/-- Whether a character is a decimal digit. -/
def isDigit (c : Char) : Bool :=
  '0' ≤ c && c ≤ '9'

/-- Read a number's suffix, after which no identifier may go on. -/
def readNumberEnd (text : List Char) : Option (List Char) :=
  let rest := afterSuffix text
  match rest with
  | c :: _ => if Unicode.isIdentifierContinue c then none else some rest
  | [] => some rest

/-- How the digits before an exponent end. -/
structure Mantissa where
  hasDot : Bool
  hasExponent : Bool
  rest : List Char

/-- Read the digits and the dot of a float, up to the letter of an exponent.  A dot that begins a range or
a method call is no part of a number. -/
def readMantissa : (hasDot : Bool) → List Char → Option Mantissa
  | hasDot, [] => some ⟨hasDot, false, []⟩
  | hasDot, c :: rest =>
      if isDigit c ∨ c = '_' then readMantissa hasDot rest
      else if c = '.' ∧ !hasDot then
        match rest with
        | next :: _ =>
            if next = '.' ∨ Unicode.isIdentifierStart next then none else readMantissa true rest
        | [] => readMantissa true rest
      else some ⟨hasDot, c = 'e' || c = 'E', c :: rest⟩

/-- Read an exponent after its letter; nothing if it has no digit. -/
def readExponent : (hasSign hasDigit : Bool) → List Char → Option (List Char)
  | _, hasDigit, [] => if hasDigit then some [] else none
  | hasSign, hasDigit, c :: rest =>
      if c = '+' ∨ c = '-' then
        if hasDigit then some (c :: rest)
        else if hasSign then none
        else readExponent true false rest
      else if isDigit c then readExponent hasSign true rest
      else if c = '_' then readExponent hasSign hasDigit rest
      else if hasDigit then some (c :: rest) else none

/-- Read the digits of a float.  Without digits the exponent's letter begins a suffix, which needs a dot
before it. -/
def readFloatDigits (text : List Char) : Option (List Char) := do
  let first ← text.head?
  if !isDigit first then none
  else
    let mantissa ← readMantissa false text
    if mantissa.hasExponent then
      match readExponent false false (mantissa.rest.drop 1) with
      | some rest => some rest
      | none => if mantissa.hasDot then some mantissa.rest else none
    else if mantissa.hasDot then some mantissa.rest
    else none

/-- Read a float. -/
def readFloat (text : List Char) : Option (List Char) :=
  readFloatDigits text >>= readNumberEnd

/-- Read digits of a base, with underscores; `isEmpty` tells that no digit was read yet. -/
def readDigits (base : Nat) : (isEmpty : Bool) → List Char → Option (List Char)
  | isEmpty, [] => if isEmpty then none else some []
  | isEmpty, c :: rest =>
      if c = '_' then
        if isEmpty ∧ base = 10 then none else readDigits base isEmpty rest
      else
        match hexValue? c with
        | some digit =>
            if digit < base then readDigits base false rest
            else if isDigit c then none
            else if isEmpty then none else some (c :: rest)
        | none => if isEmpty then none else some (c :: rest)

/-- Read an integer. -/
def readInteger (text : List Char) : Option (List Char) :=
  let digits := match text with
    | '0' :: 'x' :: rest => readDigits 16 true rest
    | '0' :: 'o' :: rest => readDigits 8 true rest
    | '0' :: 'b' :: rest => readDigits 2 true rest
    | _ => readDigits 10 true text
  digits >>= readNumberEnd

/-- Whether a literal is a float: all of it is read as one. -/
def isFloat (text : String) : Bool :=
  (readFloat text.toList).any (·.isEmpty)

/-- The number that digits of a base and underscores spell. -/
def digitsValue? (base : Nat) (digits : List Char) : Option Nat :=
  (digits.filter (· != '_')).foldlM (fun value digit => do
    let next ← hexValue? digit
    if next < base then some (base * value + next) else none) 0

/-- The value of an integer without a suffix that fits 32 bits. -/
def integerValue? (text : String) : Option Nat :=
  let value := match text.toList with
    | '0' :: 'x' :: digits => digitsValue? 16 digits
    | '0' :: 'o' :: digits => digitsValue? 8 digits
    | '0' :: 'b' :: digits => digitsValue? 2 digits
    | digits => digitsValue? 10 digits
  value.filter (· < 0x100000000)

/-! ## All literals -/

/-- What follows the literal at the start, if there is one. -/
def afterLiteral (text : List Char) : Option (List Char) :=
  let quoted := (readString text).map (·.2)
    <|> (readByteString text).map (·.2)
    <|> (readTerminatedString text).map (·.2)
    <|> readByte text
    <|> readCharacter text
  quoted.map afterSuffix <|> readFloat text <|> readInteger text

end CustomResource.Source
