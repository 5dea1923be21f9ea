import CustomResource.Default.FloatingPoint
import CustomResource.Registry.Field

/-!
# Default values of kinds

Every kind has a default of its own, and a descriptor may state another one as text.  The text must fit the
kind: a number in its range, a truth value, any text, bytes with escapes, or the name of an enum value.
Messages have no stated default.

Values are what documents show.  Wide integers and what a number cannot be are shown as text, bytes in
base 64 and enum values by name.
-/

namespace CustomResource

open Descriptor

/-- A value in a document of defaults. -/
inductive DefaultValue where
  | null
  | truth (value : Bool)
  | integer (value : Int)
  /-- A finite floating point number, by its digits. -/
  | decimal (digits : String)
  | text (content : String)
  | emptyList
  | emptyMap
  deriving DecidableEq, Repr

/-! ## Integers -/

/-- The kinds of integers, by whether they are signed and by their bits. -/
def ScalarKind.integer? : ScalarKind → Option (Bool × Nat)
  | .int32 | .sint32 | .sfixed32 => some (true, 32)
  | .uint32 | .fixed32 => some (false, 32)
  | .int64 | .sint64 | .sfixed64 => some (true, 64)
  | .uint64 | .fixed64 => some (false, 64)
  | _ => none

/-- An integer in documents, as text if it has more than 32 bits. -/
def DefaultValue.ofInteger (bits : Nat) (value : Int) : DefaultValue :=
  if bits ≤ 32 then .integer value else .text (toString value)

/-- The integer that a text spells, in the range of its kind.  Only signed kinds allow a minus sign, even
before zero. -/
def readInteger? (signed : Bool) (bits : Nat) (text : List Char) : Option Int :=
  let (negative, digits) := splitSign text
  if digits.isEmpty || !digits.all Char.isDigit || (negative && !signed) then none
  else
    let size := decimalValue digits
    let bound := Nat.pow 2 (if signed then bits - 1 else bits)
    if negative then if size ≤ bound then some (-(size : Int)) else none
    else if size < bound then some size else none

/-! ## Floating point numbers -/

/-- A floating point number in documents. -/
def DefaultValue.ofFloat (format : FloatFormat) : FloatValue → DefaultValue
  | .finite negative magnitude => .decimal (format.showFinite negative magnitude)
  | .infinite negative => .text (if negative then "-Infinity" else "Infinity")
  | .notNumber => .text "NaN"

/-! ## Bytes -/

/-- The byte that a letter after a backslash stands for. -/
def letterEscape? (letter : Char) : Option Nat :=
  ([('a', 0x07), ('b', 0x08), ('f', 0x0C), ('n', 0x0A), ('r', 0x0D), ('t', 0x09), ('v', 0x0B), ('\\', 0x5C),
    ('?', 0x3F), ('\x27', 0x27), ('"', 0x22)] : List (Char × Nat)).lookup letter

/-- The value of a digit in a base up to sixteen. -/
def digitIn? (base : Nat) (digit : Char) : Option Nat :=
  let value :=
    if '0' ≤ digit ∧ digit ≤ '9' then some (digit.toNat - '0'.toNat)
    else if 'a' ≤ digit ∧ digit ≤ 'f' then some (digit.toNat - 'a'.toNat + 10)
    else if 'A' ≤ digit ∧ digit ≤ 'F' then some (digit.toNat - 'A'.toNat + 10)
    else none
  value.filter (· < base)

/-- The byte after a backslash, and what follows it: a letter, two hexadecimal digits after a mark, or up to
three octal ones. -/
def readByteEscape : List Char → Option (Nat × List Char)
  | [] => none
  | mark :: rest =>
      if mark = 'x' ∨ mark = 'X' then
        match rest with
        | high :: low :: rest => do return (16 * (← digitIn? 16 high) + (← digitIn? 16 low), rest)
        | _ => none
      else
        match letterEscape? mark with
        | some byte => some (byte, rest)
        | none =>
            let digits := ((mark :: rest).take 3).takeWhile fun digit => (digitIn? 8 digit).isSome
            let value := digits.foldl (fun value digit => 8 * value + (digit.toNat - '0'.toNat)) 0
            if digits.isEmpty || 256 ≤ value then none
            else some (value, (mark :: rest).drop digits.length)

/-- The bytes that a text with escapes stands for.  Every step takes a character, so `fuel` need not exceed
their number. -/
def readBytes : (fuel : Nat) → List Char → Option (List Nat)
  | _, [] => some []
  | 0, _ => none
  | fuel + 1, '\\' :: rest => do
      let (byte, rest) ← readByteEscape rest
      return byte :: (← readBytes fuel rest)
  | fuel + 1, char :: rest => do
      return char.toString.toUTF8.toList.map (·.toNat) ++ (← readBytes fuel rest)

/-- The digit of base 64 with a value. -/
def base64Digit (value : Nat) : Char :=
  if value < 26 then Char.ofNat ('A'.toNat + value)
  else if value < 52 then Char.ofNat ('a'.toNat + (value - 26))
  else if value < 62 then Char.ofNat ('0'.toNat + (value - 52))
  else if value = 62 then '+' else '/'

/-- Bytes in base 64, filled up to a multiple of four digits. -/
def base64 : List Nat → List Char
  | [] => []
  | [first] => [base64Digit (first / 4), base64Digit (first % 4 * 16), '=', '=']
  | [first, second] =>
      [base64Digit (first / 4), base64Digit (first % 4 * 16 + second / 16),
        base64Digit (second % 16 * 4), '=']
  | first :: second :: third :: rest =>
      [base64Digit (first / 4), base64Digit (first % 4 * 16 + second / 16),
        base64Digit (second % 16 * 4 + third / 64), base64Digit (third % 64)] ++ base64 rest

/-! ## Defaults -/

/-- The default of a scalar kind. -/
def ScalarKind.default (kind : ScalarKind) : DefaultValue :=
  match kind with
  | .bool => .truth false
  | .float | .double => .decimal "0.0"
  | .string | .bytes => .text ""
  | _ =>
      match kind.integer? with
      | some (_, bits) => .ofInteger bits 0
      | none => .null

/-- The default of a scalar kind that a text states. -/
def ScalarKind.stated? (kind : ScalarKind) (text : String) : Option DefaultValue :=
  match kind with
  | .bool => if text = "true" then some (.truth true) else if text = "false" then some (.truth false) else none
  | .float => (FloatFormat.single.read? text).map (.ofFloat .single)
  | .double => (FloatFormat.double.read? text).map (.ofFloat .double)
  | .string => some (.text text)
  | .bytes =>
      (readBytes text.length text.toList).map fun bytes => .text (String.ofList (base64 bytes))
  | _ => do
      let (signed, bits) ← kind.integer?
      return .ofInteger bits (← readInteger? signed bits text.toList)

namespace EnumType

/-- A value of an enum in documents.  The enum whose only value stands for nothing is shown as such. -/
def showValue (enum : EnumType) (name : String) : DefaultValue :=
  if enum.fullName = "google.protobuf.NullValue" then .null else .text name

/-- The default of an enum: its first value. -/
def default (enum : EnumType) : DefaultValue :=
  enum.showValue ((enum.declaration.values.head?.bind (·.name)).getD "")

/-- The default of an enum that a text states by name. -/
def stated? (enum : EnumType) (text : String) : Option DefaultValue :=
  if enum.declaration.values.any (·.name.getD "" == text) then some (enum.showValue text) else none

end EnumType

/-- The default of a kind that a text states. -/
def Kind.stated? (kind : Kind) (text : String) : Option DefaultValue :=
  match kind with
  | .scalar base => base.stated? text
  | .enum type => type.stated? text
  | _ => none

end CustomResource
