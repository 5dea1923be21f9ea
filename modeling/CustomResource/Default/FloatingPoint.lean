/-!
# Floating point numbers

The numbers of a binary format.  Decimal text is read as the number nearest to it, of two equally near ones
the even one, and a number is shown with the fewest digits that are read back as that number.  All of this
is exact: a finite number is a multiple of the finest step of its format, and the multiples are natural
numbers.
-/

namespace CustomResource

/-! ## Formats -/

/-- A binary format, and the range in which its numbers are shown without an exponent. -/
structure FloatFormat where
  /-- The number of bits in a significand. -/
  precision : Nat
  /-- The finest step is two to minus this. -/
  finest : Nat
  /-- Magnitudes from two to this on are infinite. -/
  limit : Nat
  /-- The most digits before the point. -/
  maxWhole : Nat
  /-- The most zeroes between the point and the first digit that is none. -/
  maxZeroes : Nat
  deriving DecidableEq, Repr

namespace FloatFormat

/-- The format of 32 bits. -/
def single : FloatFormat := ⟨24, 149, 128, 13, 5⟩

/-- The format of 64 bits. -/
def double : FloatFormat := ⟨53, 1074, 1024, 16, 4⟩

end FloatFormat

/-- A number of a format.  Magnitudes count the finest step. -/
inductive FloatValue where
  | finite (negative : Bool) (magnitude : Nat)
  | infinite (negative : Bool)
  | notNumber
  deriving DecidableEq, Repr

/-! ## Rounding -/

/-- The natural number nearest to a quotient; of two equally near ones the even one. -/
def nearestQuotient (dividend divisor : Nat) : Nat :=
  let quotient := dividend / divisor
  let twice := 2 * (dividend % divisor)
  if divisor < twice ∨ (twice = divisor ∧ quotient % 2 = 1) then quotient + 1 else quotient

namespace FloatFormat

/-- The number of low bits that a magnitude has beyond the precision. -/
def spareBits (format : FloatFormat) (magnitude : Nat) : Nat :=
  magnitude.log2 + 1 - format.precision

/-- The number nearest to a quotient of finest steps. -/
def round (format : FloatFormat) (negative : Bool) (dividend divisor : Nat) : FloatValue :=
  let step := Nat.pow 2 (format.spareBits (dividend / divisor))
  let magnitude := step * nearestQuotient dividend (divisor * step)
  if Nat.pow 2 (format.limit + format.finest) ≤ magnitude then .infinite negative
  else .finite negative magnitude

/-- The number nearest to a decimal one.  Orders of magnitude that no format has are decided at once. -/
def roundDecimal (format : FloatFormat) (negative : Bool) (digits : Nat) (exponent : Int) : FloatValue :=
  let order := (Nat.toDigits 10 digits).length + exponent
  if digits = 0 ∨ order < -400 then .finite negative 0
  else if 400 < order then .infinite negative
  else format.round negative (digits * Nat.pow 10 exponent.toNat * Nat.pow 2 format.finest) (Nat.pow 10 (-exponent).toNat)

end FloatFormat

/-! ## Reading -/

/-- The number that decimal digits spell. -/
def decimalValue (digits : List Char) : Nat :=
  digits.foldl (fun value digit => 10 * value + (digit.toNat - '0'.toNat)) 0

/-- Whether a text has a sign of minus, and the text after an optional sign. -/
def splitSign : List Char → Bool × List Char
  | '-' :: rest => (true, rest)
  | '+' :: rest => (false, rest)
  | text => (false, text)

/-- The exponent that a text spells after its letter. -/
def readDecimalExponent (text : List Char) : Option Int :=
  let (negative, digits) := splitSign text
  if digits.isEmpty || !digits.all Char.isDigit then none
  else some (if negative then -(decimalValue digits : Int) else decimalValue digits)

/-- The digits and the exponent of a decimal number without a sign.  There is a digit before the point or
after it. -/
def readDecimal (text : List Char) : Option (Nat × Int) := do
  let whole := text.takeWhile Char.isDigit
  let afterWhole := text.dropWhile Char.isDigit
  let (fraction, rest) := match afterWhole with
    | '.' :: rest => (rest.takeWhile Char.isDigit, rest.dropWhile Char.isDigit)
    | _ => ([], afterWhole)
  if whole.isEmpty && fraction.isEmpty then none
  else
    let exponent ← match rest with
      | [] => some 0
      | mark :: rest => if mark = 'e' ∨ mark = 'E' then readDecimalExponent rest else none
    return (decimalValue (whole ++ fraction), exponent - fraction.length)

/-- The number of a format that a text spells: decimal, or a word in any case for what is not finite. -/
def FloatFormat.read? (format : FloatFormat) (text : String) : Option FloatValue :=
  let (negative, unsigned) := splitSign text.toList
  let word := String.ofList (unsigned.map Char.toLower)
  if word = "inf" ∨ word = "infinity" then some (.infinite negative)
  else if word = "nan" then some .notNumber
  else (readDecimal unsigned).map fun (digits, exponent) => format.roundDecimal negative digits exponent

/-! ## Showing -/

/-- The order of a fraction below one: minus the number of zeroes after its point. -/
def orderBelowOne : (fuel : Nat) → (dividend divisor : Nat) → Int
  | 0, _, _ => 0
  | fuel + 1, dividend, divisor =>
      if divisor ≤ 10 * dividend then 0 else orderBelowOne fuel (10 * dividend) divisor - 1

namespace FloatFormat

/-- The number of digits before the point of a magnitude, or minus the number of zeroes after it. -/
def order (format : FloatFormat) (magnitude : Nat) : Int :=
  let unit := Nat.pow 2 format.finest
  if unit ≤ magnitude then (Nat.toDigits 10 (magnitude / unit)).length
  else orderBelowOne 400 magnitude unit

/-- Whether the number nearest to `digits * 10 ^ exponent` is the given magnitude. -/
def readsAs (format : FloatFormat) (magnitude digits : Nat) (exponent : Int) : Bool :=
  format.round false (digits * Nat.pow 10 exponent.toNat * Nat.pow 2 format.finest) (Nat.pow 10 (-exponent).toNat) =
    .finite false magnitude

/-- The digits at an exponent that are read as the given magnitude: those nearest to it or the next ones. -/
def digitsAt? (format : FloatFormat) (magnitude : Nat) (exponent : Int) : Option (Nat × Int) :=
  let dividend := magnitude * Nat.pow 10 (-exponent).toNat
  let divisor := Nat.pow 10 exponent.toNat * Nat.pow 2 format.finest
  let near := nearestQuotient dividend divisor
  let other := if near * divisor ≤ dividend then near + 1 else near - 1
  [near, other].findSome? fun digits =>
    if format.readsAs magnitude digits exponent then some (digits, exponent) else none

/-- The fewest digits that are read as the given magnitude, and their exponent. -/
def shortestDigits (format : FloatFormat) (magnitude : Nat) : Nat × Int :=
  let order := format.order magnitude
  ((List.range 17).findSome? fun (count : Nat) => format.digitsAt? magnitude (order - ((count : Nat) + 1))).getD
    (magnitude, -format.finest)

/-- Digits and an exponent as text.  The digits do not end in a zero. -/
def showDecimal (format : FloatFormat) (digits : List Char) (exponent : Int) : List Char :=
  let point := digits.length + exponent
  let zeroes := fun count => List.replicate count '0'
  if 0 ≤ exponent ∧ point ≤ format.maxWhole then digits ++ zeroes exponent.toNat ++ ['.', '0']
  else if 0 < point ∧ point ≤ format.maxWhole then
    digits.take point.toNat ++ ['.'] ++ digits.drop point.toNat
  else if point ≤ 0 ∧ -point ≤ format.maxZeroes then ['0', '.'] ++ zeroes (-point).toNat ++ digits
  else
    let fraction := digits.drop 1
    digits.take 1 ++ (if fraction.isEmpty then [] else '.' :: fraction) ++ ['e'] ++
      (toString (point - 1)).toList

/-- A magnitude with its sign as text. -/
def showFinite (format : FloatFormat) (negative : Bool) (magnitude : Nat) : String :=
  let sign := if negative then ['-'] else []
  if magnitude = 0 then String.ofList (sign ++ ['0', '.', '0'])
  else
    let (value, exponent) := format.shortestDigits magnitude
    let all := Nat.toDigits 10 value
    let digits := (all.reverse.dropWhile (· == '0')).reverse
    String.ofList (sign ++ format.showDecimal digits (exponent + (all.length - digits.length : Nat)))

end FloatFormat

end CustomResource
