import CustomResource.Unicode.Printable

/-!
# Quoted text

Text between double quotes, as string literals and diagnostics show it.  A backslash, a double quote and
the usual control characters have short escapes; any other character that cannot be shown, or that would
attach itself to the character before it, is written by its code point.  Single quotes stay.
-/

namespace CustomResource.Text

/-- The lower-case hexadecimal digits of a number, without leading zeroes. -/
def hexDigits (n : Nat) : List Char :=
  Nat.toDigits 16 n

/-- One character of quoted text, where a NUL character is written as `nul`. -/
def escapeChar (nul : List Char) (c : Char) : List Char :=
  if c.toNat = 0 then nul
  else if c = '\t' then ['\\', 't']
  else if c = '\r' then ['\\', 'r']
  else if c = '\n' then ['\\', 'n']
  else if c = '"' then ['\\', '"']
  else if c = '\\' then ['\\', '\\']
  else if Unicode.isGraphemeExtend c || !Unicode.isPrintable c then
    ['\\', 'u', Char.ofNat 0x7B] ++ hexDigits c.toNat ++ [Char.ofNat 0x7D]
  else [c]

/-- The quoted form that diagnostics show. -/
def quote (text : String) : String :=
  String.ofList ('"' :: text.toList.flatMap (escapeChar ['\\', '0']) ++ ['"'])

/-- The body of a string literal.  The short form of NUL would run into an octal digit after it, so there
the two-digit form is written. -/
def escapeLiteral : List Char → List Char
  | [] => []
  | c :: rest =>
      let nul := match rest with
        | next :: _ => if '0' ≤ next ∧ next ≤ '7' then ['\\', 'x', '0', '0'] else ['\\', '0']
        | [] => ['\\', '0']
      escapeChar nul c ++ escapeLiteral rest

/-- The string literal with a given value. -/
def literal (value : String) : String :=
  String.ofList ('"' :: escapeLiteral value.toList ++ ['"'])

end CustomResource.Text
