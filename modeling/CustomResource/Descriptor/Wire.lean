/-!
# The wire format

A message on the wire is a run of fields, each a key and a value.  A key is a varint that holds the field
number and the shape of the value.  Reading a run fails on a truncated value, a key that is no key, a length
beyond the bytes at hand, or a group that is not closed by its own number.  Groups carry nothing that is
kept, so they are skipped whole.

Nesting is bounded: a reader is given the number of levels that may still be entered, and every skipped
field counts as one.
-/

namespace CustomResource.Descriptor.Wire

/-- Bytes in order. -/
abbrev Bytes := List UInt8

/-! ## Varints -/

/-- Read a varint of at most `groups + 1` bytes, of which the last may hold one bit only. -/
def readGroups : Nat → Bytes → Option (Nat × Bytes)
  | _, [] => none
  | 0, byte :: rest => if byte.toNat < 2 then some (byte.toNat, rest) else none
  | groups + 1, byte :: rest =>
      if byte.toNat < 128 then some (byte.toNat, rest)
      else match readGroups groups rest with
        | some (high, rest) => some (byte.toNat - 128 + 128 * high, rest)
        | none => none

/-- Read a varint: seven bits a byte, the lowest first, at most ten bytes for 64 bits. -/
def readVarint (bytes : Bytes) : Option (Nat × Bytes) :=
  readGroups 9 bytes

/-- Write a number in at most `groups + 1` groups of seven bits. -/
def writeGroups : Nat → Nat → Bytes
  | 0, n => [UInt8.ofNat n]
  | groups + 1, n =>
      if n < 128 then [UInt8.ofNat n]
      else UInt8.ofNat (n % 128 + 128) :: writeGroups groups (n / 128)

/-- Write a number below 2^64 as a varint. -/
def writeVarint (n : Nat) : Bytes :=
  writeGroups 9 n

/-! ## Keys -/

/-- The shape of a value. -/
inductive Shape where
  | varint
  | fixed64
  | delimited
  | groupStart
  | groupEnd
  | fixed32
  deriving DecidableEq, Repr

/-- The code of a shape in a key. -/
def Shape.code : Shape → Nat
  | .varint => 0
  | .fixed64 => 1
  | .delimited => 2
  | .groupStart => 3
  | .groupEnd => 4
  | .fixed32 => 5

/-- The shape with a code, if there is one. -/
def Shape.ofCode? : Nat → Option Shape
  | 0 => some .varint
  | 1 => some .fixed64
  | 2 => some .delimited
  | 3 => some .groupStart
  | 4 => some .groupEnd
  | 5 => some .fixed32
  | _ => none

/-- Read a key: a field number above zero and a shape, within 32 bits. -/
def readKey (bytes : Bytes) : Option (Nat × Shape × Bytes) := do
  let (key, rest) ← readVarint bytes
  let shape ← Shape.ofCode? (key % 8)
  if key < 0x100000000 ∧ 0 < key / 8 then some (key / 8, shape, rest) else none

/-- Write a key. -/
def writeKey (number : Nat) (shape : Shape) : Bytes :=
  writeVarint (8 * number + shape.code)

/-! ## Values -/

/-- The value of a field, as far as its shape tells. -/
inductive Value where
  | varint (n : Nat)
  | delimited (payload : Bytes)
  /-- A value of fixed width or a group, of which nothing is kept. -/
  | skipped
  deriving DecidableEq, Repr

/-- Drop a number of bytes that must be there. -/
def dropBytes (count : Nat) (bytes : Bytes) : Option Bytes :=
  if count ≤ bytes.length then some (bytes.drop count) else none

/-- Read a length and that many bytes. -/
def readDelimited (bytes : Bytes) : Option (Bytes × Bytes) := do
  let (length, rest) ← readVarint bytes
  if length ≤ rest.length then some (rest.take length, rest.drop length) else none

/-- Skip the fields of a group up to the end tag with its number, where `levels` may still be entered below
the group.  Every field takes a byte, so `fuel` need not exceed the number of bytes. -/
def skipGroup : (fuel levels number : Nat) → Bytes → Option Bytes
  | 0, _, _, _ => none
  | fuel + 1, levels, number, bytes => do
      let (inner, shape, rest) ← readKey bytes
      if shape = .groupEnd then
        if inner = number then some rest else none
      else
        match levels with
        | 0 => none
        | below + 1 =>
            let rest ←
              match shape with
              | .varint => (readVarint rest).map (·.2)
              | .fixed64 => dropBytes 8 rest
              | .delimited => (readDelimited rest).map (·.2)
              | .groupStart => skipGroup fuel below inner rest
              | .groupEnd => none
              | .fixed32 => dropBytes 4 rest
            skipGroup fuel (below + 1) number rest

/-- Read the value of a field with a known number and shape. -/
def readValue (levels number : Nat) (shape : Shape) (bytes : Bytes) : Option (Value × Bytes) :=
  match shape with
  | .varint => (readVarint bytes).map fun (n, rest) => (.varint n, rest)
  | .fixed64 => (dropBytes 8 bytes).map fun rest => (.skipped, rest)
  | .delimited => (readDelimited bytes).map fun (payload, rest) => (.delimited payload, rest)
  | .groupStart =>
      match levels with
      | 0 => none
      | below + 1 => (skipGroup bytes.length below number bytes).map fun rest => (.skipped, rest)
  | .groupEnd => none
  | .fixed32 => (dropBytes 4 bytes).map fun rest => (.skipped, rest)

/-- Read fields until the bytes end.  Every field takes a byte, so `fuel` need not exceed their number. -/
def readFieldsWithin (levels : Nat) : (fuel : Nat) → Bytes → Option (List (Nat × Value))
  | _, [] => some []
  | 0, _ :: _ => none
  | fuel + 1, byte :: more => do
      let (number, shape, rest) ← readKey (byte :: more)
      let (value, rest) ← readValue levels number shape rest
      let fields ← readFieldsWithin levels fuel rest
      return (number, value) :: fields

/-- The fields of a message, given the number of levels that may be entered below it. -/
def readFields (levels : Nat) (bytes : Bytes) : Option (List (Nat × Value)) :=
  readFieldsWithin levels bytes.length bytes

namespace Value

/-- The text of a value, which must be valid UTF-8. -/
def text? : Value → Option String
  | .delimited payload => String.fromUTF8? ⟨payload.toArray⟩
  | _ => none

/-- The 32-bit integer of a value: the low half of its varint. -/
def int32? : Value → Option Int32
  | .varint n => some (Int32.ofNat n)
  | _ => none

/-- The truth value of a value: any varint but zero is true. -/
def bool? : Value → Option Bool
  | .varint n => some (n != 0)
  | _ => none

/-- The bytes of an embedded message. -/
def payload? : Value → Option Bytes
  | .delimited payload => some payload
  | _ => none

end Value

/-! ## Writing fields -/

/-- A field with a payload. -/
def writeDelimited (number : Nat) (payload : Bytes) : Bytes :=
  writeKey number .delimited ++ writeVarint payload.length ++ payload

/-- A text field, nothing if unset. -/
def writeText (number : Nat) : Option String → Bytes
  | some text => writeDelimited number text.toUTF8.toList
  | none => []

/-- An integer field, nothing if unset.  A negative number is extended to 64 bits. -/
def writeInt32 (number : Nat) : Option Int32 → Bytes
  | some n => writeKey number .varint ++ writeVarint n.toInt64.toUInt64.toNat
  | none => []

/-- A truth value, nothing if unset. -/
def writeBool (number : Nat) : Option Bool → Bytes
  | some b => writeKey number .varint ++ writeVarint b.toNat
  | none => []

end CustomResource.Descriptor.Wire
