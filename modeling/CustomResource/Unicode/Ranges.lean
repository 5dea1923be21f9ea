/-!
# Code point ranges

Character properties are tables of code point ranges, looked up here.  Case tables alternate between upper
and lower case, so their ranges carry a step.  The tables themselves are in the modules named for the
properties.
-/

namespace CustomResource.Unicode

/-- Whether a character lies in one of the ranges, both ends included. -/
def inRanges (ranges : List (Nat × Nat)) (c : Char) : Bool :=
  ranges.any fun (first, last) => first ≤ c.toNat && c.toNat ≤ last

/-- Whether a character lies in one of the ranges, at a whole number of steps from its first member. -/
def inSteppedRanges (ranges : List (Nat × Nat × Nat)) (c : Char) : Bool :=
  ranges.any fun (first, last, step) =>
    first ≤ c.toNat && c.toNat ≤ last && (c.toNat - first) % step == 0

/-- The image of a character under the first range that holds it, else the character itself. -/
def mapThrough (ranges : List (Nat × Nat × Nat × Nat)) (c : Char) : Char :=
  let range := ranges.find? fun (first, last, step, _) =>
    first ≤ c.toNat && c.toNat ≤ last && (c.toNat - first) % step == 0
  match range with
  | some (first, _, _, image) => Char.ofNat (image + (c.toNat - first))
  | none => c

/-- Whether a character is white space of any script. -/
def isWhitespace (c : Char) : Bool :=
  if c.toNat < 128 then c.toNat = 0x20 || (0x09 ≤ c.toNat && c.toNat ≤ 0x0D)
  else inRanges [(0x85, 0x85), (0xA0, 0xA0), (0x1680, 0x1680), (0x2000, 0x200A), (0x2028, 0x2029),
    (0x202F, 0x202F), (0x205F, 0x205F), (0x3000, 0x3000)] c

end CustomResource.Unicode
