import CustomResource.Source.Box
import CustomResource.Source.Identifier
import CustomResource.Source.Token

/-!
# Paths

Paths without arguments, as attributes and imports have them, and the types of generated fields.
-/

namespace CustomResource.Source

/-! ## Plain paths -/

/-- A path without arguments. -/
structure Path where
  rooted : Bool := false
  segments : List String
  deriving DecidableEq, Repr, Inhabited

namespace Path

/-- The tokens of segments, with separators between them. -/
def segmentTokens : List String → List Token
  | [] => []
  | [last] => [.word last]
  | segment :: rest => .word segment :: Token.pathSeparator ++ segmentTokens rest

/-- The tokens of a path. -/
def tokens (path : Path) : List Token :=
  (if path.rooted then Token.pathSeparator else []) ++ segmentTokens path.segments

/-- The text of a path, without spaces. -/
def text (path : Path) : String :=
  (if path.rooted then "::" else "") ++ "::".intercalate path.segments

end Path

/-- Drop a path separator. -/
def afterSeparator? : List Token → Option (List Token)
  | .punct ':' true :: .punct ':' _ :: rest => some rest
  | _ => none

/-- The words that may stand in a path although they are reserved. -/
def pathWords : List String :=
  ["super", "self", "Self", "crate"]

/-- Whether a word may be a segment of a plain path. -/
def isSegment (word : String) : Bool :=
  word ∉ reservedWords || word ∈ pathWords

/-- Read the segments of a plain path; `fuel` need not exceed the number of tokens. -/
def takeSegments : (fuel : Nat) → List Token → Option (List String × List Token)
  | fuel + 1, .word word :: rest =>
      if isSegment word then
        match afterSeparator? rest with
        | some rest => do
            let (segments, rest) ← takeSegments fuel rest
            return (word :: segments, rest)
        | none => some ([word], rest)
      else none
  | _, _ => none

/-- Read a plain path. -/
def takePath (tokens : List Token) : Option (Path × List Token) :=
  let (rooted, rest) := match afterSeparator? tokens with
    | some rest => (true, rest)
    | none => (false, tokens)
  (takeSegments rest.length rest).map fun (segments, rest) => (⟨rooted, segments⟩, rest)

/-! ## Types of fields -/

/-- A type of a generated field: a path whose last segment may have arguments. -/
inductive TypeExpr where
  | path (target : Path) (arguments : List TypeExpr)
  deriving Repr, Inhabited

namespace TypeExpr

/-- A type with a name in scope. -/
def named (name : String) : TypeExpr :=
  .path ⟨false, [name]⟩ []

/-- A type at a path from the root. -/
def rooted (segments : List String) (arguments : List TypeExpr) : TypeExpr :=
  .path ⟨true, segments⟩ arguments

mutual

/-- The tokens of a type. -/
def tokens : TypeExpr → List Token
  | .path target [] => target.tokens
  | .path target (first :: rest) =>
      target.tokens ++ [.sign '<'] ++ first.tokens ++ moreTokens rest ++ [.sign '>']

/-- The tokens of further arguments, each after a comma. -/
def moreTokens : List TypeExpr → List Token
  | [] => []
  | type :: rest => .sign ',' :: type.tokens ++ moreTokens rest

end

mutual

/-- The pieces of a type. -/
def pieces : TypeExpr → List Piece
  | .path target [] => [.text target.text]
  | .path target (first :: rest) => .text target.text :: listPieces "<" ">" (allPieces (first :: rest))

/-- The pieces of types. -/
def allPieces : List TypeExpr → List (List Piece)
  | [] => []
  | type :: rest => type.pieces :: allPieces rest

end

end TypeExpr

end CustomResource.Source
