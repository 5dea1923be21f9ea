/-!
# Fully-qualified names

A fully-qualified name is dotted text without a leading dot.  Its path is the list of non-empty segments.
Two ways lead to a name: from a package, the scopes around a declaration and its own name, and from a
reference in the text of a descriptor, which may have dots around it.

Only a package is taken apart at its inner dots.  The other parts lose the dots at their ends and are kept
whole, so a declared name that holds dots contributes them to the text.
-/

namespace CustomResource

/-- A fully-qualified name, by its text. -/
structure QualifiedName where
  text : String
  deriving DecidableEq, Repr, Inhabited

namespace QualifiedName

/-- The non-empty segments of dotted text. -/
def segments (text : List Char) : List (List Char) :=
  (text.splitOn '.').filter (!·.isEmpty)

/-- Text without the dots at its ends. -/
def trimDots (text : List Char) : List Char :=
  ((text.dropWhile (· == '.')).reverse.dropWhile (· == '.')).reverse

/-- Non-empty parts, joined by dots. -/
def joinDots (parts : List (List Char)) : String :=
  String.ofList (['.'].intercalate (parts.filter (!·.isEmpty)))

/-- The name of a declaration, from its package, the scopes around it and its own name.  Empty parts are
dropped. -/
def ofParts (package : String) (scopes : List String) (name : String) : QualifiedName :=
  let parts := package.toList.splitOn '.' ++ scopes.map String.toList ++ [name.toList]
  ⟨joinDots (parts.map trimDots)⟩

/-- The name that a reference means, with or without dots around it. -/
def ofReference (reference : String) : QualifiedName :=
  ofParts "" [reference] ""

/-- The non-empty segments of the name. -/
def path (name : QualifiedName) : List String :=
  (segments name.text.toList).map String.ofList

/-- The last segment of the name, empty if there is none. -/
def lastSegment (name : QualifiedName) : String :=
  name.path.getLast?.getD ""

/-- The name followed by more text. -/
def join (name : QualifiedName) (rest : String) : QualifiedName :=
  if name.text = "" then ⟨rest⟩ else ⟨name.text ++ "." ++ rest⟩

/-- Names in the order of their texts. -/
instance : Ord QualifiedName where
  compare a b := compare a.text b.text

end QualifiedName

end CustomResource
