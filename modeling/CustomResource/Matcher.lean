import CustomResource.QualifiedName

/-!
# Matchers

A matcher selects the types or fields that a configured attribute is placed on, by their path.  A lone dot
selects every path, a matcher that begins with a dot selects by the first segments, any other by the last
ones, and the empty matcher selects nothing.  Segments are compared whole.
-/

namespace CustomResource

/-- What a matcher asks of a path. -/
inductive Matcher where
  | everything
  | nothing
  | leading (segments : List String)
  | trailing (segments : List String)
  deriving DecidableEq, Repr

namespace Matcher

/-- The parts of dotted text, empty ones included. -/
def parts (text : List Char) : List String :=
  (text.splitOn '.').map String.ofList

/-- Read a matcher from its text. -/
def ofText (text : String) : Matcher :=
  match text.toList with
  | [] => .nothing
  | ['.'] => .everything
  | '.' :: rest => .leading (parts rest)
  | whole => .trailing (parts whole)

/-- Whether a path is selected. -/
def accepts : Matcher → List String → Bool
  | .everything, _ => true
  | .nothing, _ => false
  | .leading segments, path => segments.isPrefixOf path
  | .trailing segments, path => segments.isSuffixOf path

/-- Whether a type is selected, by the segments of its full name. -/
def acceptsType (matcher : Matcher) (fullName : String) : Bool :=
  matcher.accepts (QualifiedName.path ⟨fullName⟩)

/-- Whether a field is selected, by the segments of its message's full name and its own name. -/
def acceptsField (matcher : Matcher) (messageName fieldName : String) : Bool :=
  matcher.accepts (QualifiedName.path ⟨messageName⟩ ++ [fieldName])

end Matcher

end CustomResource
