import CustomResource.Source.Grammar
import CustomResource.Source.Path
import CustomResource.Text.Quoted

/-!
# Attributes

An attribute is a path with nothing after it, a bracketed list of tokens or a value.  Lists keep their
tokens as they are, and a value is an expression, within the limits of `CustomResource.Source.Grammar`: no items in
its blocks and no attributes inside it, while `become` is taken.

Documentation is an attribute with a string value, and so is a comment that only the layout shows.
-/

namespace CustomResource.Source

/-- What stands after the path of an attribute. -/
inductive AttributeInput where
  | nothing
  | list (delimiter : Delimiter) (tokens : List Token)
  | value (phrase : Phrase)
  deriving Repr, Inhabited

/-- An attribute of an item, field or variant. -/
structure Attribute where
  path : Path
  input : AttributeInput := .nothing
  deriving Repr, Inhabited

namespace Attribute

/-- The tokens of what stands after the path. -/
def inputTokens : AttributeInput → List Token
  | .nothing => []
  | .list delimiter tokens => [.group delimiter tokens]
  | .value phrase => .sign '=' :: phrase.tokens

/-- The tokens of an attribute. -/
def tokens (attr : Attribute) : List Token :=
  [.sign '#', .group .bracket (attr.path.tokens ++ inputTokens attr.input)]

/-- An attribute with a name and a list in parentheses. -/
def call (name : String) (tokens : List Token) : Attribute :=
  ⟨⟨false, [name]⟩, .list .parenthesis tokens⟩

/-- A line of documentation. -/
def doc (text : String) : Attribute :=
  ⟨⟨false, ["doc"]⟩, .value (.literal (Text.literal text))⟩

/-- A line of documentation whose literal is raw. -/
def rawDoc (text : String) : Attribute :=
  ⟨⟨false, ["doc"]⟩, .value (.literal ("r\"" ++ text ++ "\""))⟩

/-- The string value of an attribute with the given name. -/
def stringValue? (name : String) (attr : Attribute) : Option String :=
  match attr.input with
  | .value ⟨[.literal text], _⟩ =>
      if attr.path = ⟨false, [name]⟩ then Source.stringValue? text else none
  | _ => none

end Attribute

/-! ## Reading -/

/-- Read what stands after the path of an attribute, up to its end. -/
def takeInput : List Token → Option AttributeInput
  | [] => some .nothing
  | [.group delimiter tokens] => some (.list delimiter tokens)
  | .punct '=' _ :: rest => (expression? rest).map .value
  | _ => none

/-- Read the content of an attribute.  The path may be the one reserved word that marks unsafe attributes. -/
def takeAttribute : List Token → Option Attribute
  | .word "unsafe" :: rest => (takeInput rest).map fun input => ⟨⟨false, ["unsafe"]⟩, input⟩
  | tokens => do
      let (path, rest) ← takePath tokens
      return ⟨path, ← takeInput rest⟩

/-- Read attributes up to the end. -/
def takeAttributes : List Token → Option (List Attribute)
  | [] => some []
  | .punct '#' _ :: .group .bracket content :: rest => do
      return (← takeAttribute content) :: (← takeAttributes rest)
  | _ => none

/-- The attributes that a text spells, if it holds nothing else. -/
def attributes? (text : String) : Option (List Attribute) :=
  tokens? text >>= takeAttributes

end CustomResource.Source
