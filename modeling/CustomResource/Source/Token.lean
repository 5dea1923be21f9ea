/-!
# Tokens

Source text as a list of tokens, with brackets matched.  Literals keep the text they were written with.
A punctuation character is joint if another one follows it directly, so that both may form one operator.

Token text puts one space between tokens, except after a joint character, and inside braces.
-/

namespace CustomResource.Source

/-- The brackets around a group. -/
inductive Delimiter where
  | parenthesis
  | bracket
  | brace
  deriving DecidableEq, Repr

/-- A token. -/
inductive Token where
  /-- An identifier, a reserved word or a raw identifier. -/
  | word (text : String)
  | punct (char : Char) (joint : Bool)
  | literal (text : String)
  | group (delimiter : Delimiter) (content : List Token)
  deriving Repr, Inhabited

namespace Token

/-- A punctuation character that stands alone. -/
def sign (char : Char) : Token :=
  .punct char false

/-- The two characters that separate the segments of a path. -/
def pathSeparator : List Token :=
  [.punct ':' true, .punct ':' false]

/-- Whether the next token follows without a space. -/
def isJoint : Token → Bool
  | .punct _ joint => joint
  | _ => false

/-- The text of a group, given the text of its content. -/
def groupText (delimiter : Delimiter) (content : String) : String :=
  match delimiter with
  | .parenthesis => "(" ++ content ++ ")"
  | .bracket => "[" ++ content ++ "]"
  | .brace => if content = "" then "\x7b \x7d" else "\x7b " ++ content ++ " \x7d"

mutual

/-- The text of one token. -/
def text : Token → String
  | .word text => text
  | .punct char _ => String.singleton char
  | .literal text => text
  | .group delimiter content => groupText delimiter (textAfter true content)

/-- The text of tokens after another one, which is joint or not. -/
def textAfter (joint : Bool) : List Token → String
  | [] => ""
  | token :: rest =>
      (if joint then "" else " ") ++ token.text ++ textAfter token.isJoint rest

end

/-- The text of tokens. -/
def render (tokens : List Token) : String :=
  textAfter true tokens

end Token

end CustomResource.Source
