import CustomResource.Source.Box
import CustomResource.Source.Token

/-!
# Phrases

A part of source text in its normal form: the tokens that one-line text shows, and the pieces that layout
puts into lines.  The two differ in spacing and in what may be left out, so phrases are built for both at
once; a piece without tokens is only layout, tokens without pieces are shown on one line only.
-/

namespace CustomResource.Source

/-- A part of source text. -/
structure Phrase where
  tokens : List Token := []
  pieces : List Piece := []
  deriving Repr, Inhabited

namespace Phrase

/-- One phrase followed by another. -/
def append (first second : Phrase) : Phrase :=
  ⟨first.tokens ++ second.tokens, first.pieces ++ second.pieces⟩

instance : Append Phrase := ⟨append⟩

/-- Phrases one after the other. -/
def join (phrases : List Phrase) : Phrase :=
  phrases.foldl append {}

/-- Layout alone. -/
def layout (pieces : List Piece) : Phrase :=
  ⟨[], pieces⟩

/-- Tokens alone. -/
def silent (tokens : List Token) : Phrase :=
  ⟨tokens, []⟩

/-- A space that only layout shows, since tokens have their own. -/
def blank : Phrase :=
  layout [.text " "]

/-- A word. -/
def word (text : String) : Phrase :=
  ⟨[.word text], [.text text]⟩

/-- A word and a space. -/
def keyword (text : String) : Phrase :=
  word text ++ blank

/-- A literal. -/
def literal (text : String) : Phrase :=
  ⟨[.literal text], [.text text]⟩

/-- The tokens of an operator: characters joined to one another. -/
def operatorTokens : List Char → List Token
  | [] => []
  | [last] => [.punct last false]
  | char :: rest => .punct char true :: operatorTokens rest

/-- An operator. -/
def operator (text : String) : Phrase :=
  ⟨operatorTokens text.toList, [.text text]⟩

/-- An operator between spaces. -/
def spacedOperator (text : String) : Phrase :=
  blank ++ operator text ++ blank

/-- A lifetime. -/
def lifetime (name : String) : Phrase :=
  ⟨[.punct '\x27' true, .word name], [.text ("\x27" ++ name)]⟩

/-- A phrase with other pieces. -/
def withPieces (phrase : Phrase) (pieces : List Piece) : Phrase :=
  { phrase with pieces := pieces }

/-- A phrase with a box around it. -/
def boxed (offset : Int) (isEven : Bool) (phrase : Phrase) : Phrase :=
  phrase.withPieces (Source.boxed offset isEven phrase.pieces)

end Phrase

/-- The text of an opening bracket. -/
def Delimiter.openingText : Delimiter → String
  | .parenthesis => "("
  | .bracket => "["
  | .brace => "\x7b"

/-- The text of a closing bracket. -/
def Delimiter.closingText : Delimiter → String
  | .parenthesis => ")"
  | .bracket => "]"
  | .brace => "\x7d"

/-! ## Lists -/

/-- A member of a list, and whether a separator follows it. -/
structure Member (α : Type) where
  value : α
  isSeparated : Bool

namespace Member

/-- The tokens of members with their separators. -/
def tokens {α : Type} (separator : Char) (tokens : α → List Token) (members : List (Member α)) :
    List Token :=
  members.flatMap fun member =>
    tokens member.value ++ if member.isSeparated then [Token.sign separator] else []

/-- The values of members. -/
def values {α : Type} (members : List (Member α)) : List α :=
  members.map (·.value)

end Member

namespace Phrase

/-- A group of brackets around a phrase, without spaces. -/
def group (delimiter : Delimiter) (content : Phrase) : Phrase :=
  ⟨[.group delimiter content.tokens],
    [.text delimiter.openingText] ++ content.pieces ++ [.text delimiter.closingText]⟩

/-- A bracketed list, each member on a line of its own if they do not fit. -/
def list (delimiter : Delimiter) (members : List (Member Phrase)) : Phrase :=
  ⟨[.group delimiter (Member.tokens ',' (·.tokens) members)],
    listPieces delimiter.openingText delimiter.closingText ((Member.values members).map (·.pieces))⟩

/-- A list in parentheses that shows the comma of its only member. -/
def tuple (members : List (Member Phrase)) (showsComma : Member Phrase → Bool) : Phrase :=
  match members with
  | [only] =>
      let comma := if showsComma only then [.text ","] else []
      ⟨[.group .parenthesis (Member.tokens ',' (·.tokens) members)],
        [.text "("] ++ indentedBox (leavingLast
          ([Piece.softBreak] ++ only.value.pieces ++ comma ++ [Piece.softBreak])) ++ [.text ")"]⟩
  | _ => list .parenthesis members

end Phrase

end CustomResource.Source
