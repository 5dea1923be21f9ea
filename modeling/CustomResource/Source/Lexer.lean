import CustomResource.Source.Literal
import CustomResource.Source.Token
import CustomResource.Text.Quoted

/-!
# Lexing

From text to tokens.  Blanks and comments separate tokens and are dropped, but a doc comment stands for a
doc attribute.  Text that is no sequence of tokens, or whose brackets do not match, has no tokens at all.

Reading goes in two steps: lexemes first, with brackets still open and close, then the matching of brackets.
-/

namespace CustomResource.Source

/-- A lexeme: a token without content, or one half of a pair of brackets. -/
inductive Lexeme where
  | leaf (token : Token)
  | opening (delimiter : Delimiter)
  | closing (delimiter : Delimiter)
  deriving Repr

/-! ## Blanks and comments -/

/-- The rest of a line, and what follows from its end on. -/
def takeLine : List Char → List Char × List Char
  | [] => ([], [])
  | '\n' :: rest => ([], '\n' :: rest)
  | '\r' :: '\n' :: rest => ([], '\n' :: rest)
  | c :: rest => let (line, after) := takeLine rest; (c :: line, after)

/-- A block comment from its opening on, and what follows it; comments nest. -/
def takeBlockComment : (depth : Nat) → List Char → Option (List Char × List Char)
  | depth, '/' :: '*' :: rest =>
      (takeBlockComment (depth + 1) rest).map fun (text, after) => ('/' :: '*' :: text, after)
  | depth, '*' :: '/' :: rest =>
      if depth ≤ 1 then some (['*', '/'], rest)
      else (takeBlockComment (depth - 1) rest).map fun (text, after) => ('*' :: '/' :: text, after)
  | depth, c :: rest => (takeBlockComment depth rest).map fun (text, after) => (c :: text, after)
  | _, [] => none

/-- Whether text begins with a line comment that is no doc comment. -/
def beginsLineComment (text : List Char) : Bool :=
  "//".toList.isPrefixOf text &&
    (!"///".toList.isPrefixOf text || "////".toList.isPrefixOf text) &&
    !"//!".toList.isPrefixOf text

/-- Whether text begins with a block comment that is no doc comment. -/
def beginsBlockComment (text : List Char) : Bool :=
  "/*".toList.isPrefixOf text &&
    (!"/**".toList.isPrefixOf text || "/***".toList.isPrefixOf text || "/**/".toList.isPrefixOf text) &&
    !"/*!".toList.isPrefixOf text

/-- Whether a character separates tokens: white space, and the marks of writing direction. -/
def isBlank (c : Char) : Bool :=
  Unicode.isWhitespace c || c.toNat = 0x200E || c.toNat = 0x200F

/-- Drop blanks and comments.  Every step takes a character, so `fuel` need not exceed their number. -/
def skipBlanks : (fuel : Nat) → List Char → List Char
  | 0, text => text
  | fuel + 1, text =>
      if beginsLineComment text then skipBlanks fuel (takeLine text).2
      else if beginsBlockComment text then
        match takeBlockComment 0 text with
        | some (_, rest) => skipBlanks fuel rest
        | none => text
      else match text with
        | c :: rest => if isBlank c then skipBlanks fuel rest else text
        | [] => []

/-- Whether a carriage return stands anywhere but before a line feed. -/
def hasBareReturn : List Char → Bool
  | [] => false
  | '\r' :: '\n' :: rest => hasBareReturn rest
  | '\r' :: _ => true
  | _ :: rest => hasBareReturn rest

/-- A doc comment: whether it documents what is around it, its text, and what follows it. -/
def takeDocComment (text : List Char) : Option (Bool × List Char × List Char) :=
  if "//!".toList.isPrefixOf text then
    let (line, rest) := takeLine (text.drop 3)
    some (true, line, rest)
  else if "/*!".toList.isPrefixOf text then
    (takeBlockComment 0 text).map fun (comment, rest) => (true, (comment.drop 3).dropLast.dropLast, rest)
  else if "////".toList.isPrefixOf text then none
  else if "///".toList.isPrefixOf text then
    let (line, rest) := takeLine (text.drop 3)
    some (false, line, rest)
  else if "/***".toList.isPrefixOf text then none
  else if "/**".toList.isPrefixOf text then
    (takeBlockComment 0 text).map fun (comment, rest) => (false, (comment.drop 3).dropLast.dropLast, rest)
  else none

/-- The lexemes of the attribute that a doc comment stands for. -/
def docLexemes (inner : Bool) (comment : List Char) : List Lexeme :=
  [.leaf (.sign '#')] ++ (if inner then [.leaf (.sign '!')] else []) ++
    [.opening .bracket, .leaf (.word "doc"), .leaf (.sign '='),
      .leaf (.literal (Text.literal (String.ofList comment))), .closing .bracket]

/-! ## Words and punctuation -/

/-- The words that no raw identifier may spell. -/
def unrawWords : List (List Char) :=
  ["_", "super", "self", "Self", "crate"].map String.toList

/-- An identifier, raw or not, and what follows it. -/
def takeWord : List Char → Option (List Char × List Char)
  | 'r' :: '#' :: rest =>
      match takeIdentifier rest with
      | some (name, after) => if name ∈ unrawWords then none else some ('r' :: '#' :: name, after)
      | none => none
  | text => takeIdentifier text

/-- The beginnings of quoted literals, at which no word begins. -/
def quotedBeginnings : List (List Char) :=
  ["r\"", "r#\"", "r##", "b\"", "b\x27", "br\"", "br#", "c\"", "cr\"", "cr#"].map String.toList

/-- A punctuation character and what follows it; the slash of a comment is none. -/
def takePunct (text : List Char) : Option (Char × List Char) :=
  if "//".toList.isPrefixOf text || "/*".toList.isPrefixOf text then none
  else match text with
    | c :: rest => if "~!@#$%^&*-=+|;:,<.>/?\x27".toList.contains c then some (c, rest) else none
    | [] => none

/-- A punctuation token and what follows it.  A single quote must begin a lifetime: an identifier that no
other quote closes. -/
def takePunctToken (text : List Char) : Option (Token × List Char) := do
  let (c, rest) ← takePunct text
  if c.toNat = 0x27 then
    let (_, after) ← takeWord rest
    match after with
    | next :: _ =>
        if next.toNat = 0x27 ∨ (next = '#' ∧ !"r#".toList.isPrefixOf rest) then none
        else some (.punct c true, rest)
    | [] => some (.punct c true, rest)
  else some (.punct c (takePunct rest).isSome, rest)

/-- A token without content and what follows it: a literal, punctuation or a word. -/
def takeLeaf (text : List Char) : Option (Token × List Char) :=
  match afterLiteral text with
  | some rest =>
      some (.literal (String.ofList (text.take (text.length - rest.length))), rest)
  | none =>
      takePunctToken text <|>
        if quotedBeginnings.any (·.isPrefixOf text) then none
        else (takeWord text).map fun (word, rest) => (.word (String.ofList word), rest)

/-! ## Lexemes -/

/-- The delimiter a character opens. -/
def openingDelimiter? (c : Char) : Option Delimiter :=
  if c = '(' then some .parenthesis
  else if c = '[' then some .bracket
  else if c.toNat = 0x7B then some .brace
  else none

/-- The delimiter a character closes. -/
def closingDelimiter? (c : Char) : Option Delimiter :=
  if c = ')' then some .parenthesis
  else if c = ']' then some .bracket
  else if c.toNat = 0x7D then some .brace
  else none

/-- The next lexemes of text that is not blank, and what follows them. -/
def takeLexemes (text : List Char) : Option (List Lexeme × List Char) :=
  let documentation := do
    let (inner, comment, rest) ← takeDocComment text
    if hasBareReturn comment then none else some (docLexemes inner comment, rest)
  documentation <|> match text with
    | [] => none
    | c :: rest =>
        match openingDelimiter? c, closingDelimiter? c with
        | some delimiter, _ => some ([.opening delimiter], rest)
        | none, some delimiter => some ([.closing delimiter], rest)
        | none, none => (takeLeaf text).map fun (token, rest) => ([.leaf token], rest)

/-- All lexemes of a text.  Every step takes a character, so `fuel` need not exceed their number. -/
def lexemes : (fuel : Nat) → List Char → Option (List Lexeme)
  | fuel, text =>
      match skipBlanks text.length text with
      | [] => some []
      | c :: rest =>
          match fuel with
          | 0 => none
          | fuel + 1 => do
              let (first, after) ← takeLexemes (c :: rest)
              return first ++ (← lexemes fuel after)

/-! ## Tokens -/

/-- Match brackets: `outer` holds the open ones with the tokens before each, `before` the tokens since the
last, both in reverse. -/
def matchBrackets (outer : List (Delimiter × List Token)) (before : List Token) :
    List Lexeme → Option (List Token)
  | [] => if outer.isEmpty then some before.reverse else none
  | .leaf token :: rest => matchBrackets outer (token :: before) rest
  | .opening delimiter :: rest => matchBrackets ((delimiter, before) :: outer) [] rest
  | .closing delimiter :: rest =>
      match outer with
      | [] => none
      | (opened, tokens) :: outer =>
          if opened = delimiter then
            matchBrackets outer (.group delimiter before.reverse :: tokens) rest
          else none

/-- The tokens of a text, which may begin with a byte order mark. -/
def tokens? (text : String) : Option (List Token) := do
  let characters := match text.toList with
    | c :: rest => if c.toNat = 0xFEFF then rest else c :: rest
    | [] => []
  matchBrackets [] [] (← lexemes characters.length characters)

end CustomResource.Source
