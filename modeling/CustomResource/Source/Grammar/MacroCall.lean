import CustomResource.Source.Reader

/-!
# Macro calls

The arguments of a macro call are any tokens.  They stay as they are, and layout spaces them by what they
look like: names, literals and most punctuation take a space, but separators, members, calls and the parts
of paths do not.
-/

namespace CustomResource.Source.MacroCall

/-- What the tokens so far end in. -/
inductive After where
  | start
  | dollar
  | dollarGroup
  | dollarSeparator
  | pound
  | poundBang
  | dot
  | colon
  | colons
  | word
  | wordBang
  | group
  | other
  deriving DecidableEq, Repr

/-- The words that take a space and are no names. -/
def keywords : List String :=
  ["as", "async", "await", "box", "break", "const", "continue", "crate", "dyn", "else", "enum", "extern",
    "fn", "for", "if", "impl", "in", "let", "loop", "macro", "match", "mod", "move", "mut", "pub", "ref",
    "return", "static", "struct", "trait", "type", "unsafe", "use", "where", "while", "yield"]

/-- Whether a token takes a space after others, and what they end in then. -/
def step (after : After) : Token → Bool × After
  | .word text =>
      if after = .dollar then (false, .other)
      else if after = .dollarGroup then (false, .dollarSeparator)
      else if text ∈ keywords then (true, .other)
      else (after ≠ .dot ∧ after ≠ .colons, .word)
  | .literal text =>
      if after = .dollarGroup then (false, .dollarSeparator)
      else (after ≠ .dot, if text.endsWith "." then .other else .word)
  | .group .brace _ => (true, .other)
  | .group .parenthesis _ =>
      match after with
      | .dollar => (false, .dollarGroup)
      | .word => (false, .group)
      | .wordBang => (false, .other)
      | _ => (true, .group)
  | .group .bracket _ =>
      match after with
      | .pound | .poundBang | .wordBang => (false, .other)
      | .word => (false, .group)
      | _ => (true, .group)
  | .punct char joint =>
      if after = .dollarGroup then
        if !joint ∧ (char = '+' ∨ char = '*' ∨ char = '?') then (false, .other)
        else (false, if joint then .dollarGroup else .dollarSeparator)
      else if after = .dollarSeparator ∧ (char = '+' ∨ char = '*') then (false, .other)
      else if after = .pound ∧ char = '!' then (false, .poundBang)
      else if after = .word ∧ char = '!' ∧ !joint then (false, .wordBang)
      else if after = .colon ∧ char = ':' then (false, .colons)
      else if char = ',' ∨ char = ';' then (false, .other)
      else if char = '.' then (after ≠ .word ∧ after ≠ .group, .dot)
      else if char = ':' ∧ joint then (after ≠ .word, .colon)
      else if char = '$' then (true, .dollar)
      else if char = '#' then (true, .pound)
      else (true, .other)

/-- Whether the next token follows a token without any gap. -/
def suppressesGap : Token → Bool
  | .punct char joint => joint || char = '$'
  | _ => false

/-- The pieces between a token and those before it. -/
def gap (takesSpace : Bool) (token : Token) : List Piece :=
  if takesSpace then [Piece.space]
  else match token with
    | .punct '.' _ => [Piece.softBreak]
    | _ => []

mutual

/-- The pieces of a token. -/
def tokenPieces : Token → List Piece
  | .word text => [.text text]
  | .literal text => [.text text]
  | .punct char _ => [.text (String.singleton char)]
  | .group delimiter [] => [.text delimiter.openingText, .text delimiter.closingText]
  | .group delimiter (first :: rest) =>
      let padding := if delimiter = .brace then [Piece.space] else []
      [.text delimiter.openingText] ++ padding ++ argumentPieces .start true (first :: rest) ++ padding ++
        [.text delimiter.closingText]

/-- The pieces of tokens after others; `isTight` tells that no gap comes first. -/
def argumentPieces (after : After) (isTight : Bool) : List Token → List Piece
  | [] => []
  | token :: rest =>
      let (takesSpace, next) := step after token
      (if isTight then [] else gap takesSpace token) ++ tokenPieces token ++
        argumentPieces next (suppressesGap token) rest

end

/-- The pieces of arguments in their brackets. -/
def bracketed (delimiter : Delimiter) (arguments : List Token) : List Piece :=
  let (opening, edge) :=
    if delimiter = .brace then (" \x7b", Piece.hardBreak)
    else (delimiter.openingText, Piece.softBreak)
  let content :=
    if arguments.isEmpty then []
    else indentedBox (leavingLast
      ([edge] ++ fillingBox (argumentPieces .start true arguments) ++ [edge]))
  [.text opening] ++ content ++ [.text delimiter.closingText]

/-- Read the arguments of a call after its mark: the brackets and the rest of the call. -/
def read (path : Phrase) : Reader (Delimiter × Phrase) := do
  let _ ← Reader.operator "!"
  match ← Reader.ahead with
  | .group delimiter arguments :: rest =>
      set rest
      let tokens := path.tokens ++ [.sign '!', .group delimiter arguments]
      return (delimiter, ⟨tokens, path.pieces ++ [.text "!"] ++ bracketed delimiter arguments⟩)
  | _ => failure

end CustomResource.Source.MacroCall
