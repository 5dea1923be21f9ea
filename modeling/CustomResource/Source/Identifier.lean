import CustomResource.Error
import CustomResource.Source.Lexer

/-!
# Identifiers

A text is an identifier if it consists of one word token that is not reserved.  Blanks and comments around
the word are no part of the identifier.
-/

namespace CustomResource.Source

/-- The reserved words, none of which is an identifier. -/
def reservedWords : List String :=
  ["_", "abstract", "as", "async", "await", "become", "box", "break", "const", "continue", "crate", "do",
    "dyn", "else", "enum", "extern", "false", "final", "fn", "for", "if", "impl", "in", "let", "loop",
    "macro", "match", "mod", "move", "mut", "override", "priv", "pub", "ref", "return", "Self", "self",
    "static", "struct", "super", "trait", "true", "try", "type", "typeof", "unsafe", "unsized", "use",
    "virtual", "where", "while", "yield"]

/-- The identifier that tokens spell. -/
def identifierOfTokens : List Token → Except IdentifierError String
  | [] => .error .empty
  | .word text :: rest =>
      if text ∈ reservedWords then .error (.reserved text)
      else if rest.isEmpty then .ok text
      else .error .moreTokens
  | _ :: _ => .error .notIdentifier

/-- The identifier that a text spells. -/
def identifier (text : String) : Except IdentifierError String :=
  match tokens? text with
  | none => .error .notTokens
  | some tokens => identifierOfTokens tokens

end CustomResource.Source
