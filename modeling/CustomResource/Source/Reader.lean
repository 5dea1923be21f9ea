import CustomResource.Source.Identifier
import CustomResource.Source.Literal
import CustomResource.Source.Phrase

/-!
# Readers

A reader takes tokens from the front of a list and yields a value, or fails.  No reader tries alternatives:
what comes next decides, and a failure is final.

Operators are read as they stand: of all their characters but the last, each must be joined to the next.
-/

namespace CustomResource.Source

/-- A reader of a value. -/
abbrev Reader := StateT (List Token) Option

/-! ## Looking ahead -/

namespace Token

/-- Whether tokens begin with the characters of an operator. -/
def beginsChars : List Char → List Token → Bool
  | [char], .punct next _ :: _ => next = char
  | char :: more, .punct next joint :: rest => next = char && joint && beginsChars more rest
  | _, _ => false

/-- Whether tokens begin with an operator. -/
def begins (operator : String) (tokens : List Token) : Bool :=
  beginsChars operator.toList tokens

/-- Whether tokens begin with a word. -/
def beginsWord (word : String) : List Token → Bool
  | .word next :: _ => next = word
  | _ => false

/-- Whether tokens begin with one of some words. -/
def beginsOneOf (words : List String) : List Token → Bool
  | .word next :: _ => next ∈ words
  | _ => false

/-- Whether tokens begin with a word that is not reserved. -/
def beginsName : List Token → Bool
  | .word next :: _ => next ∉ reservedWords
  | _ => false

/-- Whether tokens begin with any word. -/
def beginsAnyWord : List Token → Bool
  | .word _ :: _ => true
  | _ => false

/-- Whether tokens begin with a group. -/
def beginsGroup (delimiter : Delimiter) : List Token → Bool
  | .group next _ :: _ => next = delimiter
  | _ => false

/-- Whether tokens begin with a lifetime. -/
def beginsLifetime : List Token → Bool
  | .punct char true :: .word _ :: _ => char.toNat = 0x27
  | _ => false

/-- Whether a literal is a number. -/
def isNumber (text : String) : Bool :=
  match text.toList with
  | char :: _ => '0' ≤ char && char ≤ '9'
  | [] => false

/-- Whether tokens begin with a literal: one that stands as such, a truth value or a number after a minus. -/
def beginsLiteral : List Token → Bool
  | .literal _ :: _ => true
  | .word next :: _ => next = "true" || next = "false"
  | .punct '-' _ :: .literal text :: _ => isNumber text
  | _ => false

/-- Whether tokens begin with an equals sign that is no arrow. -/
def beginsEquals (tokens : List Token) : Bool :=
  begins "=" tokens && !begins "=>" tokens

/-- Whether tokens begin with the dot of a member. -/
def beginsDot (tokens : List Token) : Bool :=
  begins "." tokens && !begins ".." tokens

/-- Whether tokens begin with the mark of a macro call. -/
def beginsBang (tokens : List Token) : Bool :=
  begins "!" tokens && !begins "!=" tokens

/-- Whether tokens begin with a separator of segments before parentheses. -/
def beginsParenthesized (tokens : List Token) : Bool :=
  begins "::" tokens && beginsGroup .parenthesis (tokens.drop 2)

end Token

namespace Reader

/-- The tokens ahead. -/
def ahead : Reader (List Token) :=
  get

/-- Whether the tokens ahead pass a test. -/
def sees (test : List Token → Bool) : Reader Bool :=
  return test (← ahead)

/-- Whether an operator is ahead. -/
def seesOperator (text : String) : Reader Bool :=
  sees (Token.begins text)

/-- Whether a word is ahead. -/
def seesWord (text : String) : Reader Bool :=
  sees (Token.beginsWord text)

/-- Whether a group is ahead. -/
def seesGroup (delimiter : Delimiter) : Reader Bool :=
  sees (Token.beginsGroup delimiter)

/-- Whether nothing is ahead. -/
def atEnd : Reader Bool :=
  sees (·.isEmpty)

/-- Fail unless a condition holds. -/
def require (condition : Bool) : Reader Unit :=
  if condition then pure () else failure

/-- A bound for the number of members that can be ahead. -/
def steps : Reader Nat :=
  return (← ahead).length + 1

/-! ## Tokens -/

/-- Read an operator. -/
def operator (text : String) : Reader Phrase := do
  require (← seesOperator text)
  modify (·.drop text.length)
  return .operator text

/-- Read an operator if it is ahead. -/
def operator? (text : String) : Reader (Option Phrase) := do
  if ← seesOperator text then some <$> operator text else return none

/-- Read any word. -/
def anyWord : Reader String := do
  match ← ahead with
  | .word text :: rest => set rest; return text
  | _ => failure

/-- Read a word that is not reserved. -/
def name : Reader String := do
  require (← sees Token.beginsName)
  anyWord

/-- Read one word. -/
def word (text : String) : Reader Phrase := do
  require (← seesWord text)
  return .word (← anyWord)

/-- Read a word if it is ahead, and show it with a space. -/
def keyword? (text : String) : Reader Phrase := do
  if ← seesWord text then return .keyword (← anyWord) else return {}

/-- Read a literal. -/
def literal : Reader Phrase := do
  match ← ahead with
  | .literal text :: rest => set rest; return .literal text
  | .punct '-' _ :: .literal text :: rest =>
      require (Token.isNumber text)
      set rest
      return .operator "-" ++ .literal text
  | .word text :: rest =>
      require (text = "true" || text = "false")
      set rest
      return .word text
  | _ => failure

/-- Read a lifetime. -/
def lifetime : Reader Phrase := do
  require (← sees Token.beginsLifetime)
  modify (·.drop 1)
  return .lifetime (← anyWord)

/-! ## Groups and lists -/

/-- Read a group with a reader that takes all of its content. -/
def inside {α : Type} (delimiter : Delimiter) (reader : Reader α) : Reader α := do
  match ← ahead with
  | .group next content :: rest =>
      require (next = delimiter)
      match reader content with
      | some (value, []) => set rest; return value
      | _ => failure
  | _ => failure

/-- Read members up to where a test holds, with separators between them and maybe after the last. -/
def membersUntil {α : Type} (separator : String) (stop : List Token → Bool) (reader : Reader α) :
    (fuel : Nat) → Reader (List (Member α))
  | 0 => failure
  | fuel + 1 => do
      if ← sees stop then return []
      let value ← reader
      if ← sees stop then return [⟨value, false⟩]
      let _ ← operator separator
      return ⟨value, true⟩ :: (← membersUntil separator stop reader fuel)

/-- Read members as long as a separator follows and a test holds after it. -/
def membersWhile {α : Type} (separator : String) (goesOn : List Token → Bool) (reader : Reader α) :
    (fuel : Nat) → Reader (List (Member α))
  | 0 => failure
  | fuel + 1 => do
      let value ← reader
      if ← seesOperator separator then
        let _ ← operator separator
        if ← sees goesOn then
          return ⟨value, true⟩ :: (← membersWhile separator goesOn reader fuel)
        else return [⟨value, true⟩]
      else return [⟨value, false⟩]

/-- Read members up to the end. -/
def memberList {α : Type} (reader : Reader α) : Reader (List (Member α)) := do
  membersUntil "," (·.isEmpty) reader (← steps)

/-- Read a group of members. -/
def membersInside {α : Type} (delimiter : Delimiter) (reader : Reader α) : Reader (List (Member α)) :=
  inside delimiter (memberList reader)

end Reader

end CustomResource.Source
