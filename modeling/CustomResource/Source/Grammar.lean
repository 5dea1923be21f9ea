import CustomResource.Source.Grammar.Atom
import CustomResource.Source.Grammar.Statement

/-!
# The grammar

The readers of the grammar, each level made of the one below.  A reader goes down a level whenever it calls
another, and it does so a few times at most before it takes a token, so as many levels as a small multiple
of the number of tokens suffice for all of a text.

Texts are read for two purposes: the paths of configured derives, and the values of attributes.

The grammar is that of types and expressions as far as such texts need it.  Items in blocks are refused, and so are
attributes inside expressions.  A call in tail position that begins with `become` is taken, as one more word that
leaves a function; a parser of the whole language may accept the former two and refuse the last.
-/

namespace CustomResource.Source

namespace Grammar

/-- The readers of the next level. -/
def next (below : Grammar) : Grammar where
  type := readType below
  bound := readBound below
  pattern := readPattern below
  atom := readAtom below
  operand := readOperand below
  chain := readChain below
  operation := readOperation below
  operandOf := readOperandOf below
  block := readBlock below

/-- The readers of a level. -/
def level : Nat → Grammar
  | 0 => ground
  | count + 1 => (level count).next

end Grammar

mutual

/-- The number of tokens in a token. -/
def Token.count : Token → Nat
  | .group _ content => 1 + countTokens content
  | _ => 1

/-- The number of tokens with those inside others. -/
def countTokens : List Token → Nat
  | [] => 0
  | token :: rest => token.count + countTokens rest

end

/-- Read all of some tokens. -/
def readAll {α : Type} (reader : Grammar → Reader α) (tokens : List Token) : Option α :=
  match reader (.level (8 * countTokens tokens + 8)) tokens with
  | some (value, []) => some value
  | _ => none

/-- The expression that tokens spell. -/
def expression? (tokens : List Token) : Option Phrase :=
  (readAll (·.expression true) tokens).map (·.phrase)

/-- The normal tokens of the path that a text spells. -/
def typePath? (text : String) : Option (List Token) :=
  tokens? text >>= readAll fun grammar => (·.tokens) <$> grammar.path .type

end CustomResource.Source
