import CustomResource.Source.Grammar.MacroCall
import CustomResource.Source.Grammar.Path

/-!
# Patterns

Names, literals, ranges, references, tuples, lists and the fields of structs, and alternatives of them where
a bar may stand.
-/

namespace CustomResource.Source.Grammar

open Reader

/-! ## Alternatives -/

/-- Whether a bar between alternatives is ahead. -/
def beginsAlternative (tokens : List Token) : Bool :=
  Token.begins "|" tokens && !Token.begins "||" tokens && !Token.begins "|=" tokens

/-- Read further alternatives, each after a bar. -/
def alternatives (grammar : Grammar) : (fuel : Nat) → Reader (List PatternPhrase)
  | 0 => failure
  | fuel + 1 => do
      if ← sees beginsAlternative then
        let _ ← operator "|"
        let first ← grammar.pattern
        return first :: (← alternatives grammar fuel)
      else return []

/-- Alternatives as one pattern.  They share lines if they are all terse. -/
def joinAlternatives (bar : Phrase) (first : PatternPhrase) (rest : List PatternPhrase) : PatternPhrase :=
  let shown := rest.flatMap fun pattern => [Piece.space, .text "| "] ++ pattern.pieces
  { tokens := bar.tokens ++ first.tokens ++ rest.flatMap fun pattern => .sign '|' :: pattern.tokens
    pieces := boxed 0 (!(first :: rest).all (·.isTerse)) (first.pieces ++ shown) }

/-- Read a pattern with alternatives. -/
def patterns (grammar : Grammar) : Reader PatternPhrase := do
  let bar := (← operator? "|").getD {}
  let first ← grammar.pattern
  let rest ← alternatives grammar (← steps)
  if bar.tokens.isEmpty && rest.isEmpty then return first
  else return joinAlternatives bar first rest

/-- Patterns as the members of a list. -/
def patternMembers (patterns : List (Member PatternPhrase)) : List (Member Phrase) :=
  patterns.map fun pattern => ⟨pattern.value.toPhrase, pattern.isSeparated⟩

/-! ## Ranges -/

/-- Whether a range ends without a bound. -/
def endsRange (tokens : List Token) : Bool :=
  tokens.isEmpty || Token.begins "|" tokens || Token.begins "=" tokens ||
    (Token.begins ":" tokens && !Token.begins "::" tokens) || Token.begins "," tokens ||
    Token.begins ";" tokens || Token.beginsWord "if" tokens

/-- Read a bound of a range: a literal, a path or a constant block. -/
def rangeBound (grammar : Grammar) : Reader Phrase := do
  if ← sees Token.beginsLiteral then literal
  else if ← seesWord "const" then
    let mark ← keyword? "const"
    return mark ++ (← grammar.block).phrase
  else
    require (!(← seesWord "try"))
    return (← anyPath grammar .expression).toPhrase

/-- Read the limits of a range of patterns, and tell whether the last value is included.  Three dots mean
that too. -/
def rangeLimits : Reader (Phrase × Bool) := do
  if ← seesOperator "..=" then return (← operator "..=", true)
  else if ← seesOperator "..." then
    let _ ← operator "..."
    return (.operator "..=", true)
  else return (← operator "..", false)

/-- Read a range after its first bound. -/
def rangeAfter (grammar : Grammar) (first : Phrase) : Reader PatternPhrase := do
  let (limits, includesLast) ← rangeLimits
  if ← sees endsRange then
    require (!includesLast)
    return { toPhrase := first ++ limits, isOpen := true }
  else return { toPhrase := first ++ limits ++ (← rangeBound grammar) }

/-- Read a range without a first bound, or the rest of a list. -/
def rangeFromStart (grammar : Grammar) : Reader PatternPhrase := do
  require (!(← seesOperator "..."))
  let (limits, includesLast) ← rangeLimits
  if ← sees endsRange then
    require (!includesLast)
    return { toPhrase := limits, isRest := true }
  else return { toPhrase := limits ++ (← rangeBound grammar), isOpen := true }

/-! ## Fields -/

/-- Read a field of a struct by name or position. -/
def memberName : Reader Phrase := do
  if ← sees Token.beginsName then return .word (← anyWord)
  else match ← ahead with
    | .literal text :: rest =>
        match integerValue? text with
        | some value => set rest; return .literal (toString value)
        | none => failure
    | _ => failure

/-- Read a field of a struct pattern; dots stand for all others. -/
def fieldPattern (grammar : Grammar) : Reader PatternPhrase := do
  if ← seesOperator ".." then return { toPhrase := ← operator "..", isRest := true }
  else
    let mode := (← keyword? "ref") ++ (← keyword? "mut")
    if mode.tokens.isEmpty then
      let isNamed ← sees Token.beginsName
      let name ← memberName
      if !isNamed || (← seesOperator ":") then
        let _ ← operator ":"
        let value ← patterns grammar
        return { toPhrase := name ++ .operator ":" ++ .blank ++ value.toPhrase }
      else return { toPhrase := name }
    else return { toPhrase := mode ++ .word (← name) }

/-- Read the fields of a struct pattern after its path. -/
def structPattern (grammar : Grammar) (path : PathPhrase) : Reader PatternPhrase := do
  let fields ← membersInside .brace (fieldPattern grammar)
  require (fields.all fun field => !field.value.isRest || !field.isSeparated)
  let values := Member.values fields
  let named := (values.filter (!·.isRest)).map (·.pieces)
  let rest := (values.find? (·.isRest)).map (·.pieces)
  return {
    tokens := path.tokens ++ [.group .brace (Member.tokens ',' (·.tokens) fields)]
    pieces := indentedBox (path.pieces ++ [.text " \x7b"] ++ fieldPieces named rest) ++ [.text "\x7d"] }

/-! ## All patterns -/

/-- Read a pattern that begins with a path. -/
def pathPattern (grammar : Grammar) : Reader PatternPhrase := do
  let path ← anyPath grammar .expression
  if !path.isQualified && path.isPlain && (← sees Token.beginsBang) then
    let (_, call) ← MacroCall.read path.toPhrase
    return { toPhrase := call }
  else if ← seesGroup .brace then structPattern grammar path
  else if ← seesGroup .parenthesis then
    let fields ← membersInside .parenthesis (patterns grammar)
    return { toPhrase := path.toPhrase ++ .list .parenthesis (patternMembers fields) }
  else if ← seesOperator ".." then rangeAfter grammar path.toPhrase
  else return { toPhrase := path.toPhrase }

/-- Read a name that is bound to what it matches. -/
def bindingPattern (grammar : Grammar) : Reader PatternPhrase := do
  let mode := (← keyword? "ref") ++ (← keyword? "mut")
  let bound := mode ++ .word (← if ← seesWord "self" then anyWord else name)
  if ← seesOperator "@" then
    let _ ← operator "@"
    let inner ← grammar.pattern
    return { toPhrase := bound ++ .spacedOperator "@" ++ inner.toPhrase }
  else return { toPhrase := bound }

/-- Read a tuple, or a pattern in parentheses. -/
def parenthesizedPattern (grammar : Grammar) : Reader PatternPhrase := do
  let parts ← membersInside .parenthesis (patterns grammar)
  match parts with
  | [⟨only, false⟩] =>
      if only.isRest then return { toPhrase := .tuple (patternMembers parts) (·.isSeparated) }
      else return { toPhrase := .group .parenthesis only.toPhrase }
  | _ => return { toPhrase := .tuple (patternMembers parts) (·.isSeparated) }

/-- The pieces of patterns in brackets, which make no box. -/
def slicePieces : List (List Piece) → List Piece
  | [] => []
  | [last] => last ++ [.place { before := "," }]
  | first :: rest => first ++ [.text ",", Piece.space] ++ slicePieces rest

/-- Read a list of patterns in brackets, without open ranges. -/
def slicePattern (grammar : Grammar) : Reader PatternPhrase := do
  let parts ← membersInside .bracket (patterns grammar)
  require (parts.all (!·.value.isOpen))
  return {
    tokens := [.group .bracket (Member.tokens ',' (·.tokens) parts)]
    pieces := [.text "["] ++ slicePieces ((Member.values parts).map (·.pieces)) ++ [.text "]"] }

/-- Whether a pattern that begins with a path is ahead. -/
def beginsPathPattern (tokens : List Token) : Bool :=
  let next := tokens.drop 1
  (Token.beginsName tokens &&
    (Token.begins "::" next || Token.begins "!" next || Token.beginsGroup .brace next ||
      Token.beginsGroup .parenthesis next || Token.begins ".." next)) ||
    (Token.beginsWord "self" tokens && Token.begins "::" next) ||
    Token.begins "::" tokens || Token.begins "<" tokens ||
    Token.beginsOneOf ["Self", "super", "crate"] tokens

/-- Read a pattern without alternatives. -/
def readPattern (grammar : Grammar) : Reader PatternPhrase := do
  if ← sees beginsPathPattern then pathPattern grammar
  else if ← seesWord "_" then return { toPhrase := ← word "_", isTerse := true }
  else if (← sees Token.beginsLiteral) || (← seesWord "const") then
    let isLiteral ← sees Token.beginsLiteral
    let first ← rangeBound grammar
    if ← seesOperator ".." then rangeAfter grammar first
    else return { toPhrase := first, isTerse := isLiteral }
  else if ← sees fun tokens => Token.beginsName tokens || Token.beginsOneOf ["ref", "mut", "self"] tokens then
    bindingPattern grammar
  else if ← seesOperator "&" then
    let mark ← operator "&"
    let mutability ← keyword? "mut"
    return { toPhrase := mark ++ mutability ++ (← grammar.pattern).toPhrase }
  else if ← seesGroup .parenthesis then parenthesizedPattern grammar
  else if ← seesGroup .bracket then slicePattern grammar
  else rangeFromStart grammar

end CustomResource.Source.Grammar
