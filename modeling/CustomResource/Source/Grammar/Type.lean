import CustomResource.Source.Grammar.MacroCall
import CustomResource.Source.Grammar.Path

/-!
# Types

Paths, macro calls, tuples, arrays, slices, references, pointers, functions and objects and opaque types
that are given by bounds.  A type may be the first of several bounds where more may follow.
-/

namespace CustomResource.Source.Grammar

open Reader

/-! ## Bounds -/

/-- Read lifetimes that hold for what follows. -/
def boundLifetimes? : Reader Phrase := do
  if ← seesWord "for" then
    let _ ← word "for"
    let _ ← operator "<"
    let names ← membersUntil "," (Token.begins ">") lifetime (← steps)
    let _ ← operator ">"
    let pieces := ((Member.values names).map (·.pieces)).intersperse [.text ", "]
    return ⟨[.word "for", .sign '<'] ++ Member.tokens ',' (·.tokens) names ++ [.sign '>'],
      [.text "for<"] ++ pieces.flatten ++ [.text "> "]⟩
  else return {}

/-- Read a trait. -/
def traitBound (grammar : Grammar) : Reader Phrase := do
  let before ← boundLifetimes?
  let mark := (← operator? "?").getD {}
  let after ← if before.tokens.isEmpty && !mark.tokens.isEmpty then boundLifetimes? else pure {}
  let path ← path grammar .type
  let shown := mark ++ before ++ after ++ path.toPhrase
  if path.endsPlain && (← sees beginsParameters) then
    let (parameters, _) ← parameters grammar
    return shown ++ parameters
  else return shown

/-- Read a bound. -/
def readBound (grammar : Grammar) : Reader BoundPhrase := do
  if ← sees Token.beginsLifetime then return { toPhrase := ← lifetime, isTrait := false }
  else if ← seesGroup .parenthesis then
    return { toPhrase := .group .parenthesis (← inside .parenthesis (traitBound grammar)) }
  else return { toPhrase := ← traitBound grammar }

/-- Whether a bound may come after a plus. -/
def beginsBound (tokens : List Token) : Bool :=
  Token.beginsAnyWord tokens || Token.begins "::" tokens || Token.begins "?" tokens ||
    Token.beginsLifetime tokens || Token.beginsGroup .parenthesis tokens

/-- Read a parameter that an opaque type captures. -/
def captured : Reader Phrase := do
  if ← sees Token.beginsLifetime then lifetime
  else if ← seesWord "Self" then word "Self"
  else .word <$> name

/-- Read the parameters that an opaque type captures, as a bound. -/
def captures : Reader BoundPhrase := do
  let mark ← word "use"
  let _ ← operator "<"
  let names ← membersUntil "," (Token.begins ">") captured (← steps)
  let _ ← operator ">"
  let pieces := ((Member.values names).map (·.pieces)).intersperse [.text ", "]
  return { isTrait := false, toPhrase :=
    ⟨mark.tokens ++ [.sign '<'] ++ Member.tokens ',' (·.tokens) names ++ [.sign '>'],
      [.text "use<"] ++ pieces.flatten ++ [.text ">"]⟩ }

/-- Read a bound of an opaque type. -/
def opaqueBound (grammar : Grammar) : Reader BoundPhrase := do
  if ← seesWord "use" then captures else grammar.bound

/-- Bounds with plus signs between them. -/
def boundsPhrase (bounds : List (Member Phrase)) : Phrase :=
  let pieces := ((Member.values bounds).map (·.pieces)).intersperse [.text " + "]
  ⟨Member.tokens '+' (·.tokens) bounds, pieces.flatten⟩

/-- Members as phrases. -/
def boundMembers (bounds : List (Member BoundPhrase)) : List (Member Phrase) :=
  bounds.map fun bound => ⟨bound.value.toPhrase, bound.isSeparated⟩

/-- Read bounds, of which at least one is a trait. -/
def bounds (bound : Reader BoundPhrase) (plus : Bool) : Reader (List (Member Phrase)) := do
  let all ←
    if plus then membersWhile "+" beginsBound bound (← steps)
    else pure [⟨← bound, false⟩]
  require (all.any (·.value.isTrait))
  return boundMembers all

/-- The type of objects with bounds.  Layout shows what they are even if the tokens do not say it. -/
def objectType (mark : List Token) (bounds : List (Member Phrase)) : TypePhrase where
  toPhrase := .silent mark ++ .layout [.text "dyn "] ++ boundsPhrase bounds
  canBound := mark.isEmpty &&
    match bounds with
    | [only] => !only.isSeparated
    | _ => false

/-- Read an object type that begins with a lifetime. -/
def lifetimeObject (grammar : Grammar) : Reader TypePhrase := do
  return objectType [] (← bounds grammar.bound true)

/-! ## Brackets -/

/-- Read further types of a tuple after the first comma. -/
def tupleRest (grammar : Grammar) : Reader (List (Member Phrase)) := do
  let types ← memberList (grammar.type true)
  return types.map fun type => ⟨type.value.toPhrase, type.isSeparated⟩

/-- The content of parentheses at the beginning of a type. -/
inductive Parenthesized where
  | tuple (members : List (Member Phrase))
  | bound (phrase : Phrase)
  | type (type : TypePhrase)

/-- Read the content of parentheses. -/
def parenthesized (grammar : Grammar) : Reader Parenthesized := do
  if ← atEnd then return .tuple []
  else if ← sees Token.beginsLifetime then return .type { ← lifetimeObject grammar with canBound := false }
  else if ← seesOperator "?" then return .bound (← traitBound grammar)
  else
    let first ← grammar.type true
    if ← seesOperator "," then
      let _ ← operator ","
      return .tuple (⟨first.toPhrase, true⟩ :: (← tupleRest grammar))
    else return .type first

/-- Read further bounds after a first one in parentheses, each after a plus. -/
def boundsAfter (grammar : Grammar) (first : Phrase) : Reader TypePhrase := do
  if ← seesOperator "+" then
    let _ ← operator "+"
    let rest ← membersWhile "+" (fun _ => true) grammar.bound (← steps)
    return objectType [] (⟨first, true⟩ :: boundMembers rest)
  else return objectType [] [⟨first, false⟩]

/-- The phrase of a bound that was read as a type: layout shows no mark of an object. -/
def withoutMark (type : TypePhrase) : Phrase :=
  match type.pieces with
  | .text "dyn " :: rest => type.toPhrase.withPieces rest
  | _ => type.toPhrase

/-- Read a type that begins with parentheses. -/
def parenthesizedType (grammar : Grammar) (plus : Bool) : Reader TypePhrase := do
  match ← inside .parenthesis (parenthesized grammar) with
  | .tuple members => return { toPhrase := .tuple members fun _ => true }
  | .bound phrase => boundsAfter grammar (.group .parenthesis phrase)
  | .type type =>
      if plus && type.canBound && (← seesOperator "+") then
        boundsAfter grammar (.group .parenthesis (withoutMark type))
      else return { toPhrase := .group .parenthesis type.toPhrase, isParenthesized := true }

/-- Read what is in brackets: the type of the elements, and their number if it is fixed. -/
def elements (grammar : Grammar) : Reader Phrase := do
  let type ← grammar.type true
  if ← seesOperator ";" then
    let semicolon ← operator ";"
    let length ← grammar.expression true
    return type.toPhrase ++ semicolon ++ .blank ++ length.phrase
  else return type.toPhrase

/-! ## Functions -/

/-- Read the name of a parameter, if it has one. -/
def parameterName? : Reader Phrase := do
  let isNamed ← sees fun tokens =>
    (Token.beginsName tokens || Token.beginsOneOf ["_", "self"] tokens) &&
      Token.begins ":" (tokens.drop 1) && !Token.begins "::" (tokens.drop 1)
  if isNamed then
    let name ← anyWord
    let _ ← operator ":"
    return .word name ++ .operator ":" ++ .blank
  else return {}

/-- A parameter of a function type; dots stand for any further ones. -/
structure Parameter where
  phrase : Phrase
  isOpen : Bool

/-- Read a parameter. -/
def parameter (grammar : Grammar) : Reader Parameter := do
  let name ← parameterName?
  if ← seesOperator "..." then
    let dots ← operator "..."
    return ⟨name ++ dots, true⟩
  else return ⟨name ++ (← grammar.type true).toPhrase, false⟩

/-- The pieces of parameters. -/
def parameterPieces (parameters : List Parameter) : List Piece :=
  let closed := (parameters.filter (!·.isOpen)).map (·.phrase.pieces)
  let listed := match (parameters.filter (·.isOpen)).map (·.phrase.pieces) with
    | [] => separatedBy 0 closed
    | dots :: _ =>
        closed.flatMap (fun pieces => pieces ++ [.text ",", Piece.space]) ++ dots ++
          [.place { offset := -indentStep }]
  [.text "("] ++ indentedBox ([Piece.softBreak] ++ listed) ++ [.text ")"]

/-- Read the calling convention of a function, if it is stated. -/
def convention? : Reader Phrase := do
  if ← seesWord "extern" then
    let mark := Phrase.keyword (← anyWord)
    match ← ahead with
    | .literal text :: rest =>
        set rest
        return mark ++ .literal text ++ .blank
    | _ => return mark
  else return {}

/-- Read a function type after the lifetimes that hold for it. -/
def functionType (grammar : Grammar) (lifetimes : Phrase) : Reader TypePhrase := do
  let safety ← keyword? "unsafe"
  let convention ← convention?
  let mark ← word "fn"
  let parameters ← membersInside .parenthesis (parameter grammar)
  let openOnes := parameters.dropLast.all (!·.value.isOpen)
  require openOnes
  let list : Phrase :=
    ⟨[.group .parenthesis (Member.tokens ',' (·.phrase.tokens) parameters)],
      parameterPieces (Member.values parameters)⟩
  let result ← resultType grammar
  return { toPhrase := lifetimes ++ safety ++ convention ++ mark ++ list ++ resultPhrase result }

/-! ## Paths -/

/-- Whether a path type is ahead. -/
def beginsPathType (tokens : List Token) : Bool :=
  Token.beginsName tokens || Token.beginsOneOf ["super", "self", "Self", "crate"] tokens ||
    Token.begins "::" tokens || Token.begins "<" tokens

/-- Read a type that begins with a path, after the lifetimes that hold for it. -/
def pathType (grammar : Grammar) (plus : Bool) (lifetimes : Phrase) : Reader TypePhrase := do
  let path ← pathRest grammar (← steps) (← anyPath grammar .type)
  if path.isQualified then return { toPhrase := path.toPhrase }
  else if path.isPlain && (← sees Token.beginsBang) then
    let (_, call) ← MacroCall.read path.toPhrase
    return { toPhrase := call }
  else if !lifetimes.tokens.isEmpty || (plus && (← seesOperator "+")) then
    let first := lifetimes ++ path.toPhrase
    if plus && (← seesOperator "+") then
      let _ ← operator "+"
      let rest ←
        if ← sees beginsBound then membersWhile "+" beginsBound grammar.bound (← steps) else pure []
      return objectType [] (⟨first, true⟩ :: boundMembers rest)
    else return objectType [] [⟨first, false⟩]
  else return { toPhrase := path.toPhrase, canBind := path.isSingle, canBound := true }

/-! ## All types -/

/-- Read a reference type after its mark. -/
def referenceType (grammar : Grammar) : Reader Phrase := do
  let lifetime ← if ← sees Token.beginsLifetime then (· ++ .blank) <$> lifetime else pure {}
  let mutability ← keyword? "mut"
  return .operator "&" ++ lifetime ++ mutability ++ (← grammar.type false).toPhrase

/-- Read a pointer type after its mark. -/
def pointerType (grammar : Grammar) : Reader Phrase := do
  require (← sees (Token.beginsOneOf ["const", "mut"]))
  let mutability := Phrase.keyword (← anyWord)
  return .operator "*" ++ mutability ++ (← grammar.type false).toPhrase

/-- Read a type that begins with a reserved word or a sign. -/
def markedType (grammar : Grammar) (plus : Bool) : Reader TypePhrase := do
  if ← seesWord "dyn" then
    let _ ← word "dyn"
    let star := ((← operator? "*").getD {}).tokens
    return objectType ([.word "dyn"] ++ star) (← bounds grammar.bound plus)
  else if ← seesWord "impl" then
    let mark ← keyword? "impl"
    return { toPhrase := mark ++ boundsPhrase (← bounds (opaqueBound grammar) plus) }
  else if ← seesGroup .bracket then
    return { toPhrase := .group .bracket (← inside .bracket (elements grammar)) }
  else if ← seesOperator "*" then
    let _ ← operator "*"
    return { toPhrase := ← pointerType grammar }
  else if ← seesOperator "&" then
    let _ ← operator "&"
    return { toPhrase := ← referenceType grammar }
  else if ← seesOperator "!" then return { toPhrase := ← operator "!" }
  else if ← seesWord "_" then return { toPhrase := ← word "_" }
  else
    require (← sees Token.beginsLifetime)
    lifetimeObject grammar

/-- Read a type; `plus` tells that more bounds may follow it. -/
def readType (grammar : Grammar) (plus : Bool) : Reader TypePhrase := do
  let lifetimes ← boundLifetimes?
  if ← sees (Token.beginsOneOf ["fn", "unsafe", "extern"]) then functionType grammar lifetimes
  else if !lifetimes.tokens.isEmpty then
    require (← sees fun tokens =>
      Token.beginsName tokens || Token.beginsOneOf ["super", "self", "Self", "crate"] tokens)
    pathType grammar plus lifetimes
  else if ← seesGroup .parenthesis then parenthesizedType grammar plus
  else if ← sees beginsPathType then pathType grammar plus {}
  else markedType grammar plus

end CustomResource.Source.Grammar
