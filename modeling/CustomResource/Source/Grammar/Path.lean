import CustomResource.Source.Grammar.Basic

/-!
# Paths with arguments

A segment of a path may have arguments in angle brackets: lifetimes, types, constants and what is said of
associated items.  In types the brackets follow the segment, in expressions a separator comes first.  The
last segment of a type may have its arguments in parentheses instead.

Lifetimes are shown before other arguments, whatever their order.
-/

namespace CustomResource.Source.Grammar

open Reader

/-- What a path is part of, which decides how its arguments are marked. -/
inductive PathStyle where
  | type
  | expression
  deriving DecidableEq, Repr

/-! ## Arguments -/

/-- Read a constant: a literal or a block. -/
def constant (grammar : Grammar) : Reader Phrase := do
  if ← sees Token.beginsLiteral then literal
  else return (← grammar.block).phrase

/-- Whether a constant is ahead that is no type. -/
def seesConstant : Reader Bool := do
  return (← sees Token.beginsLiteral) || (← seesGroup .brace)

/-- The pieces of bounds after the name they are for. -/
def constraintPieces : List Phrase → List Piece
  | [] => []
  | first :: rest =>
      boxed indentStep false <| [.text ": "] ++ first.pieces ++
        rest.flatMap fun bound => [Piece.space, .text "+ "] ++ bound.pieces

/-- Whether the bounds of an associated item end. -/
def endsConstraint (tokens : List Token) : Bool :=
  Token.begins "," tokens || Token.begins ">" tokens

/-- Read the bounds of an associated item after the colon. -/
def constraint (grammar : Grammar) (name : Phrase) : Reader Phrase := do
  let bounds ←
    if ← sees endsConstraint then pure []
    else membersWhile "+" (!endsConstraint ·) grammar.bound (← steps)
  let phrases := (Member.values bounds).map (·.toPhrase)
  return ⟨name.tokens ++ [.sign ':'] ++ Member.tokens '+' (·.tokens) bounds,
    name.pieces ++ constraintPieces phrases⟩

/-- Read an argument that is no lifetime. -/
def argument (grammar : Grammar) : Reader Phrase := do
  if ← seesConstant then constant grammar
  else
    let type ← grammar.type true
    if !type.canBind then return type.toPhrase
    else if ← seesOperator "=" then
      let _ ← operator "="
      let value ← if ← seesConstant then constant grammar else (·.toPhrase) <$> grammar.type true
      return type.toPhrase ++ .spacedOperator "=" ++ value
    else if ← seesOperator ":" then
      let _ ← operator ":"
      constraint grammar type.toPhrase
    else return type.toPhrase

/-- An argument, and whether it is a lifetime. -/
structure Argument where
  phrase : Phrase
  isLifetime : Bool

/-- Read an argument. -/
def anyArgument (grammar : Grammar) : Reader Argument := do
  let tokens ← ahead
  if Token.beginsLifetime tokens && !Token.begins "+" (tokens.drop 2) then
    return ⟨← lifetime, true⟩
  else return ⟨← argument grammar, false⟩

/-- The tokens of arguments in order, with a comma where the order leaves none. -/
def argumentTokens (arguments : List (Member Argument)) : List Token :=
  let write := fun (written, isSeparated) (argument : Member Argument) =>
    let comma := if isSeparated || argument.value.isLifetime then [] else [Token.sign ',']
    let next := if argument.isSeparated then [Token.sign ','] else []
    (written ++ comma ++ argument.value.phrase.tokens ++ next, argument.isSeparated)
  (arguments.foldl write (([] : List Token), true)).1

/-- Read arguments in angle brackets, after the separator if there is one. -/
def arguments (grammar : Grammar) (style : PathStyle) : Reader Phrase := do
  let separator := (← operator? "::").getD {}
  let _ ← operator "<"
  let all ← membersUntil "," (Token.begins ">") (anyArgument grammar) (← steps)
  let _ ← operator ">"
  let ordered := all.filter (·.value.isLifetime) ++ all.filter (!·.value.isLifetime)
  let mark := if style = .expression then "::<" else "<"
  return ⟨separator.tokens ++ [.sign '<'] ++ argumentTokens ordered ++ [.sign '>'],
    if all.isEmpty then []
    else listPieces mark ">" ((Member.values ordered).map (·.phrase.pieces))⟩

/-- Whether arguments in angle brackets come next. -/
def beginsArguments (style : PathStyle) (tokens : List Token) : Bool :=
  (style = .type && Token.begins "<" tokens && !Token.begins "<=" tokens) ||
    (Token.begins "::" tokens && Token.begins "<" (tokens.drop 2))

/-! ## Segments -/

/-- A segment of a path. -/
structure Segment where
  phrase : Phrase
  isPlain : Bool

/-- Read a segment. -/
def segment (grammar : Grammar) (style : PathStyle) : Reader Segment := do
  if ← sees (Token.beginsOneOf ["super", "self", "crate", "try"]) then
    return ⟨.word (← anyWord), true⟩
  else
    let word ← if ← seesWord "Self" then anyWord else name
    if ← sees (beginsArguments style) then
      return ⟨.word word ++ (← arguments grammar style), false⟩
    else return ⟨.word word, true⟩

/-- Read segments with separators between them.  Before parentheses a separator is no part of the path,
unless the path is qualified. -/
def segments (grammar : Grammar) (style : PathStyle) (isQualified : Bool) :
    (fuel : Nat) → Reader (List Segment)
  | 0 => failure
  | fuel + 1 => do
      let first ← segment grammar style
      let goesOn ← sees fun tokens =>
        Token.begins "::" tokens && (isQualified || !Token.beginsParenthesized tokens)
      if goesOn then
        let _ ← operator "::"
        return first :: (← segments grammar style isQualified fuel)
      else return [first]

/-- Segments after each other. -/
def joinSegments : List Segment → Phrase
  | [] => {}
  | [last] => last.phrase
  | first :: rest => first.phrase ++ .operator "::" ++ joinSegments rest

/-! ## Paths -/

/-- The path of a beginning and segments. -/
def pathOf (beginning : Option Phrase) (segments : List Segment) : PathPhrase where
  toPhrase := beginning.getD {} ++ joinSegments segments
  isPlain := segments.all (·.isPlain)
  isSingle := beginning.isNone && segments.length = 1
  endsPlain := segments.getLast?.any (·.isPlain)

/-- Read a path. -/
def path (grammar : Grammar) (style : PathStyle) : Reader PathPhrase := do
  let root ← operator? "::"
  return pathOf root (← segments grammar style false (← steps))

/-- Read a path that a type in angle brackets begins, maybe seen as a trait. -/
def qualifiedPath (grammar : Grammar) (style : PathStyle) : Reader PathPhrase := do
  let _ ← operator "<"
  let type ← grammar.type true
  let seen : Phrase ←
    if ← seesWord "as" then
      let _ ← word "as"
      let trait ← path grammar .type
      pure (.blank ++ .keyword "as" ++ trait.toPhrase)
    else pure {}
  let _ ← operator ">"
  let _ ← operator "::"
  let beginning := .operator "<" ++ type.toPhrase ++ seen ++ .operator ">" ++ .operator "::"
  let path := pathOf (some beginning) (← segments grammar style true (← steps))
  return { path with isQualified := true }

/-- Read a path of any form. -/
def anyPath (grammar : Grammar) (style : PathStyle) : Reader PathPhrase := do
  if ← seesOperator "<" then qualifiedPath grammar style else path grammar style

/-! ## Arguments in parentheses -/

/-- Read the type after an arrow, if there is one. -/
def resultType (grammar : Grammar) : Reader (Option TypePhrase) := do
  if ← seesOperator "->" then
    let _ ← operator "->"
    return some (← grammar.type false)
  else return none

/-- The phrase of a result type with its arrow. -/
def resultPhrase : Option TypePhrase → Phrase
  | some type => .spacedOperator "->" ++ type.toPhrase
  | none => {}

/-- Whether arguments in parentheses come next. -/
def beginsParameters (tokens : List Token) : Bool :=
  Token.beginsGroup .parenthesis tokens || Token.beginsParenthesized tokens

/-- Read arguments in parentheses, and whether more segments may follow. -/
def parameters (grammar : Grammar) : Reader (Phrase × Bool) := do
  let _ ← operator? "::"
  let types ← membersInside .parenthesis (grammar.type true)
  let result ← resultType grammar
  let shown := resultPhrase result
  let pieces := (Member.values types).map (·.pieces)
  let listed :=
    if types.isEmpty then [.place { offset := -indentStep }] else [Piece.softBreak] ++ separatedBy 0 pieces
  return (⟨[.group .parenthesis (Member.tokens ',' (·.tokens) types)] ++ shown.tokens,
    indentedBox ([.text "("] ++ listed ++ [.text ")"] ++ shown.pieces)⟩,
    result.all (·.isParenthesized))

/-- Read what follows a path in a type: arguments in parentheses for a last segment that has none, and then
maybe more segments. -/
def pathRest (grammar : Grammar) : (fuel : Nat) → PathPhrase → Reader PathPhrase
  | 0, _ => failure
  | fuel + 1, path => do
      if path.endsPlain && (← sees beginsParameters) then
        let (shown, goesOn) ← parameters grammar
        let longer := { path with
          toPhrase := path.toPhrase ++ shown, isPlain := false, isSingle := false, endsPlain := false }
        let more ← sees fun tokens =>
          goesOn && Token.begins "::" tokens && !Token.beginsParenthesized tokens
        if more then
          let _ ← operator "::"
          let next := pathOf none (← segments grammar .type false (← steps))
          pathRest grammar fuel { longer with
            toPhrase := longer.toPhrase ++ .operator "::" ++ next.toPhrase, endsPlain := next.endsPlain }
        else return longer
      else return path

end CustomResource.Source.Grammar
