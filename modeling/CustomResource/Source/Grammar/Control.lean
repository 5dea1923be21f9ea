import CustomResource.Source.Grammar.MacroCall
import CustomResource.Source.Grammar.Operation
import CustomResource.Source.Grammar.Pattern
import CustomResource.Source.Grammar.Type

/-!
# Blocks and control flow

Conditionals, loops, matches and closures, and the blocks that carry their statements.  Conditions end where
a brace begins.
-/

namespace CustomResource.Source.Grammar

open Reader

/-! ## Blocks -/

/-- An expression with one layout, and another as the body of an arm. -/
def withArm (expr : Expression) (arm : List Piece) : Expression :=
  { expr with pieces := fun position => if position = .arm then arm else expr.pieces position }

/-- The phrase of a label. -/
def labelPhrase : Option Phrase → Phrase
  | some name => name ++ .operator ":" ++ .blank
  | none => {}

/-- A block as an expression.  As the body of an arm, one that holds a single expression is that
expression. -/
def blockExpression (label : Option Phrase) (block : Block) : Expression :=
  let head := labelPhrase label
  let expr := Expression.ofPhrase (head ++ block.phrase) {
    isStatement := true, isBlocklike := true, endsInBrace := true }
  let arm := match label, block.sole? with
    | none, some inner => inner.pieces .arm
    | _, _ => head.pieces ++ block.openPieces
  withArm expr arm

/-- Read a block after words that say what it is. -/
def markedBlock (grammar : Grammar) (mark : Phrase) (isStatement : Bool) : Reader Expression := do
  let block ← grammar.block
  return .ofPhrase (mark ++ block.phrase) {
    isStatement := isStatement, isBlocklike := true, endsInBrace := true }

/-! ## Conditions -/

/-- The pieces of a condition and the space after it. -/
def conditionPieces (condition : Expression) : List Piece :=
  let gap := if condition.traits.breaksCondition then Piece.space else .text " "
  boxed 0 true (condition.pieces .inline ++ [gap])

/-- A conditional as its own expression and after the word that begins its alternative. -/
structure Conditional where
  tokens : List Token
  pieces : List Piece
  chained : List Piece
  dropsSemicolon : Bool

/-- A conditional without an alternative. -/
def conditional (condition : Expression) (block : Block) : Conditional :=
  let head := [.text "if "] ++ boxed (-indentStep) true (conditionPieces condition)
  let body :=
    if block.statements.isEmpty then []
    else leavingLast ([Piece.hardBreak] ++ Statement.allPieces block.statements)
  { tokens := [.word "if"] ++ condition.tokens ++ block.tokens
    pieces := indentedBox (head ++ [.text "\x7b"] ++ body ++ [.text "\x7d"])
    chained := head ++ block.smallPieces
    dropsSemicolon := true }

/-- A conditional with an alternative. -/
def Conditional.orElse (first : Conditional) (tokens : List Token) (pieces : List Piece)
    (dropsSemicolon : Bool) : Conditional :=
  let chained := first.chained ++ [.text " else "] ++ pieces
  { tokens := first.tokens ++ [.word "else"] ++ tokens
    pieces := indentedBox chained
    chained := chained
    dropsSemicolon := dropsSemicolon }

/-- Read a conditional with all its alternatives. -/
def readConditional (grammar : Grammar) : (fuel : Nat) → Reader Conditional
  | 0 => failure
  | fuel + 1 => do
      let _ ← word "if"
      let condition ← grammar.expression false
      let first := conditional condition (← grammar.block)
      if ← seesWord "else" then
        let _ ← word "else"
        if ← seesWord "if" then
          let next ← readConditional grammar fuel
          return first.orElse next.tokens next.chained next.dropsSemicolon
        else
          let block ← grammar.block
          return first.orElse block.tokens block.smallPieces false
      else return first

/-- Read a conditional as an expression. -/
def ifExpression (grammar : Grammar) : Reader Expression := do
  let parts ← readConditional grammar (← steps)
  return .ofPhrase ⟨parts.tokens, parts.pieces⟩ {
    isStatement := true, endsInBrace := true, dropsSemicolon := parts.dropsSemicolon }

/-! ## Loops -/

/-- What all loops have in common. -/
def loopTraits (dropsSemicolon : Bool) : Traits :=
  { isStatement := true, endsInBrace := true, dropsSemicolon := dropsSemicolon }

/-- Read a loop without a condition, after its label. -/
def loopExpression (grammar : Grammar) (label : Option Phrase) : Reader Expression := do
  let mark ← word "loop"
  let block ← grammar.block
  let head := labelPhrase label ++ mark
  return .ofPhrase ⟨head.tokens ++ block.tokens,
    head.pieces ++ [.text " \x7b"] ++ block.innerPieces ++ [.text "\x7d"]⟩ (loopTraits false)

/-- Read a loop with a condition, after its label. -/
def whileExpression (grammar : Grammar) (label : Option Phrase) : Reader Expression := do
  let mark ← keyword? "while"
  let condition ← grammar.expression false
  let block ← grammar.block
  let head := labelPhrase label ++ mark
  return .ofPhrase ⟨head.tokens ++ condition.tokens ++ block.tokens,
    head.pieces ++ conditionPieces condition ++ block.openPieces⟩ (loopTraits true)

/-- Read a loop over members, after its label. -/
def forExpression (grammar : Grammar) (label : Option Phrase) : Reader Expression := do
  let mark ← keyword? "for"
  let pattern ← patterns grammar
  let _ ← word "in"
  let source ← grammar.expression false
  let block ← grammar.block
  let head := labelPhrase label ++ mark ++ pattern.toPhrase ++ .blank ++ .keyword "in"
  return .ofPhrase ⟨head.tokens ++ source.tokens ++ block.tokens,
    fillingBox (head.pieces ++ [Piece.neverBreak] ++ conditionPieces source ++ block.openPieces)⟩
    (loopTraits true)

/-- Read a loop or block after its label. -/
def labeled (grammar : Grammar) : Reader Expression := do
  let name ← lifetime
  let _ ← operator ":"
  if ← seesWord "while" then whileExpression grammar (some name)
  else if ← seesWord "for" then forExpression grammar (some name)
  else if ← seesWord "loop" then loopExpression grammar (some name)
  else return blockExpression (some name) (← grammar.block)

/-! ## Bodies -/

/-- Whether a closure is ahead that begins with the lifetimes it holds for. -/
def beginsBoundClosure (tokens : List Token) : Bool :=
  Token.beginsWord "for" tokens && Token.begins "<" (tokens.drop 1) &&
    (Token.beginsLifetime (tokens.drop 2) || Token.begins ">" (tokens.drop 2))

/-- Whether an expression is ahead that ends in its own braces. -/
def beginsBraced (tokens : List Token) : Bool :=
  Token.beginsOneOf ["if", "while", "loop", "match", "unsafe"] tokens ||
    (Token.beginsWord "for" tokens && !beginsBoundClosure tokens) ||
    (Token.beginsOneOf ["try", "const"] tokens && Token.beginsGroup .brace (tokens.drop 1)) ||
    Token.beginsGroup .brace tokens || Token.beginsLifetime tokens

/-- Read the body of an arm or a statement.  What ends in its own braces is complete, unless a member or a
question mark follows. -/
def body (grammar : Grammar) : Reader Expression := do
  let first ← if ← sees beginsBraced then grammar.atom true else grammar.operand true
  if ← sees fun tokens => Token.beginsDot tokens || Token.begins "?" tokens then
    grammar.operation true .lowest (← grammar.chain first)
  else if first.traits.isStatement then return first
  else grammar.operation true .lowest first

/-! ## Matches -/

/-- Read an arm. -/
def arm (grammar : Grammar) : Reader Phrase := do
  let pattern ← patterns grammar
  let guard : Phrase ←
    if ← seesWord "if" then
      let mark ← keyword? "if"
      pure (.blank ++ mark ++ (← grammar.expression true).phrase)
    else pure {}
  let _ ← operator "=>"
  let value ← body grammar
  let comma ← do
    if value.traits.isStatement || (← atEnd) then operator? "," else some <$> operator ","
  let head := pattern.toPhrase ++ guard ++ .spacedOperator "=>"
  return ⟨head.tokens ++ value.tokens ++ (comma.getD {}).tokens,
    fillingBox (head.pieces ++ value.pieces .arm) ++ [Piece.hardBreak]⟩

/-- Read arms up to the end. -/
def arms (grammar : Grammar) : (fuel : Nat) → Reader (List Phrase)
  | 0 => failure
  | fuel + 1 => do
      if ← atEnd then return []
      let first ← arm grammar
      return first :: (← arms grammar fuel)

/-- Read a match. -/
def matchExpression (grammar : Grammar) : Reader Expression := do
  let _ ← word "match"
  let subject ← grammar.expression false
  let all := Phrase.join (← inside .brace do arms grammar (← steps))
  let edge := Piece.place { blanks := endless, ifFilled := true }
  return .ofPhrase ⟨[.word "match"] ++ subject.tokens ++ [.group .brace all.tokens],
      fillingBox ([.text "match "] ++ conditionPieces subject ++ [.text "\x7b", Piece.neverBreak] ++
        indentedBox (leavingLast ([edge] ++ all.pieces)) ++ [.text "\x7d"])⟩ {
    isStatement := true, endsInBrace := true, standsBare := true }

/-! ## Closures -/

/-- Read a parameter of a closure. -/
def closureParameter (grammar : Grammar) : Reader Phrase := do
  let pattern ← grammar.pattern
  if ← seesOperator ":" then
    let _ ← operator ":"
    return pattern.toPhrase ++ .operator ":" ++ .blank ++ (← grammar.type true).toPhrase
  else return pattern.toPhrase

/-- The pieces of the body of a closure. -/
def closureBody (expr : Expression) : List Piece :=
  if expr.traits.isBlocklike || expr.traits.standsBare then expr.pieces .inline
  else
    let braced := expr.traits.beginsStatement
    let first : Break := { before := if braced then "\x7b" else "(" }
    let last : Break := {
      offset := -indentStep
      before := if braced && expr.traits.addsSemicolon then ";" else ""
      after := if braced then "\x7d" else ")" }
    indentedBox ([.place first] ++ expr.pieces .inline ++ [.place last])

/-- The pieces of the parameters of a closure, in a box with what comes after them. -/
def closureParameters (parameters : List (List Piece)) (last : List Piece) (after : List Piece) : List Piece :=
  let listed := (parameters.intersperse [.text ",", Piece.space]).flatten
  let shown := if parameters.isEmpty then [] else [Piece.softBreak] ++ listed ++ last
  indentedBox ([.text "|"] ++ shown ++ [.text "|"] ++ after)

/-- Read a closure. -/
def closure (grammar : Grammar) (braces : Bool) : Reader Expression := do
  let mark := (← boundLifetimes?) ++ (← keyword? "const") ++ (← keyword? "static") ++ (← keyword? "async") ++
    (← keyword? "move")
  let _ ← operator "|"
  let parameters ← membersUntil "," (Token.begins "|") (closureParameter grammar) (← steps)
  let _ ← operator "|"
  let tokens := mark.tokens ++ [.sign '|'] ++ Member.tokens ',' (·.tokens) parameters ++ [.sign '|']
  let shown := (Member.values parameters).map (·.pieces)
  match ← resultType grammar with
  | some type =>
      let block ← grammar.block
      let result := resultPhrase (some type)
      return .ofPhrase ⟨tokens ++ result.tokens ++ block.tokens,
          fillingBox (mark.pieces ++ closureParameters shown [Piece.lastComma 0] [] ++ result.pieces ++
            [.text " ", Piece.neverBreak] ++ block.phrase.pieces)⟩ {
        isBlocklike := true, endsInBrace := true }
  | none =>
      let value ← grammar.expression braces
      let after := [Piece.place { blanks := 1, offset := -indentStep }]
      return .ofPhrase ⟨tokens ++ value.tokens,
          fillingBox (mark.pieces ++ closureParameters shown [] after ++ [Piece.neverBreak] ++
            closureBody value)⟩ {
        isBlocklike := true, endsInBrace := value.traits.endsInBrace }

end CustomResource.Source.Grammar
