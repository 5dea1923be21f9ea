import CustomResource.Source.Grammar.Control
import CustomResource.Source.Path

/-!
# Statements

The statements of a block: bindings, macro calls and expressions.  An expression that does not end in its
own braces needs a semicolon, unless it is the last.
-/

namespace CustomResource.Source.Grammar

open Reader

/-- A statement, and whether something must follow it. -/
structure ReadStatement where
  statement : Statement
  isOpen : Bool := false

/-! ## Bindings -/

/-- Read the block that a binding needs when it may not match. -/
def otherwise (grammar : Grammar) (value : Expression) : Reader (Option Block) := do
  if !value.traits.endsInBrace && (← seesWord "else") then
    let _ ← word "else"
    return some (← grammar.block)
  else return none

/-- The end of a binding. -/
def bindingEnd : List Piece :=
  [.text ";", Piece.hardBreak]

/-- A binding with its value, and a block if it may not match. -/
def bindingWithValue (head : Phrase) (value : Expression) (block : Option Block) : Statement :=
  let head := head ++ .spacedOperator "=" ++ .layout [Piece.neverBreak] ++ value.phrase
  match block with
  | none => .other (head.tokens ++ [.sign ';']) fun _ => fillingBox head.pieces ++ bindingEnd
  | some block =>
      .other (head.tokens ++ [.word "else"] ++ block.tokens ++ [.sign ';']) fun _ =>
        fillingBox (head.pieces ++ [Piece.space, .text "else "]) ++ [Piece.neverBreak] ++
          indentedBox block.smallPieces ++ bindingEnd

/-- Read a binding. -/
def binding (grammar : Grammar) : Reader ReadStatement := do
  let mark ← keyword? "let"
  let pattern ← grammar.pattern
  let type : Phrase ←
    if ← seesOperator ":" then
      let _ ← operator ":"
      pure (.operator ":" ++ .blank ++ (← grammar.type true).toPhrase)
    else pure {}
  let head := mark ++ pattern.toPhrase ++ type
  let statement ←
    if ← seesOperator "=" then
      let _ ← operator "="
      let value ← grammar.expression true
      pure (bindingWithValue head value (← otherwise grammar value))
    else pure (.other (head.tokens ++ [.sign ';']) fun _ => fillingBox head.pieces ++ bindingEnd)
  let _ ← operator ";"
  return { statement := statement }

/-! ## Macro calls -/

/-- The path of a macro call in braces that is a statement of its own. -/
def statementCall? (tokens : List Token) : Option (Path × List Token) := do
  let (path, rest) ← takePath tokens
  let after := rest.drop 2
  if Token.begins "!" rest && Token.beginsGroup .brace (rest.drop 1) &&
      !Token.beginsDot after && !Token.begins "?" after then
    some (path, rest)
  else none

/-- A macro call as a statement.  Calls in braces show no semicolon. -/
def callStatement (delimiter : Delimiter) (call : Phrase) (semicolon : Option Phrase) : ReadStatement :=
  let shown := if semicolon.isSome && delimiter ≠ .brace then [.text ";"] else []
  { statement := .other (call.tokens ++ (semicolon.getD {}).tokens) fun _ =>
      call.pieces ++ shown ++ [Piece.hardBreak] }

/-! ## Expressions -/

/-- Read an expression as a statement. -/
def expressionStatement (grammar : Grammar) : Reader ReadStatement := do
  let value ← body grammar
  let semicolon ← operator? ";"
  match value.traits.macroCall?, semicolon with
  | some delimiter, some _ => return callStatement delimiter value.phrase semicolon
  | some .brace, none => return callStatement .brace value.phrase none
  | _, some _ =>
      let shown := if value.traits.dropsSemicolon then [] else [.text ";"]
      return { statement := .other (value.tokens ++ [.sign ';']) fun _ =>
        fillingBox (value.pieces .leading ++ shown) ++ [Piece.hardBreak] }
  | _, none => return { statement := .value value, isOpen := !value.traits.isStatement }

/-- Read a statement. -/
def statement (grammar : Grammar) : Reader ReadStatement := do
  match statementCall? (← ahead) with
  | some (path, rest) =>
      set rest
      let (delimiter, call) ← MacroCall.read ⟨path.tokens, [.text path.text]⟩
      return callStatement delimiter call (← operator? ";")
  | none =>
      if ← seesWord "let" then binding grammar else expressionStatement grammar

/-- Read statements up to the end. -/
def statements (grammar : Grammar) : (fuel : Nat) → Reader (List Statement)
  | 0 => failure
  | fuel + 1 => do
      if ← atEnd then return []
      else if ← seesOperator ";" then
        let _ ← operator ";"
        return .other [.sign ';'] (fun _ => []) :: (← statements grammar fuel)
      else
        let first ← statement grammar
        require (!first.isOpen || (← atEnd))
        return first.statement :: (← statements grammar fuel)

/-- Read a block. -/
def readBlock (grammar : Grammar) : Reader Block := do
  return ⟨← inside .brace do statements grammar (← steps)⟩

end CustomResource.Source.Grammar
