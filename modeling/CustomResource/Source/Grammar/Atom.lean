import CustomResource.Source.Grammar.Control

/-!
# Atoms

The expressions that operators and chains start from: literals, names, calls of macros, structs, brackets,
blocks, control flow and the ways to leave it.
-/

namespace CustomResource.Source.Grammar

open Reader

/-! ## Literals and brackets -/

/-- Whether a literal is terse: a truth value, an integer, a character or a byte. -/
def isTerseLiteral (text : String) : Bool :=
  match text.toList with
  | 'b' :: next :: _ => next.toNat = 0x27
  | first :: _ => first.toNat = 0x27 || (isDigit first && !isFloat text)
  | [] => false

/-- Read a literal as an expression. -/
def literalExpression : Reader Expression := do
  let shown ← literal
  let isTerse := match shown.tokens with
    | [.word _] => true
    | [.literal text] => isTerseLiteral text
    | _ => false
  return .ofPhrase shown { isTerse := isTerse }

/-- Expressions as the members of a list. -/
def phraseMembers (members : List (Member Expression)) : List (Member Phrase) :=
  members.map fun entry => ⟨entry.value.phrase, entry.isSeparated⟩

/-- The empty tuple.  As the body of an arm it is shown as an empty block. -/
def unit : Expression :=
  withArm (.ofPhrase ⟨[.group .parenthesis []], [.text "()"]⟩ { isBlocklike := true })
    (Block.openPieces ⟨[]⟩)

/-- Read a tuple, or an expression in parentheses. -/
def parenthesizedExpression (grammar : Grammar) : Reader Expression := do
  let parts ← membersInside .parenthesis (grammar.expression true)
  match parts with
  | [] => return unit
  | [⟨only, false⟩] =>
      return .ofPhrase (.group .parenthesis only.phrase) { breaksCondition := only.traits.breaksCondition }
  | _ => return .ofPhrase (.tuple (phraseMembers parts) fun _ => true) { isBlocklike := true }

/-- The elements of an array, or one and how often it is repeated. -/
inductive ArrayContent where
  | elements (members : List (Member Expression))
  | repeated (element count : Expression)

/-- Read what an array holds. -/
def arrayContent (grammar : Grammar) : Reader ArrayContent := do
  if ← atEnd then return .elements []
  else
    let first ← grammar.expression true
    if ← seesOperator ";" then
      let _ ← operator ";"
      return .repeated first (← grammar.expression true)
    else if ← atEnd then return .elements [⟨first, false⟩]
    else
      let _ ← operator ","
      return .elements (⟨first, true⟩ :: (← memberList (grammar.expression true)))

/-- The pieces of an array whose elements share lines. -/
def terseArray (elements : List (List Piece)) : List Piece :=
  indentedBox ([.text "[", Piece.softBreak] ++
    fillingBox (elements.intersperse [.text ",", Piece.space]).flatten ++
    [Piece.lastComma 0, .text "]"])

/-- Read an array. -/
def array (grammar : Grammar) : Reader Expression := do
  match ← inside .bracket (arrayContent grammar) with
  | .repeated element count =>
      return .ofPhrase (.group .bracket (element.phrase ++ .operator ";" ++ .blank ++ count.phrase))
  | .elements members =>
      let list := Phrase.list .bracket (phraseMembers members)
      let shown := (Member.values members).map (·.pieces .inline)
      let isTerse := !members.isEmpty && members.all (·.value.traits.isTerse)
      return .ofPhrase (if isTerse then list.withPieces (terseArray shown) else list) { isBlocklike := true }

/-! ## Names -/

/-- A field of a struct, or the rest of them. -/
structure FieldValue where
  phrase : Phrase
  isRest : Bool

/-- Read a field of a struct, or the rest of them. -/
def fieldValue (grammar : Grammar) : Reader FieldValue := do
  if ← seesOperator ".." then
    let dots ← operator ".."
    if ← atEnd then return ⟨.silent dots.tokens, true⟩
    else return ⟨dots ++ (← grammar.expression true).phrase, true⟩
  else
    let isNamed ← sees Token.beginsName
    let name ← memberName
    if !isNamed || (← seesOperator ":") then
      let _ ← operator ":"
      let value := (← grammar.expression true).phrase
      return ⟨name ++ .operator ":" ++ .blank ++ value.boxed 0 false, false⟩
    else return ⟨name, false⟩

/-- The width from which on the fields of a struct have lines of their own. -/
def maxStructWidth : Nat :=
  34

/-- Read the fields of a struct after its path. -/
def structExpression (grammar : Grammar) (path : PathPhrase) : Reader Expression := do
  let fields ← membersInside .brace (fieldValue grammar)
  require (fields.all fun field => !field.value.isRest || !field.isSeparated)
  let values := Member.values fields
  let named := (values.filter (!·.isRest)).map (·.phrase.pieces)
  let rest := (values.find? fun field => field.isRest && !field.phrase.pieces.isEmpty).map (·.phrase.pieces)
  let content := boxed (-indentStep) false path.pieces ++ [.text " \x7b"] ++ fieldPieces named rest
  return .ofPhrase ⟨path.tokens ++ [.group .brace (Member.tokens ',' (·.phrase.tokens) fields)],
      limitedBox maxStructWidth content ++ [.text "\x7d"]⟩ {
    isBlocklike := true, endsInBrace := true }

/-- Whether a path is a name of at most four bytes. -/
def isShortName (path : PathPhrase) : Bool :=
  match path.tokens with
  | [.word text] => text.utf8ByteSize ≤ indentStep
  | _ => false

/-- Read what begins with a path: a macro call, a struct or the path itself. -/
def pathExpression (grammar : Grammar) (braces : Bool) : Reader Expression := do
  let path ← anyPath grammar .expression
  if !path.isQualified && path.isPlain && (← sees Token.beginsBang) then
    let (delimiter, call) ← MacroCall.read path.toPhrase
    return .ofPhrase call { macroCall? := some delimiter, endsInBrace := delimiter = .brace }
  else if braces && (← seesGroup .brace) then structExpression grammar path
  else return .ofPhrase path.toPhrase { isShortName := isShortName path }

/-! ## Leaving -/

/-- Whether an expression can begin here. -/
def beginsExpression (tokens : List Token) : Bool :=
  let alone := fun (sign : String) (others : List String) =>
    Token.begins sign tokens && !others.any (Token.begins · tokens)
  (Token.beginsAnyWord tokens && !Token.beginsWord "as" tokens) ||
    Token.beginsGroup .parenthesis tokens || Token.beginsGroup .bracket tokens ||
    Token.beginsGroup .brace tokens || Token.beginsLiteral tokens ||
    alone "!" ["!="] || alone "-" ["-=", "->"] || alone "*" ["*="] || alone "|" ["|="] ||
    alone "&" ["&="] || Token.begins ".." tokens || alone "<" ["<=", "<<="] || Token.begins "::" tokens ||
    Token.beginsLifetime tokens

/-- Read a word that leaves or yields, and the value it takes along. -/
def leaving (grammar : Grammar) (mark : Phrase) (braces : Bool) (addsSemicolon : Bool) :
    Reader Expression := do
  let goesOn ← sees fun tokens =>
    beginsExpression tokens && (braces || !Token.beginsGroup .brace tokens)
  if goesOn then
    let value ← grammar.expression true
    return .ofPhrase (mark ++ .blank ++ value.phrase) {
      addsSemicolon := addsSemicolon
      breaksCondition := value.traits.breaksCondition
      endsInBrace := value.traits.endsInBrace }
  else return .ofPhrase mark { addsSemicolon := addsSemicolon }

/-- Read a lifetime after a space, if there is one. -/
def target? : Reader Phrase := do
  if ← sees Token.beginsLifetime then return .blank ++ (← lifetime) else return {}

/-- Read a break.  The loop it names is no label of what it takes along. -/
def breakExpression (grammar : Grammar) (braces : Bool) : Reader Expression := do
  let mark ← word "break"
  let target ← target?
  require (target.tokens.isEmpty || !(← seesOperator ":"))
  leaving grammar (mark ++ target) braces true

/-- Read the binding of a pattern in a condition. -/
def letExpression (grammar : Grammar) (braces : Bool) : Reader Expression := do
  let mark ← keyword? "let"
  let pattern ← patterns grammar
  let _ ← operator "="
  let value ← grammar.operation braces .comparison (← grammar.operand braces)
  let head := mark ++ pattern.toPhrase ++ .spacedOperator "=" ++ .layout [Piece.neverBreak]
  return .ofPhrase (head ++ value.phrase) {
    breaksCondition := value.traits.breaksCondition, endsInBrace := value.traits.endsInBrace }

/-! ## All atoms -/

/-- Whether a closure is ahead. -/
def beginsClosure (tokens : List Token) : Bool :=
  let next := tokens.drop 1
  Token.begins "|" tokens || Token.beginsOneOf ["move", "static"] tokens || beginsBoundClosure tokens ||
    (Token.beginsWord "const" tokens && !Token.beginsGroup .brace next) ||
    (Token.beginsWord "async" tokens && (Token.begins "|" next || Token.beginsWord "move" next))

/-- Whether an asynchronous block is ahead. -/
def beginsAsyncBlock (tokens : List Token) : Bool :=
  let next := tokens.drop 1
  Token.beginsWord "async" tokens &&
    (Token.beginsGroup .brace next ||
      (Token.beginsWord "move" next && Token.beginsGroup .brace (tokens.drop 2)))

/-- Whether a path is ahead. -/
def beginsPath (tokens : List Token) : Bool :=
  let next := tokens.drop 1
  Token.beginsName tokens || Token.begins "::" tokens || Token.begins "<" tokens ||
    Token.beginsOneOf ["self", "Self", "super", "crate"] tokens ||
    (Token.beginsWord "try" tokens && (Token.begins "!" next || Token.begins "::" next))

/-- Read what begins with a reserved word. -/
def markedAtom (grammar : Grammar) (braces : Bool) : String → Reader Expression
  | "break" => breakExpression grammar braces
  | "continue" => do
      let mark ← word "continue"
      return .ofPhrase (mark ++ (← target?)) { addsSemicolon := true }
  | "return" => do leaving grammar (← word "return") true true
  | "yield" => do leaving grammar (← word "yield") true true
  | "become" => do
      let mark ← keyword? "become"
      return .ofPhrase (mark ++ (← grammar.expression true).phrase)
  | "let" => letExpression grammar braces
  | "if" => ifExpression grammar
  | "while" => whileExpression grammar none
  | "for" => forExpression grammar none
  | "loop" => loopExpression grammar none
  | "match" => matchExpression grammar
  | "unsafe" => do markedBlock grammar (← keyword? "unsafe") true
  | "const" => do markedBlock grammar (← keyword? "const") true
  | "try" => do markedBlock grammar (← keyword? "try") true
  | "_" => do return .ofPhrase (← word "_")
  | _ => failure

/-- Read an atom. -/
def readAtom (grammar : Grammar) (braces : Bool) : Reader Expression := do
  let tokens ← ahead
  if Token.beginsLiteral tokens then literalExpression
  else if beginsAsyncBlock tokens then
    markedBlock grammar ((← keyword? "async") ++ (← keyword? "move")) false
  else if beginsClosure tokens then closure grammar braces
  else if beginsPath tokens then pathExpression grammar braces
  else if Token.beginsGroup .parenthesis tokens then parenthesizedExpression grammar
  else if Token.beginsGroup .bracket tokens then array grammar
  else if Token.beginsGroup .brace tokens then return blockExpression none (← grammar.block)
  else if Token.begins ".." tokens then rangeFrom grammar braces none
  else if Token.beginsLifetime tokens then labeled grammar
  else match tokens with
    | .word text :: _ => markedAtom grammar braces text
    | _ => failure

/-! ## Operands -/

/-- An expression after an operator of its own. -/
def prefixed (mark : Phrase) (value : Expression) : Expression :=
  .ofPhrase (mark ++ value.phrase) {
    breaksCondition := value.traits.breaksCondition, endsInBrace := value.traits.endsInBrace }

/-- Read the mark of a reference or of a raw address, after its sign. -/
def referenceMark : Reader Phrase := do
  let isRaw ← sees fun tokens =>
    Token.beginsWord "raw" tokens && Token.beginsOneOf ["mut", "const"] (tokens.drop 1)
  let raw ← if isRaw then keyword? "raw" else pure {}
  let mutability ← keyword? "mut"
  let constant ← if isRaw && mutability.tokens.isEmpty then keyword? "const" else pure {}
  return .operator "&" ++ raw ++ mutability ++ constant

/-- Read an operand: an atom with its chain, after any operators of its own. -/
def readOperand (grammar : Grammar) (braces : Bool) : Reader Expression := do
  if ← seesOperator "&" then
    let _ ← operator "&"
    let mark ← referenceMark
    return prefixed mark (← grammar.operand braces)
  else
    for sign in ["*", "!", "-"] do
      if ← seesOperator sign then
        let mark ← operator sign
        return prefixed mark (← grammar.operand braces)
    grammar.chain (← grammar.atom braces)

end CustomResource.Source.Grammar
