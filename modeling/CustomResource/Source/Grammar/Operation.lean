import CustomResource.Source.Grammar.Path

/-!
# Operations

Operators around operands, by precedence, and the chains of members, calls and subscripts that follow an
operand.  Comparisons do not follow each other, nothing but its end follows a range, and no chain follows a
cast.
-/

namespace CustomResource.Source.Grammar

open Reader

/-! ## Operators -/

/-- The operators between two operands, in the order they are looked for. -/
def binaryOperators : List (String × Precedence) :=
  [("+=", .assignment), ("-=", .assignment), ("*=", .assignment), ("/=", .assignment),
    ("%=", .assignment), ("^=", .assignment), ("&=", .assignment), ("|=", .assignment),
    ("<<=", .assignment), (">>=", .assignment), ("&&", .conjunction), ("||", .disjunction),
    ("<<", .shift), (">>", .shift), ("==", .comparison), ("<=", .comparison), ("!=", .comparison),
    (">=", .comparison), ("+", .sum), ("-", .sum), ("*", .product), ("/", .product), ("%", .product),
    ("^", .bitXor), ("&", .bitAnd), ("|", .bitOr), ("<", .comparison), (">", .comparison)]

/-- The operator that tokens begin with, and its precedence. -/
def operatorAhead? (tokens : List Token) : Option (String × Precedence) :=
  binaryOperators.find? fun entry => Token.begins entry.1 tokens

/-- The precedence of what tokens begin with, the lowest if that is no operator. -/
def precedenceAhead (tokens : List Token) : Precedence :=
  match operatorAhead? tokens with
  | some (_, precedence) => precedence
  | none =>
      if Token.beginsEquals tokens then .assignment
      else if Token.begins ".." tokens then .range
      else if Token.beginsWord "as" tokens then .cast
      else .lowest

/-- Whether an expression may begin a statement although something follows it. -/
def Expression.opensStatement (expr : Expression) : Bool :=
  !expr.traits.isStatement && expr.traits.beginsStatement

/-- An operation: its left side stands out if the line is broken. -/
def operationPieces (left right : List Piece) : List Piece :=
  boxed indentStep false (boxed (-indentStep) false left ++ [Piece.space] ++ right)

/-- The expression of an operator between operands. -/
def binary (left : Expression) (text : String) (precedence : Precedence) (right : Expression) : Expression :=
  let tail := Phrase.operator text ++ .blank ++ right.phrase
  .ofPhrase ⟨left.tokens ++ tail.tokens, operationPieces (left.pieces .inline) tail.pieces⟩ {
    isComparison := precedence = .comparison
    addsSemicolon := precedence = .assignment
    breaksCondition := true
    endsInBrace := right.traits.endsInBrace
    beginsStatement := Expression.opensStatement left }

/-- The expression that assigns. -/
def assignment (left right : Expression) : Expression :=
  .ofPhrase ⟨left.tokens ++ [.sign '='] ++ right.tokens,
      fillingBox (left.pieces .inline ++ [.text " = ", Piece.neverBreak] ++ right.pieces .inline)⟩ {
    addsSemicolon := true
    breaksCondition := true
    endsInBrace := right.traits.endsInBrace
    beginsStatement := Expression.opensStatement left }

/-- The expression that converts to a type. -/
def cast (left : Expression) (type : TypePhrase) : Expression :=
  let tail := Phrase.keyword "as" ++ type.toPhrase
  .ofPhrase ⟨left.tokens ++ tail.tokens, operationPieces (left.pieces .inline) tail.pieces⟩ {
    breaksCondition := true
    beginsStatement := Expression.opensStatement left }

/-- The expression of a range. -/
def range (first : Option Expression) (limits : Phrase) (last : Option Expression) : Expression :=
  let shown := fun (bound : Option Expression) => (bound.map Expression.phrase).getD {}
  .ofPhrase (shown first ++ limits ++ shown last) {
    isRange := true
    breaksCondition := last.any (·.traits.breaksCondition)
    endsInBrace := last.any (·.traits.endsInBrace)
    beginsStatement := first.all Expression.opensStatement }

/-! ## Reading operations -/

/-- Read the right side of an operator. -/
def rightSide (grammar : Grammar) (braces : Bool) (precedence : Precedence) : Reader Expression := do
  grammar.operandOf braces precedence (← grammar.operand braces)

/-- Extend the right side of an operator by all that binds more tightly. -/
def readOperandOf (grammar : Grammar) (braces : Bool) (precedence : Precedence) (operand : Expression) :
    Reader Expression := do
  let next := precedenceAhead (← ahead)
  if precedence < next || (next = precedence && precedence = .assignment) then
    let before := (← ahead).length
    let longer ← grammar.operation braces next operand
    if (← ahead).length = before then return longer
    else grammar.operandOf braces precedence longer
  else return operand

/-- The signs that end a range without a bound. -/
def rangeEnds : List String :=
  [",", ";", "?", "=>", "=", "+", "/", "%", "^", ">", "<=", "!=", "-=", "*=", "&=", "|=", "<<="]

/-- Whether a range ends without a bound. -/
def endsHere (braces : Bool) (tokens : List Token) : Bool :=
  tokens.isEmpty || rangeEnds.any (Token.begins · tokens) || Token.beginsDot tokens ||
    (!braces && Token.beginsGroup .brace tokens) || Token.beginsWord "as" tokens

/-- Read a range after its first bound. -/
def rangeFrom (grammar : Grammar) (braces : Bool) (first : Option Expression) : Reader Expression := do
  if ← seesOperator "..=" then
    let limits ← operator "..="
    return range first limits (some (← rightSide grammar braces .range))
  else
    require (!(← seesOperator "..."))
    let limits ← operator ".."
    if ← sees (endsHere braces) then return range first limits none
    else return range first limits (some (← rightSide grammar braces .range))

/-- Whether a chain is ahead that a cast does not allow. -/
def beginsChain (tokens : List Token) : Bool :=
  Token.beginsDot tokens || Token.begins "?" tokens || Token.beginsGroup .bracket tokens ||
    Token.beginsGroup .parenthesis tokens

/-- Read what follows a left side, as long as it binds at least as tightly as `lowest`. -/
def readOperation (grammar : Grammar) (braces : Bool) (lowest : Precedence) (left : Expression) :
    Reader Expression := do
  if left.traits.isRange then return left
  let tokens ← ahead
  match operatorAhead? tokens with
  | some (text, precedence) =>
      if precedence < lowest then return left
      else
        require (!(precedence = .comparison && left.traits.isComparison))
        let _ ← operator text
        let right ← rightSide grammar braces precedence
        grammar.operation braces lowest (binary left text precedence right)
  | none =>
      if lowest ≤ .assignment && Token.beginsEquals tokens then
        let _ ← operator "="
        let right ← rightSide grammar braces .assignment
        grammar.operation braces lowest (assignment left right)
      else if lowest ≤ .range && Token.begins ".." tokens then
        grammar.operation braces lowest (← rangeFrom grammar braces (some left))
      else if lowest ≤ .cast && Token.beginsWord "as" tokens then
        let _ ← word "as"
        let type ← grammar.type false
        require (!(← sees beginsChain))
        grammar.operation braces lowest (cast left type)
      else return left

/-! ## Chains -/

/-- A link of a chain.  A chain is broken before its links, but not after a short name that begins the
line. -/
def link (base : Expression) (tokens : List Token) (isSoft : Bool)
    (shown : (isLeading : Bool) → List Piece) (traits : Traits) : Expression :=
  let joint := fun (isLeading : Bool) =>
    base.pieces (.link isLeading) ++
      if isSoft && !(isLeading && base.traits.isShortName) then [Piece.softBreak] else []
  let leading := indentedBox (joint true ++ shown true)
  { tokens := base.tokens ++ tokens
    pieces
      | .inline => indentedBox (joint false ++ shown false)
      | .leading => leading
      | .link isLeading => joint isLeading ++ shown false
      | .arm => Expression.armPieces traits leading
    traits := traits }

/-- A member by name or position, or any other link after a dot. -/
def dotted (base : Expression) (name : Phrase) : Expression :=
  link base (.sign '.' :: name.tokens) true (fun _ => .text "." :: name.pieces) {
    breaksCondition := true
    beginsStatement := base.traits.beginsStatement }

/-- The pieces of arguments in parentheses.  A sole argument with brackets of its own makes no box. -/
def argumentPieces (arguments : List Expression) : List Piece :=
  let all := arguments.map (·.pieces .inline)
  match arguments with
  | [only] =>
      if only.traits.isBlocklike then [.text "("] ++ only.pieces .inline ++ [.text ")"]
      else listPieces "(" ")" all
  | _ => listPieces "(" ")" all

/-- The tokens of arguments in parentheses. -/
def argumentGroup (arguments : List (Member Expression)) : List Token :=
  [.group .parenthesis (Member.tokens ',' (·.tokens) arguments)]

/-- The call of a function. -/
def call (function : Expression) (arguments : List (Member Expression)) : Expression :=
  let shown := argumentPieces (Member.values arguments)
  let traits : Traits := {
    standsBare := true
    breaksCondition := function.traits.breaksCondition
    beginsStatement := Expression.opensStatement function }
  let leading := function.pieces .leading ++ shown
  { tokens := function.tokens ++ argumentGroup arguments
    pieces
      | .inline => function.pieces .inline ++ shown
      | .leading => leading
      | .link _ => function.pieces (.link false) ++ shown
      | .arm => Expression.armPieces traits leading
    traits := traits }

/-- The call of a method.  At the beginning of a line, after a short name, its arguments are not indented
further. -/
def methodCall (base : Expression) (name typeArguments : Phrase) (arguments : List (Member Expression)) :
    Expression :=
  let list := argumentPieces (Member.values arguments)
  let shown := fun (isLeading : Bool) =>
    let offset : Int := if isLeading && base.traits.isShortName then -indentStep else 0
    [.text "."] ++ name.pieces ++ typeArguments.pieces ++ boxed offset true list
  link base ([.sign '.'] ++ name.tokens ++ typeArguments.tokens ++ argumentGroup arguments) true shown {
    breaksCondition := true
    beginsStatement := base.traits.beginsStatement }

/-- Members by the positions that a float spells, and whether it ends in a dot.  Two positions with a dot
between them are read as a float. -/
def positions? (text : String) : Option (List Nat × Bool) := do
  let parts := text.splitOn "."
  let endsInDot := parts.getLast? = some ""
  let positions ← (if endsInDot then parts.dropLast else parts).mapM fun part =>
    if isFloat part then none else integerValue? part
  return (positions, endsInDot)

/-- Read what follows the dot of a chain. -/
def afterDot (grammar : Grammar) (base : Expression) : Reader Expression := do
  if ← seesWord "await" then
    let _ ← anyWord
    return dotted base (.word "await")
  else if ← sees Token.beginsName then
    let name := Phrase.word (← anyWord)
    let typeArguments : Phrase ←
      if ← seesOperator "::" then arguments grammar .expression else pure {}
    if ← seesGroup .parenthesis then
      let all ← membersInside .parenthesis (grammar.expression true)
      return methodCall base name typeArguments all
    else
      require typeArguments.tokens.isEmpty
      return dotted base name
  else match ← ahead with
    | .literal text :: rest =>
        match integerValue? text with
        | some value => set rest; return dotted base (.literal (toString value))
        | none => failure
    | _ => failure

/-- Read one more link after a dot.  A float stands for several positions. -/
def dotLink (grammar : Grammar) (base : Expression) : Reader Expression := do
  let _ ← operator "."
  match ← ahead with
  | .literal text :: rest =>
      if isFloat text then
        match positions? text with
        | some (positions, endsInDot) =>
            set rest
            let longer := positions.foldl (fun base value => dotted base (.literal (toString value))) base
            if endsInDot then afterDot grammar longer else return longer
        | none => failure
      else afterDot grammar base
  | _ => afterDot grammar base

/-- Read the rest of a chain. -/
def readChain (grammar : Grammar) (base : Expression) : Reader Expression := do
  if ← seesGroup .parenthesis then
    grammar.chain (call base (← membersInside .parenthesis (grammar.expression true)))
  else if !base.traits.isRange && (← sees Token.beginsDot) then
    grammar.chain (← dotLink grammar base)
  else if ← seesGroup .bracket then
    let index ← inside .bracket (grammar.expression true)
    grammar.chain (link base [.group .bracket index.tokens] false
      (fun _ => [.text "["] ++ index.pieces .inline ++ [.text "]"]) {
        breaksCondition := true
        beginsStatement := Expression.opensStatement base })
  else if !base.traits.isRange && (← seesOperator "?") then
    let _ ← operator "?"
    grammar.chain (link base [.sign '?'] false (fun _ => [.text "?"]) {
      breaksCondition := base.traits.breaksCondition
      beginsStatement := base.traits.beginsStatement })
  else return base

end CustomResource.Source.Grammar
