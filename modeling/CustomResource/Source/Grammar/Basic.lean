import CustomResource.Source.Reader

/-!
# What the grammar reads

Types, patterns, expressions, statements and blocks, each as what later parts ask of it: its tokens, its
pieces and a few traits.  An expression has pieces for every place it can stand at, because chains of
members, the beginnings of lines and the arms of a match lay it out differently.

The readers of the grammar call each other.  `Grammar` holds those that others need, so that each can be
defined from the readers of the level below; `CustomResource.Source.Grammar` closes the circle.
-/

namespace CustomResource.Source

/-! ## Types and patterns -/

/-- A path that may have arguments. -/
structure PathPhrase extends Phrase where
  /-- Whether no segment has arguments. -/
  isPlain : Bool := false
  /-- Whether a single segment makes the path, and is not rooted. -/
  isSingle : Bool := false
  /-- Whether the last segment has no arguments. -/
  endsPlain : Bool := false
  /-- Whether a type in angle brackets begins the path. -/
  isQualified : Bool := false

/-- A type. -/
structure TypePhrase extends Phrase where
  /-- Whether the type may turn out to be the name of an associated item. -/
  canBind : Bool := false
  /-- Whether the type may turn out to be a bound. -/
  canBound : Bool := false
  isParenthesized : Bool := false

/-- A bound: a trait, a lifetime, or what an opaque type captures. -/
structure BoundPhrase extends Phrase where
  isTrait : Bool := true

/-- A pattern. -/
structure PatternPhrase extends Phrase where
  /-- Whether the pattern is a literal or matches everything. -/
  isTerse : Bool := false
  /-- Whether the pattern stands for the rest of a list. -/
  isRest : Bool := false
  /-- Whether the pattern is a range that is open on a side. -/
  isOpen : Bool := false

/-! ## Expressions -/

/-- Where an expression stands. -/
inductive Position where
  /-- Inside a line. -/
  | inline
  /-- At the beginning of a line. -/
  | leading
  /-- Before more members of a chain, inside a line or at its beginning. -/
  | link (isLeading : Bool)
  /-- After the arrow of an arm. -/
  | arm
  deriving DecidableEq, Repr

/-- What later parts ask of an expression. -/
structure Traits where
  /-- Whether the expression is a name that is no longer than a step of indentation. -/
  isShortName : Bool := false
  /-- Whether the expression is a literal that shares its line in arrays. -/
  isTerse : Bool := false
  /-- Whether the expression is a range, which no operator continues. -/
  isRange : Bool := false
  /-- Whether the expression compares, which no other comparison continues. -/
  isComparison : Bool := false
  /-- Whether the expression keeps its brackets on the line as a sole argument. -/
  isBlocklike : Bool := false
  /-- Whether the expression needs no braces as the body of a closure. -/
  standsBare : Bool := false
  /-- Whether a condition that ends in the expression puts its block on a new line if it is broken. -/
  breaksCondition : Bool := false
  /-- Whether the expression ends a statement or an arm without punctuation. -/
  isStatement : Bool := false
  /-- Whether the expression could be followed by an operator at the beginning of a statement. -/
  beginsStatement : Bool := true
  /-- Whether the expression gets a semicolon at the end of a block. -/
  addsSemicolon : Bool := false
  /-- Whether the expression loses its semicolon. -/
  dropsSemicolon : Bool := false
  /-- Whether the expression ends in a brace. -/
  endsInBrace : Bool := false
  /-- The brackets of a macro call. -/
  macroCall? : Option Delimiter := none
  deriving Repr, Inhabited

/-- An expression. -/
structure Expression where
  tokens : List Token
  pieces : Position → List Piece
  traits : Traits := {}

namespace Expression

/-- The expression inside a line. -/
def phrase (expr : Expression) : Phrase :=
  ⟨expr.tokens, expr.pieces .inline⟩

/-- The pieces of an arm's body that is no block.  If it is broken it gets braces, or parentheses where
braces would change its meaning. -/
def armPieces (traits : Traits) (leading : List Piece) : List Piece :=
  let braced := traits.beginsStatement
  let first : Break := { before := if braced then "\x7b" else "(" }
  let last : Break := {
    offset := -indentStep
    before := if braced && traits.addsSemicolon then ";" else ""
    after := if braced then "\x7d" else "),"
    joined := if traits.isStatement then "" else "," }
  [Piece.neverBreak] ++ indentedBox ([.place first] ++ leading ++ [.place last])

/-- An expression that is laid out in one way inside a line and in another at its beginning. -/
def ofPhrases (tokens : List Token) (inline leading : List Piece) (traits : Traits) : Expression where
  tokens := tokens
  pieces
    | .inline => inline
    | .leading => leading
    | .link _ => boxed (-indentStep) true inline
    | .arm => armPieces traits leading
  traits := traits

/-- An expression that is laid out in one way. -/
def ofPhrase (phrase : Phrase) (traits : Traits := {}) : Expression :=
  ofPhrases phrase.tokens phrase.pieces phrase.pieces traits

end Expression

/-! ## Statements -/

/-- A statement. -/
inductive Statement where
  /-- An expression without a semicolon. -/
  | value (expr : Expression)
  /-- Any other statement; its pieces may depend on whether it is the last one. -/
  | other (tokens : List Token) (pieces : (isLast : Bool) → List Piece)

namespace Statement

/-- The tokens of a statement. -/
def tokens : Statement → List Token
  | .value expr => expr.tokens
  | .other tokens _ => tokens

/-- The pieces of a statement, the end of its line included. -/
def pieces (isLast : Bool) : Statement → List Piece
  | .value expr =>
      fillingBox (expr.pieces .leading ++ if expr.traits.addsSemicolon then [.text ";"] else []) ++
        [Piece.hardBreak]
  | .other _ pieces => pieces isLast

/-- The pieces of all statements. -/
def allPieces : List Statement → List Piece
  | [] => []
  | statement :: rest => statement.pieces rest.isEmpty ++ allPieces rest

end Statement

/-- The statements of a block. -/
structure Block where
  statements : List Statement

namespace Block

/-- The tokens of a block, its braces included. -/
def tokens (block : Block) : List Token :=
  [.group .brace (block.statements.flatMap (·.tokens))]

/-- The expression that is all of a block. -/
def sole? (block : Block) : Option Expression :=
  match block.statements with
  | [.value expr] => some expr
  | _ => none

/-- The pieces of a block that may share its line, without the box around it. -/
def smallPieces (block : Block) : List Piece :=
  let content := match block.sole? with
    | some expr => fillingBox (expr.pieces .leading) ++ [Piece.space]
    | none => Statement.allPieces block.statements
  [.text "\x7b"] ++
    (if block.statements.isEmpty then [] else leavingLast ([Piece.space] ++ content)) ++ [.text "\x7d"]

/-- The pieces between the braces of a block that has its lines. -/
def innerPieces (block : Block) : List Piece :=
  indentedBox (leavingLast
    ([.place { blanks := endless, ifFilled := true }] ++ Statement.allPieces block.statements))

/-- The pieces of a block that has its lines. -/
def openPieces (block : Block) : List Piece :=
  [.text "\x7b", Piece.neverBreak] ++ block.innerPieces ++ [.text "\x7d"]

/-- A block that may share its line. -/
def phrase (block : Block) : Phrase :=
  ⟨block.tokens, indentedBox block.smallPieces⟩

end Block

/-! ## Levels of operators -/

/-- How tightly an operator binds. -/
abbrev Precedence := Nat

namespace Precedence

def lowest : Precedence := 0
def assignment : Precedence := 1
def range : Precedence := 2
def disjunction : Precedence := 3
def conjunction : Precedence := 4
def comparison : Precedence := 6
def bitOr : Precedence := 7
def bitXor : Precedence := 8
def bitAnd : Precedence := 9
def shift : Precedence := 10
def sum : Precedence := 11
def product : Precedence := 12
def cast : Precedence := 13

end Precedence

/-! ## The readers of a level -/

/-- The readers that others call.  `braces` tells that a brace may begin the fields of a struct, `plus` that
more bounds may follow a type. -/
structure Grammar where
  type : (plus : Bool) → Reader TypePhrase
  bound : Reader BoundPhrase
  pattern : Reader PatternPhrase
  atom : (braces : Bool) → Reader Expression
  operand : (braces : Bool) → Reader Expression
  chain : Expression → Reader Expression
  operation : (braces : Bool) → Precedence → Expression → Reader Expression
  operandOf : (braces : Bool) → Precedence → Expression → Reader Expression
  block : Reader Block

namespace Grammar

/-- The readers of the lowest level, which all fail. -/
def ground : Grammar where
  type _ := failure
  bound := failure
  pattern := failure
  atom _ := failure
  operand _ := failure
  chain _ := failure
  operation _ _ _ := failure
  operandOf _ _ _ := failure
  block := failure

/-- Read an expression. -/
def expression (grammar : Grammar) (braces : Bool) : Reader Expression := do
  grammar.operation braces .lowest (← grammar.operand braces)

end Grammar

end CustomResource.Source
