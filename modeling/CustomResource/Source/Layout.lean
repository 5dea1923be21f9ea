import CustomResource.Source.Item

/-!
# Layout

A generated source file with one item, field, variant or attribute a line, indented by four.  A line that
gets too long is broken inside its boxes: the parentheses of attribute lists, the values of attributes and
the arguments of types.

Documentation becomes comments where comments can carry it.
-/

namespace CustomResource.Source

/-! ## Attribute lists -/

/-- What a token follows: a word or literal, punctuation, or a comma that only a broken line shows. -/
inductive Preceding where
  | word
  | punct
  | comma
  deriving DecidableEq, Repr

/-- The pieces before a word or literal. -/
def wordGap : Preceding → List Piece
  | .word => [Piece.space]
  | _ => []

/-- The pieces of a punctuation character that is not the last comma of its group. -/
def signPieces (preceding : Preceding) (char : Char) : List Piece :=
  (if preceding = .word ∧ char = '=' then [.text " "] else []) ++ [.text (String.singleton char)] ++
    (if char = '=' then [.text " "] else if char = ',' then [Piece.space] else [])

/-- The pieces of a group around those of its content.  Parentheses make a box, other brackets do not. -/
def groupPieces (delimiter : Delimiter) (content : List Piece × Preceding) : List Piece :=
  match delimiter with
  | .parenthesis =>
      let last := if content.2 = .comma then [] else [.place { offset := -indentStep }]
      [.text "(", .opening indentStep true, Piece.softBreak] ++ content.1 ++ last ++ [.closing, .text ")"]
  | .bracket => [.text "["] ++ content.1 ++ [.text "]"]
  | .brace => [.text "\x7b"] ++ content.1 ++ [.text "\x7d"]

mutual

/-- The pieces of a token, and what the next one follows.  `isBoxed` tells that parentheses are around it,
`isLast` that no token follows in its group. -/
def tokenPieces (isBoxed : Bool) (preceding : Preceding) (isLast : Bool) :
    Token → List Piece × Preceding
  | .word text => (wordGap preceding ++ [.text text], .word)
  | .literal text => (wordGap preceding ++ [.text text], .word)
  | .punct char _ =>
      if char = ',' ∧ isLast then ([.place { before := ",", offset := if isBoxed then -indentStep else 0 }], .comma)
      else (signPieces preceding char, .punct)
  | .group delimiter content =>
      (groupPieces delimiter (contentPieces (delimiter = .parenthesis) .punct content), .punct)

/-- The pieces of the tokens in a group, and what would follow the last. -/
def contentPieces (isBoxed : Bool) (preceding : Preceding) : List Token → List Piece × Preceding
  | [] => ([], preceding)
  | token :: rest =>
      let (first, preceding) := tokenPieces isBoxed preceding rest.isEmpty token
      let (more, preceding) := contentPieces isBoxed preceding rest
      (first ++ more, preceding)

end

/-! ## Comments -/

/-- Text without the spaces at its end. -/
def trimEnd (text : List Char) : List Char :=
  (text.reverse.dropWhile (· == ' ')).reverse

/-- Text without the spaces at the ends of its lines, the last line apart. -/
def trimLineEnds (text : List Char) : List Char :=
  let lines := text.splitOn '\n'
  ['\n'].intercalate (lines.dropLast.map trimEnd ++ [lines.getLast?.getD []])

/-- Whether the marks of block comments in a text match, with `depth` of them open. -/
def marksMatch : (depth : Nat) → List Char → Bool
  | depth, '/' :: '*' :: rest => marksMatch (depth + 1) rest
  | 0, '*' :: '/' :: _ => false
  | depth + 1, '*' :: '/' :: rest => marksMatch depth rest
  | depth, _ :: rest => marksMatch depth rest
  | depth, [] => depth == 0

/-- Whether a block comment can carry a text that does not begin with one of the given characters. -/
def fitsBlockComment (excluded : List Char) (text : List Char) : Bool :=
  marksMatch 0 text && text.getLast? != some '/' &&
    match text with
    | c :: _ => !excluded.contains c
    | [] => true

/-- The comment that stands for documentation, if one can. -/
def docComment? (doc : String) : Option String :=
  let text := doc.toList
  if !text.contains '\n' && text.head? != some '/' then
    some ("///" ++ String.ofList (trimEnd text))
  else if fitsBlockComment ['*', '/'] text then
    some ("/**" ++ String.ofList (trimLineEnds text) ++ "*/")
  else none

/-- The comment that stands for a comment attribute, if one can. -/
def plainComment? (comment : String) : Option String :=
  let text := comment.toList
  if !text.contains '\n' then some ("//" ++ String.ofList (trimEnd text))
  else if fitsBlockComment ['*', '!'] text then
    some ("/*" ++ String.ofList (trimLineEnds text) ++ "*/")
  else none

/-! ## Lines -/

namespace Attribute

/-- The pieces of what stands after the path of an attribute. -/
def inputPieces : AttributeInput → List Piece
  | .nothing => []
  | .list delimiter tokens =>
      groupPieces delimiter (contentPieces (delimiter = .parenthesis) .punct tokens)
  | .value phrase => .text " = " :: phrase.pieces

/-- The comment an attribute is shown as, if it is. -/
def comment? (attr : Attribute) : Option String :=
  match attr.stringValue? "doc" with
  | some doc => docComment? doc
  | none => attr.stringValue? "comment" >>= plainComment?

/-- The lines of an attribute. -/
def layout (indent : Nat) (attr : Attribute) : String :=
  layoutLine indent <|
    match attr.comment? with
    | some comment => [.text comment]
    | none => [.text "#[", .text attr.path.text] ++ inputPieces attr.input ++ [.text "]"]

end Attribute

/-- The lines of attributes. -/
def layoutAttributes (indent : Nat) (attributes : List Attribute) : String :=
  String.join (attributes.map (·.layout indent))

/-- The lines of a field. -/
def StructField.layout (indent : Nat) (field : StructField) : String :=
  layoutAttributes indent field.attributes ++
    layoutLine indent ([.text ("pub " ++ field.name ++ ": ")] ++ field.type.pieces ++ [.text ","])

/-- The lines of a variant. -/
def Variant.layout (indent : Nat) (variant : Variant) : String :=
  layoutAttributes indent variant.attributes ++ layoutLine indent [.text (variant.name ++ ",")]

/-- The lines of all members. -/
def Members.layout (indent : Nat) : Members → String
  | .fields list => String.join (list.map (·.layout indent))
  | .variants list => String.join (list.map (·.layout indent))

/-- The lines of a block between braces, on one line if there is nothing in it. -/
def layoutBlock (indent : Nat) (head content : String) : String :=
  if content = "" then layoutLine indent [.text (head ++ " \x7b\x7d")]
  else layoutLine indent [.text (head ++ " \x7b")] ++ content ++ layoutLine indent [.text "\x7d"]

/-- The lines of an item. -/
def Item.layout (indent : Nat) (item : Item) : String :=
  layoutAttributes indent item.attributes ++
    layoutBlock indent ("pub " ++ item.members.keyword ++ " " ++ item.name)
      (item.members.layout (indent + indentStep))

/-- The file in lines. -/
def Module.layout (file : Module) : String :=
  layoutAttributes 0 file.attributes ++
    layoutBlock 0 ("pub mod " ++ file.name)
      (layoutLine indentStep [.text ("use " ++ file.imported.text ++ " as " ++ file.importedAs ++ ";")] ++
        String.join (file.items.map (·.layout indentStep)))

end CustomResource.Source
