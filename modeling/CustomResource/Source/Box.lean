/-!
# Boxes

Text with places where its lines may be broken, and the choice of those that are.  A box stays on its line
if all of it fits, together with what follows it up to the next place for a break around it.  In a box that
does not fit, every place of its own ends a line if the box is even; otherwise a place ends a line only if
what comes up to the next place does not fit.  Widths are counted in bytes.
-/

namespace CustomResource.Source

/-! ## Pieces -/

/-- A place where a line may be broken. -/
structure Break where
  /-- The number of spaces if the line goes on. -/
  blanks : Nat := 0
  /-- What the next line is indented by, in addition to the box. -/
  offset : Int := 0
  /-- What ends a broken line. -/
  before : String := ""
  /-- What begins the line after a break. -/
  after : String := ""
  /-- What stands here if the line goes on. -/
  joined : String := ""
  /-- Whether the line always goes on; the place still ends what has to fit. -/
  isNever : Bool := false
  /-- Whether the place vanishes at the end of a box. -/
  ifFilled : Bool := false
  deriving DecidableEq, Repr, Inhabited

/-- A piece of a line. -/
inductive Piece where
  | text (text : String)
  | place (place : Break)
  | opening (offset : Int) (isEven : Bool)
  | closing
  /-- Nothing, but too wide for any line. -/
  | strut
  deriving DecidableEq, Repr, Inhabited

/-- A width that no line has. -/
def endless : Nat := 65535

/-- The step of indentation. -/
def indentStep : Nat := 4

namespace Piece

/-- A place without spaces. -/
def softBreak : Piece :=
  .place {}

/-- A place for one space. -/
def space : Piece :=
  .place { blanks := 1 }

/-- A place that breaks every box around it. -/
def hardBreak : Piece :=
  .place { blanks := endless }

/-- A place where the line goes on. -/
def neverBreak : Piece :=
  .place { isNever := true }

/-- The place after the last member of a list, where a broken line shows a comma. -/
def lastComma (blanks : Nat) : Piece :=
  .place { blanks := blanks, before := ",", offset := -indentStep }

/-- The width of a piece on a single line. -/
def width : Piece → Nat
  | .text content => content.utf8ByteSize
  | .place site => site.blanks
  | .strut => endless
  | _ => 0

end Piece

/-- The width of pieces on a single line. -/
def lineWidth (pieces : List Piece) : Nat :=
  pieces.foldl (fun total piece => total + piece.width) 0

/-! ## Making boxes -/

/-- Pieces whose last one, if it is a place, leaves the indentation of its box. -/
def leavingLast (pieces : List Piece) : List Piece :=
  match pieces.reverse with
  | .place place :: rest => rest.reverse ++ [.place { place with offset := place.offset - indentStep }]
  | _ => pieces

/-- A box around pieces.  One that holds a single place is none at all. -/
def boxed (offset : Int) (isEven : Bool) (pieces : List Piece) : List Piece :=
  match pieces.reverse with
  | [.place _] => []
  | .place place :: rest =>
      [.opening offset isEven] ++ rest.reverse ++ (if place.ifFilled then [] else [.place place]) ++ [.closing]
  | _ => [.opening offset isEven] ++ pieces ++ [.closing]

/-- An even box that indents by a step. -/
def indentedBox (pieces : List Piece) : List Piece :=
  boxed indentStep true pieces

/-- A box whose lines are filled one after the other. -/
def fillingBox (pieces : List Piece) : List Piece :=
  boxed 0 false pieces

/-- An even box that indents by a step and is broken if its pieces are wider than a limit. -/
def limitedBox (limit : Nat) (pieces : List Piece) : List Piece :=
  if limit < lineWidth pieces then [.opening indentStep true] ++ pieces ++ [.strut, .closing]
  else indentedBox pieces

/-- Members with commas between them, and a last comma if the line is broken. -/
def separatedBy (lastBlanks : Nat) : List (List Piece) → List Piece
  | [] => []
  | [last] => last ++ [Piece.lastComma lastBlanks]
  | member :: rest => member ++ [.text ",", Piece.space] ++ separatedBy lastBlanks rest

/-- Members between brackets, each on a line of its own if they do not fit. -/
def listPieces (opening closing : String) (members : List (List Piece)) : List Piece :=
  [.text opening] ++ indentedBox ([Piece.softBreak] ++ separatedBy 0 members) ++ [.text closing]

/-- Members between braces after a head: the pieces after the opening brace.  The rest of a struct comes
last and has no comma. -/
def fieldPieces (members : List (List Piece)) (rest : Option (List Piece)) : List Piece :=
  let edge := Piece.place { blanks := 1, ifFilled := true }
  match rest with
  | none => [edge] ++ separatedBy 1 members
  | some rest =>
      let shown := members.flatMap fun member => member ++ [.text ",", Piece.space]
      leavingLast ([edge] ++ shown ++ rest ++ [Piece.space])

/-! ## Choosing breaks -/

/-- The width of a line. -/
def maxWidth : Nat := 89

/-- The width a line has at the least, however deep it is indented. -/
def minWidth : Nat := 60

/-- The width up to the next place for a break outside `depth` open boxes. -/
def widthAhead : (depth : Nat) → List Piece → Nat
  | _, [] => 0
  | 0, .place _ :: _ => 0
  | depth, .opening _ _ :: rest => widthAhead (depth + 1) rest
  | depth, .closing :: rest => widthAhead (depth - 1) rest
  | depth, piece :: rest => piece.width + widthAhead depth rest

/-- The room on a new line. -/
def roomAfter (indent : Int) : Int :=
  max (maxWidth - indent) minWidth

/-- A box around the current place: it fits its line, or is broken and had another indentation around it. -/
inductive Frame where
  | fits
  | broken (outer : Int) (isEven : Bool)
  deriving DecidableEq, Repr

/-- Where the layout of a line stands: the boxes around, the indentation of the next break, the spaces that
the next text is put after, and the room left. -/
structure Cursor where
  frames : List Frame := []
  indent : Int
  pending : Nat
  room : Int

namespace Cursor

/-- The cursor at the start of a line. -/
def start (indent : Nat) : Cursor where
  indent := indent
  pending := indent
  room := roomAfter indent

/-- The spaces before the next text. -/
def margin (cursor : Cursor) : String :=
  String.ofList (List.replicate cursor.pending ' ')

/-- Whether the line goes on at a place, given the pieces after it. -/
def staysAt (cursor : Cursor) (place : Break) (rest : List Piece) : Bool :=
  place.isNever ||
    match cursor.frames with
    | .fits :: _ => true
    | .broken _ false :: _ => (place.blanks + widthAhead 0 rest : Nat) ≤ cursor.room
    | _ => false

end Cursor

/-- Lay out pieces from a cursor on. -/
def layoutFrom : Cursor → List Piece → String
  | _, [] => ""
  | cursor, .text text :: rest =>
      cursor.margin ++ text ++
        layoutFrom { cursor with pending := 0, room := cursor.room - text.utf8ByteSize } rest
  | cursor, .strut :: rest => layoutFrom cursor rest
  | cursor, .place place :: rest =>
      if cursor.staysAt place rest then
        place.joined ++
          layoutFrom { cursor with
            pending := cursor.pending + place.blanks
            room := cursor.room - place.blanks - place.joined.utf8ByteSize } rest
      else
        let indent := cursor.indent + place.offset
        let margin := String.ofList (List.replicate indent.toNat ' ')
        (if place.before = "" then "" else cursor.margin ++ place.before) ++ "\n" ++
          (if place.after = "" then
            layoutFrom { cursor with pending := indent.toNat, room := roomAfter indent } rest
          else
            margin ++ place.after ++
              layoutFrom { cursor with
                pending := 0, room := roomAfter indent - place.after.utf8ByteSize } rest)
  | cursor, .opening offset isEven :: rest =>
      if cursor.room < widthAhead 1 rest then
        layoutFrom { cursor with
          frames := .broken cursor.indent isEven :: cursor.frames, indent := cursor.indent + offset } rest
      else layoutFrom { cursor with frames := .fits :: cursor.frames } rest
  | cursor, .closing :: rest =>
      let indent := match cursor.frames with
        | .broken outer _ :: _ => outer
        | _ => cursor.indent
      layoutFrom { cursor with frames := cursor.frames.tail, indent := indent } rest

/-- One line at an indentation, its end included. -/
def layoutLine (indent : Nat) (pieces : List Piece) : String :=
  layoutFrom (.start indent) pieces ++ "\n"

end CustomResource.Source
