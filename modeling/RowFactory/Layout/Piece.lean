/-! # Breaking lines

A text is laid out from pieces: words, places where a line may end, and groups. A group that fits on
the rest of the line has no line end. In one that does not fit, either every place of its own ends the
line, or only those from which the next word does not fit.
-/

namespace RowFactory.Layout

structure Break where
  /-- Added to the indentation of the group on a new line. -/
  offset : Int := 0
  blanks : Nat := 0
  /-- Written before a line end. -/
  before : String := ""
  after : String := ""
  /-- Dropped at the end of a group. -/
  inside : Bool := false
  /-- The line goes on in any case. -/
  never : Bool := false
  deriving DecidableEq, Repr

inductive Piece where
  | word (text : String)
  | place (b : Break)
  /-- `even` groups end the line at all of their places or at none. -/
  | group (offset : Int) (even : Bool) (inner : List Piece)
  | wide
  deriving Repr

def unbounded : Nat := 0xffff

def lineWidth : Int := 89

/-- Width that is left to a line at least, however far it is indented. -/
def leastWidth : Int := 60

def indentation : Int := 4

namespace Piece

def space (offset : Int := 0) : Piece := .place { offset, blanks := 1 }

def gap (offset : Int := 0) : Piece := .place { offset }

def newLine (offset : Int := 0) : Piece := .place { offset, blanks := unbounded }

/-- Line end, if something else comes before the end of the group. -/
def newLineInside : Piece := .place { blanks := unbounded, inside := true }

def spaceInside : Piece := .place { blanks := 1, inside := true }

/-- No line end, but the end of what has to fit before. -/
def joint : Piece := .place { never := true }

/-- The comma after the last part, which only a line end shows. -/
def lastComma (offset : Int := 0) (blanks : Nat := 0) : Piece := .place { offset, blanks, before := "," }

end Piece

/-- The last place, if the pieces end in one, one level further to the left. -/
def dedent : List Piece → List Piece
  | [] => []
  | [.place b] => [.place { b with offset := b.offset - indentation }]
  | p :: rest => p :: dedent rest

/-- What a group is made of after its end is known: a place alone vanishes together with its group, and
a place that must have something after it vanishes at the end. -/
def closeGroup (inner : List Piece) : Option (List Piece) :=
  match inner.reverse with
  | [.place _] => none
  | .place b :: rest => some (if b.inside then rest.reverse else inner)
  | _ => some inner

def group (offset : Int) (even : Bool) (inner : List Piece) : List Piece :=
  match closeGroup inner with
  | some inner => [.group offset even inner]
  | none => []

def even (offset : Int) (inner : List Piece) : List Piece := group offset true inner

def filled (offset : Int) (inner : List Piece) : List Piece := group offset false inner

mutual

def width : Piece → Nat
  | .word text => text.utf8ByteSize
  | .place b => b.blanks
  | .group _ _ inner => widthAll inner
  | .wide => unbounded

def widthAll : List Piece → Nat
  | [] => 0
  | p :: rest => width p + widthAll rest

end

/-- Width up to the next place that is not within a group; `beyond` is the width up to the next place
after the pieces. -/
def reach (beyond : Nat) : List Piece → Nat
  | [] => beyond
  | .place _ :: _ => 0
  | p :: rest => width p + reach beyond rest

/-- A group that has to be at most as wide as given, or else is broken up. -/
def evenWithin (limit : Nat) (offset : Int) (inner : List Piece) : List Piece :=
  match closeGroup (if limit < widthAll inner then inner ++ [.wide] else inner) with
  | some inner => [.group offset true inner]
  | none => []

inductive Frame where
  | fits
  | even
  | filled
  deriving DecidableEq, Repr

structure Page where
  text : List Char := []
  space : Int := lineWidth
  /-- Blanks to be written before the next word. -/
  pending : Nat := 0
  deriving Repr

namespace Page

def settle (page : Page) : Page :=
  { page with text := List.replicate page.pending ' ' ++ page.text, pending := 0 }

def put (page : Page) (text : String) : Page :=
  let page := page.settle
  { page with text := text.toList.reverse ++ page.text, space := page.space - text.utf8ByteSize }

/-- Takes a place; `size` is the width up to the next one. -/
def take (page : Page) (frame : Frame) (indent : Int) (b : Break) (size : Nat) : Page :=
  let stays :=
    b.never ||
      match frame with
      | .fits => true
      | .even => false
      | .filled => size ≤ page.space
  if stays then { page with pending := page.pending + b.blanks, space := page.space - b.blanks }
  else
    let page := if b.before.isEmpty then page else page.settle
    let column := indent + b.offset
    let page :=
      { text := '\n' :: b.before.toList.reverse ++ page.text
        space := max (lineWidth - column) leastWidth
        pending := column.toNat }
    if b.after.isEmpty then page else page.put b.after

end Page

mutual

/-- Writes one piece; `after` is the width from its end up to the next place. -/
def writePiece (frame : Frame) (indent : Int) (after : Nat) : Piece → Page → Page
  | .word text, page => page.put text
  | .wide, page => page
  | .place b, page => page.take frame indent b (b.blanks + after)
  | .group offset isEven inner, page =>
    let broken := page.space < widthAll inner + after
    let frame := if broken then if isEven then Frame.even else .filled else .fits
    writePieces frame (if broken then indent + offset else indent) after inner page

def writePieces (frame : Frame) (indent : Int) (beyond : Nat) : List Piece → Page → Page
  | [], page => page
  | p :: rest, page =>
    writePieces frame indent beyond rest (writePiece frame indent (reach beyond rest) p page)

end

def layOut (pieces : List Piece) : String :=
  String.ofList (writePieces .filled 0 0 (even 0 pieces) {}).text.reverse

end RowFactory.Layout
