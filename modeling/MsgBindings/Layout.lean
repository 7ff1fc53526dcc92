/-!
Laying out text in lines. A text to lay out is a list of pieces: words, gaps at which a line may
end, and boxes around some of them. A box that fits into the line stays on it. In a consistent box
that does not fit every gap ends a line, in an inconsistent one those after which the text up to
the next gap does not fit. What counts as the size of a box or a gap is everything up to the next
gap that is not inside of a box opened after it, so that a mark right after a box is kept with it.
-/
namespace MsgBindings.Layout

/-- How the gaps of a box that does not fit end lines. -/
inductive Breaking where
  /-- All of them do. -/
  | consistent
  /-- Those do after which the text does not fit. -/
  | inconsistent
  deriving DecidableEq, Repr

/-- A piece of a text to lay out. -/
inductive Piece where
  | word (text : String)
  /-- A place for the end of a line: `blank` spaces if the line goes on. If it ends, a comma may
      stand before the end, and the next line is indented by `offset` more than the box asks. -/
  | gap (blank : Nat) (offset : Int) (comma : Bool)
  /-- A place that ends a size as a gap does, but at which no line ends. -/
  | seam
  /-- Nothing, but wider than any line. -/
  | wide
  /-- The start of a box, which indents its lines by `indent` if it does not fit. -/
  | opening (breaking : Breaking) (indent : Int)
  | closing
  deriving DecidableEq, Repr

/-- A width that no line has. -/
def infinite : Nat := 65535

/-- The width of a line. -/
def margin : Int := 89

/-- The width that a line has at least, however far it is indented. -/
def leastWidth : Int := 60

/-- The number of columns of one level of indentation. -/
def step : Int := 4

namespace Piece

/-- The room that a piece takes on a line that goes on. -/
def width : Piece → Nat
  | word text => text.utf8ByteSize
  | gap blank _ _ => blank
  | wide => infinite
  | seam | opening _ _ | closing => 0

def space : Piece := .gap 1 0 false

/-- A gap without a space, with an offset for the line after it. -/
def zero (offset : Int) : Piece := .gap 0 offset false

/-- A gap that always ends its line. -/
def hard (offset : Int) : Piece := .gap infinite offset false

/-- The gap after the last item of a list, where a comma stands if the line ends. -/
def lastComma (blank : Nat) : Piece := .gap blank (-step) true

end Piece

/-- A box around pieces. -/
def box (breaking : Breaking) (indent : Int) (pieces : List Piece) : List Piece :=
  .opening breaking indent :: pieces ++ [.closing]

/-- The room that pieces take on one line. -/
def width (pieces : List Piece) : Nat := (pieces.map Piece.width).foldr (· + ·) 0

/-- Pieces with the sizes of their boxes and gaps. -/
structure Measured where
  /-- The pieces, each with its size. -/
  pieces : List (Piece × Nat)
  /-- The room up to the next gap that is not inside of a box opened here or later. -/
  lead : Nat
  /-- The room of all pieces. -/
  total : Nat
  /-- For each box that ends in the pieces and starts before them: the lead and the total at its
      end. -/
  ends : List (Nat × Nat)

/-- Finds the sizes of pieces, from the last one back. -/
def measure : List Piece → Measured
  | [] => ⟨[], 0, 0, []⟩
  | piece :: rest =>
    let m := measure rest
    let total := piece.width + m.total
    match piece with
    | .word _ | .wide => ⟨(piece, piece.width) :: m.pieces, piece.width + m.lead, total, m.ends⟩
    | .gap _ _ _ | .seam => ⟨(piece, piece.width + m.lead) :: m.pieces, 0, total, m.ends⟩
    | .closing => ⟨(piece, 0) :: m.pieces, m.lead, total, (m.lead, m.total) :: m.ends⟩
    | .opening _ _ =>
      match m.ends with
      | [] => ⟨(piece, m.lead) :: m.pieces, m.lead, total, []⟩
      | (lead, after) :: ends =>
        let size := m.total - after + lead
        ⟨(piece, size) :: m.pieces, size, total, ends⟩

/-- What is known of a box while its pieces are placed. -/
inductive Frame where
  /-- The box fits into the line. -/
  | whole
  /-- The box does not fit; the lines around it are indented by `indent`. -/
  | broken (breaking : Breaking) (indent : Int)
  deriving DecidableEq, Repr

/-- Where the next piece goes. -/
structure Position where
  /-- The room that is left on the line. -/
  room : Int
  /-- The indentation of the lines of the box. -/
  indent : Int
  /-- The spaces to write before the next word. -/
  pending : Nat
  /-- The boxes around the next piece, from the inside. -/
  frames : List Frame

namespace Position

def start : Position := ⟨margin, 0, 0, []⟩

def spaces (n : Nat) : String := .ofList (List.replicate n ' ')

/-- Whether a line goes on at a gap of a size. Outside of all boxes it does if the text fits. -/
def goesOn (p : Position) (size : Nat) : Bool :=
  match p.frames.head? with
  | some .whole => true
  | some (.broken .consistent _) => false
  | some (.broken .inconsistent _) | none => (size : Int) ≤ p.room

/-- The position after a piece of a size, and the text that the piece writes. -/
def place (p : Position) (piece : Piece) (size : Nat) : Position × String :=
  match piece with
  | .word text => ({ p with room := p.room - text.utf8ByteSize, pending := 0 }, spaces p.pending ++ text)
  | .wide | .seam => (p, "")
  | .gap blank offset comma =>
    if p.goesOn size then ({ p with room := p.room - blank, pending := p.pending + blank }, "")
    else
      let indent := p.indent + offset
      ({ p with room := max (margin - indent) leastWidth, pending := indent.toNat },
        if comma then spaces p.pending ++ ",\n" else "\n")
  | .opening breaking indent =>
    if p.room < size then
      ({ p with indent := p.indent + indent, frames := .broken breaking p.indent :: p.frames }, "")
    else ({ p with frames := .whole :: p.frames }, "")
  | .closing =>
    match p.frames with
    | .broken _ indent :: frames => ({ p with indent, frames }, "")
    | .whole :: frames => ({ p with frames }, "")
    | [] => (p, "")

/-- The texts that pieces write from a position on. -/
def texts (p : Position) : List (Piece × Nat) → List String
  | [] => []
  | (piece, size) :: rest =>
    let (next, text) := p.place piece size
    text :: next.texts rest

end Position

/-- Lays out pieces in lines. -/
def render (pieces : List Piece) : String :=
  String.join (Position.start.texts (measure pieces).pieces)

end MsgBindings.Layout
