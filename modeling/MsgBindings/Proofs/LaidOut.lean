import MsgBindings.Proofs.CodeEndings

/-!
Where pieces are laid out. Pieces in which every box is closed are measured apart from what stands behind them, and
leave the indentation and the boxes as they find them (`Whole.after`). A box that holds the end of a line does not
fit, and all of its gaps end lines. So what is laid out can be followed from line to line: `Lays` says what pieces
write from a position on, with one rule for each way of putting pieces together.
-/
namespace MsgBindings.Layout

/-! ### Pieces in a row -/

namespace Position

/-- The position after pieces. -/
def after (p : Position) : List (Piece × Nat) → Position
  | [] => p
  | (piece,size) :: rest => (p.place piece size).1.after rest

/-- The text that pieces write. -/
def written (p : Position) (sized : List (Piece × Nat)) : String := String.join (p.texts sized)

theorem text_opening (p : Position) (breaking : Breaking) (indent : Int) (size : Nat) :
    (p.place (.opening breaking indent) size).2 = "" := by
  dsimp only [place]
  split <;> rfl

theorem pending_opening (p : Position) (breaking : Breaking) (indent : Int) (size : Nat) :
    (p.place (.opening breaking indent) size).1.pending = p.pending := by
  dsimp only [place]
  split <;> rfl

theorem text_closing (p : Position) (size : Nat) : (p.place .closing size).2 = "" := by
  dsimp only [place]
  split <;> rfl

theorem pending_closing (p : Position) (size : Nat) : (p.place .closing size).1.pending = p.pending := by
  dsimp only [place]
  split <;> rfl

theorem after_append (p : Position) (first rest : List (Piece × Nat)) :
    p.after (first ++ rest) = (p.after first).after rest := by
  induction first generalizing p with
  | nil => rfl
  | cons entry first ih => exact ih _

theorem written_cons (p : Position) (piece : Piece) (size : Nat) (rest : List (Piece × Nat)) :
    p.written ((piece,size) :: rest) = (p.place piece size).2 ++ (p.place piece size).1.written rest := by
  simp [written,texts]

theorem written_append (p : Position) (first rest : List (Piece × Nat)) :
    p.written (first ++ rest) = p.written first ++ (p.after first).written rest := by
  induction first generalizing p with
  | nil => simp [written,texts,after]
  | cons entry first ih =>
    obtain ⟨piece,size⟩ := entry
    rw [List.cons_append,written_cons,written_cons,ih,after,String.append_assoc]

end Position

theorem width_cons (piece : Piece) (rest : List Piece) : width (piece :: rest) = piece.width + width rest := rfl

theorem width_append (first rest : List Piece) : width (first ++ rest) = width first + width rest := by
  induction first with
  | nil => simp [width]
  | cons piece first ih =>
    rw [List.cons_append,width_cons,width_cons,ih]
    omega

theorem width_le_of_mem {piece : Piece} {pieces : List Piece} (member : piece ∈ pieces) :
    piece.width ≤ width pieces := by
  induction pieces with
  | nil => cases member
  | cons first rest ih =>
    rw [width_cons]
    rcases List.mem_cons.mp member with rfl | later
    · omega
    · have := ih later
      omega

/-! ### Boxes that are closed -/

/-- Pieces in which every box is closed. -/
inductive Whole : List Piece → Prop
  | nil : Whole []
  | word (text : String) {rest : List Piece} : Whole rest → Whole (.word text :: rest)
  | gap (blank : Nat) (offset : Int) (comma : Bool) {rest : List Piece} :
      Whole rest → Whole (.gap blank offset comma :: rest)
  | seam {rest : List Piece} : Whole rest → Whole (.seam :: rest)
  | wide {rest : List Piece} : Whole rest → Whole (.wide :: rest)
  | opening (breaking : Breaking) (indent : Int) {inside rest : List Piece} :
      Whole inside → Whole rest → Whole (.opening breaking indent :: (inside ++ .closing :: rest))

theorem box_append (breaking : Breaking) (indent : Int) (inside rest : List Piece) :
    box breaking indent inside ++ rest = .opening breaking indent :: (inside ++ .closing :: rest) := by
  simp [box]

namespace Whole

theorem append {first rest : List Piece} (whole : Whole first) (next : Whole rest) : Whole (first ++ rest) := by
  induction whole with
  | nil => exact next
  | word text _ ih => exact .word text ih
  | gap blank offset comma _ ih => exact .gap blank offset comma ih
  | seam _ ih => exact .seam ih
  | wide _ ih => exact .wide ih
  | opening breaking indent inside _ _ ih =>
    have whole := Whole.opening breaking indent inside ih
    simpa using whole

theorem box (breaking : Breaking) (indent : Int) {inside : List Piece} (whole : Whole inside) :
    Whole (Layout.box breaking indent inside) := by
  have whole := Whole.opening breaking indent whole .nil
  simpa [Layout.box] using whole

/-- Pieces in which every box is closed leave the indentation and the boxes around them as they are. -/
theorem after {pieces : List Piece} (whole : Whole pieces) (p : Position) {sized : List (Piece × Nat)}
    (same : sized.map Prod.fst = pieces) :
    (p.after sized).indent = p.indent ∧ (p.after sized).frames = p.frames := by
  induction whole generalizing p sized with
  | nil =>
    obtain rfl := List.map_eq_nil_iff.mp same
    exact ⟨rfl,rfl⟩
  | word text _ ih =>
    obtain ⟨⟨_,size⟩,sized,rfl,rfl,later⟩ := List.map_eq_cons_iff.mp same
    have kept := ih (p.place (.word text) size).1 later
    exact kept
  | gap blank offset comma _ ih =>
    obtain ⟨⟨_,size⟩,sized,rfl,rfl,later⟩ := List.map_eq_cons_iff.mp same
    obtain ⟨indent,frames⟩ := ih (p.place (.gap blank offset comma) size).1 later
    have kept : (p.place (.gap blank offset comma) size).1.indent = p.indent ∧
        (p.place (.gap blank offset comma) size).1.frames = p.frames := by
      dsimp only [Position.place]
      split <;> exact ⟨rfl,rfl⟩
    exact ⟨indent.trans kept.1,frames.trans kept.2⟩
  | seam _ ih =>
    obtain ⟨⟨_,size⟩,sized,rfl,rfl,later⟩ := List.map_eq_cons_iff.mp same
    have kept := ih (p.place .seam size).1 later
    exact kept
  | wide _ ih =>
    obtain ⟨⟨_,size⟩,sized,rfl,rfl,later⟩ := List.map_eq_cons_iff.mp same
    have kept := ih (p.place .wide size).1 later
    exact kept
  | opening breaking indent _ _ ihInside ihRest =>
    obtain ⟨⟨_,size⟩,sized,rfl,rfl,later⟩ := List.map_eq_cons_iff.mp same
    obtain ⟨inner,others,rfl,within,behind⟩ := List.map_eq_append_iff.mp later
    obtain ⟨⟨_,last⟩,rest,rfl,rfl,others⟩ := List.map_eq_cons_iff.mp behind
    obtain ⟨column,frames⟩ := ihInside (p.place (.opening breaking indent) size).1 within
    have closed : ((((p.place (.opening breaking indent) size).1.after inner).place .closing last).1.indent =
        p.indent) ∧ (((p.place (.opening breaking indent) size).1.after inner).place .closing last).1.frames =
          p.frames := by
      generalize (p.place (.opening breaking indent) size).1.after inner = q at column frames ⊢
      dsimp only [Position.place] at column frames ⊢
      split at frames <;> simp_all
    have end' := ihRest (((p.place (.opening breaking indent) size).1.after inner).place .closing last).1 others
    rw [Position.after,Position.after_append,Position.after]
    exact ⟨end'.1.trans closed.1,end'.2.trans closed.2⟩

end Whole

/-! ### Sizes -/

/-- Pieces are measured after what stands behind them. -/
theorem measure_append (first rest : List Piece) :
    ∃ sized, (measure (first ++ rest)).pieces = sized ++ (measure rest).pieces ∧ sized.map Prod.fst = first := by
  induction first with
  | nil => exact ⟨[],rfl,rfl⟩
  | cons piece first ih =>
    obtain ⟨sized,same,pieces⟩ := ih
    obtain ⟨size,here⟩ : ∃ size,
        (measure (piece :: (first ++ rest))).pieces = (piece,size) :: (measure (first ++ rest)).pieces := by
      cases piece with
      | opening breaking indent =>
        rw [measure]
        dsimp only
        split <;> exact ⟨_,rfl⟩
      | _ => exact ⟨_,rfl⟩
    exact ⟨(piece,size) :: sized,by rw [List.cons_append,here,same]; rfl,by simp [pieces]⟩

theorem measure_opening {breaking : Breaking} {indent : Int} {rest : List Piece} {lead after : Nat}
    {ends : List (Nat × Nat)} (inside : (measure rest).ends = (lead,after) :: ends) :
    measure (.opening breaking indent :: rest) =
      ⟨(.opening breaking indent,(measure rest).total - after + lead) :: (measure rest).pieces,
        (measure rest).total - after + lead,(measure rest).total,ends⟩ := by
  rw [measure]
  simp only [inside,Piece.width,Nat.zero_add]

/-- Pieces in which every box is closed add their room and no end of a box. -/
theorem Whole.measure {pieces : List Piece} (whole : Whole pieces) (rest : List Piece) :
    (Layout.measure (pieces ++ rest)).total = width pieces + (Layout.measure rest).total ∧
      (Layout.measure (pieces ++ rest)).ends = (Layout.measure rest).ends := by
  induction whole generalizing rest with
  | nil => simp [width]
  | word text _ ih =>
    obtain ⟨total,ends⟩ := ih rest
    exact ⟨by simp only [List.cons_append,Layout.measure,width_cons]; omega,ends⟩
  | gap blank offset comma _ ih =>
    obtain ⟨total,ends⟩ := ih rest
    exact ⟨by simp only [List.cons_append,Layout.measure,width_cons]; omega,ends⟩
  | seam _ ih =>
    obtain ⟨total,ends⟩ := ih rest
    exact ⟨by simp only [List.cons_append,Layout.measure,width_cons]; omega,ends⟩
  | wide _ ih =>
    obtain ⟨total,ends⟩ := ih rest
    exact ⟨by simp only [List.cons_append,Layout.measure,width_cons]; omega,ends⟩
  | @opening breaking indent inside after _ _ ihInside ihRest =>
    obtain ⟨total,ends⟩ := ihInside (.closing :: (after ++ rest))
    obtain ⟨total',ends'⟩ := ihRest rest
    rw [List.cons_append,List.append_assoc,List.cons_append,measure_opening ends,width_cons,width_append,width_cons]
    simp only [Layout.measure,Piece.width] at total ⊢
    exact ⟨by omega,ends'⟩

/-- The size of a box is at least the room of what is inside. -/
theorem measure_box (breaking : Breaking) (indent : Int) {inside : List Piece} (whole : Whole inside)
    (rest : List Piece) :
    ∃ size, width inside ≤ size ∧
      (measure (box breaking indent inside ++ rest)).pieces =
        (.opening breaking indent,size) :: (measure (inside ++ .closing :: rest)).pieces := by
  obtain ⟨total,ends⟩ := whole.measure (.closing :: rest)
  rw [box_append,measure_opening ends]
  refine ⟨_,?_,rfl⟩
  have closing : (measure (.closing :: rest)).total = (measure rest).total := by simp [measure,Piece.width]
  omega

/-! ### What pieces write -/

/-- Whether pieces, wherever they stand, write a text from a position on that has a property together with the
    position after it. -/
def Lays (pieces : List Piece) (p : Position) (result : String → Position → Prop) : Prop :=
  ∀ rest, ∃ sized, (measure (pieces ++ rest)).pieces = sized ++ (measure rest).pieces ∧
    result (p.written sized) (p.after sized)

/-- Whether pieces may be laid out as a text, where `blank` spaces are still to be written: the words follow each other,
    and at a gap there are its spaces, or the end of a line and the spaces that indent the next one. -/
def Spells : Nat → List Piece → String → Prop
  | _,[],text => text = ""
  | blank,.word word :: rest,text => ∃ later, Spells 0 rest later ∧ text = Position.spaces blank ++ word ++ later
  | blank,.gap more _ comma :: rest,text =>
    Spells (blank + more) rest text ∨ ∃ column later, Spells column rest later ∧
      text = (if comma then Position.spaces blank ++ ",\n" else "\n") ++ later
  | blank,.seam :: rest,text
  | blank,.wide :: rest,text
  | blank,.opening _ _ :: rest,text
  | blank,.closing :: rest,text => Spells blank rest text

/-- Pieces write a text that they may be laid out as. -/
theorem spells_written (p : Position) (sized : List (Piece × Nat)) :
    Spells p.pending (sized.map Prod.fst) (p.written sized) := by
  induction sized generalizing p with
  | nil => rfl
  | cons entry sized ih =>
    obtain ⟨piece,size⟩ := entry
    have later := ih (p.place piece size).1
    rw [List.map_cons,Position.written_cons]
    cases piece with
    | word text => exact ⟨_,later,rfl⟩
    | gap blank offset comma =>
      simp only [Position.place] at later ⊢
      split at later
      · rename_i fits
        simp only [fits,↓reduceIte]
        exact .inl (by simpa using later)
      · rename_i ends
        simp only [ends]
        exact .inr ⟨_,_,later,rfl⟩
    | opening breaking indent =>
      rw [Position.pending_opening] at later
      rw [Position.text_opening]
      simpa [Spells] using later
    | closing =>
      rw [Position.pending_closing] at later
      rw [Position.text_closing]
      simpa [Spells] using later
    | seam => simpa [Spells,Position.place] using later
    | wide => simpa [Spells,Position.place] using later

theorem spells_closing {blank : Nat} {pieces : List Piece} {text : String} :
    Spells blank (pieces ++ [.closing]) text ↔ Spells blank pieces text := by
  fun_induction Spells blank pieces text <;> simp_all [Spells]

/-- Whether pieces end with a word, perhaps at the end of boxes. -/
inductive EndsInWord : List Piece → Prop
  | word (text : String) : EndsInWord [.word text]
  | closing {pieces : List Piece} : EndsInWord pieces → EndsInWord (pieces ++ [.closing])
  | cons (piece : Piece) {pieces : List Piece} : EndsInWord pieces → EndsInWord (piece :: pieces)

namespace EndsInWord

variable {first pieces : List Piece}

theorem append (word : EndsInWord pieces) : EndsInWord (first ++ pieces) := by
  induction first with
  | nil => exact word
  | cons piece first ih => exact .cons piece ih

theorem box (breaking : Breaking) (indent : Int) (word : EndsInWord pieces) :
    EndsInWord (Layout.box breaking indent pieces) := .closing (.cons _ word)

theorem pending (word : EndsInWord pieces) (p : Position) {sized : List (Piece × Nat)}
    (same : sized.map Prod.fst = pieces) : (p.after sized).pending = 0 := by
  induction word generalizing p sized with
  | word text =>
    obtain ⟨⟨_,size⟩,rfl,rfl⟩ := List.map_eq_singleton_iff.mp same
    rfl
  | closing _ ih =>
    obtain ⟨inside,ended,rfl,within,closing⟩ := List.map_eq_append_iff.mp same
    obtain ⟨⟨_,last⟩,rfl,rfl⟩ := List.map_eq_singleton_iff.mp closing
    rw [Position.after_append,Position.after,Position.after,Position.pending_closing]
    exact ih p within
  | cons piece _ ih =>
    obtain ⟨⟨_,size⟩,sized,rfl,rfl,later⟩ := List.map_eq_cons_iff.mp same
    rw [Position.after]
    exact ih _ later

end EndsInWord

/-- A box is laid out as what is inside. -/
@[simp]
theorem spells_box {blank : Nat} {breaking : Breaking} {indent : Int} {inside : List Piece} {text : String} :
    Spells blank (box breaking indent inside) text ↔ Spells blank inside text := by
  rw [box,List.cons_append,Spells,spells_closing]

/-- The position in a box that does not fit. -/
def Position.inBox (p : Position) (breaking : Breaking) (indent : Int) : Position :=
  { p with indent := p.indent + indent,frames := .broken breaking p.indent :: p.frames }

/-- Whether a position is in the boxes `frames`, which indent their lines by `indent`, with `blank` spaces still to be
    written. -/
structure Position.Within (p : Position) (indent : Int) (frames : List Frame) (blank : Nat) : Prop where
  indent : p.indent = indent
  frames : p.frames = frames
  pending : p.pending = blank

/-- The start of a line in a box that indents its lines by `column`. -/
def Position.line (column : Nat) (frames : List Frame) : Position :=
  ⟨max (margin - column) leastWidth,column,column,frames⟩

namespace Lays

variable {p : Position} {result : String → Position → Prop}

theorem imp {pieces : List Piece} {weaker : String → Position → Prop} (lays : Lays pieces p result)
    (each : ∀ text q, result text q → weaker text q) : Lays pieces p weaker := by
  intro rest
  obtain ⟨sized,same,holds⟩ := lays rest
  exact ⟨sized,same,each _ _ holds⟩

theorem nil (holds : result "" p) : Lays [] p result := fun _ => ⟨[],rfl,holds⟩

theorem append {first second : List Piece} {between : String → Position → Prop} (lays : Lays first p between)
    (next : ∀ text q, between text q → Lays second q fun more r => result (text ++ more) r) :
    Lays (first ++ second) p result := by
  intro rest
  obtain ⟨sized,same,holds⟩ := lays (second ++ rest)
  obtain ⟨sized',same',holds'⟩ := next _ _ holds rest
  refine ⟨sized ++ sized',by rw [List.append_assoc,same,same',List.append_assoc],?_⟩
  rw [Position.written_append,Position.after_append]
  exact holds'

theorem word (text : String) {pieces : List Piece}
    (later : Lays pieces { p with room := p.room - text.utf8ByteSize,pending := 0 } fun more q =>
      result (Position.spaces p.pending ++ text ++ more) q) :
    Lays (.word text :: pieces) p result := by
  intro rest
  obtain ⟨sized,same,holds⟩ := later rest
  refine ⟨(.word text,text.utf8ByteSize) :: sized,by simp [measure,same,Piece.width],?_⟩
  rw [Position.written_cons]
  exact holds

theorem wide {pieces : List Piece} (later : Lays pieces p result) : Lays (.wide :: pieces) p result := by
  intro rest
  obtain ⟨sized,same,holds⟩ := later rest
  refine ⟨(.wide,infinite) :: sized,by simp [measure,same,Piece.width],?_⟩
  rw [Position.written_cons,Position.after]
  simpa [Position.place] using holds

theorem wideIf {condition : Prop} [Decidable condition] {pieces : List Piece} (later : Lays pieces p result) :
    Lays ((if condition then [.wide] else []) ++ pieces) p result := by
  split
  · exact later.wide
  · exact later

/-- In a box that fits a line goes on at a gap. -/
theorem goesOn (blank : Nat) (offset : Int) (comma : Bool) {pieces : List Piece} (fits : p.frames.head? = some .whole)
    (later : Lays pieces { p with room := p.room - blank,pending := p.pending + blank } result) :
    Lays (.gap blank offset comma :: pieces) p result := by
  intro rest
  obtain ⟨sized,same,holds⟩ := later rest
  refine ⟨(.gap blank offset comma,blank + (measure (pieces ++ rest)).lead) :: sized,by
    simp [measure,same,Piece.width],?_⟩
  rw [Position.written_cons,Position.after]
  simpa [Position.place,Position.goesOn,fits] using holds

/-- In a consistent box that does not fit a gap ends its line. -/
theorem ends (blank : Nat) (offset : Int) (comma : Bool) {indent : Int} {pieces : List Piece}
    (broken : p.frames.head? = some (.broken .consistent indent))
    (later : Lays pieces
      ⟨max (margin - (p.indent + offset)) leastWidth,p.indent,(p.indent + offset).toNat,p.frames⟩ fun more q =>
        result ((if comma then Position.spaces p.pending ++ ",\n" else "\n") ++ more) q) :
    Lays (.gap blank offset comma :: pieces) p result := by
  intro rest
  obtain ⟨sized,same,holds⟩ := later rest
  refine ⟨(.gap blank offset comma,blank + (measure (pieces ++ rest)).lead) :: sized,by
    simp [measure,same,Piece.width],?_⟩
  rw [Position.written_cons,Position.after]
  simpa [Position.place,Position.goesOn,broken] using holds

theorem hard (offset : Int) {indent : Int} {pieces : List Piece}
    (broken : p.frames.head? = some (.broken .consistent indent))
    (later : Lays pieces
      ⟨max (margin - (p.indent + offset)) leastWidth,p.indent,(p.indent + offset).toNat,p.frames⟩ fun more q =>
        result ("\n" ++ more) q) :
    Lays (.hard offset :: pieces) p result := ends infinite offset false broken later

/-- In a consistent box that does not fit a gap without an offset leads to the next line of the box. -/
theorem line {column : Nat} {indent : Int} {pieces : List Piece} (inside : p.indent = column)
    (broken : p.frames.head? = some (.broken .consistent indent))
    (later : Lays pieces (.line column p.frames) fun more q => result ("\n" ++ more) q) :
    Lays (.hard 0 :: pieces) p result := by
  refine hard 0 broken ?_
  simpa [Position.line,inside] using later

/-- The pieces that are placed are those that are measured. -/
theorem placed {pieces rest : List Piece} {sized : List (Piece × Nat)}
    (same : (measure (pieces ++ rest)).pieces = sized ++ (measure rest).pieces) : sized.map Prod.fst = pieces := by
  have all := congrArg (List.map Prod.fst) same
  rw [List.map_append,measure_pieces,measure_pieces] at all
  exact (List.append_cancel_right all).symm

/-- Pieces in which every box is closed are laid out somehow. -/
theorem whole {pieces : List Piece} (whole : Whole pieces) (p : Position) :
    Lays pieces p fun text q => Spells p.pending pieces text ∧ q.indent = p.indent ∧ q.frames = p.frames := by
  intro rest
  obtain ⟨sized,same,pieces⟩ := measure_append pieces rest
  exact ⟨sized,same,pieces ▸ spells_written p sized,whole.after p pieces⟩

/-- Pieces that end with a word leave no spaces to write. -/
theorem ending {pieces : List Piece} (whole : Whole pieces) (word : EndsInWord pieces) (p : Position) :
    Lays pieces p fun text q => Spells p.pending pieces text ∧ q.Within p.indent p.frames 0 := by
  intro rest
  obtain ⟨sized,same,pieces⟩ := measure_append pieces rest
  obtain ⟨indent,frames⟩ := whole.after p pieces
  exact ⟨sized,same,pieces ▸ spells_written p sized,indent,frames,word.pending p pieces⟩

/-- A box that fits, or one that does not. -/
theorem boxed {breaking : Breaking} {indent : Int} {inside : List Piece} (whole : Whole inside)
    (broken : Lays inside (p.inBox breaking indent) result)
    (fits : width inside ≤ p.room → Lays inside { p with frames := .whole :: p.frames } result) :
    Lays (Layout.box breaking indent inside) p fun text q =>
      ∃ last, result text last ∧ q = { last with indent := p.indent,frames := p.frames } := by
  intro rest
  obtain ⟨size,large,opening⟩ := measure_box breaking indent whole rest
  -- Whether the box fits or not, its end brings back what was around it.
  have placedBox : ∀ opened : Position, p.place (.opening breaking indent) size = (opened,"") →
      (∀ last : Position, last.indent = opened.indent → last.frames = opened.frames →
        last.place .closing 0 = ({ last with indent := p.indent,frames := p.frames },"")) →
      Lays inside opened result →
      ∃ sized, (measure (Layout.box breaking indent inside ++ rest)).pieces = sized ++ (measure rest).pieces ∧
        ∃ last, result (p.written sized) last ∧
          p.after sized = { last with indent := p.indent,frames := p.frames } := by
    intro opened start finish lays
    obtain ⟨sized,same,holds⟩ := lays (.closing :: rest)
    obtain ⟨column,frames⟩ := whole.after opened (placed same)
    have closed := finish (opened.after sized) column frames
    refine ⟨(.opening breaking indent,size) :: sized ++ [(.closing,0)],?_,opened.after sized,?_,?_⟩
    · have closing : (measure (.closing :: rest)).pieces = (.closing,0) :: (measure rest).pieces := rfl
      rw [opening,same,closing]
      simp
    · rw [List.cons_append,Position.written_cons,Position.written_append,Position.written_cons,start,closed]
      simpa [Position.written,Position.texts] using holds
    · rw [List.cons_append,Position.after,Position.after_append,start,Position.after,closed,Position.after]
  by_cases narrow : p.room < size
  · refine placedBox (p.inBox breaking indent) ?_ ?_ broken
    · simp [Position.place,narrow,Position.inBox]
    · intro last _ frames
      simp only [Position.inBox] at frames
      simp only [Position.place,frames]
  · refine placedBox { p with frames := .whole :: p.frames } ?_ ?_ (fits (by omega))
    · simp [Position.place,narrow]
    · intro last column frames
      have same : last.indent = p.indent := column
      simp only [Position.place,frames,← same]

/-- A box that does not fit. -/
theorem box {breaking : Breaking} {indent : Int} {inside : List Piece} (whole : Whole inside)
    (wide : p.room < width inside) (lays : Lays inside (p.inBox breaking indent) result) :
    Lays (Layout.box breaking indent inside) p fun text q =>
      ∃ last, result text last ∧ q = { last with indent := p.indent,frames := p.frames } :=
  boxed whole lays fun fits => absurd wide (by omega)

/-- What pieces write is what is rendered of them. -/
theorem render {pieces : List Piece} (lays : Lays pieces .start result) : ∃ q, result (Layout.render pieces) q := by
  obtain ⟨sized,same,holds⟩ := lays []
  have all : (measure pieces).pieces = sized := by simpa [measure] using same
  exact ⟨_,by rwa [Layout.render,all]⟩

end Lays

end MsgBindings.Layout
