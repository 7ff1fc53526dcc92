import MsgBindings.Proofs.LaidOut

/-!
The boxes of types and values are closed, whatever the type or the value is (`whole_type`, `whole_value`).
-/
namespace MsgBindings.Target

open Layout

/-! ### Lists of pieces -/

section

variable {items : List (List Piece)}

theorem whole_word (text : String) : Whole [.word text] := .word text .nil

theorem whole_zero (offset : Int) : Whole [.zero offset] := .gap 0 offset false .nil

theorem whole_ite {condition : Prop} [Decidable condition] {pieces : List Piece} (whole : Whole pieces) :
    Whole (if condition then pieces else []) := by
  split
  · exact whole
  · exact .nil

theorem whole_separated (separator : String) (each : ∀ item ∈ items, Whole item) :
    Whole (separated separator items) := by
  induction items with
  | nil => exact .nil
  | cons first rest ih =>
    rw [List.forall_mem_cons] at each
    cases rest with
    | nil => exact each.1
    | cons second rest => exact each.1.append (.word _ (ih each.2))

theorem whole_delimited (each : ∀ item ∈ items, Whole item) : Whole (delimited items) := by
  induction items with
  | nil => exact .nil
  | cons first rest ih =>
    rw [List.forall_mem_cons] at each
    cases rest with
    | nil => exact each.1.append (.gap _ _ _ .nil)
    | cons second rest => exact each.1.append (.word _ (.gap _ _ _ (ih each.2)))

theorem whole_filled (each : ∀ item ∈ items, Whole item) : Whole (filled items) := by
  induction items with
  | nil => exact .nil
  | cons first rest ih =>
    rw [List.forall_mem_cons] at each
    cases rest with
    | nil => exact each.1
    | cons second rest => exact each.1.append (.word _ (.gap _ _ _ (ih each.2)))

theorem whole_bracketed (each : ∀ item ∈ items, Whole item) : Whole (bracketed items) := by
  cases items with
  | nil => exact whole_zero _
  | cons first rest => exact .gap _ _ _ (whole_delimited each)

theorem whole_bracketBox (each : ∀ item ∈ items, Whole item) : Whole (bracketBox items) := by
  cases items with
  | nil => exact .nil
  | cons first rest => exact .box _ _ (whole_bracketed each)

theorem whole_globalPieces (isGlobal : Bool) (each : ∀ item ∈ items, Whole item) :
    ∀ item ∈ globalPieces isGlobal items, Whole item := by
  unfold globalPieces
  split
  · exact List.forall_mem_cons.mpr ⟨.nil,each⟩
  · exact each

theorem whole_constraintPieces (each : ∀ item ∈ items, Whole item) : Whole (constraintPieces items) := by
  cases items with
  | nil => exact .nil
  | cons first rest =>
    rw [List.forall_mem_cons] at each
    refine .word _ (each.1.append ?_)
    have later := each.2
    clear each
    induction rest with
    | nil => exact .nil
    | cons second rest ih =>
      rw [List.forall_mem_cons] at later
      exact .gap _ _ _ (.word _ (later.1.append (ih later.2)))

theorem whole_anglePieces {arguments : List (Bool × List Piece)} (each : ∀ a ∈ arguments, Whole a.2) :
    Whole (anglePieces arguments) := by
  have moved : ∀ item ∈ ((arguments.partition (·.1)).1 ++ (arguments.partition (·.1)).2).map (·.2), Whole item := by
    simp only [List.partition_eq_filter_filter,List.forall_mem_map,List.mem_append,List.mem_filter]
    rintro a (⟨member,_⟩ | ⟨member,_⟩) <;> exact each a member
  unfold anglePieces
  dsimp only
  split
  · exact .nil
  · exact .word _ ((whole_bracketBox moved).append (whole_word _))

end

/-! ### Types -/

theorem whole_generality (lifetimes : Option (List String)) : Whole (generalityPieces lifetimes) := by
  cases lifetimes with
  | none => exact .nil
  | some names => exact whole_word _

theorem whole_constant (constant : ConstantExpr) : Whole constant.pieces := by
  induction constant with
  | literal negative text => exact whole_word _
  | path isGlobal names => exact whole_word _
  | block content ih =>
    exact .box _ _ (.word _ (.gap _ _ _ ((Whole.box _ _ ih).append (.gap _ _ _ (whole_word _)))))

theorem whole_qualifiers (q : FunctionQualifiers) : Whole q.pieces := by
  refine ((whole_generality _).append (whole_word _)).append ?_
  split
  · exact .nil
  · exact whole_word _
  · exact whole_word _

mutual

theorem whole_type : (type : TypeExpr) → Whole type.pieces
  | .path isGlobal segments => whole_separated _ (whole_globalPieces _ (whole_segments segments))
  | .item owner isGlobal through segments => by
    rw [TypeExpr.pieces]
    refine ((Whole.word _ (whole_type owner)).append ?_).append
      (.word _ (whole_separated _ (whole_segments segments)))
    split
    · exact .nil
    · exact .word _ (whole_separated _ (whole_globalPieces _ (whole_segments through)))
  | .reference lifetime isMutable target => by
    rw [TypeExpr.pieces]
    have lifetimes : Whole (lifetime.map fun name => Piece.word ("'" ++ name ++ " ")).toList := by
      cases lifetime with
      | none => exact .nil
      | some name => exact whole_word _
    exact ((Whole.word _ lifetimes).append (whole_ite (whole_word _))).append (whole_type target)
  | .pointer _ target => .word _ (whole_type target)
  | .slice element => by
    rw [TypeExpr.pieces]
    exact .word _ ((whole_type element).append (whole_word _))
  | .array element size => by
    rw [TypeExpr.pieces]
    exact ((Whole.word _ (whole_type element)).append (.word _ (whole_constant size))).append (whole_word _)
  | .tuple elements => by
    rw [TypeExpr.pieces]
    have each := whole_types elements
    refine .word _ (Whole.append ?_ (whole_word _))
    split
    · rename_i only same
      rw [same,List.forall_mem_singleton] at each
      exact .box _ _ (.gap _ _ _ (each.append (.word _ (whole_zero _))))
    · exact whole_bracketBox each
  | .parenthesized inner => by
    rw [TypeExpr.pieces]
    exact .word _ ((whole_type inner).append (whole_word _))
  | .never => whole_word _
  | .hole => whole_word _
  | .function qualifiers parameters result => by
    rw [TypeExpr.pieces]
    exact ((whole_qualifiers qualifiers).append (.word _ (whole_bracketBox (whole_parameters parameters)))).append
      (.word _ (whole_result result))
  | .object _ bounds => .word _ (whole_separated _ (whole_bounds bounds))
  | .implementing bounds => .word _ (whole_separated _ (whole_bounds bounds))

theorem whole_types : (types : List TypeExpr) → ∀ item ∈ typesPieces types, Whole item
  | [] => by simp [typesPieces]
  | type :: rest => by
    rw [typesPieces,List.forall_mem_cons]
    exact ⟨whole_type type,whole_types rest⟩

theorem whole_result : (result : Option TypeExpr) → Whole (resultPieces result)
  | none => .nil
  | some type => .word _ (whole_type type)

theorem whole_parameters : (parameters : List Parameter) → ∀ item ∈ parametersPieces parameters, Whole item
  | [] => by simp [parametersPieces]
  | .mk none type :: rest => by
    rw [parametersPieces,List.forall_mem_cons]
    exact ⟨whole_type type,whole_parameters rest⟩
  | .mk (some name) type :: rest => by
    rw [parametersPieces,List.forall_mem_cons]
    exact ⟨.word _ (whole_type type),whole_parameters rest⟩

theorem whole_segments : (segments : List Segment) → ∀ item ∈ segmentsPieces segments, Whole item
  | [] => by simp [segmentsPieces]
  | .mk name arguments :: rest => by
    rw [segmentsPieces,List.forall_mem_cons]
    exact ⟨.word _ (whole_arguments arguments),whole_segments rest⟩

theorem whole_arguments : (arguments : Arguments) → Whole arguments.pieces
  | .none => .nil
  | .angle arguments => whole_anglePieces (whole_argumentList arguments)
  | .round inputs result => by
    rw [Arguments.pieces]
    exact .box _ _ (.word _ ((whole_bracketed (whole_types inputs)).append (.word _ (whole_result result))))

theorem whole_argumentList : (arguments : List Argument) → ∀ a ∈ argumentsPieces arguments, Whole a.2
  | [] => by simp [argumentsPieces]
  | .lifetime name :: rest => by
    rw [argumentsPieces,List.forall_mem_cons]
    exact ⟨whole_word _,whole_argumentList rest⟩
  | .type type :: rest => by
    rw [argumentsPieces,List.forall_mem_cons]
    exact ⟨whole_type type,whole_argumentList rest⟩
  | .constant constant :: rest => by
    rw [argumentsPieces,List.forall_mem_cons]
    exact ⟨whole_constant constant,whole_argumentList rest⟩
  | .binding name arguments type :: rest => by
    rw [argumentsPieces,List.forall_mem_cons]
    exact ⟨.word _ ((whole_arguments arguments).append (.word _ (whole_type type))),whole_argumentList rest⟩
  | .constantBinding name arguments constant :: rest => by
    rw [argumentsPieces,List.forall_mem_cons]
    exact ⟨.word _ ((whole_arguments arguments).append (.word _ (whole_constant constant))),whole_argumentList rest⟩
  | .constraint name arguments bounds :: rest => by
    rw [argumentsPieces,List.forall_mem_cons]
    exact ⟨.word _ ((whole_arguments arguments).append (.box _ _ (whole_constraintPieces (whole_bounds bounds)))),
      whole_argumentList rest⟩

theorem whole_bounds : (bounds : List Bound) → ∀ item ∈ boundsPieces bounds, Whole item
  | [] => by simp [boundsPieces]
  | .lifetime name :: rest => by
    rw [boundsPieces,List.forall_mem_cons]
    exact ⟨whole_word _,whole_bounds rest⟩
  | .trait isParenthesized lifetimes isOptional isGlobal segments :: rest => by
    rw [boundsPieces,List.forall_mem_cons]
    refine ⟨?_,whole_bounds rest⟩
    have path := whole_separated "::" (whole_globalPieces isGlobal (whole_segments segments))
    exact ((((whole_word _).append (whole_generality lifetimes)).append (whole_ite (whole_word _))).append path).append
      (whole_word _)

end

/-! ### Values -/

theorem whole_scalar (e : ScalarExpr) : Whole e.pieces := by
  cases e with
  | literal p v => exact whole_word _
  | owned text =>
    have literal := whole_bracketed (List.forall_mem_singleton.mpr (whole_word (stringLiteral text)))
    exact .word _ ((Whole.box _ _ literal).append (whole_word _))

theorem whole_tokenPieces (e : ScalarExpr) : Whole e.tokenPieces := by
  cases e with
  | literal p v =>
    rw [ScalarExpr.tokenPieces]
    split
    · exact .word _ (.gap _ _ _ (whole_word _))
    · exact whole_word _
  | owned text => exact whole_word _

theorem whole_value (v : ValueExpr) : Whole v.pieces := by
  cases v with
  | scalar e => exact whole_scalar e
  | array elements =>
    have each : ∀ item ∈ elements.map ScalarExpr.pieces, Whole item :=
      List.forall_mem_map.mpr fun e _ => whole_scalar e
    cases elements with
    | nil => exact whole_word _
    | cons e es =>
      rw [ValueExpr.pieces]
      · split
        · exact .box _ _ (.word _ (.gap _ _ _ ((Whole.box _ _ (whole_filled each)).append (.gap _ _ _ (whole_word _)))))
        · exact .word _ ((Whole.box _ _ (whole_bracketed each)).append (whole_word _))
      · simp
  | vector elements =>
    have each : ∀ item ∈ elements.map ScalarExpr.tokenPieces, Whole item :=
      List.forall_mem_map.mpr fun e _ => whole_tokenPieces e
    cases elements with
    | nil => exact whole_word _
    | cons e es =>
      rw [ValueExpr.pieces]
      · have inside := Whole.gap 0 0 false ((Whole.box .inconsistent 0 (whole_filled each)).append (whole_zero (-step)))
        exact .word _ ((Whole.box _ _ inside).append (whole_word _))
      · simp
  | default => exact whole_word _
  | defaults =>
    have parameter : Whole [.word "|",.zero 0,.word "_|",.gap 1 (-step) false] :=
      .word _ (.gap _ _ _ (.word _ (.gap _ _ _ .nil)))
    exact .word _ ((Whole.box _ _ parameter).append (.seam (.word _ (whole_word _))))

/-- A value ends with a word, so no spaces are left to write after it. -/
theorem endsInWord_value (v : ValueExpr) : EndsInWord v.pieces := by
  cases v with
  | scalar e =>
    cases e with
    | literal p v => exact .word _
    | owned text => exact .append (.word ")")
  | array elements =>
    cases elements with
    | nil => exact .word _
    | cons e es =>
      rw [ValueExpr.pieces]
      · split
        · have ending : EndsInWord [.lastComma 0,.word "]"] := .cons _ (.word "]")
          exact .box _ _ ending.append
        · exact .append (.word "]")
      · simp
  | vector elements =>
    cases elements with
    | nil => exact .word _
    | cons e es =>
      rw [ValueExpr.pieces]
      · exact .append (.word "]")
      · simp
  | default => exact .word _
  | defaults => exact .append (.cons _ (.cons _ (.word ")")))

theorem whole_implementation {subject : List Piece} (whole : Whole subject) :
    Whole (box .inconsistent (-step) (box .consistent step [.word "impl"] ++ .word " " :: subject)) :=
  .box _ _ ((Whole.box _ _ (whole_word _)).append (.word _ whole))

theorem whole_implementationHead {subject : List Piece} (whole : Whole subject) :
    Whole (implementationHead subject) := (whole_implementation whole).append (whole_word _)

end MsgBindings.Target
