import MsgBindings.Proofs.ClosedBoxes
import MsgBindings.Proofs.NestedTokens

/-!
The boxes of derives are closed. A derive is a path, so its groups nest, and those in parentheses still do when its
tokens are arranged (`balanced_of_tokens?`). A box opens and closes with each of these (`whole_attributePieces`).
-/
namespace MsgBindings.Target

open Layout

/-! ### Parentheses -/

/-- Whether tokens close `n` parentheses, and each one that opens in them. -/
inductive ClosesRound : Nat → List Token → Prop
  | done : ClosesRound 0 []
  | other {n : Nat} {t : Token} {s : List Token} :
      t ≠ .opening .round → t ≠ .closing .round → ClosesRound n s → ClosesRound n (t :: s)
  | opening {n : Nat} {s : List Token} : ClosesRound (n + 1) s → ClosesRound n (.opening .round :: s)
  | closing {n : Nat} {s : List Token} : ClosesRound n s → ClosesRound (n + 1) (.closing .round :: s)

/-- Whether the parentheses in tokens are closed. -/
def Balanced (s : List Token) : Prop := ∀ n t, ClosesRound n t → ClosesRound n (s ++ t)

namespace Balanced

variable {s t : List Token} {parts : List (List Token)}

theorem nil : Balanced [] := fun _ _ rest => rest

theorem append (first : Balanced s) (second : Balanced t) : Balanced (s ++ t) := by
  intro n rest closes
  rw [List.append_assoc]
  exact first _ _ (second _ _ closes)

theorem other {token : Token} (notOpening : token ≠ .opening .round) (notClosing : token ≠ .closing .round) :
    Balanced [token] := fun _ _ rest => .other notOpening notClosing rest

theorem comma : Balanced [.mark ',' false] := other nofun nofun

theorem group (b : Bracket) (inside : Balanced s) : Balanced (.opening b :: s ++ [.closing b]) := by
  intro n rest closes
  rw [List.append_assoc,List.cons_append]
  cases b with
  | round => exact .opening (inside _ _ (.closing closes))
  | square => exact .other nofun nofun (inside _ _ (.other nofun nofun closes))
  | curly => exact .other nofun nofun (inside _ _ (.other nofun nofun closes))

theorem separated (each : ∀ part ∈ parts, Balanced part) :
    Balanced (parts.intersperse [.mark ',' false]).flatten := by
  induction parts with
  | nil => exact nil
  | cons first rest ih =>
    rw [List.forall_mem_cons] at each
    cases rest with
    | nil => simpa using each.1
    | cons second rest =>
      rw [List.intersperse_cons_cons,List.flatten_cons,List.flatten_cons]
      exact each.1.append (comma.append (ih each.2))

end Balanced

namespace DeriveList

/-! ### Arranged tokens -/

theorem balanced_arrangeArguments {chunks : List (List Token)} (each : ∀ c ∈ chunks, Balanced c) :
    Balanced (arrangeArguments chunks) := by
  have moved : ∀ c ∈ ((chunks.filter (!·.isEmpty)).partition isLifetime).1 ++
      ((chunks.filter (!·.isEmpty)).partition isLifetime).2, Balanced c := by
    simp only [List.partition_eq_filter_filter,List.mem_append,List.mem_filter]
    rintro c (⟨⟨member,_⟩,_⟩ | ⟨⟨member,_⟩,_⟩) <;> exact each c member
  have closed : ∀ {s : List Token} (ends : Bool), Balanced s →
      Balanced (if ends then s ++ [.mark ',' false] else s) := by
    intro s ends balanced
    split
    · exact balanced.append .comma
    · exact balanced
  exact closed _ (.separated moved)

theorem balanced_prepend {tokens : List Token} {chunks : List (List Token)} (front : Balanced tokens)
    (each : ∀ c ∈ chunks, Balanced c) : ∀ c ∈ prepend tokens chunks, Balanced c := by
  cases chunks with
  | nil => simpa [prepend] using front
  | cons first rest =>
    rw [List.forall_mem_cons] at each
    exact List.forall_mem_cons.mpr ⟨front.append each.1,each.2⟩

/-- Whether tokens start with the end of the innermost open group, or are at their end where none is open. -/
def AtEnd : List Group → List Token → Prop
  | [], s => s = []
  | .bracket b :: σ, s => ∃ rest, s = .closing b :: rest ∧ Closes σ rest
  | .angle :: σ, s => ∃ joint rest, s = .mark '>' joint :: rest ∧ Closes σ rest

/-- What cutting tokens into chunks comes to, up to the end of the innermost open group. -/
structure Cuts (σ : List Group) (s : List Token) (cut : List (List Token) × List Token) : Prop where
  balanced : ∀ c ∈ cut.1, Balanced c
  ends : AtEnd σ cut.2
  shorter : cut.2.length ≤ s.length

theorem cuts_chunks (fuel : Nat) {σ : List Group} {s : List Token} (closes : Closes σ s) (enough : s.length < fuel) :
    Cuts σ s (chunks fuel s) := by
  have single : ∀ c ∈ [([] : List Token)], Balanced c := by simpa using Balanced.nil
  -- The open groups are generalized: inside of a group there is one more of them, and behind it those from before.
  fun_induction chunks fuel s generalizing σ with
  | case1 => contradiction
  | case2 =>
    cases closes
    exact ⟨single,rfl,Nat.le_refl _⟩
  | case3 =>
    cases closes with
    | plain plain => cases plain
    | closing closes => exact ⟨single,⟨_,rfl,closes⟩,Nat.le_refl _⟩
  | case4 fuel joint rest more after cut ih =>
    have closes : Closes σ rest := by
      cases closes with
      | plain plain => cases plain
      | arrow _ closes => exact closes
    obtain ⟨balanced,ends,shorter⟩ := cut ▸ ih closes (by grind)
    have arrow : Balanced [.mark '-' true,.mark '>' joint] := fun _ _ rest =>
      .other nofun nofun (.other nofun nofun rest)
    exact ⟨balanced_prepend arrow balanced,ends,by grind⟩
  | case5 =>
    cases closes with
    | plain plain => cases plain
    | greater _ closes => exact ⟨single,⟨_,_,rfl,closes⟩,Nat.le_refl _⟩
  | case6 fuel joint rest more after cut ih =>
    have closes : Closes σ rest := by
      cases closes with
      | plain _ closes => exact closes
    obtain ⟨balanced,ends,shorter⟩ := cut ▸ ih closes (by grind)
    exact ⟨List.forall_mem_cons.mpr ⟨.nil,balanced⟩,ends,by grind⟩
  | case7 fuel joint rest inside closing inner more after cut ihInside ihRest =>
    have closes : Closes (.angle :: σ) rest := by
      cases closes with
      | plain plain => cases plain
      | less _ closes => exact closes
    obtain ⟨balanced,⟨joint',behind,rfl,closes⟩,shorter⟩ := inner ▸ ihInside closes (by grind)
    obtain ⟨balanced',ends,shorter'⟩ := cut ▸ ihRest closes (by grind)
    have less : Balanced [.mark '<' joint] := .other nofun nofun
    have greater : Balanced [.mark '>' joint'] := .other nofun nofun
    have group := (less.append (balanced_arrangeArguments balanced)).append greater
    exact ⟨balanced_prepend group balanced',ends,by grind⟩
  | case8 fuel joint rest ih =>
    have closes : Closes σ (.opening .round :: rest) := by
      cases closes with
      | plain _ closes =>
        cases closes with
        | plain _ closes => exact closes
    obtain ⟨balanced,ends,shorter⟩ := ih closes (by grind)
    exact ⟨balanced,ends,by grind⟩
  | case9 fuel bracket rest inside closing inner more after cut tokens ihInside =>
    rename_i ihRest
    have closes : Closes (.bracket bracket :: σ) rest := by
      cases closes with
      | plain plain => cases plain
      | opening closes => exact closes
    obtain ⟨balanced,⟨behind,rfl,closes⟩,shorter⟩ := inner ▸ ihInside closes (by grind)
    obtain ⟨balanced',ends,shorter'⟩ := cut ▸ ihRest closes (by grind)
    have group := (Balanced.separated balanced).group bracket
    exact ⟨balanced_prepend group balanced',ends,by grind⟩
  | case10 fuel token rest notClosing notArrow notGreater _ notLess _ notOpening more after cut ih =>
    have closes : Closes σ rest := by
      cases closes with
      | plain _ closes => exact closes
      | negative _ _ closes => exact .plain rfl closes
      | arrow joint _ => exact (notArrow joint _ rfl rfl).elim
      | opening => exact (notOpening _ rfl).elim
      | closing => exact (notClosing _ rfl).elim
      | less => exact (notLess _ rfl).elim
      | greater => exact (notGreater _ rfl).elim
    obtain ⟨balanced,ends,shorter⟩ := cut ▸ ih closes (by grind)
    have single := Balanced.other (notOpening .round) (notClosing .round)
    exact ⟨balanced_prepend single balanced,ends,by grind⟩

theorem balanced_arrange {tokens : List Token} (closes : Closes [] tokens) : Balanced (arrange tokens) :=
  .separated (cuts_chunks _ closes (by omega)).balanced

/-- The parentheses in a derive are closed. -/
theorem balanced_of_tokens? {text : String} {tokens : List Token} (made : tokens? text = some tokens) :
    Balanced tokens := by
  unfold tokens? at made
  obtain ⟨path,read,made⟩ := Option.bind_eq_some_iff.mp made
  obtain ⟨written,lexed,made⟩ := Option.bind_eq_some_iff.mp made
  cases made
  exact balanced_arrange (closes_of_path read lexed)

/-! ### The boxes of derives -/

/-- Whether pieces close `n` boxes, and each one that opens in them. -/
def ClosesBoxes : Nat → List Piece → Prop
  | 0, pieces => Whole pieces
  | n + 1, pieces => ∃ inside rest, pieces = inside ++ .closing :: rest ∧ Whole inside ∧ ClosesBoxes n rest

theorem ClosesBoxes.append {n : Nat} {front pieces : List Piece} (closes : ClosesBoxes n pieces)
    (whole : Whole front) : ClosesBoxes n (front ++ pieces) := by
  cases n with
  | zero => exact whole.append closes
  | succ n =>
    obtain ⟨inside,rest,rfl,within,closes⟩ := closes
    exact ⟨front ++ inside,rest,by simp,whole.append within,closes⟩

theorem ClosesBoxes.opening {n : Nat} {pieces : List Piece} (breaking : Breaking) (indent : Int)
    (closes : ClosesBoxes (n + 1) pieces) : ClosesBoxes n (.opening breaking indent :: pieces) := by
  obtain ⟨inside,rest,rfl,within,closes⟩ := closes
  cases n with
  | zero => exact Whole.opening _ _ within closes
  | succ n =>
    obtain ⟨inside',rest,rfl,within',closes⟩ := closes
    exact ⟨_,rest,by simp,Whole.opening breaking indent within within',closes⟩

/-- The pieces of tokens close a box for each parenthesis that the tokens close. -/
theorem closesBoxes_pieces {n : Nat} {tokens : List Token} (closes : ClosesRound n tokens) (before : Before) :
    ClosesBoxes n (pieces before tokens) := by
  induction closes generalizing before with
  | done => exact Whole.nil
  | @other n token rest notOpening notClosing _ ih =>
    unfold pieces
    dsimp only
    split
    · exact ((ih .word).append (whole_word _)).append (whole_ite (.gap _ _ _ .nil))
    · exact ((ih .word).append (whole_word _)).append (whole_ite (.gap _ _ _ .nil))
    · exact (ih .word).append (whole_word _)
    · split
      · exact (ih .lastComma).append (.gap _ _ _ .nil)
      · exact (ih .mark).append (.word "," (.gap _ _ _ .nil))
    · exact ((ih .mark).append (whole_word _)).append (whole_ite (whole_word _))
    · exact (ih .mark).append (whole_word _)
    · contradiction
    · exact (ih .mark).append (whole_word _)
    · exact (ih .mark).append (whole_word _)
    · contradiction
    · exact (ih .mark).append (whole_word _)
    · exact (ih .mark).append (whole_word _)
  | opening _ ih =>
    exact (((ih .mark).append (whole_zero 0)).opening _ _).append (whole_word "(")
  | closing _ ih =>
    refine ⟨_,_,rfl,?_,(ih .mark).append (whole_word ")")⟩
    split
    · exact .nil
    · exact whole_zero _

end DeriveList

/-- The attribute that lists derives, without the end of its line. -/
def attributePieces (derives : List (List Token)) : List Piece :=
  .word "#[derive" ::
    DeriveList.pieces .mark (.opening .round :: DeriveList.join derives ++ [.closing .round]) ++ [.word "]"]

theorem derivePieces_eq (derives : List (List Token)) :
    derivePieces derives = attributePieces derives ++ [.hard 0] := by
  simp [derivePieces,attributePieces]

theorem whole_attributePieces {derives : List (List Token)} (each : ∀ derive ∈ derives, Balanced derive) :
    Whole (attributePieces derives) := by
  have closes := (Balanced.separated each).group .round 0 [] .done
  rw [List.append_nil] at closes
  have inside : Whole _ := DeriveList.closesBoxes_pieces closes .mark
  exact (Whole.word _ inside).append (whole_word _)

end MsgBindings.Target
