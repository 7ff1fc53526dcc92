import MsgBindings.Proofs.LiteralTokens
import MsgBindings.Proofs.TypeReading
import MsgBindings.Target.Expression
import MsgBindings.Target.ValueText

/-!
Reading the values of generated code. A text that is read as an expression may stand in front of whatever ends one
(`ReadsAs`), so texts are put together by a rule for each kind of expression, and the text of every value is read as
the tree of that value (`read?_text`).
-/
namespace MsgBindings.Target

open Token

namespace Reader

variable {s rest : List Token} {names : List String} {isGlobal : Bool}

/-! ### Paths of constants -/

theorem names_path (filled : names ≠ []) (words : ∀ n ∈ names, isName n = true ∨ n ∈ ["super","self","crate"])
    (stops : atPair ':' ':' rest = false) {fuel : Nat} (enough : names.length ≤ fuel) :
    Reader.names fuel (nameTokens names ++ rest) = some (names,rest) := by
  induction names generalizing fuel with
  | nil => contradiction
  | cons name names ih =>
    obtain ⟨fuel,rfl⟩ : ∃ n, fuel = n + 1 := ⟨fuel - 1,by simp only [List.length_cons] at enough; omega⟩
    rw [List.forall_mem_cons] at words
    have guarded : (isName name || decide (name ∈ ["super","self","Self","crate","try"])) = true := by
      rcases words.1 with named | around
      · simp [named]
      · simp only [List.mem_cons,List.not_mem_nil,or_false] at around
        rcases around with rfl | rfl | rfl <;> rfl
    cases names with
    | nil =>
      rw [nameTokens,List.singleton_append,Reader.names]
      refine (bind_of_eq (word_apply name rest)).trans ?_
      refine (bind_of_eq (guard_pos guarded rest)).trans ?_
      refine (bind_of_eq (get_apply rest)).trans ?_
      rw [if_neg (ne_true_of_eq_false stops)]
      rfl
    | cons next more =>
      have later : Reader.names fuel (nameTokens (next :: more) ++ rest) = some (next :: more,rest) :=
        ih (by simp) words.2 (by simp only [List.length_cons] at enough ⊢; omega)
      have tokens : nameTokens (name :: next :: more) ++ rest =
          .identifier name :: (colons ++ (nameTokens (next :: more) ++ rest)) := rfl
      rw [tokens,Reader.names]
      refine (bind_of_eq (word_apply name _)).trans ?_
      refine (bind_of_eq (guard_pos guarded _)).trans ?_
      refine (bind_of_eq (get_apply _)).trans ?_
      rw [if_pos (by rfl)]
      refine (bind_of_eq (skip_apply 2 _)).trans ?_
      exact bind_of_eq later

theorem constant_path (filled : names ≠ []) (words : ∀ n ∈ names, isName n = true ∨ n ∈ ["super","self","crate"])
    (stops : atPair ':' ':' rest = false) {fuel : Nat} (enough : names.length ≤ fuel) :
    constant fuel (pathTokens isGlobal names ++ rest) = some (.path isGlobal names,rest) := by
  have other : atLiteral (pathTokens isGlobal names ++ rest) = false :=
    (atPath_pathTokens isGlobal filled words rest).other.2.1
  rw [constant]
  refine (bind_of_eq (get_apply _)).trans ?_
  rw [if_neg (ne_true_of_eq_false other)]
  refine (bind_of_eq (optional_colons isGlobal filled rest)).trans ?_
  exact bind_of_eq (names_path filled words stops enough)

/-! ### Expressions -/

/-- Whether what follows may end an expression: nothing, a comma or a closing bracket. -/
def Ends : List Token → Prop
  | [] | .mark ',' _ :: _ | .closing _ :: _ => True
  | _ => False

theorem Ends.stops (ends : Ends rest) :
    atPair ':' ':' rest = false ∧ atOpening .round rest = false ∧ atExpansion rest = false := by
  unfold Ends at ends
  split at ends
  · exact ⟨rfl,rfl,rfl⟩
  · rename_i joint tail
    refine ⟨?_,rfl,rfl⟩
    cases joint <;> rcases tail with _ | ⟨_ | _ | _ | _ | _ | _,_⟩ <;> rfl
  · exact ⟨rfl,rfl,rfl⟩
  · exact ends.elim

end Reader

variable {text inner : List Char} {x : Expression} {ts : List Token}

/-- Whether a text is read as an expression in front of whatever ends one. The length of its tokens bounds how deep
    the reading nests, and the first of them is no closing bracket. -/
structure ReadsAs (text : List Char) (x : Expression) : Prop where
  read : ∃ tokens, (∀ {rest ts}, Parted rest → Reads rest ts → Reads (text ++ rest) (tokens ++ ts)) ∧
    (∀ bracket ts, Reader.atClosing bracket (tokens ++ ts) = false) ∧
    ∀ {fuel ts}, Reader.Ends ts → 2 * tokens.length ≤ fuel →
      Reader.expression fuel (tokens ++ ts) = some (x,ts)
  marked : ∃ joint, ∀ rest, startsMark (text ++ rest) = joint
  plain : ∀ c ∈ text.head?, c.toNat ≠ 0xFEFF

/-- What is read as an expression in front of what may end one is one on its own. -/
theorem read?_of_readsAs (reads : ReadsAs text x) : Expression.read? text = some x := by
  obtain ⟨tokens,read,-,run⟩ := reads.read
  have alone : Reads text tokens := by
    simpa using read (by simp [Parted]) reads_nil
  refine Reader.readAll_of_reads alone reads.plain ?_
  have here : Reader.expression (16 * (tokens.length + 1)) (tokens ++ []) = some (x,[]) := run trivial (by omega)
  rwa [List.append_nil] at here

/-! ### A rule for each kind of expression -/

/-- What begins with a constant goes on after it. -/
theorem Reader.expression_of_constant {s rest : List Token} {content : ConstantExpr} {fuel : Nat}
    (minus : atMark '-' s = false) (square : atOpening .square s = false) (bar : atMark '|' s = false)
    (read : constant fuel s = some (content,rest)) :
    expression (fuel + 1) s =
      match content with
      | .path isGlobal names => afterPath isGlobal names fuel rest
      | content => some (.constant content,rest) := by
  rw [expression]
  refine (bind_of_eq (optional_neg minus 1)).trans ?_
  rw [if_neg Bool.false_ne_true]
  refine (bind_of_eq (optional_neg square 1)).trans ?_
  rw [if_neg Bool.false_ne_true]
  refine (bind_of_eq (optional_neg bar 1)).trans ?_
  rw [if_neg Bool.false_ne_true]
  refine (bind_of_eq read).trans ?_
  cases content <;> rfl

/-- A literal is read as itself. -/
theorem readsAs_literal {literal : String} {number : Bool}
    (read : ∀ {rest ts}, Parted rest → Reads rest ts → Reads (text ++ rest) (.literal literal number :: ts))
    (first : ∃ c more, text = c :: more ∧ (c.isDigit = true ∨ c = '"')) :
    ReadsAs text (.constant (.literal false literal)) := by
  obtain ⟨c,more,rfl,start⟩ := first
  refine ⟨⟨[.literal literal number],read,fun _ _ => rfl,?_⟩,⟨false,fun rest => ?_⟩,?_⟩
  · intro fuel ts ends enough
    obtain ⟨fuel,rfl⟩ : ∃ n, fuel = n + 1 := ⟨fuel - 1,by simp only [List.length_singleton] at enough; omega⟩
    have itself : Reader.constant fuel (.literal literal number :: ts) = some (.literal false literal,ts) := rfl
    exact Reader.expression_of_constant rfl rfl rfl itself
  · have marks : ∀ m ∈ "~!@#$%^&*-=+|;:,<.>/?'".toList, ¬ (m.isDigit = true ∨ m = '"') := by decide
    have other : isMark c = false := by
      rw [isMark,← Bool.not_eq_true,List.contains_iff_mem]
      exact fun member => marks c member start
    rw [List.cons_append]
    exact startsMark_of_not_isMark other _
  · intro d here
    obtain rfl : c = d := Option.some.inj here
    rcases start with digit | rfl
    · have range := Text.isDigit_iff.mp digit
      omega
    · decide

theorem readsAs_truth (v : Bool) :
    ReadsAs (if v then "true" else "false").toList (.constant (.literal false (if v then "true" else "false"))) := by
  have word : ∀ name ∈ ["true","false"], IsSpelled name.toList ∧ ∀ c ∈ name.toList, c.toNat ≠ 0xFEFF := by decide
  have each : ∀ name ∈ ["true","false"], ReadsAs name.toList (.constant (.literal false name)) := by
    intro name member
    obtain ⟨spelled,plain⟩ := word name member
    refine ⟨⟨[.identifier name],reads_name (.inl spelled),fun _ _ => rfl,?_⟩,⟨false,fun rest => ?_⟩,
      fun c first => plain c (List.mem_of_mem_head? first)⟩
    · intro fuel ts ends enough
      obtain ⟨fuel,rfl⟩ : ∃ n, fuel = n + 1 := ⟨fuel - 1,by simp only [List.length_singleton] at enough; omega⟩
      have truth : Reader.constant fuel (.identifier name :: ts) = some (.literal false name,ts) := by
        simp only [List.mem_cons,List.not_mem_nil,or_false] at member
        rcases member with rfl | rfl <;> rfl
      exact Reader.expression_of_constant rfl rfl rfl truth
    · exact startsMark_name (.inl spelled)
  cases v with
  | true => exact each "true" (by simp)
  | false => exact each "false" (by simp)

/-- The tokens of a path begin as no other expression does. -/
theorem pathTokens_other (isGlobal : Bool) {names : List String} (filled : names ≠ []) (s : List Token) :
    Reader.atMark '-' (pathTokens isGlobal names ++ s) = false ∧
      Reader.atOpening .square (pathTokens isGlobal names ++ s) = false ∧
      Reader.atMark '|' (pathTokens isGlobal names ++ s) = false ∧
      ∀ bracket, Reader.atClosing bracket (pathTokens isGlobal names ++ s) = false := by
  obtain ⟨name,more,rfl⟩ := List.exists_cons_of_ne_nil filled
  cases isGlobal <;> cases more <;> exact ⟨rfl,rfl,rfl,fun _ => rfl⟩

section

variable {isGlobal : Bool} {names : List String}

theorem startsMark_path (isGlobal : Bool) (filled : names ≠ []) (texts : ∀ n ∈ names, IsNameText n) (rest : List Char) :
    startsMark (pathText isGlobal names ++ rest) = isGlobal := by
  cases isGlobal with
  | true => rfl
  | false =>
    obtain ⟨name,more,rfl⟩ := List.exists_cons_of_ne_nil filled
    obtain ⟨tail,chars⟩ : ∃ tail, pathText false (name :: more) ++ rest = name.toList ++ tail := by
      cases more with
      | nil => exact ⟨rest,rfl⟩
      | cons next more =>
        exact ⟨"::".toList ++ (Text.join "::".toList ((next :: more).map String.toList) ++ rest),by
          simp [pathText,Text.join]⟩
    rw [chars]
    exact startsMark_name (texts name (by simp))

/-- What begins with a path goes on after it. -/
theorem Reader.expression_of_path {rest : List Token} (filled : names ≠ []) (words : ∀ n ∈ names, IsPathName n)
    (stops : atPair ':' ':' rest = false) {fuel : Nat} (enough : names.length ≤ fuel) :
    expression (fuel + 1) (pathTokens isGlobal names ++ rest) = afterPath isGlobal names fuel rest := by
  obtain ⟨minus,square,bar,_⟩ := pathTokens_other isGlobal filled rest
  exact expression_of_constant minus square bar
    (constant_path filled (fun n member => (words n member).2) stops enough)

theorem readsAs_path (filled : names ≠ []) (words : ∀ n ∈ names, Reader.IsPathName n) :
    ReadsAs (pathText isGlobal names) (.constant (.path isGlobal names)) := by
  have texts : ∀ n ∈ names, IsNameText n := fun n member => (words n member).1
  have count := length_le_pathTokens isGlobal names
  refine ⟨⟨pathTokens isGlobal names,?_,?_,?_⟩,⟨isGlobal,fun rest => ?_⟩,?_⟩
  · exact fun parted read => (reads_path isGlobal filled texts parted read).1
  · exact fun bracket ts => (pathTokens_other isGlobal filled ts).2.2.2 bracket
  · intro fuel ts ends enough
    have more := List.length_pos_iff.mpr filled
    obtain ⟨fuel,rfl⟩ : ∃ n, fuel = n + 2 := ⟨fuel - 2,by omega⟩
    obtain ⟨colons,round,expansion⟩ := ends.stops
    rw [Reader.expression_of_path filled words colons (by omega),Reader.afterPath]
    refine (Reader.bind_of_eq (Reader.optional_neg round 1)).trans ?_
    rw [if_neg Bool.false_ne_true]
    refine (Reader.bind_of_eq (Reader.optional_neg expansion 2)).trans ?_
    rw [if_neg Bool.false_ne_true]
    rfl
  · exact startsMark_path isGlobal filled texts rest
  · intro c first
    have ascii := (solid_of_mem_pathText isGlobal texts c (List.mem_of_mem_head? first)).2.2
    omega

end

/-- A space after a minus sign changes nothing. -/
theorem readsAs_space (reads : ReadsAs text x) : ReadsAs (' ' :: text) x := by
  obtain ⟨tokens,read,start,run⟩ := reads.read
  refine ⟨⟨tokens,fun parted after => reads_space (read parted after),start,run⟩,⟨false,fun _ => rfl⟩,?_⟩
  intro c first
  obtain rfl : ' ' = c := Option.some.inj first
  decide

theorem readsAs_negation (reads : ReadsAs text x) : ReadsAs ('-' :: text) (.negation x) := by
  obtain ⟨tokens,read,_,run⟩ := reads.read
  obtain ⟨joint,marked⟩ := reads.marked
  refine ⟨⟨.mark '-' joint :: tokens,?_,fun _ _ => rfl,?_⟩,⟨true,fun rest => ?_⟩,?_⟩
  · intro rest ts parted after
    have here := reads_mark (c := '-') (by decide) (read parted after)
    rwa [marked] at here
  · intro fuel ts ends enough
    rw [List.length_cons] at enough
    obtain ⟨fuel,rfl⟩ : ∃ n, fuel = n + 1 := ⟨fuel - 1,by omega⟩
    rw [List.cons_append,Reader.expression]
    refine (Reader.bind_of_eq (Reader.optional_pos rfl 1)).trans ?_
    rw [if_pos rfl]
    exact Reader.bind_of_eq (run ends (by omega))
  · rfl
  · intro c first
    obtain rfl : '-' = c := Option.some.inj first
    decide

theorem readsAs_function (reads : ReadsAs text x) : ReadsAs ("|_| ".toList ++ text) (.function x) := by
  obtain ⟨tokens,read,_,run⟩ := reads.read
  refine ⟨⟨.mark '|' false :: .identifier "_" :: .mark '|' false :: tokens,?_,fun _ _ => rfl,?_⟩,
    ⟨true,fun rest => rfl⟩,?_⟩
  · intro rest ts parted after
    have bar : Reads ('|' :: ' ' :: (text ++ rest)) (.mark '|' false :: (tokens ++ ts)) :=
      reads_mark (by decide) (reads_space (read parted after))
    have name : Reads ('_' :: '|' :: ' ' :: (text ++ rest)) (.identifier "_" :: .mark '|' false :: (tokens ++ ts)) :=
      reads_word (s := ['_']) (by decide) (by simp [Parted]; decide) bar
    exact reads_mark (c := '|') (by decide) name
  · intro fuel ts ends enough
    simp only [List.length_cons] at enough
    obtain ⟨fuel,rfl⟩ : ∃ n, fuel = n + 1 := ⟨fuel - 1,by omega⟩
    rw [List.cons_append,List.cons_append,List.cons_append,Reader.expression]
    refine (Reader.bind_of_eq (Reader.optional_neg rfl 1)).trans ?_
    rw [if_neg Bool.false_ne_true]
    refine (Reader.bind_of_eq (Reader.optional_neg rfl 1)).trans ?_
    rw [if_neg Bool.false_ne_true]
    refine (Reader.bind_of_eq (Reader.optional_pos rfl 1)).trans ?_
    rw [if_pos rfl]
    refine (Reader.bind_of_eq (Reader.require_pos rfl 1)).trans ?_
    refine (Reader.bind_of_eq (Reader.require_pos rfl 1)).trans ?_
    exact Reader.bind_of_eq (run ends (by omega))
  · intro c first
    obtain rfl : '|' = c := Option.some.inj first
    decide

/-! ### Lists of expressions -/

/-- Whether a text is read as a list of expressions up to a bracket. -/
structure ReadsUpTo (bracket : Bracket) (text : List Char) (xs : List Expression) : Prop where
  read : ∃ tokens, (∀ {rest ts}, Reads rest ts → Reads (text ++ rest) (tokens ++ ts)) ∧
    ∀ {fuel ts}, 2 * tokens.length ≤ fuel → Reader.expressionsToClose bracket fuel (tokens ++ ts) = some (xs,ts)

variable {bracket : Bracket} {close : Char}

theorem Reader.expressionsToClose_last {fuel : Nat} {s rest : List Token} (start : atClosing bracket s = false)
    (first : expression fuel s = some (x,.closing bracket :: rest)) :
    expressionsToClose bracket (fuel + 1) s = some ([x],rest) := by
  have close : atClosing bracket (.closing bracket :: rest) = true := beq_self_eq_true bracket
  rw [expressionsToClose]
  refine (bind_of_eq (optional_neg start 1)).trans ?_
  rw [if_neg Bool.false_ne_true]
  refine (bind_of_eq first).trans ?_
  refine (bind_of_eq (optional_pos close 1)).trans ?_
  rw [if_pos rfl]
  rfl

theorem Reader.expressionsToClose_cons {fuel : Nat} {s more rest : List Token} {joint : Bool} {xs : List Expression}
    (start : atClosing bracket s = false) (first : expression fuel s = some (x,.mark ',' joint :: more))
    (others : expressionsToClose bracket fuel more = some (xs,rest)) :
    expressionsToClose bracket (fuel + 1) s = some (x :: xs,rest) := by
  rw [expressionsToClose]
  refine (bind_of_eq (optional_neg start 1)).trans ?_
  rw [if_neg Bool.false_ne_true]
  refine (bind_of_eq first).trans ?_
  refine (bind_of_eq (optional_neg rfl 1)).trans ?_
  rw [if_neg Bool.false_ne_true]
  refine (bind_of_eq (require_pos rfl 1)).trans ?_
  exact bind_of_eq others

/-- Texts with commas between them are read as a list of what each of them is read as. -/
theorem readsUpTo_list {texts : List (List Char)} {xs : List Expression} (each : List.Forall₂ ReadsAs texts xs)
    (closes : ∀ {s ts}, Reads s ts → Reads (close :: s) (.closing bracket :: ts)) (parting : close ∈ partings) :
    ReadsUpTo bracket (Text.join ", ".toList texts ++ [close]) xs := by
  induction each with
  | nil =>
    refine ⟨[.closing bracket],fun read => closes read,?_⟩
    intro fuel ts enough
    obtain ⟨fuel,rfl⟩ : ∃ n, fuel = n + 1 := ⟨fuel - 1,by simp only [List.length_singleton] at enough; omega⟩
    have here : Reader.atClosing bracket (.closing bracket :: ts) = true := beq_self_eq_true bracket
    rw [Reader.expressionsToClose]
    refine (Reader.bind_of_eq (Reader.optional_pos here 1)).trans ?_
    rw [if_pos rfl]
    rfl
  | @cons text x texts xs first others ih =>
    obtain ⟨tokens,read,start,run⟩ := first.read
    cases others with
    | nil =>
      refine ⟨tokens ++ [.closing bracket],fun after => ?_,?_⟩
      · simpa [Text.join] using read (by simpa [Parted] using parting) (closes after)
      · intro fuel ts enough
        rw [List.length_append,List.length_singleton] at enough
        obtain ⟨fuel,rfl⟩ : ∃ n, fuel = n + 1 := ⟨fuel - 1,by omega⟩
        rw [List.append_assoc]
        exact Reader.expressionsToClose_last (start bracket _) (run trivial (by omega))
    | @cons next y texts xs _ _ =>
      obtain ⟨later,readLater,runLater⟩ := ih
      refine ⟨tokens ++ .mark ',' false :: later,?_,?_⟩
      · intro rest ts after
        have comma : Reads (',' :: ' ' :: (Text.join ", ".toList (next :: texts) ++ [close] ++ rest))
            (.mark ',' false :: (later ++ ts)) :=
          reads_mark (by decide) (reads_space (readLater after))
        have whole := read (by simp [Parted]; decide) comma
        simpa [Text.join] using whole
      · intro fuel ts enough
        rw [List.length_append,List.length_cons] at enough
        obtain ⟨fuel,rfl⟩ : ∃ n, fuel = n + 1 := ⟨fuel - 1,by omega⟩
        rw [List.append_assoc]
        exact Reader.expressionsToClose_cons (start bracket _) (run trivial (by omega)) (runLater (by omega))

/-! ### Arrays, calls and expansions -/

section

variable {texts : List (List Char)} {xs : List Expression} {isGlobal : Bool} {names : List String}

theorem readsAs_array (each : List.Forall₂ ReadsAs texts xs) :
    ReadsAs ('[' :: (Text.join ", ".toList texts ++ [']'])) (.array xs) := by
  obtain ⟨tokens,read,run⟩ := readsUpTo_list each (fun after => (reads_closing after).2) (by decide)
  refine ⟨⟨.opening .square :: tokens,fun _ after => ?_,fun _ _ => rfl,?_⟩,⟨false,fun rest => rfl⟩,?_⟩
  · exact (reads_opening (read after)).2
  · intro fuel ts ends enough
    rw [List.length_cons] at enough
    obtain ⟨fuel,rfl⟩ : ∃ n, fuel = n + 1 := ⟨fuel - 1,by omega⟩
    rw [List.cons_append,Reader.expression]
    refine (Reader.bind_of_eq (Reader.optional_neg rfl 1)).trans ?_
    rw [if_neg Bool.false_ne_true]
    refine (Reader.bind_of_eq (Reader.optional_pos rfl 1)).trans ?_
    rw [if_pos rfl]
    exact Reader.bind_of_eq (run (by omega))
  · intro c first
    obtain rfl : '[' = c := Option.some.inj first
    decide

/-- A path in front of a text that stops it begins an expression. -/
theorem readsAs_of_head {head : Char} {x : Expression} {inside : List Char} (filled : names ≠ [])
    (words : ∀ n ∈ names, Reader.IsPathName n) (parting : head ∈ partings)
    (read : ∃ tokens, (∀ {rest ts}, Reads rest ts → Reads (head :: (inside ++ rest)) (tokens ++ ts)) ∧
      (∀ ts, Reader.atPair ':' ':' (tokens ++ ts) = false) ∧
      ∀ {fuel ts}, 2 * tokens.length ≤ fuel →
        Reader.afterPath isGlobal names fuel (tokens ++ ts) = some (x,ts)) :
    ReadsAs (pathText isGlobal names ++ head :: inside) x := by
  obtain ⟨tokens,read,stops,run⟩ := read
  have texts : ∀ n ∈ names, IsNameText n := fun n member => (words n member).1
  have count := length_le_pathTokens isGlobal names
  have more := List.length_pos_iff.mpr filled
  refine ⟨⟨pathTokens isGlobal names ++ tokens,?_,?_,?_⟩,⟨isGlobal,fun rest => ?_⟩,?_⟩
  · intro rest ts _ after
    have parted : Parted (head :: (inside ++ rest)) := by simpa [Parted] using parting
    simpa using (reads_path isGlobal filled texts parted (read after)).1
  · intro bracket ts
    rw [List.append_assoc]
    exact (pathTokens_other isGlobal filled _).2.2.2 bracket
  · intro fuel ts _ enough
    rw [List.length_append] at enough
    obtain ⟨fuel,rfl⟩ : ∃ n, fuel = n + 1 := ⟨fuel - 1,by omega⟩
    rw [List.append_assoc,Reader.expression_of_path filled words (stops ts) (by omega)]
    exact run (by omega)
  · rw [List.append_assoc]
    exact startsMark_path isGlobal filled texts _
  · intro c first
    have each : ∀ d ∈ partings, d.toNat ≠ 0xFEFF := by decide
    cases chars : pathText isGlobal names with
    | nil =>
      rw [chars] at first
      exact each c (Option.some.inj first ▸ parting)
    | cons d front =>
      rw [chars] at first
      obtain rfl : d = c := Option.some.inj first
      have ascii := (solid_of_mem_pathText isGlobal texts d (by simp [chars])).2.2
      omega

theorem readsAs_call (filled : names ≠ []) (words : ∀ n ∈ names, Reader.IsPathName n)
    (each : List.Forall₂ ReadsAs texts xs) :
    ReadsAs (pathText isGlobal names ++ '(' :: (Text.join ", ".toList texts ++ [')'])) (.call isGlobal names xs) := by
  obtain ⟨tokens,read,run⟩ := readsUpTo_list each (fun after => (reads_closing after).1) (by decide)
  refine readsAs_of_head filled words (by decide) ⟨.opening .round :: tokens,?_,fun _ => rfl,?_⟩
  · exact fun after => (reads_opening (read after)).1
  · intro fuel ts enough
    rw [List.length_cons] at enough
    obtain ⟨fuel,rfl⟩ : ∃ n, fuel = n + 1 := ⟨fuel - 1,by omega⟩
    rw [List.cons_append,Reader.afterPath]
    refine (Reader.bind_of_eq (Reader.optional_pos rfl 1)).trans ?_
    rw [if_pos rfl]
    exact Reader.bind_of_eq (run (by omega))

theorem readsAs_expansion (filled : names ≠ []) (words : ∀ n ∈ names, Reader.IsPathName n)
    (each : List.Forall₂ ReadsAs texts xs) :
    ReadsAs (pathText isGlobal names ++ '!' :: '[' :: (Text.join ", ".toList texts ++ [']']))
      (.expansion isGlobal names xs) := by
  obtain ⟨tokens,read,run⟩ := readsUpTo_list each (fun after => (reads_closing after).2) (by decide)
  refine readsAs_of_head filled words (by decide) ⟨.mark '!' false :: .opening .square :: tokens,?_,fun _ => rfl,?_⟩
  · exact fun after => reads_mark (c := '!') (by decide) (reads_opening (read after)).2
  · intro fuel ts enough
    simp only [List.length_cons] at enough
    obtain ⟨fuel,rfl⟩ : ∃ n, fuel = n + 1 := ⟨fuel - 1,by omega⟩
    rw [List.cons_append,List.cons_append,Reader.afterPath]
    refine (Reader.bind_of_eq (Reader.optional_neg rfl 1)).trans ?_
    rw [if_neg Bool.false_ne_true]
    refine (Reader.bind_of_eq (Reader.optional_pos rfl 2)).trans ?_
    rw [if_pos rfl]
    exact Reader.bind_of_eq (run (by omega))

end

/-! ### Values -/

/-- The name of the type of a floating-point number. -/
def floatName (p : Primitive) : String := if p = .float32 then "f32" else "f64"

/-- The constant that a literal without its minus sign is. -/
def unsignedTree (p : Primitive) : Literal → ConstantExpr
  | .bool v => .literal false (if v then "true" else "false")
  | .integer v => .literal false (toString v.natAbs)
  | .float .nan => .path false [floatName p,"NAN"]
  | .float (.infinite negative) => .path false [floatName p,if negative then "NEG_INFINITY" else "INFINITY"]
  | .float (.finite _ mantissa exponent) => .literal false (.ofList (Binary64.codeDigits mantissa exponent))
  | .string v => .literal false (stringLiteral v)

def ScalarExpr.tree : ScalarExpr → Expression
  | literal p v =>
    if hasMinus v then .negation (.constant (unsignedTree p v)) else .constant (unsignedTree p v)
  | owned text =>
    .call true ["std","string","String","from"] [.constant (.literal false (stringLiteral text))]

/-- The tree of the call of the default value. -/
def defaultTree : Expression := .call true ["core","default","Default","default"] []

def ValueExpr.tree : ValueExpr → Expression
  | scalar e => e.tree
  | array elements => .array (elements.map ScalarExpr.tree)
  | vector elements => .expansion true ["std","vec"] (elements.map ScalarExpr.tree)
  | default => defaultTree
  | defaults => .call true ["core","array","from_fn"] [.function defaultTree]

/-- The names that stand in the paths of values. -/
def valueNames : List String :=
  ["f32","f64","NAN","INFINITY","NEG_INFINITY","std","string","String","from","vec","core","default","Default","array",
    "from_fn"]

theorem isPathName_of_values {names : List String} (values : names ⊆ valueNames) :
    ∀ n ∈ names, Reader.IsPathName n := by
  have words : ∀ n ∈ valueNames, IsSpelled n.toList ∧ Reader.isName n = true := by decide +kernel
  exact fun n member => ⟨.inl (words n (values member)).1,.inl (words n (values member)).2⟩

theorem readsAs_stringLiteral (text : String) :
    ReadsAs (stringLiteral text).toList (.constant (.literal false (stringLiteral text))) :=
  readsAs_literal (reads_stringLiteral text) ⟨'"',_,String.toList_ofList,.inr rfl⟩

theorem readsAs_digits (n : Nat) : ReadsAs (toString n).toList (.constant (.literal false (toString n))) := by
  have filled : (toString n).toList ≠ [] := by simp
  obtain ⟨d,more,chars⟩ := List.exists_cons_of_ne_nil filled
  have digits := digit_of_mem_toString (n := n)
  have read : ∀ {rest ts}, Parted rest → Reads rest ts →
      Reads ((toString n).toList ++ rest) (.literal (toString n) true :: ts) := by
    intro rest ts parted after
    have here := reads_digits filled digits parted after
    rwa [String.ofList_toList] at here
  exact readsAs_literal read ⟨d,more,chars,.inl (digits d (by rw [chars]; simp))⟩

theorem readsAs_decimal {s : List Char} (decimal : IsDecimal s) :
    ReadsAs s (.constant (.literal false (.ofList s))) := by
  refine readsAs_literal (reads_decimal decimal) ?_
  have start : ∀ {whole : List Char}, whole ≠ [] → (∀ d ∈ whole, d.isDigit = true) → ∀ after : List Char,
      ∃ c more, whole ++ after = c :: more ∧ (c.isDigit = true ∨ c = '"') := by
    intro whole begun digits after
    obtain ⟨c,more,rfl⟩ := List.exists_cons_of_ne_nil begun
    exact ⟨c,more ++ after,rfl,.inl (digits c (by simp))⟩
  cases decimal with
  | point begun _ digits _ => exact start begun digits _
  | exponent begun digits _ => exact start begun digits _
  | both begun _ digits _ _ => exact start begun digits _

theorem readsAs_unsigned (p : Primitive) (v : Literal) :
    ReadsAs (unsignedText p v).toList (.constant (unsignedTree p v)) := by
  have float : ∀ name ∈ ["NAN","INFINITY","NEG_INFINITY"],
      ReadsAs (floatName p ++ "::" ++ name).toList (.constant (.path false [floatName p,name])) := by
    intro name member
    have path : ReadsAs (pathText false [floatName p,name]) (.constant (.path false [floatName p,name])) := by
      refine readsAs_path (by simp) (isPathName_of_values ?_)
      have type : floatName p ∈ valueNames := by
        unfold floatName
        split <;> decide
      have listed : ["NAN","INFINITY","NEG_INFINITY"] ⊆ valueNames := by decide
      exact List.cons_subset.mpr ⟨type,List.cons_subset.mpr ⟨listed member,List.nil_subset _⟩⟩
    simpa [pathText,Text.join] using path
  cases v with
  | bool v => exact readsAs_truth v
  | integer v => exact readsAs_digits v.natAbs
  | string v => exact readsAs_stringLiteral v
  | float v =>
    cases v with
    | nan => simpa [unsignedText,magnitudeText,unsignedTree,floatName] using float "NAN" (by simp)
    | infinite negative =>
      cases negative with
      | true => simpa [unsignedText,magnitudeText,unsignedTree,floatName] using float "NEG_INFINITY" (by simp)
      | false => simpa [unsignedText,magnitudeText,unsignedTree,floatName] using float "INFINITY" (by simp)
    | finite negative mantissa exponent =>
      have decimal := readsAs_decimal (isDecimal_codeDigits mantissa exponent)
      simpa [unsignedText,magnitudeText,unsignedTree] using decimal

theorem readsAs_scalar (e : ScalarExpr) : ReadsAs e.text.toList e.tree := by
  cases e with
  | literal p v =>
    have unsigned := readsAs_unsigned p v
    cases minus : hasMinus v with
    | true => simpa [ScalarExpr.text,ScalarExpr.tree,minus] using readsAs_negation unsigned
    | false => simpa [ScalarExpr.text,ScalarExpr.tree,minus] using unsigned
  | owned text =>
    have call : ReadsAs (pathText true ["std","string","String","from"] ++
        '(' :: (Text.join ", ".toList [(stringLiteral text).toList] ++ [')'])) (ScalarExpr.owned text).tree :=
      readsAs_call (by simp) (isPathName_of_values (by decide))
        (.cons (readsAs_stringLiteral text) .nil)
    simpa [ScalarExpr.text,ownedCall,stringType,pathText,Text.join] using call

theorem readsAs_default : ReadsAs defaultCall.toList defaultTree := by
  have call : ReadsAs (pathText true ["core","default","Default","default"] ++
      '(' :: (Text.join ", ".toList [] ++ [')'])) defaultTree :=
    readsAs_call (by simp) (isPathName_of_values (by decide)) .nil
  simpa [defaultCall,pathText,Text.join] using call

theorem readsAs_vector {texts : List (List Char)} {xs : List Expression} (each : List.Forall₂ ReadsAs texts xs) :
    ReadsAs (pathText true ["std","vec"] ++ '!' :: '[' :: (Text.join ", ".toList texts ++ [']']))
      (.expansion true ["std","vec"] xs) :=
  readsAs_expansion (by simp) (isPathName_of_values (by decide)) each

theorem readsAs_elements {text : ScalarExpr → List Char} (each : ∀ e, ReadsAs (text e) e.tree)
    (elements : List ScalarExpr) : List.Forall₂ ReadsAs (elements.map text) (elements.map ScalarExpr.tree) := by
  rw [List.forall₂_map_left_iff,List.forall₂_map_right_iff,List.forall₂_same]
  exact fun e _ => each e

theorem toList_listText (elements : List ScalarExpr) :
    (ScalarExpr.listText elements).toList = Text.join ", ".toList (elements.map fun e => e.text.toList) := by
  rw [ScalarExpr.listText,String.toList_intercalate,List.map_map]
  induction elements with
  | nil => rfl
  | cons e elements ih =>
    cases elements with
    | nil => exact List.intercalate_singleton
    | cons next more =>
      rw [List.map_cons,List.map_cons,List.intercalate_cons_cons,← List.map_cons,ih]
      rfl

theorem readsAs_value (v : ValueExpr) : ReadsAs v.text.toList v.tree := by
  cases v with
  | scalar e => exact readsAs_scalar e
  | array elements =>
    have array := readsAs_array (readsAs_elements readsAs_scalar elements)
    simpa [ValueExpr.text,ValueExpr.tree,toList_listText,toString] using array
  | vector elements =>
    have vector := readsAs_vector (readsAs_elements readsAs_scalar elements)
    simpa [ValueExpr.text,ValueExpr.tree,toList_listText,pathText,Text.join,toString] using vector
  | default => exact readsAs_default
  | defaults =>
    have call : ReadsAs (pathText true ["core","array","from_fn"] ++
        '(' :: (Text.join ", ".toList ["|_| ".toList ++ defaultCall.toList] ++ [')'])) ValueExpr.defaults.tree :=
      readsAs_call (by simp) (isPathName_of_values (by decide))
        (.cons (readsAs_function readsAs_default) .nil)
    simpa [ValueExpr.text,elementwiseCall,pathText,Text.join,toString] using call

/-- The text of a value is read as its tree. -/
theorem read?_text (v : ValueExpr) : Expression.read? v.text.toList = some v.tree := read?_of_readsAs (readsAs_value v)

/-! ### Values on one line -/

/-- What pieces write on a line that goes on. -/
def flat (pieces : List Layout.Piece) : List Char :=
  pieces.flatMap fun piece =>
    match piece with
    | .word text => text.toList
    | .gap blank _ _ => List.replicate blank ' '
    | _ => []

theorem flat_append (first rest : List Layout.Piece) : flat (first ++ rest) = flat first ++ flat rest :=
  List.flatMap_append

theorem flat_box (breaking : Layout.Breaking) (indent : Int) (pieces : List Layout.Piece) :
    flat (Layout.box breaking indent pieces) = flat pieces := by
  simp [Layout.box,flat]

theorem flat_filled (items : List (List Layout.Piece)) : flat (filled items) = Text.join ", ".toList (items.map flat) := by
  induction items with
  | nil => rfl
  | cons item items ih =>
    cases items with
    | nil => rfl
    | cons next more =>
      have gap : flat (.word "," :: .space :: filled (next :: more)) = ", ".toList ++ flat (filled (next :: more)) := rfl
      rw [filled,flat_append,gap,ih]
      · simp [Text.join]
      · simp

theorem delimited_eq {items : List (List Layout.Piece)} (more : items ≠ []) :
    delimited items = filled items ++ [.lastComma 0] := by
  induction items with
  | nil => contradiction
  | cons item items ih =>
    cases items with
    | nil => rfl
    | cons next others =>
      rw [delimited,filled,ih (by simp)]
      · simp
      · simp
      · simp

theorem flat_bracketed (items : List (List Layout.Piece)) :
    flat (bracketed items) = Text.join ", ".toList (items.map flat) := by
  cases items with
  | nil => rfl
  | cons item items =>
    have gap : flat (bracketed (item :: items)) = flat (delimited (item :: items)) := rfl
    have last : flat [.lastComma 0] = [] := rfl
    rw [gap,delimited_eq (by simp),flat_append,last,List.append_nil,flat_filled]

theorem flat_scalar (e : ScalarExpr) : flat e.pieces = e.text.toList := by
  cases e with
  | literal p v => simp [ScalarExpr.pieces,ScalarExpr.text,flat]
  | owned text =>
    have inside := flat_box .consistent Layout.step (bracketed [[.word (stringLiteral text)]])
    rw [flat_bracketed] at inside
    have front : flat (ScalarExpr.owned text).pieces = ownedCall.toList ++
        (flat (Layout.box .consistent Layout.step (bracketed [[.word (stringLiteral text)]])) ++ [')']) := by
      simp [ScalarExpr.pieces,flat]
    rw [front,inside]
    simp [ScalarExpr.text,Text.join,flat]

/-- On one line a value is read as its tree, also where a gap is left after a minus sign. -/
theorem readsAs_tokenPieces (e : ScalarExpr) : ReadsAs (flat e.tokenPieces) e.tree := by
  cases e with
  | literal p v =>
    have unsigned := readsAs_unsigned p v
    cases minus : hasMinus v with
    | true =>
      have spaced := readsAs_negation (readsAs_space unsigned)
      simpa [ScalarExpr.tokenPieces,ScalarExpr.tree,minus,flat,Layout.Piece.space] using spaced
    | false => simpa [ScalarExpr.tokenPieces,ScalarExpr.tree,minus,flat] using unsigned
  | owned text =>
    have owned := readsAs_scalar (.owned text)
    simpa [ScalarExpr.tokenPieces,ScalarExpr.text,flat] using owned

theorem flat_array (elements : List ScalarExpr) :
    flat (ValueExpr.array elements).pieces =
      '[' :: (Text.join ", ".toList (elements.map fun e => e.text.toList) ++ [']']) := by
  have texts : (elements.map ScalarExpr.pieces).map flat = elements.map fun e => e.text.toList := by
    rw [List.map_map]
    exact List.map_congr_left fun e _ => flat_scalar e
  have first : ∀ inside, flat (.word "[" :: inside) = '[' :: flat inside := fun _ => rfl
  cases elements with
  | nil => rfl
  | cons e elements =>
    rw [ValueExpr.pieces]
    · split
      · have gap : ∀ inside, flat (.zero 0 :: inside) = flat inside := fun _ => rfl
        have close : flat [.lastComma 0,.word "]"] = [']'] := rfl
        rw [flat_box,List.cons_append,List.cons_append,first,gap,flat_append,flat_box,flat_filled,close,texts]
      · have close : flat [.word "]"] = [']'] := rfl
        rw [List.cons_append,first,flat_append,flat_box,flat_bracketed,close,texts]
    · simp

theorem flat_vector (elements : List ScalarExpr) :
    flat (ValueExpr.vector elements).pieces = pathText true ["std","vec"] ++
      '!' :: '[' :: (Text.join ", ".toList (elements.map fun e => flat e.tokenPieces) ++ [']']) := by
  cases elements with
  | nil => rfl
  | cons e elements =>
    have first : ∀ inside, flat (.word "::std::vec![" :: inside) =
        pathText true ["std","vec"] ++ '!' :: '[' :: flat inside := fun _ => rfl
    have gap : ∀ inside, flat (.zero 0 :: inside) = flat inside := fun _ => rfl
    have last : flat [.zero (-Layout.step)] = [] := rfl
    have close : flat [.word "]"] = [']'] := rfl
    rw [ValueExpr.pieces]
    · rw [List.cons_append,first,flat_append,flat_box,List.cons_append,gap,flat_append,flat_box,flat_filled,last,close,
        List.append_nil,List.map_map]
      rfl
    · simp

/-- A value that is written on one line is read as its tree. -/
theorem readsAs_pieces (v : ValueExpr) : ReadsAs (flat v.pieces) v.tree := by
  cases v with
  | scalar e => exact flat_scalar e ▸ readsAs_scalar e
  | array elements => exact flat_array elements ▸ readsAs_array (readsAs_elements readsAs_scalar elements)
  | vector elements => exact flat_vector elements ▸ readsAs_vector (readsAs_elements readsAs_tokenPieces elements)
  | default => exact readsAs_default
  | defaults =>
    have text : flat ValueExpr.defaults.pieces = ValueExpr.defaults.text.toList := by decide +kernel
    exact text ▸ readsAs_value .defaults

end MsgBindings.Target
