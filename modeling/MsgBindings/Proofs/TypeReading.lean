import Mathlib.Data.Option.Basic
import MsgBindings.Proofs.Tokens
import MsgBindings.Target.TypeReader
import MsgBindings.Target.TypeText

/-!
Reading the types that are made for fields. A run of a reader is followed step by step (`bind_apply` and the
equations after it); a path without arguments is read as its names (`type_path`), and the text of an array as an
array of what the text of its element is read as (`read?_arrayText`).
-/
namespace MsgBindings.Target

namespace Reader

variable {α β : Type} {s rest : List Token} {name : String}

/-! ### Running a reader -/

@[simp] theorem bind_apply (r : Reader α) (f : α → Reader β) (s : List Token) :
    (r >>= f) s = (r s).bind fun p => f p.1 p.2 := rfl

@[simp] theorem map_apply (f : α → β) (r : Reader α) (s : List Token) :
    (f <$> r) s = (r s).map fun p => (f p.1,p.2) := by
  cases h : r s <;> simp [Functor.map,StateT.map,h]

@[simp] theorem pure_apply (a : α) (s : List Token) : (pure a : Reader α) s = some (a,s) := rfl

@[simp] theorem get_apply (s : List Token) : (get : Reader (List Token)) s = some (s,s) := rfl

@[simp] theorem guard_apply (p : Prop) [Decidable p] (s : List Token) :
    (guard p : Reader PUnit) s = if p then some (⟨⟩,s) else none := by
  unfold guard
  split <;> rfl

@[simp] theorem skip_apply (n : Nat) (s : List Token) : skip n s = some ((),s.drop n) := rfl

@[simp] theorem require_apply (test : List Token → Bool) (n : Nat) (s : List Token) :
    require test n s = if test s then some ((),s.drop n) else none := by
  unfold require
  simp only [bind_apply,get_apply,Option.bind_some,guard_apply]
  split <;> rfl

@[simp] theorem optional_apply (test : List Token → Bool) (n : Nat) (s : List Token) :
    optional test n s = if test s then some (true,s.drop n) else some (false,s) := by
  unfold optional
  simp only [bind_apply,get_apply,Option.bind_some]
  split <;> rfl

/-- What a reader does before another one. -/
theorem bind_of_eq {r : Reader α} {f : α → Reader β} {a : α} (first : r s = some (a,rest)) : (r >>= f) s = f a rest := by
  rw [bind_apply,first]
  rfl

theorem guard_pos {p : Prop} [Decidable p] (holds : p) (s : List Token) : (guard p : Reader PUnit) s = some (⟨⟩,s) := by
  rw [guard_apply,if_pos holds]

section

variable {test : List Token → Bool}

theorem optional_pos (holds : test s = true) (n : Nat) : optional test n s = some (true,s.drop n) := by
  rw [optional_apply,if_pos holds]

theorem optional_neg (fails : test s = false) (n : Nat) : optional test n s = some (false,s) := by
  rw [optional_apply,if_neg (ne_true_of_eq_false fails)]

theorem ite_optional_pos (holds : test s = true) {n : Nat} {yes no : Reader α} :
    (optional test n >>= fun found => if found = true then yes else no) s = yes (s.drop n) := by
  rw [bind_of_eq (optional_pos holds n),if_pos rfl]

theorem ite_optional_neg (fails : test s = false) {n : Nat} {yes no : Reader α} :
    (optional test n >>= fun found => if found = true then yes else no) s = no s := by
  rw [bind_of_eq (optional_neg fails n),if_neg Bool.false_ne_true]

theorem require_pos (holds : test s = true) (n : Nat) : require test n s = some ((),s.drop n) := by
  rw [require_apply,if_pos holds]

end

@[simp] theorem word_apply (text : String) (s : List Token) : word (.identifier text :: s) = some (text,s) := rfl

/-! ### Paths -/

/-- The names that may stand between the colons of a path: those that name something, and the words for the
    modules around. -/
def IsPathName (name : String) : Prop :=
  Token.IsNameText name ∧ (isName name = true ∨ name ∈ ["super","self","crate"])

/-- Whether no path goes on with tokens. -/
structure Stops (s : List Token) : Prop where
  angle : atAngle s = false
  colons : atPair ':' ':' s = false
  round : atOpening .round s = false
  plus : atMark '+' s = false

/-- No name of a path is a keyword that begins something else. -/
theorem ne_keyword (word : isName name = true ∨ name ∈ ["super","self","Self","crate"]) :
    name ∉ ["for","fn","unsafe","extern","true","false","dyn"] := by
  have none : ∀ k ∈ ["for","fn","unsafe","extern","true","false","dyn"],
      ¬ (isName k = true ∨ k ∈ ["super","self","Self","crate"]) := by decide +kernel
  exact fun member => none name member word

/-- Whether tokens begin as a path does: with two colons, or with a word that begins nothing else. -/
inductive AtPath : List Token → Prop
  | colons (joint : Bool) (s : List Token) : AtPath (.mark ':' true :: .mark ':' joint :: s)
  | word {name : String} (s : List Token) :
      isName name = true ∨ name ∈ ["super","self","Self","crate"] → AtPath (.identifier name :: s)

theorem AtPath.of_name (word : isName name = true ∨ name ∈ ["super","self","crate"]) (s : List Token) :
    AtPath (.identifier name :: s) := by
  have around : ["super","self","crate"] ⊆ ["super","self","Self","crate"] := by decide
  exact .word s (word.imp_right (@around name))

theorem AtPath.other (start : AtPath s) :
    atLifetime s = false ∧ atLiteral s = false ∧ atOpening .curly s = false ∧ atMark '>' s = false := by
  cases start with
  | colons => exact ⟨rfl,rfl,rfl,rfl⟩
  | @word name s word =>
    have other := ne_keyword word
    simp only [List.mem_cons,List.not_mem_nil,or_false,not_or] at other
    simp [atLifetime,atLiteral,atOpening,atMark,atWord,other]

theorem segment_name (word : isName name = true ∨ name ∈ ["super","self","crate"]) (angle : atAngle s = false)
    (fuel : Nat) : segment (fuel + 1) (.identifier name :: s) = some (.plain name,s) := by
  rw [segment]
  by_cases around : name ∈ ["super","self","crate","try"]
  · simp [-List.mem_cons,around]
  · have named : isName name = true := by
      rcases word with named | member
      · exact named
      · exact absurd (by simp at member ⊢; tauto) around
    simp [-List.mem_cons,around,named,angle]

theorem pathRest_colons (round : atOpening .round s = false) (fuel : Nat) :
    pathRest (fuel + 1) (Token.colons ++ s) = path (fuel + 1) s := by
  rw [pathRest,path]
  simp [Token.colons,atPair,atCallColons,round]

theorem path_names {names : List String} (filled : names ≠ [])
    (words : ∀ n ∈ names, isName n = true ∨ n ∈ ["super","self","crate"]) (stops : Stops rest) {fuel : Nat}
    (enough : names.length < fuel) :
    path fuel (Token.nameTokens names ++ rest) = some (names.map .plain,rest) := by
  induction names generalizing fuel with
  | nil => contradiction
  | cons name names ih =>
    obtain ⟨fuel,rfl⟩ : ∃ n, fuel = n + 2 := ⟨fuel - 2,by simp only [List.length_cons] at enough; omega⟩
    rw [List.forall_mem_cons] at words
    cases names with
    | nil =>
      have here := segment_name words.1 stops.angle fuel
      rw [path]
      simp [Token.nameTokens,here,pathRest,stops.colons]
    | cons next more =>
      have later : path (fuel + 1) (Token.nameTokens (next :: more) ++ rest) = some ((next :: more).map .plain,rest) :=
        ih (by simp) words.2 (by simp only [List.length_cons] at enough ⊢; omega)
      have tail : atOpening .round (Token.nameTokens (next :: more) ++ rest) = false ∧
          atAngle (Token.colons ++ (Token.nameTokens (next :: more) ++ rest)) = false := by
        cases more <;> exact ⟨rfl,rfl⟩
      have here := segment_name words.1 tail.2 fuel
      have colons := pathRest_colons tail.1 fuel
      rw [path]
      simp only [Token.nameTokens,List.cons_append,List.append_assoc,bind_apply,here,colons,later,Option.bind_some,
        pure_apply,List.map_cons]

theorem calls_of_stops (stops : Stops s) (segments : List Segment) (fuel : Nat) :
    calls (fuel + 1) segments s = some (segments,s) := by
  rw [calls]
  simp [stops.round,atCallColons,stops.colons]

/-- The colons in front of a path are taken if there are some. -/
theorem optional_colons (isGlobal : Bool) {names : List String} (filled : names ≠ []) (s : List Token) :
    optional (atPair ':' ':') 2 (Token.pathTokens isGlobal names ++ s) =
      some (isGlobal,Token.nameTokens names ++ s) := by
  cases isGlobal with
  | true => rfl
  | false =>
    obtain ⟨name,more,rfl⟩ := List.exists_cons_of_ne_nil filled
    cases more <;> rfl

theorem pathType_path {isGlobal : Bool} {names : List String} (filled : names ≠ [])
    (words : ∀ n ∈ names, isName n = true ∨ n ∈ ["super","self","crate"]) (stops : Stops rest) {fuel : Nat}
    (enough : names.length + 1 < fuel) :
    pathType fuel none true (Token.pathTokens isGlobal names ++ rest) =
      some (.path isGlobal (names.map .plain),rest) := by
  obtain ⟨fuel,rfl⟩ : ∃ n, fuel = n + 1 := ⟨fuel - 1,by omega⟩
  have named : path fuel (Token.nameTokens names ++ rest) = some (names.map .plain,rest) :=
    path_names filled words stops (by omega)
  have done := calls_of_stops stops (names.map .plain) (fuel - 1)
  rw [show fuel - 1 + 1 = fuel by omega] at done
  have start := optional_colons isGlobal filled rest
  rw [pathType]
  simp only [bind_apply,start,named,done,Option.bind_some,get_apply,Option.isSome_none,Bool.false_or,Bool.true_and,
    stops.plus,Bool.false_eq_true,↓reduceIte,pure_apply]

/-- What begins as a path does is read as one. -/
theorem type_of_start {plus : Bool} (general : atWord "for" s = false) (round : atOpening .round s = false)
    (function : (atWord "fn" s || atWord "unsafe" s || atWord "extern" s) = false) (angle : atMark '<' s = false)
    (start : (atName s || atPair ':' ':' s || ["super","self","Self","crate"].any (atWord · s)) = true) (fuel : Nat) :
    type (fuel + 1) plus s = pathType fuel none plus s := by
  rw [type]
  refine (bind_of_eq (bind_of_eq (optional_neg general 1))).trans ?_
  refine (bind_of_eq (get_apply s)).trans ?_
  refine (bind_of_eq (guard_pos rfl s)).trans ?_
  refine (ite_optional_neg round).trans ?_
  rw [if_neg (ne_true_of_eq_false function),if_neg (ne_true_of_eq_false angle),if_pos start]

theorem type_of_path {plus : Bool} (start : AtPath s) (fuel : Nat) :
    type (fuel + 1) plus s = pathType fuel none plus s := by
  cases start with
  | colons => exact type_of_start rfl rfl rfl rfl rfl fuel
  | @word name s word =>
    have other := ne_keyword word
    simp only [List.mem_cons,List.not_mem_nil,or_false,not_or] at other
    refine type_of_start ?_ rfl ?_ rfl ?_ fuel
    · simp [atWord,other]
    · simp [atWord,other]
    · rcases word with named | member
      · simp [atName,named]
      · simp only [List.mem_cons,List.not_mem_nil,or_false] at member
        simp [atWord]
        tauto

/-- How the tokens of a path begin. -/
theorem atPath_pathTokens (isGlobal : Bool) {names : List String} (filled : names ≠ [])
    (words : ∀ n ∈ names, isName n = true ∨ n ∈ ["super","self","crate"]) (s : List Token) :
    AtPath (Token.pathTokens isGlobal names ++ s) := by
  obtain ⟨name,more,rfl⟩ := List.exists_cons_of_ne_nil filled
  cases isGlobal with
  | true => exact .colons _ _
  | false => cases more <;> exact .of_name (words name (by simp)) _

/-- A type that is a path without arguments is read as that. -/
theorem type_path {isGlobal : Bool} {names : List String} (filled : names ≠ [])
    (words : ∀ n ∈ names, isName n = true ∨ n ∈ ["super","self","crate"]) (stops : Stops rest) {fuel : Nat}
    (enough : names.length + 2 < fuel) :
    type fuel true (Token.pathTokens isGlobal names ++ rest) = some (.path isGlobal (names.map .plain),rest) := by
  obtain ⟨fuel,rfl⟩ : ∃ n, fuel = n + 1 := ⟨fuel - 1,by omega⟩
  rw [type_of_path (atPath_pathTokens isGlobal filled words rest)]
  exact pathType_path filled words stops (by omega)

/-! ### Arrays -/

/-- What begins with a square bracket is read as an array, if its element is, in front of its size. -/
theorem type_of_square {plus : Bool} {element : TypeExpr} {size : ConstantExpr} {sized closed : List Token}
    (general : atWord "for" s = false) (round : atOpening .round s = false)
    (function : (atWord "fn" s || atWord "unsafe" s || atWord "extern" s) = false) (angle : atMark '<' s = false)
    (start : (atName s || atPair ':' ':' s || ["super","self","Self","crate"].any (atWord · s)) = false)
    (object : atWord "dyn" s = false) (square : atOpening .square s = true) {fuel : Nat}
    (inside : type fuel true (s.drop 1) = some (element,sized)) (mark : atMark ';' sized = true)
    (curly : atOpening .curly (sized.drop 1) = false) (last : constant fuel (sized.drop 1) = some (size,closed))
    (close : atClosing .square closed = true) :
    type (fuel + 1) plus s = some (.array element size,closed.drop 1) := by
  rw [type]
  refine (bind_of_eq (bind_of_eq (optional_neg general 1))).trans ?_
  refine (bind_of_eq (get_apply s)).trans ?_
  refine (bind_of_eq (guard_pos rfl s)).trans ?_
  refine (ite_optional_neg round).trans ?_
  rw [if_neg (ne_true_of_eq_false function),if_neg (ne_true_of_eq_false angle),if_neg (ne_true_of_eq_false start)]
  refine (ite_optional_neg object).trans ?_
  refine (ite_optional_pos square).trans ?_
  refine (bind_of_eq inside).trans ?_
  refine (ite_optional_pos mark).trans ?_
  refine (bind_of_eq (get_apply _)).trans ?_
  rw [if_neg (ne_true_of_eq_false curly)]
  refine (bind_of_eq last).trans ?_
  exact bind_of_eq (require_pos close 1)

theorem type_array {element : TypeExpr} {digits : String} {fuel : Nat}
    (read : type fuel true s = some (element,.mark ';' false :: .literal digits true :: .closing .square :: rest)) :
    type (fuel + 1) true (.opening .square :: s) = some (.array element (.literal false digits),rest) := by
  have size : constant fuel (.literal digits true :: .closing .square :: rest) =
      some (.literal false digits,.closing .square :: rest) := rfl
  exact type_of_square (s := .opening .square :: s) rfl rfl rfl rfl rfl rfl rfl read rfl rfl size rfl

theorem stops_close (joint : Bool) (s : List Token) : Stops (.mark '>' joint :: s) := by
  refine ⟨?_,?_,rfl,rfl⟩ <;> cases joint <;> cases s with
  | nil => rfl
  | cons t s => cases t <;> rfl

section

variable {element : TypeExpr} {joint : Bool} {fuel : Nat} (start : AtPath s)
  (read : type fuel true s = some (element,.mark '>' joint :: rest))
include start read

/-- An argument that begins as a path does is read as a type. -/
theorem argument_type : argument (fuel + 1) s = some (.type element,.mark '>' joint :: rest) := by
  obtain ⟨lifetime,literal,curly,_⟩ := start.other
  rw [argument]
  simp only [bind_apply,get_apply,Option.bind_some,lifetime,literal,curly,Bool.false_and,Bool.or_self,
    Bool.false_eq_true,↓reduceIte,read]
  cases element.associated? with
  | none => rfl
  | some item => simp [atMark]

/-- A path with one argument between angle brackets is read as that, if the argument begins as a path does. -/
theorem type_angle {joint' : Bool} (word : isName name = true) (stops : Stops rest) :
    type (fuel + 6) true (.identifier name :: .mark '<' joint' :: s) =
      some (.path false [.mk name (.angle [.type element])],rest) := by
  have inside := argument_type start read
  have other : name ∉ ["super","self","crate","try"] := by
    have none : ∀ k ∈ ["super","self","crate","try"], isName k = false := by decide +kernel
    intro member
    simp [none name member] at word
  have around : atAngle (.mark '<' joint' :: s) = true ∧ atPair ':' ':' (.mark '<' joint' :: s) = false := by
    cases start <;> cases joint' <;> exact ⟨rfl,rfl⟩
  have closed : argumentsToClose (fuel + 2) s = some ([.type element],rest) := by
    rw [argumentsToClose]
    simp only [bind_apply,optional_apply,start.other,Bool.false_eq_true,↓reduceIte,Option.bind_some,inside]
    rfl
  have here : segment (fuel + 3) (.identifier name :: .mark '<' joint' :: s) =
      some (.mk name (.angle [.type element]),rest) := by
    rw [segment]
    simp [-List.mem_cons,other,word,around,closed]
  have path : path (fuel + 4) (.identifier name :: .mark '<' joint' :: s) =
      some ([.mk name (.angle [.type element])],rest) := by
    rw [Reader.path]
    simp [here,pathRest,stops.colons]
  rw [type_of_path (.of_name (.inl word) _),pathType]
  simp [atPair,path,calls_of_stops stops,stops.plus]

end

/-- A text is read from its tokens. -/
theorem readAll_of_reads {reader : Nat → Reader α} {text : List Char} {tokens : List Token} {value : α}
    (reads : Token.Reads text tokens) (unmarked : ∀ c ∈ text.head?, c.toNat ≠ 0xFEFF)
    (run : reader (16 * (tokens.length + 1)) tokens = some (value,[])) : readAll reader text = some value := by
  simp [readAll,Token.readAll_eq reads unmarked,run]

end Reader

/-! ### Texts of types -/

/-- Only a slash may open a comment. -/
theorem dropComments_cons {c : Char} (other : c ≠ '/') (s : List Char) :
    dropComments false (c :: s) = c :: dropComments false s := by
  rw [dropComments.eq_4]
  rintro rest rfl
  exact absurd rfl other

theorem dropComments_plain {s : List Char} (plain : '/' ∉ s) (t : List Char) :
    dropComments false (s ++ t) = s ++ dropComments false t := by
  induction s with
  | nil => rfl
  | cons c s ih =>
    rw [List.mem_cons,not_or] at plain
    rw [List.cons_append,dropComments_cons (Ne.symm plain.1),ih plain.2,List.cons_append]

theorem dropComments_skip {s : List Char} (plain : '*' ∉ s) (t : List Char) :
    dropComments true (s ++ t) = dropComments true t := by
  induction s with
  | nil => rfl
  | cons c s ih =>
    rw [List.mem_cons,not_or] at plain
    rw [List.cons_append,dropComments.eq_5,ih plain.2]
    rintro rest rfl
    exact absurd rfl plain.1

/-- A colon stands in no comment between slash and star, or in one that is open. -/
theorem dropComments_colon (inside : Bool) (s : List Char) :
    (∀ t, dropComments inside (s ++ ':' :: t) = dropComments inside s ++ ':' :: dropComments false t) ∨
      ∀ t, dropComments inside (s ++ ':' :: t) = dropComments inside s ++ dropComments true t := by
  fun_induction dropComments inside s with
  | case1 inside =>
    cases inside with
    | false => exact .inl fun t => dropComments_cons (by decide) t
    | true => exact .inr fun t => dropComments_skip (s := [':']) (by decide) t
  | case2 s ih => exact ih
  | case3 s ih => exact ih
  | case4 c s other ih =>
    have step : ∀ t, dropComments false (c :: s ++ ':' :: t) = c :: dropComments false (s ++ ':' :: t) := by
      intro t
      rw [List.cons_append,dropComments.eq_4]
      rintro rest rfl same
      cases s with
      | nil => cases same
      | cons d s =>
        obtain ⟨rfl,_⟩ := List.cons.inj same
        exact other s rfl rfl
    exact ih.imp (fun closed t => (step t).trans (congrArg (c :: ·) (closed t)))
      fun opened t => (step t).trans (congrArg (c :: ·) (opened t))
  | case5 c s other ih =>
    have step : ∀ t, dropComments true (c :: s ++ ':' :: t) = dropComments true (s ++ ':' :: t) := by
      intro t
      rw [List.cons_append,dropComments.eq_5]
      rintro rest rfl same
      cases s with
      | nil => cases same
      | cons d s =>
        obtain ⟨rfl,_⟩ := List.cons.inj same
        exact other s rfl rfl
    exact ih.imp (fun closed t => (step t).trans (closed t)) fun opened t => (step t).trans (opened t)

/-- What has no slash ends no comment. -/
theorem dropComments_open {s : List Char} (plain : '/' ∉ s) : dropComments true s = [] := by
  induction s with
  | nil => rfl
  | cons c s ih =>
    rw [List.mem_cons,not_or] at plain
    rw [dropComments.eq_5,ih plain.2]
    rintro rest rfl rfl
    exact plain.2 (by simp)

/-- The note of a bound is one comment behind a space. -/
theorem boundComment_toList (bound : Nat) : ∃ inside, '*' ∉ inside ∧
    (boundComment bound).toList = ' ' :: '/' :: '*' :: ' ' :: (inside ++ ['*','/']) := by
  refine ⟨"max_size: ".toList ++ (toString bound).toList ++ [' '],?_,?_⟩
  · simp only [List.mem_append,not_or]
    refine ⟨⟨by decide,fun member => ?_⟩,by decide⟩
    exact absurd (digit_of_mem_toString '*' member) (by decide)
  · show (" /* max_size: " ++ toString bound ++ " */").toList = _
    rw [String.toList_append,String.toList_append,List.append_assoc,List.append_assoc,List.append_assoc]
    rfl

/-- Of the note of a bound only the space in front is left. -/
theorem dropComments_boundComment (bound : Nat) (t : List Char) :
    dropComments false ((boundComment bound).toList ++ t) = ' ' :: dropComments false t := by
  obtain ⟨inside,plain,text⟩ := boundComment_toList bound
  have inner : '*' ∉ ' ' :: inside := by simpa using plain
  rw [text,List.cons_append,dropComments_cons (by decide),List.cons_append,List.cons_append,dropComments,
    List.cons_append,List.append_assoc,← List.cons_append,dropComments_skip inner]
  rfl

/-- The note of a bound ends a comment that is open before it. -/
theorem dropComments_inside_boundComment (bound : Nat) : dropComments true (boundComment bound).toList = [] := by
  obtain ⟨inside,plain,text⟩ := boundComment_toList bound
  have inner : '*' ∉ ' ' :: inside := by simpa using plain
  have opening := dropComments_skip (s := [' ','/']) (by decide) ('*' :: ' ' :: (inside ++ ['*','/']))
  rw [text,← List.cons_append]
  refine opening.trans ?_
  rw [dropComments.eq_5 _ _ (by simp),← List.cons_append,dropComments_skip inner]
  rfl

/-- The tree of an array of elements, or of a single one. -/
def arrayType (element : TypeExpr) : Option ArrayShape → TypeExpr
  | none => element
  | some .unbounded => .path false [.mk "Vec" (.angle [.type element])]
  | some (.bounded _) => .path false [.mk "Vec" (.angle [.type element])]
  | some (.fixed size) => .array element (.literal false (toString size))

/-- Whether a text is that of a path without arguments, perhaps with the note of a bound behind it. -/
structure IsElement (text : String) (isGlobal : Bool) (names : List String) : Prop where
  filled : names ≠ []
  words : ∀ n ∈ names, Reader.IsPathName n
  chars : ∃ bound : Option Nat,
    text.toList = Token.pathText isGlobal names ++ ((bound.map boundComment).getD "").toList

/-- The text of an array without notes, where `element` is what is left of that of its element. -/
def arrayChars (element : List Char) : Option ArrayShape → List Char
  | none => Text.trim element
  | some .unbounded => "Vec<".toList ++ (element ++ ['>'])
  | some (.bounded _) => "Vec<".toList ++ (element ++ ['>'])
  | some (.fixed size) => '[' :: (element ++ (';' :: ' ' :: ((toString size).toList ++ [']'])))

/-- The tokens of an array, where `joint` says whether the first one of its element is a mark. -/
def arrayTokens (element : List Token) (joint : Bool) : Option ArrayShape → List Token
  | none => element
  | some .unbounded => .identifier "Vec" :: .mark '<' joint :: (element ++ [.mark '>' false])
  | some (.bounded _) => .identifier "Vec" :: .mark '<' joint :: (element ++ [.mark '>' false])
  | some (.fixed size) => .opening .square ::
      (element ++ [.mark ';' false,.literal (toString size) true,.closing .square])

/-- Whether a text is read as a type in every array: without its comments it has the same tokens wherever a parting
    follows, these begin as a path does, and the type is taken where no path goes on. -/
structure ReadsAsElement (text : String) (left : List Char) (tokens : List Token) (type : TypeExpr) : Prop where
  dropped (t : List Char) : dropComments false (text.toList ++ t) = left ++ dropComments false t
  reads {c : Char} {s : List Char} {ts : List Token} :
    c ∈ Token.partings → Token.Reads (c :: s) ts → Token.Reads (left ++ c :: s) (tokens ++ ts)
  whole : Token.Reads (Text.trim left) tokens
  unmarked : ∀ c ∈ (Text.trim left).head?, c.toNat ≠ 0xFEFF
  start {rest : List Token} : Reader.Stops rest → Reader.AtPath (tokens ++ rest)
  taken {rest : List Token} {fuel : Nat} :
    Reader.Stops rest → 16 * tokens.length < fuel → Reader.type fuel true (tokens ++ rest) = some (type,rest)

section

variable {text : String} {left : List Char} {tokens : List Token} {type : TypeExpr}

theorem ReadsAsElement.trim_arrayText (is : ReadsAsElement text left tokens type) (shape : Option ArrayShape) :
    Text.trim (dropComments false (arrayText text shape).toList) = arrayChars left shape := by
  have vector : ∀ note, (∀ c ∈ dropComments false note, Text.isBlank c = true) →
      Text.trim (dropComments false ("Vec<".toList ++ (text.toList ++ '>' :: note))) =
        "Vec<".toList ++ (left ++ ['>']) := by
    intro note blank
    rw [dropComments_plain (by decide),is.dropped,dropComments_cons (by decide)]
    have whole := Text.trim_closed (s := "Vec<".toList ++ left) (c := '>') (by simp; decide) (by decide) blank
    simpa using whole
  rcases shape with _ | _ | size | bound
  · have whole := is.dropped []
    rw [List.append_nil,dropComments,List.append_nil] at whole
    rw [arrayText,whole,arrayChars]
  · have chars : (arrayText text (some .unbounded)).toList = "Vec<".toList ++ (text.toList ++ ['>']) := by
      simp [arrayText,toString]
    rw [chars]
    exact vector [] (by simp [dropComments])
  · have chars : (arrayText text (some (.fixed size))).toList =
        '[' :: (text.toList ++ (';' :: ' ' :: ((toString size).toList ++ [']']))) := by
      simp [arrayText,toString]
    have plain : '/' ∉ ';' :: ' ' :: ((toString size).toList ++ [']']) := by
      simp only [List.mem_cons,List.mem_append,List.not_mem_nil,or_false,not_or]
      refine ⟨by decide,by decide,fun member => ?_,by decide⟩
      exact absurd (digit_of_mem_toString '/' member) (by decide)
    have tail := dropComments_plain plain []
    rw [List.append_nil] at tail
    rw [chars,dropComments_cons (by decide),is.dropped,tail]
    have nothing : ∀ d ∈ [], Text.isBlank d = true := by simp
    have whole := Text.trim_closed (s := '[' :: (left ++ (';' :: ' ' :: (toString size).toList))) (c := ']')
      (by simp; decide) (by decide) nothing
    simpa [dropComments,arrayChars] using whole
  · have chars : (arrayText text (some (.bounded bound))).toList =
        "Vec<".toList ++ (text.toList ++ '>' :: (boundComment bound).toList) := by
      simp [arrayText,toString]
    have note := dropComments_boundComment bound []
    rw [List.append_nil] at note
    rw [chars]
    exact vector _ (by rw [note]; simp [dropComments]; decide)

theorem ReadsAsElement.reads_array (is : ReadsAsElement text left tokens type) (shape : Option ArrayShape) :
    ∃ joint, Token.Reads (arrayChars left shape) (arrayTokens tokens joint shape) := by
  have vector : ∃ joint, Token.Reads ("Vec<".toList ++ (left ++ ['>']))
      (.identifier "Vec" :: .mark '<' joint :: (tokens ++ [.mark '>' false])) := by
    have inside := is.reads (by decide) (Token.reads_mark (c := '>') (by decide) Token.reads_nil)
    have angle := Token.reads_mark (c := '<') (by decide) inside
    have name : Token.IsNameText "Vec" := .inl ⟨'V',['e','c'],rfl,by decide⟩
    exact ⟨_,Token.reads_name name (by simp [Token.Parted]; decide) angle⟩
  rcases shape with _ | _ | size | bound
  · exact ⟨false,is.whole⟩
  · exact vector
  · have size : Token.Reads ((toString size).toList ++ [']']) [.literal (toString size) true,.closing .square] := by
      have digits := Token.reads_digits (s := (toString size).toList) (by simp) digit_of_mem_toString
        (by simp [Token.Parted]; decide) (Token.reads_closing Token.reads_nil).2
      rwa [String.ofList_toList] at digits
    have inside := is.reads (by decide) (Token.reads_mark (c := ';') (by decide) (Token.reads_space size))
    exact ⟨false,(Token.reads_opening inside).2⟩
  · exact vector

theorem ReadsAsElement.type_arrayTokens (is : ReadsAsElement text left tokens type) (joint : Bool)
    (shape : Option ArrayShape) {fuel : Nat} (enough : 16 * tokens.length + 6 < fuel) :
    Reader.type fuel true (arrayTokens tokens joint shape) = some (arrayType type shape,[]) := by
  have none : Reader.Stops [] := ⟨rfl,rfl,rfl,rfl⟩
  have vector : Reader.type fuel true (arrayTokens tokens joint (some .unbounded)) =
      some (arrayType type (some .unbounded),[]) := by
    obtain ⟨fuel,rfl⟩ : ∃ n, fuel = n + 6 := ⟨fuel - 6,by omega⟩
    have ends := Reader.stops_close false []
    exact Reader.type_angle (is.start ends) (is.taken ends (by omega)) (by decide +kernel) none
  rcases shape with _ | _ | size | bound
  · have whole := is.taken none (by omega : 16 * tokens.length < fuel)
    rwa [List.append_nil] at whole
  · exact vector
  · obtain ⟨fuel,rfl⟩ : ∃ n, fuel = n + 1 := ⟨fuel - 1,by omega⟩
    exact Reader.type_array (is.taken ⟨rfl,rfl,rfl,rfl⟩ (by omega))
  · exact vector

theorem length_le_arrayTokens (tokens : List Token) (joint : Bool) (shape : Option ArrayShape) :
    tokens.length ≤ (arrayTokens tokens joint shape).length := by
  rcases shape with _ | _ | size | bound <;>
    simp only [arrayTokens,List.length_cons,List.length_append,List.length_nil] <;> omega

/-- The text of an array is read as an array of what its element is read as. -/
theorem ReadsAsElement.read?_arrayText (is : ReadsAsElement text left tokens type) (shape : Option ArrayShape) :
    TypeExpr.read? (arrayText text shape).toList = some (arrayType type shape) := by
  obtain ⟨joint,reads⟩ := is.reads_array shape
  have count := length_le_arrayTokens tokens joint shape
  rw [TypeExpr.read?,is.trim_arrayText]
  refine Reader.readAll_of_reads reads ?_ (is.type_arrayTokens joint shape (by omega))
  rcases shape with _ | _ | size | bound
  · exact is.unmarked
  · simp [arrayChars]
  · simp [arrayChars]
  · simp [arrayChars]

end

section

variable {isGlobal : Bool} {names : List String}

/-- The characters of a word are ASCII, and neither blank nor those of comments. -/
theorem solid_of_isSpelled {s : List Char} (spelled : Token.IsSpelled s) :
    ∀ c ∈ s, Text.isBlank c = false ∧ c ≠ '/' ∧ c.toNat < 128 := by
  have word : ∀ c : Char, c.isAlphanum = true ∨ c = '_' → Text.isBlank c = false ∧ c ≠ '/' ∧ c.toNat < 128 := by
    rintro c (plain | rfl)
    · refine ⟨?_,?_,Text.ascii_of_isAlphanum plain⟩
      · rw [Text.isAlphanum_eq,Bool.or_eq_true,Bool.or_eq_true,Text.isUpper_iff,Text.isLower_iff,Text.isDigit_iff] at plain
        simp only [Text.isBlank,Bool.or_eq_false_iff,Bool.and_eq_false_iff,decide_eq_false_iff_not,beq_eq_false_iff_ne]
        omega
      · rintro rfl
        exact absurd plain (by decide)
    · decide
  obtain ⟨d,rest,rfl,first,others⟩ := spelled
  intro c member
  rcases List.mem_cons.mp member with rfl | member
  · exact word c (first.imp_left Text.isAlphanum_of_isAlpha)
  · exact word c (others c member)

theorem solid_of_isNameText {name : String} (text : Token.IsNameText name) :
    ∀ c ∈ name.toList, Text.isBlank c = false ∧ c ≠ '/' ∧ c.toNat < 128 := by
  intro c inside
  rcases text with plain | ⟨k,rfl,plain,_⟩
  · exact solid_of_isSpelled plain c inside
  · have mark : ∀ d ∈ "r#".toList, Text.isBlank d = false ∧ d ≠ '/' ∧ d.toNat < 128 := by decide
    rcases List.mem_append.mp (String.toList_append ▸ inside) with raw | inside
    · exact mark c raw
    · exact solid_of_isSpelled plain c inside

theorem solid_of_mem_pathText (isGlobal : Bool) (words : ∀ n ∈ names, Token.IsNameText n) :
    ∀ c ∈ Token.pathText isGlobal names, Text.isBlank c = false ∧ c ≠ '/' ∧ c.toNat < 128 := by
  have colons : ∀ c ∈ "::".toList, Text.isBlank c = false ∧ c ≠ '/' ∧ c.toNat < 128 := by decide
  intro c member
  rcases List.mem_append.mp member with mark | member
  · cases isGlobal with
    | true => exact colons c mark
    | false => cases mark
  · rcases Text.mem_join member with mark | ⟨piece,inside,member⟩
    · exact colons c mark
    · obtain ⟨n,named,rfl⟩ := List.mem_map.mp inside
      exact solid_of_isNameText (words n named) c member

theorem pathText_ne_nil (filled : names ≠ []) (words : ∀ n ∈ names, Token.IsNameText n) :
    Token.pathText isGlobal names ≠ [] := by
  obtain ⟨name,more,rfl⟩ := List.exists_cons_of_ne_nil filled
  have text : name.toList ≠ [] := by
    rcases words name (by simp) with ⟨c,rest,chars,_⟩ | ⟨k,rfl,_⟩
    · simp [chars]
    · simp
  cases isGlobal <;> cases more <;> simp [Token.pathText,Text.join,text]

/-- Where the note of an element was a space is left. -/
theorem dropComments_element {element : String} (is : IsElement element isGlobal names) :
    ∃ gap, (gap = [] ∨ gap = [' ']) ∧ ∀ t,
      dropComments false (element.toList ++ t) = Token.pathText isGlobal names ++ (gap ++ dropComments false t) := by
  have solid := solid_of_mem_pathText isGlobal fun n member => (is.words n member).1
  have plain : '/' ∉ Token.pathText isGlobal names := fun member => (solid '/' member).2.1 rfl
  obtain ⟨bound,chars⟩ := is.chars
  cases bound with
  | none => exact ⟨[],.inl rfl,fun t => by rw [chars]; simpa using dropComments_plain plain t⟩
  | some bound =>
    refine ⟨[' '],.inr rfl,fun t => ?_⟩
    rw [chars,List.append_assoc,dropComments_plain plain]
    exact congrArg _ (dropComments_boundComment bound t)

/-- A path keeps its text where the blanks around it are taken away. -/
theorem trim_path (filled : names ≠ []) (words : ∀ n ∈ names, Token.IsNameText n) {gap : List Char}
    (blank : ∀ c ∈ gap, Text.isBlank c = true) :
    Text.trim (Token.pathText isGlobal names ++ gap) = Token.pathText isGlobal names := by
  have solid := solid_of_mem_pathText isGlobal words
  rcases List.eq_nil_or_concat (Token.pathText isGlobal names) with empty | ⟨front,c,path⟩
  · exact absurd empty (pathText_ne_nil filled words)
  · rw [List.concat_eq_append] at path
    have inside : ∀ d ∈ front ++ [c], Text.isBlank d = false := fun d member => (solid d (path ▸ member)).1
    rw [path,List.append_assoc,List.singleton_append]
    exact Text.trim_closed (fun d first => inside d (List.mem_append_left _ (List.mem_of_mem_head? first)))
      (inside c (by simp)) blank

theorem length_le_nameTokens (names : List String) : names.length ≤ (Token.nameTokens names).length := by
  induction names with
  | nil => rfl
  | cons name names ih =>
    cases names with
    | nil => rfl
    | cons next more => simp only [Token.nameTokens,List.length_append,List.length_cons] at ih ⊢; omega

theorem length_le_pathTokens (isGlobal : Bool) (names : List String) :
    names.length ≤ (Token.pathTokens isGlobal names).length := by
  rw [Token.pathTokens,List.length_append]
  exact (length_le_nameTokens names).trans (Nat.le_add_left _ _)

/-- A path without arguments is an element of arrays. -/
theorem IsElement.readsAsElement {text : String} (is : IsElement text isGlobal names) :
    ∃ left, ReadsAsElement text left (Token.pathTokens isGlobal names) (.path isGlobal (names.map .plain)) := by
  have texts : ∀ n ∈ names, Token.IsNameText n := fun n member => (is.words n member).1
  have words := fun n member => (is.words n member).2
  obtain ⟨gap,kind,dropped⟩ := dropComments_element is
  have blank : ∀ c ∈ gap, Text.isBlank c = true := by
    rcases kind with rfl | rfl
    · simp
    · decide
  have trimmed : Text.trim (Token.pathText isGlobal names ++ gap) = Token.pathText isGlobal names :=
    trim_path is.filled texts blank
  refine ⟨Token.pathText isGlobal names ++ gap,fun t => by rw [dropped,List.append_assoc],?_,?_,?_,?_,?_⟩
  · intro c s ts parting read
    have behind : Token.Parted (gap ++ c :: s) ∧ Token.Reads (gap ++ c :: s) ts := by
      rcases kind with rfl | rfl
      · exact ⟨fun d first => Option.some.inj first ▸ parting,read⟩
      · exact ⟨fun d first => Option.some.inj first ▸ by decide,Token.reads_space read⟩
    rw [List.append_assoc]
    exact (Token.reads_path isGlobal is.filled texts behind.1 behind.2).1
  · have ends : Token.Parted [] := by simp [Token.Parted]
    have whole := (Token.reads_path isGlobal is.filled texts ends Token.reads_nil).1
    rwa [List.append_nil,List.append_nil,← trimmed] at whole
  · rw [trimmed]
    intro c first
    have ascii := (solid_of_mem_pathText isGlobal texts c (List.mem_of_mem_head? first)).2.2
    omega
  · exact fun _ => Reader.atPath_pathTokens isGlobal is.filled words _
  · intro rest fuel stops enough
    have count := length_le_pathTokens isGlobal names
    have some := List.length_pos_iff.mpr is.filled
    exact Reader.type_path is.filled words stops (by omega)

/-- The text of an array is read as an array of what its element is read as. -/
theorem read?_arrayText {element : String} (is : IsElement element isGlobal names) (shape : Option ArrayShape) :
    TypeExpr.read? (arrayText element shape).toList = some (arrayType (.path isGlobal (names.map .plain)) shape) :=
  let ⟨_,reading⟩ := is.readsAsElement
  reading.read?_arrayText shape

end

end MsgBindings.Target
