import Mathlib.Data.Option.Basic
import MsgBindings.Target.DeriveList

/-!
The groups of tokens. In what the readers of paths and types take, the groups between brackets nest
(`closes_of_path`): each reader keeps the groups that are open, and the ones that read up to the end of a group
close it (`Reader.nests`).
-/
namespace MsgBindings.Target

/-- What a group of tokens stands between: brackets of a kind, or angle brackets. -/
inductive Group where
  | bracket (b : Bracket)
  | angle
  deriving DecidableEq, Repr

/-- Whether a token on its own opens no group and closes none. -/
def Token.isPlain : Token → Bool
  | .mark c _ => c != '<' && c != '>' && c != '-'
  | .opening _ | .closing _ => false
  | _ => true

/-- Whether tokens close groups, given from the inside, and every group that opens in them. An arrow closes no
    group. -/
inductive Closes : List Group → List Token → Prop
  | done : Closes [] []
  | plain {σ : List Group} {t : Token} {s : List Token} : t.isPlain = true → Closes σ s → Closes σ (t :: s)
  | negative {σ : List Group} {s : List Token} (joint : Bool) (text : String) :
      Closes σ s → Closes σ (.mark '-' joint :: .literal text true :: s)
  | arrow {σ : List Group} {s : List Token} (joint : Bool) :
      Closes σ s → Closes σ (.mark '-' true :: .mark '>' joint :: s)
  | opening {σ : List Group} {b : Bracket} {s : List Token} : Closes (.bracket b :: σ) s → Closes σ (.opening b :: s)
  | closing {σ : List Group} {b : Bracket} {s : List Token} : Closes σ s → Closes (.bracket b :: σ) (.closing b :: s)
  | less {σ : List Group} {s : List Token} (joint : Bool) : Closes (.angle :: σ) s → Closes σ (.mark '<' joint :: s)
  | greater {σ : List Group} {s : List Token} (joint : Bool) :
      Closes σ s → Closes (.angle :: σ) (.mark '>' joint :: s)

namespace Reader

variable {α β : Type} {s s' : List Token} {σ : List Group}

/-! ### Outcomes -/

theorem bind_eq_some {x : Reader α} {f : α → Reader β} {b : β} :
    (x >>= f) s = some (b,s') ↔ ∃ a next, x s = some (a,next) ∧ f a next = some (b,s') := by
  show (x s).bind (fun r => f r.1 r.2) = _ ↔ _
  simp [Option.bind_eq_some_iff]

theorem map_eq_some {x : Reader α} {f : α → β} {b : β} :
    (f <$> x) s = some (b,s') ↔ ∃ a, x s = some (a,s') ∧ f a = b := by
  show (x s).bind (fun r => some (f r.1,r.2)) = _ ↔ _
  simp only [Option.bind_eq_some_iff,Option.some.injEq,Prod.mk.injEq,Prod.exists]
  grind

theorem pure_eq_some {a b : α} : (pure a : Reader α) s = some (b,s') ↔ a = b ∧ s = s' := by
  show some (a,s) = some (b,s') ↔ _
  simp

theorem get_eq_some {t : List Token} : (get : Reader (List Token)) s = some (t,s') ↔ s = t ∧ s = s' := by
  show some (s,s) = some (t,s') ↔ _
  simp

theorem skip_eq_some {n : Nat} {u : Unit} : skip n s = some (u,s') ↔ s.drop n = s' := by
  show some ((),s.drop n) = some (u,s') ↔ _
  simp

theorem failure_eq_some {a : α} : (failure : Reader α) s = some (a,s') ↔ False := by
  show (none : Option _) = some (a,s') ↔ _
  simp

theorem ite_eq_some {c : Prop} [Decidable c] {x y : Reader α} {a : α} :
    (if c then x else y) s = some (a,s') ↔ (c ∧ x s = some (a,s')) ∨ (¬ c ∧ y s = some (a,s')) := by
  by_cases h : c <;> simp [h]

theorem guard_eq_some {c : Prop} [Decidable c] {u : Unit} : (guard c : Reader Unit) s = some (u,s') ↔ c ∧ s = s' := by
  unfold guard
  rw [ite_eq_some,pure_eq_some,failure_eq_some]
  simp

theorem require_eq_some {test : List Token → Bool} {n : Nat} {u : Unit} :
    require test n s = some (u,s') ↔ test s = true ∧ s.drop n = s' := by
  unfold require
  simp only [bind_eq_some,get_eq_some,guard_eq_some,skip_eq_some]
  grind

theorem optional_eq_some {test : List Token → Bool} {n : Nat} {b : Bool} :
    optional test n s = some (b,s') ↔ test s = b ∧ (if b then s.drop n else s) = s' := by
  unfold optional
  simp only [bind_eq_some,get_eq_some,ite_eq_some,pure_eq_some,skip_eq_some]
  cases b <;> grind

/-- A branch on whether tokens were taken. -/
theorem ite_optional_eq_some {test : List Token → Bool} {n : Nat} {x y : Reader β} {b : β} :
    (optional test n >>= fun taken => if taken = true then x else y) s = some (b,s') ↔
      (test s = true ∧ x (s.drop n) = some (b,s')) ∨ (test s = false ∧ y s = some (b,s')) := by
  simp only [bind_eq_some,optional_eq_some,ite_eq_some]
  grind

/-! ### Tests of the next tokens -/

theorem atMark_iff {c : Char} : atMark c s = true ↔ ∃ joint rest, s = .mark c joint :: rest := by
  unfold atMark
  split <;> simp_all

theorem atPair_iff {c d : Char} : atPair c d s = true ↔ ∃ joint rest, s = .mark c true :: .mark d joint :: rest := by
  unfold atPair
  split <;> simp_all

theorem atWord_iff {word : String} : atWord word s = true ↔ ∃ rest, s = .identifier word :: rest := by
  unfold atWord
  split <;> simp_all

theorem atOpening_iff {b : Bracket} : atOpening b s = true ↔ ∃ rest, s = .opening b :: rest := by
  unfold atOpening
  split <;> simp_all

theorem atClosing_iff {b : Bracket} : atClosing b s = true ↔ ∃ rest, s = .closing b :: rest := by
  unfold atClosing
  split <;> simp_all

@[grind →] theorem closes_of_atClosing {b : Bracket} (test : atClosing b s = true) (rest : Closes σ (s.drop 1)) :
    Closes (.bracket b :: σ) s := by
  obtain ⟨_,rfl⟩ := atClosing_iff.mp test
  exact .closing rest

@[grind →] theorem closes_of_atOpening {b : Bracket} (test : atOpening b s = true)
    (rest : Closes (.bracket b :: σ) (s.drop 1)) : Closes σ s := by
  obtain ⟨_,rfl⟩ := atOpening_iff.mp test
  exact .opening rest

@[grind →] theorem closes_of_atGreater {c : Char} (test : atMark c s = true) (rest : Closes σ (s.drop 1))
    (greater : c = '>') : Closes (.angle :: σ) s := by
  subst greater
  obtain ⟨_,_,rfl⟩ := atMark_iff.mp test
  exact .greater _ rest

@[grind →] theorem closes_of_atLess {c : Char} (test : atMark c s = true) (rest : Closes (.angle :: σ) (s.drop 1))
    (less : c = '<') : Closes σ s := by
  subst less
  obtain ⟨_,_,rfl⟩ := atMark_iff.mp test
  exact .less _ rest

@[grind →] theorem closes_of_atMark {c : Char} (test : atMark c s = true) (rest : Closes σ (s.drop 1))
    (plain : c ≠ '<' ∧ c ≠ '>' ∧ c ≠ '-') : Closes σ s := by
  obtain ⟨_,_,rfl⟩ := atMark_iff.mp test
  exact .plain (by simpa [Token.isPlain,and_assoc] using plain) rest

@[grind →] theorem closes_of_atWord {word : String} (test : atWord word s = true) (rest : Closes σ (s.drop 1)) :
    Closes σ s := by
  obtain ⟨_,rfl⟩ := atWord_iff.mp test
  exact .plain rfl rest

/-- The pairs of marks in types are two colons and an arrow. -/
@[grind →] theorem closes_of_atPair {c d : Char} (test : atPair c d s = true) (rest : Closes σ (s.drop 2))
    (pair : c = ':' ∧ d = ':' ∨ c = '-' ∧ d = '>') : Closes σ s := by
  obtain ⟨_,_,rfl⟩ := atPair_iff.mp test
  rcases pair with ⟨rfl,rfl⟩ | ⟨rfl,rfl⟩
  · exact .plain rfl (.plain rfl rest)
  · exact .arrow _ rest

@[grind =>] theorem atPair_of_atMark {c d e : Char} (test : atMark c s = true) (other : c ≠ d) :
    atPair d e s = false := by
  obtain ⟨joint,_,rfl⟩ := atMark_iff.mp test
  unfold atPair
  split <;> simp_all

@[grind =>] theorem atPair_of_atOpening {b : Bracket} {c d : Char} (test : atOpening b s = true) :
    atPair c d s = false := by
  obtain ⟨_,rfl⟩ := atOpening_iff.mp test
  rfl

theorem closes_of_optionalMark {c : Char} (plain : c ≠ '<' ∧ c ≠ '>' ∧ c ≠ '-')
    (rest : Closes σ (if atMark c s = true then s.drop 1 else s)) : Closes σ s := by
  split at rest
  · exact closes_of_atMark ‹_› rest plain
  · exact rest

theorem closes_of_optionalColons (rest : Closes σ (if atPair ':' ':' s = true then s.drop 2 else s)) :
    Closes σ s := by
  split at rest
  · exact closes_of_atPair ‹_› rest (.inl ⟨rfl,rfl⟩)
  · exact rest

/-- The parenthesis of a call stands behind two colons or on its own. -/
theorem closes_of_call {plain : Bool} (call : (plain && (atOpening .round s || atCallColons s)) = true)
    (rest : Closes (.bracket .round :: σ) ((if atPair ':' ':' s = true then s.drop 2 else s).drop 1)) :
    Closes σ s := by
  refine closes_of_optionalColons (closes_of_atOpening (b := .round) ?_ rest)
  grind [atCallColons]

/-! ### Readers without types -/

theorem word_eq_some {name : String} : word s = some (name,s') ↔ s = .identifier name :: s' := by
  unfold word
  simp only [bind_eq_some,get_eq_some,and_assoc,exists_and_left,exists_eq_left']
  split
  · simp only [bind_eq_some,skip_eq_some,pure_eq_some]
    grind
  · simp only [failure_eq_some]
    grind

theorem segment_eq_some {fuel : Nat} {named : Segment} : segment (fuel + 1) s = some (named,s') ↔
    ∃ name r, s = .identifier name :: r ∧
      (name ∈ ["super","self","crate","try"] ∧ named = .plain name ∧ s' = r ∨
        name ∉ ["super","self","crate","try"] ∧ (name == "Self" || isName name) = true ∧
          (atAngle r = false ∧ named = .plain name ∧ s' = r ∨
            atAngle r = true ∧ ∃ args, named = .mk name (.angle args) ∧
              argumentsToClose fuel ((if atPair ':' ':' r then r.drop 2 else r).drop 1) = some (args,s'))) := by
  rw [segment]
  simp only [bind_eq_some,get_eq_some,pure_eq_some,skip_eq_some,guard_eq_some,optional_eq_some,ite_eq_some,and_assoc,
    exists_and_left,exists_eq_left',exists_const,word_eq_some]
  grind

theorem argumentsToClose_eq_some {fuel : Nat} {args : List Argument} :
    argumentsToClose (fuel + 1) s = some (args,s') ↔
      atMark '>' s = true ∧ args = [] ∧ s' = s.drop 1 ∨
        atMark '>' s = false ∧ ∃ first middle, argument fuel s = some (first,middle) ∧
          (atMark '>' middle = true ∧ args = [first] ∧ s' = middle.drop 1 ∨
            atMark '>' middle = false ∧ atMark ',' middle = true ∧
              ∃ later, argumentsToClose fuel (middle.drop 1) = some (later,s') ∧ args = first :: later) := by
  rw [argumentsToClose]
  simp only [↓ite_optional_eq_some,bind_eq_some,pure_eq_some,require_eq_some,and_assoc,exists_and_left,
    exists_eq_left',exists_const]
  grind

theorem path_eq_some {fuel : Nat} {found : List Segment} : path (fuel + 1) s = some (found,s') ↔
    ∃ first middle later, segment fuel s = some (first,middle) ∧ pathRest fuel middle = some (later,s') ∧
      found = first :: later := by
  rw [path]
  simp only [bind_eq_some,pure_eq_some]
  grind

/-- Behind two colons that no parenthesis follows a path starts again. -/
theorem pathRest_eq_some {fuel : Nat} {found : List Segment} : pathRest (fuel + 1) s = some (found,s') ↔
    (atPair ':' ':' s && !atCallColons s) = true ∧ path (fuel + 1) (s.drop 2) = some (found,s') ∨
      (atPair ':' ':' s && !atCallColons s) = false ∧ found = [] ∧ s' = s := by
  rw [pathRest,path]
  simp only [bind_eq_some,get_eq_some,pure_eq_some,skip_eq_some,ite_eq_some,and_assoc,exists_and_left,exists_eq_left',
    exists_const]
  grind

theorem path_word {fuel : Nat} {found : List Segment} (made : path fuel s = some (found,s')) :
    ∃ name r, s = .identifier name :: r := by
  cases fuel with
  | zero => cases made
  | succ fuel =>
    obtain ⟨_,_,_,first,_⟩ := path_eq_some.mp made
    cases fuel with
    | zero => cases first
    | succ fuel =>
      obtain ⟨name,r,rfl,_⟩ := segment_eq_some.mp first
      exact ⟨name,r,rfl⟩

theorem closes_of_word {name : String} (made : word s = some (name,s')) (rest : Closes σ s') : Closes σ s := by
  obtain rfl := word_eq_some.mp made
  exact .plain rfl rest

theorem closes_of_lifetime {name : String} (made : lifetime s = some (name,s')) (rest : Closes σ s') :
    Closes σ s := by
  simp only [lifetime,bind_eq_some,get_eq_some] at made
  obtain ⟨_,_,⟨rfl,rfl⟩,made⟩ := made
  split at made
  · simp only [bind_eq_some,skip_eq_some,pure_eq_some] at made
    obtain ⟨_,_,rfl,_,rfl⟩ := made
    exact .plain rfl rest
  · cases failure_eq_some.mp made

theorem closes_of_literal {c : ConstantExpr} (made : literal s = some (c,s')) (rest : Closes σ s') : Closes σ s := by
  simp only [literal,bind_eq_some,get_eq_some] at made
  obtain ⟨_,_,⟨rfl,rfl⟩,made⟩ := made
  split at made
  · simp only [bind_eq_some,skip_eq_some,pure_eq_some] at made
    obtain ⟨_,_,rfl,_,rfl⟩ := made
    exact .plain rfl rest
  · simp only [bind_eq_some,skip_eq_some,pure_eq_some] at made
    obtain ⟨_,_,rfl,_,rfl⟩ := made
    exact .negative _ _ rest
  · simp only [bind_eq_some,guard_eq_some,skip_eq_some,pure_eq_some] at made
    obtain ⟨_,_,⟨_,rfl⟩,_,_,rfl,_,rfl⟩ := made
    exact .plain rfl rest
  · cases failure_eq_some.mp made

theorem closes_of_names {fuel : Nat} {found : List String} (made : names fuel s = some (found,s'))
    (rest : Closes σ s') : Closes σ s := by
  induction fuel generalizing s found with
  | zero => cases made
  | succ fuel ih =>
    rw [names] at made
    simp only [bind_eq_some,get_eq_some,pure_eq_some,skip_eq_some,guard_eq_some,ite_eq_some,and_assoc,exists_and_left,
      exists_eq_left',exists_const] at made
    grind [→ closes_of_word]

theorem closes_of_constant {fuel : Nat} {c : ConstantExpr} (made : constant fuel s = some (c,s'))
    (rest : Closes σ s') : Closes σ s := by
  rw [constant] at made
  simp only [bind_eq_some,get_eq_some,pure_eq_some,optional_eq_some,ite_eq_some,and_assoc,exists_and_left,
    exists_eq_left'] at made
  grind [→ closes_of_literal,→ closes_of_names]

theorem closes_of_constantArgument {fuel : Nat} {c : ConstantExpr} (made : constantArgument fuel s = some (c,s'))
    (rest : Closes σ s') : Closes σ s := by
  rw [constantArgument] at made
  simp only [↓ite_optional_eq_some,bind_eq_some,pure_eq_some,require_eq_some,and_assoc,exists_and_left,
    exists_eq_left',exists_const] at made
  grind [→ closes_of_literal,→ closes_of_constant]

theorem closes_of_lifetimesToClose {fuel : Nat} {found : List String}
    (made : lifetimesToClose fuel s = some (found,s')) (rest : Closes σ s') : Closes (.angle :: σ) s := by
  induction fuel generalizing s found with
  | zero => cases made
  | succ fuel ih =>
    rw [lifetimesToClose] at made
    simp only [↓ite_optional_eq_some,bind_eq_some,pure_eq_some,require_eq_some,and_assoc,exists_and_left,
      exists_eq_left',exists_const] at made
    grind [→ closes_of_lifetime]

theorem closes_of_generality {fuel : Nat} {found : Option (List String)}
    (made : generality fuel s = some (found,s')) (rest : Closes σ s') : Closes σ s := by
  rw [generality] at made
  simp only [↓ite_optional_eq_some,bind_eq_some,pure_eq_some,require_eq_some,and_assoc,exists_and_left,
    exists_eq_left',exists_const] at made
  grind [→ closes_of_lifetimesToClose]

theorem closes_of_conventionName {name : Option String} (made : conventionName s = some (name,s'))
    (rest : Closes σ s') : Closes σ s := by
  simp only [conventionName,bind_eq_some,get_eq_some] at made
  obtain ⟨_,_,⟨rfl,rfl⟩,made⟩ := made
  split at made
  · simp only [bind_eq_some,guard_eq_some,skip_eq_some,pure_eq_some] at made
    obtain ⟨_,_,⟨_,rfl⟩,_,_,rfl,_,rfl⟩ := made
    exact .plain rfl rest
  · obtain ⟨_,rfl⟩ := pure_eq_some.mp made
    exact rest

theorem closes_of_functionQualifiers {lifetimes : Option (List String)} {q : FunctionQualifiers}
    (made : functionQualifiers lifetimes s = some (q,s')) (rest : Closes σ s') : Closes σ s := by
  rw [functionQualifiers] at made
  simp only [↓ite_optional_eq_some,bind_eq_some,map_eq_some,pure_eq_some,require_eq_some,optional_eq_some,and_assoc,
    exists_and_left,exists_eq_left',exists_const] at made
  grind [→ closes_of_conventionName]

theorem closes_of_parameterName {name : Option String} (made : parameterName s = some (name,s'))
    (rest : Closes σ s') : Closes σ s := by
  rw [parameterName] at made
  simp only [bind_eq_some,get_eq_some,pure_eq_some,skip_eq_some,ite_eq_some,and_assoc,exists_and_left,exists_eq_left',
    exists_const] at made
  rcases made with ⟨test,name,_,taken,_,rfl⟩ | ⟨_,_,rfl⟩
  · obtain rfl := word_eq_some.mp taken
    grind [atParameterName,Closes.plain,Token.isPlain]
  · exact rest

/-! ### The grammar of types -/

/-- What the readers of types keep and end, with some fuel. -/
structure Nests (fuel : Nat) : Prop where
  type {s s' : List Token} {σ : List Group} {plus : Bool} {t : TypeExpr} :
    type fuel plus s = some (t,s') → Closes σ s' → Closes σ s
  pathType {s s' : List Token} {σ : List Group} {lifetimes : Option (List String)} {plus : Bool} {t : TypeExpr} :
    pathType fuel lifetimes plus s = some (t,s') → Closes σ s' → Closes σ s
  item {s s' : List Token} {σ : List Group} {t : TypeExpr} :
    item fuel s = some (t,s') → Closes σ s' → Closes σ s
  group {s s' : List Token} {σ : List Group} {plus : Bool} {t : TypeExpr} :
    group fuel plus s = some (t,s') → Closes σ s' → Closes (.bracket .round :: σ) s
  typesToClose {s s' : List Token} {σ : List Group} {ts : List TypeExpr} :
    typesToClose fuel s = some (ts,s') → Closes σ s' → Closes (.bracket .round :: σ) s
  parametersToClose {s s' : List Token} {σ : List Group} {ps : List Parameter} :
    parametersToClose fuel s = some (ps,s') → Closes σ s' → Closes (.bracket .round :: σ) s
  result {s s' : List Token} {σ : List Group} {t : Option TypeExpr} :
    result fuel s = some (t,s') → Closes σ s' → Closes σ s
  path {s s' : List Token} {σ : List Group} {names : List Segment} :
    path fuel s = some (names,s') → Closes σ s' → Closes σ s
  pathRest {s s' : List Token} {σ : List Group} {names : List Segment} :
    pathRest fuel s = some (names,s') → Closes σ s' → Closes σ s
  itemPath {s s' : List Token} {σ : List Group} {names : List Segment} :
    itemPath fuel s = some (names,s') → Closes σ s' → Closes σ s
  calls {s s' : List Token} {σ : List Group} {before names : List Segment} :
    calls fuel before s = some (names,s') → Closes σ s' → Closes σ s
  segment {s s' : List Token} {σ : List Group} {named : Segment} :
    segment fuel s = some (named,s') → Closes σ s' → Closes σ s
  argumentsToClose {s s' : List Token} {σ : List Group} {args : List Argument} :
    argumentsToClose fuel s = some (args,s') → Closes σ s' → Closes (.angle :: σ) s
  argument {s s' : List Token} {σ : List Group} {arg : Argument} :
    argument fuel s = some (arg,s') → Closes σ s' → Closes σ s
  bounds {s s' : List Token} {σ : List Group} {plus : Bool} {bs : List Bound} :
    bounds fuel plus s = some (bs,s') → Closes σ s' → Closes σ s
  moreBounds {s s' : List Token} {σ : List Group} {plus : Bool} {bs : List Bound} :
    moreBounds fuel plus s = some (bs,s') → Closes σ s' → Closes σ s
  strictBounds {s s' : List Token} {σ : List Group} {bs : List Bound} :
    strictBounds fuel s = some (bs,s') → Closes σ s' → Closes σ s
  bound {s s' : List Token} {σ : List Group} {b : Bound} :
    bound fuel s = some (b,s') → Closes σ s' → Closes σ s

section

variable {fuel : Nat} {plus : Bool} {t : TypeExpr} {names : List Segment} {bs : List Bound} (ih : Nests fuel)
include ih

theorem closes_of_type (made : type (fuel + 1) plus s = some (t,s')) (rest : Closes σ s') :
    Closes σ s := by
  rw [type] at made
  simp only [↓ite_optional_eq_some,bind_eq_some,map_eq_some,get_eq_some,pure_eq_some,guard_eq_some,require_eq_some,
    optional_eq_some,ite_eq_some,and_assoc,exists_and_left,exists_eq_left',exists_const] at made
  obtain ⟨lifetimes,_,general,-,made⟩ := made
  refine closes_of_generality general ?_
  clear general
  rcases made with made | ⟨-,⟨-,made⟩ | ⟨-,made | ⟨-,⟨-,made⟩ | ⟨-,made | ⟨-,made | ⟨-,made | ⟨-,made⟩⟩⟩⟩⟩⟩⟩
  · grind [→ ih.group]
  · grind [→ closes_of_functionQualifiers,→ ih.parametersToClose,→ ih.result]
  · grind [→ ih.item]
  · grind [→ ih.pathType]
  · grind [→ ih.bounds]
  · grind [→ closes_of_constant,→ closes_of_constantArgument,→ ih.type]
  · grind [→ ih.type]
  · grind [→ closes_of_lifetime,→ ih.bounds,→ ih.type]

theorem closes_of_pathType {lifetimes : Option (List String)}
    (made : pathType (fuel + 1) lifetimes plus s = some (t,s')) (rest : Closes σ s') : Closes σ s := by
  rw [pathType] at made
  simp only [bind_eq_some,get_eq_some,pure_eq_some,optional_eq_some,ite_eq_some,and_assoc,exists_and_left,
    exists_eq_left'] at made
  grind [→ ih.path,→ ih.calls,→ ih.moreBounds]

theorem closes_of_item (made : item (fuel + 1) s = some (t,s')) (rest : Closes σ s') :
    Closes σ s := by
  rw [item] at made
  simp only [↓ite_optional_eq_some,bind_eq_some,pure_eq_some,require_eq_some,optional_eq_some,and_assoc,
    exists_and_left,exists_eq_left',exists_const] at made
  grind [→ ih.type,→ ih.path,→ ih.calls,→ ih.itemPath]

theorem closes_of_group (made : group (fuel + 1) plus s = some (t,s')) (rest : Closes σ s') :
    Closes (.bracket .round :: σ) s := by
  rw [group] at made
  simp only [↓ite_optional_eq_some,bind_eq_some,get_eq_some,pure_eq_some,skip_eq_some,require_eq_some,ite_eq_some,
    and_assoc,exists_and_left,exists_eq_left',exists_const] at made
  rcases made with ⟨closing,-,rfl⟩ | ⟨-,⟨-,found,_,first,closing,made⟩ | ⟨-,found,_,first,made⟩⟩
  · exact closes_of_atClosing closing rest
  · refine ih.bound first (closes_of_atClosing closing ?_)
    cases found with
    | trait =>
      simp only [bind_eq_some,pure_eq_some] at made
      grind [→ ih.strictBounds]
    | lifetime => cases made
  · refine ih.type first ?_
    rcases made with made | ⟨-,closing,made⟩
    · grind [→ ih.typesToClose]
    · refine closes_of_atClosing closing ?_
      cases more : found.bound? with
      | some b =>
        simp only [more,bind_eq_some,pure_eq_some,get_eq_some,ite_eq_some] at made
        grind [→ ih.strictBounds]
      | none =>
        simp only [more,pure_eq_some] at made
        exact made.2 ▸ rest

theorem closes_of_typesToClose {ts : List TypeExpr} (made : typesToClose (fuel + 1) s = some (ts,s'))
    (rest : Closes σ s') : Closes (.bracket .round :: σ) s := by
  rw [typesToClose] at made
  simp only [↓ite_optional_eq_some,bind_eq_some,pure_eq_some,require_eq_some,and_assoc,exists_and_left,
    exists_eq_left',exists_const] at made
  grind [→ ih.type,→ ih.typesToClose]

theorem closes_of_parametersToClose {ps : List Parameter} (made : parametersToClose (fuel + 1) s = some (ps,s'))
    (rest : Closes σ s') : Closes (.bracket .round :: σ) s := by
  rw [parametersToClose] at made
  simp only [↓ite_optional_eq_some,bind_eq_some,pure_eq_some,require_eq_some,and_assoc,exists_and_left,
    exists_eq_left',exists_const] at made
  grind [→ ih.type,→ ih.parametersToClose,→ closes_of_parameterName]

theorem closes_of_result {t : Option TypeExpr} (made : result (fuel + 1) s = some (t,s')) (rest : Closes σ s') :
    Closes σ s := by
  rw [result] at made
  simp only [↓ite_optional_eq_some,bind_eq_some,pure_eq_some] at made
  grind [→ ih.type]

theorem closes_of_path (made : path (fuel + 1) s = some (names,s')) (rest : Closes σ s') :
    Closes σ s := by
  rw [path] at made
  simp only [bind_eq_some,pure_eq_some] at made
  grind [→ ih.segment,→ ih.pathRest]

theorem closes_of_pathRest (made : pathRest (fuel + 1) s = some (names,s')) (rest : Closes σ s') :
    Closes σ s := by
  rw [pathRest] at made
  simp only [bind_eq_some,get_eq_some,pure_eq_some,skip_eq_some,ite_eq_some,and_assoc,exists_and_left,exists_eq_left',
    exists_const] at made
  grind [→ ih.segment,→ ih.pathRest]

theorem closes_of_itemPath (made : itemPath (fuel + 1) s = some (names,s')) (rest : Closes σ s') :
    Closes σ s := by
  rw [itemPath] at made
  simp only [↓ite_optional_eq_some,bind_eq_some,pure_eq_some] at made
  grind [→ ih.segment,→ ih.itemPath]

theorem closes_of_calls {before : List Segment} (made : calls (fuel + 1) before s = some (names,s'))
    (rest : Closes σ s') : Closes σ s := by
  rw [calls] at made
  simp only [bind_eq_some,get_eq_some,pure_eq_some,skip_eq_some,optional_eq_some,ite_eq_some,and_assoc,
    exists_and_left,exists_eq_left',exists_const] at made
  rcases made with ⟨call,_,_,inputs,output,_,returned,made⟩ | ⟨-,-,rfl⟩
  · refine closes_of_call call (ih.typesToClose inputs (ih.result returned ?_))
    clear call inputs returned
    split at made
    · simp only [bind_eq_some] at made
      grind [→ ih.pathRest,→ ih.calls]
    · simp only [bind_eq_some] at made
      grind [→ ih.pathRest,→ ih.calls]
    · exact (pure_eq_some.mp made).2 ▸ rest
  · exact rest

theorem closes_of_segment {named : Segment} (made : segment (fuel + 1) s = some (named,s')) (rest : Closes σ s') :
    Closes σ s := by
  rw [segment] at made
  simp only [bind_eq_some,get_eq_some,pure_eq_some,skip_eq_some,guard_eq_some,optional_eq_some,ite_eq_some,and_assoc,
    exists_and_left,exists_eq_left',exists_const] at made
  grind [→ closes_of_word,→ ih.argumentsToClose,atAngle]

theorem closes_of_argumentsToClose {args : List Argument} (made : argumentsToClose (fuel + 1) s = some (args,s'))
    (rest : Closes σ s') : Closes (.angle :: σ) s := by
  rw [argumentsToClose_eq_some] at made
  grind [→ ih.argument,→ ih.argumentsToClose]

theorem closes_of_argument {arg : Argument} (made : argument (fuel + 1) s = some (arg,s')) (rest : Closes σ s') :
    Closes σ s := by
  rw [argument] at made
  simp only [bind_eq_some,get_eq_some,pure_eq_some,ite_eq_some,and_assoc,exists_and_left,exists_eq_left'] at made
  rcases made with made | ⟨-,made | ⟨-,found,_,first,made⟩⟩
  · grind [→ closes_of_lifetime]
  · grind [→ closes_of_constantArgument]
  · refine ih.type first ?_
    clear first
    cases named : found.associated? with
    | none =>
      simp only [named,pure_eq_some] at made
      exact made.2 ▸ rest
    | some item =>
      simp only [named] at made
      simp only [↓ite_optional_eq_some,bind_eq_some,get_eq_some,pure_eq_some,ite_eq_some,and_assoc,exists_and_left,
        exists_eq_left'] at made
      rcases made with made | ⟨-,made | made⟩
      · grind [→ closes_of_constantArgument,→ ih.type]
      · grind [→ ih.bounds]
      · exact made.2.2 ▸ rest

theorem closes_of_bounds (made : bounds (fuel + 1) plus s = some (bs,s')) (rest : Closes σ s') :
    Closes σ s := by
  rw [bounds] at made
  simp only [bind_eq_some,pure_eq_some] at made
  grind [→ ih.bound,→ ih.moreBounds]

theorem closes_of_moreBounds (made : moreBounds (fuel + 1) plus s = some (bs,s')) (rest : Closes σ s') :
    Closes σ s := by
  rw [moreBounds] at made
  simp only [bind_eq_some,get_eq_some,pure_eq_some,skip_eq_some,ite_eq_some,and_assoc,exists_and_left,exists_eq_left',
    exists_const] at made
  grind [→ ih.bound,→ ih.moreBounds]

theorem closes_of_strictBounds (made : strictBounds (fuel + 1) s = some (bs,s')) (rest : Closes σ s') :
    Closes σ s := by
  rw [strictBounds] at made
  simp only [↓ite_optional_eq_some,bind_eq_some,pure_eq_some] at made
  grind [→ ih.bound,→ ih.strictBounds]

theorem closes_of_bound {b : Bound} (made : bound (fuel + 1) s = some (b,s')) (rest : Closes σ s') :
    Closes σ s := by
  rw [bound] at made
  simp only [bind_eq_some,get_eq_some,pure_eq_some,skip_eq_some,require_eq_some,optional_eq_some,ite_eq_some,
    and_assoc,exists_and_left,exists_eq_left',exists_const] at made
  rcases made with ⟨-,_,_,taken,-,rfl⟩ | ⟨-,_,_,general,made⟩
  · exact closes_of_lifetime taken rest
  -- Within the parentheses, if there are some, their group is open.
  obtain ⟨inner,opened,ended⟩ : ∃ inner,
      (Closes inner (if atOpening .round s = true then s.drop 1 else s) → Closes σ s) ∧
      ∀ t, (atOpening .round s = true ∧ atClosing .round t = true ∧ t.drop 1 = s' ∨
        ¬ atOpening .round s = true ∧ t = s') → Closes inner t := by
    cases h : atOpening .round s with
    | true => exact ⟨.bracket .round :: σ,by grind,by grind⟩
    | false => exact ⟨σ,by grind,by grind⟩
  refine opened (closes_of_generality general ?_)
  clear general opened
  rcases made with ⟨-,_,_,general,_,_,found,made⟩ | ⟨-,_,_,found,made⟩
  · refine closes_of_optionalMark (by decide) (closes_of_generality general (closes_of_optionalColons ?_))
    refine ih.path found ?_
    clear general found
    rcases made with ⟨call,_,_,inputs,_,_,output,made⟩ | ⟨-,made⟩
    · refine closes_of_call call (ih.typesToClose inputs (ih.result output (ended _ ?_)))
      grind
    · exact ended _ (by grind)
  · refine closes_of_optionalMark (by decide) (closes_of_optionalColons (ih.path found ?_))
    clear found
    rcases made with ⟨call,_,_,inputs,_,_,output,made⟩ | ⟨-,made⟩
    · refine closes_of_call call (ih.typesToClose inputs (ih.result output (ended _ ?_)))
      grind
    · exact ended _ (by grind)

end

/-- In what the readers of types take, groups nest. -/
theorem nests (fuel : Nat) : Nests fuel := by
  induction fuel with
  | zero => constructor <;> intros <;> contradiction
  | succ fuel ih => exact {
      type := closes_of_type ih
      pathType := closes_of_pathType ih
      item := closes_of_item ih
      group := closes_of_group ih
      typesToClose := closes_of_typesToClose ih
      parametersToClose := closes_of_parametersToClose ih
      result := closes_of_result ih
      path := closes_of_path ih
      pathRest := closes_of_pathRest ih
      itemPath := closes_of_itemPath ih
      calls := closes_of_calls ih
      segment := closes_of_segment ih
      argumentsToClose := closes_of_argumentsToClose ih
      argument := closes_of_argument ih
      bounds := closes_of_bounds ih
      moreBounds := closes_of_moreBounds ih
      strictBounds := closes_of_strictBounds ih
      bound := closes_of_bound ih }

end Reader

/-- A text is read as a path exactly if its tokens are taken whole. -/
theorem Path.read?_eq_some {text : List Char} {path : Path} :
    Path.read? text = some path ↔ ∃ tokens s, Token.readAll text = some tokens ∧
      Reader.optional (Reader.atPair ':' ':') 2 tokens = some (path.isGlobal,s) ∧
      Reader.path (16 * (tokens.length + 1)) s = some (path.segments,[]) := by
  obtain ⟨isGlobal,segments⟩ := path
  unfold Path.read? Reader.readAll
  simp only [Option.bind_eq_bind,Option.bind_eq_some_iff,Prod.exists,Reader.bind_eq_some,Reader.pure_eq_some,
    List.isEmpty_iff,Option.ite_none_right_eq_some]
  grind

/-- The groups in the tokens of a path close. -/
theorem closes_of_path {text : List Char} {path : Path} {tokens : List Token} (read : Path.read? text = some path)
    (written : Token.readAll text = some tokens) : Closes [] tokens := by
  obtain ⟨_,s,lexed,start,taken⟩ := Path.read?_eq_some.mp read
  obtain rfl := Option.some.inj (written.symm.trans lexed)
  have closed := (Reader.nests _).path taken .done
  rw [Reader.optional_eq_some] at start
  grind

end MsgBindings.Target
