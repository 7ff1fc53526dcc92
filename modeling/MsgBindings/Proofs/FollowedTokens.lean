import MsgBindings.Proofs.NestedTokens
import MsgBindings.Proofs.TypeReading

/-!
Paths with more behind them. Inside of arguments nothing that follows their end is looked at, so what a reader makes
of tokens there it makes of them wherever they stand (`Carries`), with any fuel that is enough.
-/
namespace MsgBindings.Target.Reader

variable {α β : Type} {s s' more : List Token}

/-! ### Tokens that others follow -/

/-- Whether tokens are given ones and more behind these. Another mark may follow a mark that ends arguments at once. -/
inductive Followed (more : List Token) : List Token → List Token → Prop
  | done : Followed more [] more
  | token (t : Token) {s s' : List Token} : Followed more s s' → Followed more (t :: s) (t :: s')
  | greater (i j : Bool) {s s' : List Token} :
      Followed more s s' → Followed more (.mark '>' i :: s) (.mark '>' j :: s')

theorem followed_append (more s : List Token) : Followed more s (s ++ more) := by
  induction s with
  | nil => exact .done
  | cons t s ih => exact .token t ih

theorem Followed.append (front : List Token) (followed : Followed more s s') :
    Followed more (front ++ s) (front ++ s') := by
  induction front with
  | nil => exact followed
  | cons t front ih => exact .token t ih

/-- Whether the end of arguments is among tokens. -/
def Inside (s : List Token) : Prop := ∃ joint, .mark '>' joint ∈ s

theorem Inside.of_suffix (inside : Inside s) (suffix : s <:+ s') : Inside s' :=
  let ⟨joint,member⟩ := inside
  ⟨joint,suffix.subset member⟩

/-- Two tokens in front of both are the same, except for what follows a mark that ends arguments. -/
inductive Alike : Token → Token → Prop
  | same (t : Token) : Alike t t
  | greater (i j : Bool) : Alike (.mark '>' i) (.mark '>' j)

theorem Followed.cons {t : Token} (followed : Followed more (t :: s) s') :
    ∃ t' r, s' = t' :: r ∧ Alike t t' ∧ Followed more s r := by
  cases followed with
  | token _ rest => exact ⟨t,_,rfl,.same t,rest⟩
  | greater i j rest => exact ⟨_,_,rfl,.greater i j,rest⟩

/-- Inside of arguments a token comes, and behind it the end of the arguments if it is not this end. -/
theorem Inside.cons (inside : Inside s) :
    ∃ t r, s = t :: r ∧ ((∃ joint, t = .mark '>' joint) ∨ Inside r) := by
  obtain ⟨joint,member⟩ := inside
  cases s with
  | nil => cases member
  | cons t r =>
    rcases List.mem_cons.mp member with rfl | later
    · exact ⟨_,_,rfl,.inl ⟨joint,rfl⟩⟩
    · exact ⟨_,_,rfl,.inr ⟨joint,later⟩⟩

/-! ### Tests inside of arguments -/

/-- Whether what is made of tokens inside of arguments does not depend on what follows these. -/
def Steady {γ : Type} (look : List Token → γ) : Prop :=
  ∀ ⦃s s' more⦄, Inside s → Followed more s s' → look s' = look s

/-- A look at the next token. -/
theorem steady_of_token {γ : Type} {look : List Token → γ} (front : ∀ t r r', look (t :: r') = look (t :: r))
    (ends : ∀ i j r, look (.mark '>' j :: r) = look (.mark '>' i :: r)) : Steady look := by
  intro s s' more inside followed
  obtain ⟨t,r,rfl,_⟩ := inside.cons
  obtain ⟨t',r',rfl,alike,_⟩ := followed.cons
  cases alike with
  | same => exact front t r r'
  | greater i j => exact (front _ r r').trans (ends i j r)

/-- A test of the next token, which does not end arguments, and then of the tokens behind it. -/
theorem Steady.next {first second : List Token → Bool} (front : Steady first) (behind : Steady second)
    (ends : ∀ joint r, first (.mark '>' joint :: r) = false) : Steady fun s => first s && second (s.drop 1) := by
  intro s s' more inside followed
  have same := front inside followed
  obtain ⟨t,r,rfl,⟨joint,rfl⟩ | later⟩ := inside.cons
  · simp [same,ends joint r]
  · obtain ⟨t',r',rfl,_,rest⟩ := followed.cons
    simp [same,behind later rest]

theorem steady_atMark (c : Char) : Steady (atMark c) :=
  steady_of_token (fun t _ _ => by cases t <;> rfl) fun _ _ _ => rfl

theorem steady_atWord (word : String) : Steady (atWord word) :=
  steady_of_token (fun t _ _ => by cases t <;> rfl) fun _ _ _ => rfl

theorem steady_atOpening (b : Bracket) : Steady (atOpening b) :=
  steady_of_token (fun t _ _ => by cases t <;> rfl) fun _ _ _ => rfl

theorem steady_atClosing (b : Bracket) : Steady (atClosing b) :=
  steady_of_token (fun t _ _ => by cases t <;> rfl) fun _ _ _ => rfl

theorem steady_atLifetime : Steady atLifetime := steady_of_token (fun t _ _ => by cases t <;> rfl) fun _ _ _ => rfl

theorem steady_atName : Steady atName := steady_of_token (fun t _ _ => by cases t <;> rfl) fun _ _ _ => rfl

/-- Whether the next token is a mark that another one follows at once. -/
def atJoint (c : Char) : List Token → Bool
  | .mark d true :: _ => d == c
  | _ => false

theorem atPair_eq (c d : Char) (s : List Token) : atPair c d s = (atJoint c s && atMark d (s.drop 1)) := by
  rcases s with _ | ⟨⟨⟩ | ⟨⟩ | ⟨c',_ | _⟩ | ⟨⟩ | ⟨⟩ | ⟨⟩,_ | ⟨⟨⟩ | ⟨⟩ | ⟨⟩ | ⟨⟩ | ⟨⟩ | ⟨⟩,s⟩⟩ <;>
    simp [atPair,atJoint,atMark]

section

variable {c : Char} (other : c ≠ '>')
include other

theorem atJoint_greater (joint : Bool) (s : List Token) : atJoint c (.mark '>' joint :: s) = false := by
  cases joint <;> simp [atJoint,other.symm]

theorem steady_atJoint : Steady (atJoint c) := by
  refine steady_of_token (fun t _ _ => ?_) fun i j r => ?_
  · rcases t with _ | _ | ⟨_,_ | _⟩ | _ | _ | _ <;> rfl
  · rw [atJoint_greater other,atJoint_greater other]

theorem steady_atPair (d : Char) : Steady (atPair c d) := by
  intro s s' more inside followed
  rw [atPair_eq,atPair_eq]
  exact (steady_atJoint other).next (steady_atMark d) (atJoint_greater other) inside followed

/-- A test of the tokens behind two marks. -/
theorem steady_behindPair {d : Char} (other' : d ≠ '>') {test : List Token → Bool} (steady : Steady test) :
    Steady fun s => atPair c d s && test (s.drop 2) := by
  intro s s' more inside followed
  have ends : ∀ joint r, atMark d (.mark '>' joint :: r) = false := by simp [atMark,other'.symm]
  have two := (steady_atJoint other).next ((steady_atMark d).next steady ends) (atJoint_greater other) inside followed
  simpa only [atPair_eq,Bool.and_assoc,List.drop_drop] using two

end

theorem steady_atColons : Steady (atPair ':' ':') := steady_atPair (by decide) _

theorem steady_atCallColons : Steady atCallColons :=
  steady_behindPair (by decide) (by decide) (steady_atOpening .round)

theorem steady_atAngle : Steady atAngle := by
  intro s s' more inside followed
  have less := steady_atPair (c := '<') (by decide) '=' inside followed
  have behind := steady_behindPair (c := ':') (d := ':') (by decide) (by decide) (steady_atMark '<') inside followed
  simp only [atAngle,steady_atMark _ inside followed,less,behind]

/-- Whether a number comes next. -/
def atNumber : List Token → Bool
  | .literal _ number :: _ => number
  | _ => false

theorem atLiteral_mark (c : Char) (joint : Bool) (s : List Token) :
    atLiteral (.mark c joint :: s) = (c == '-' && atNumber s) := by
  by_cases minus : c = '-'
  · subst minus
    rcases s with _ | ⟨⟨⟩ | ⟨⟩ | ⟨⟩ | ⟨text,_ | _⟩ | ⟨⟩ | ⟨⟩,s⟩ <;> rfl
  · unfold atLiteral
    split <;> simp_all [atWord]

theorem steady_atNumber : Steady atNumber := steady_of_token (fun t _ _ => by cases t <;> rfl) fun _ _ _ => rfl

theorem steady_atLiteral : Steady atLiteral := by
  intro s s' more inside followed
  obtain ⟨t,r,rfl,⟨joint,rfl⟩ | later⟩ := inside.cons
  · obtain ⟨t',r',rfl,alike,_⟩ := followed.cons
    cases alike <;> simp [atLiteral_mark]
  · obtain ⟨t',r',rfl,alike,rest⟩ := followed.cons
    cases alike with
    | greater => simp [atLiteral_mark]
    | same =>
      cases t with
      | mark c joint => rw [atLiteral_mark,atLiteral_mark,steady_atNumber later rest]
      | _ => rfl

theorem steady_atBound : Steady atBound := by
  intro s s' more inside followed
  obtain ⟨t,r,rfl,_⟩ := inside.cons
  obtain ⟨t',r',rfl,alike,_⟩ := followed.cons
  simp only [atBound,steady_atColons inside followed,steady_atMark _ inside followed,steady_atLifetime inside followed,
    steady_atOpening _ inside followed]
  -- What is left is whether the next token is a name.
  cases alike with
  | same => cases t <;> rfl
  | greater => rfl

theorem steady_atGeneral : Steady atGeneral := by
  intro s s' more inside followed
  simp only [atGeneral,steady_atName inside followed,steady_atWord _ inside followed]

theorem steady_atParameterName : Steady atParameterName := by
  have name : Steady fun s => atName s || atWord "_" s := by
    intro s s' more inside followed
    simp only [steady_atName inside followed,steady_atWord _ inside followed]
  have colon : Steady fun s => atMark ':' s && !atPair ':' ':' s := by
    intro s s' more inside followed
    simp only [steady_atMark _ inside followed,steady_atColons inside followed]
  intro s s' more inside followed
  have next := name.next colon (fun _ _ => rfl) inside followed
  simpa only [atParameterName,Bool.and_assoc] using next

/-- A lifetime that no plus sign follows. -/
theorem steady_atLoneLifetime : Steady fun s => atLifetime s && !atMark '+' (s.drop 1) := by
  have plus : Steady fun s => !atMark '+' s := by
    intro s s' more inside followed
    simp only [steady_atMark _ inside followed]
  exact steady_atLifetime.next plus fun _ _ => rfl

/-! ### Readers inside of arguments -/

/-- Whether a reader, inside of arguments, makes the same of tokens as another one makes of them where more follows,
    and leaves the same of them. -/
def Carries (r r' : Reader α) : Prop :=
  ∀ ⦃s v rest⦄, r s = some (v,rest) → rest <:+ s ∧
    (Inside rest → ∀ ⦃more s'⦄, Followed more s s' → ∃ rest', r' s' = some (v,rest') ∧ Followed more rest rest')

section

variable {r r' : Reader α} {f f' : α → Reader β} {x x' y y' : Reader α} {test : List Token → Bool}

theorem carries_pure (a : α) : Carries (pure a) (pure a) := by
  intro s v rest made
  obtain ⟨rfl,rfl⟩ := pure_eq_some.mp made
  exact ⟨List.suffix_refl _,fun _ _ s' followed => ⟨s',rfl,followed⟩⟩

theorem carries_failure (r : Reader α) : Carries failure r := by
  intro s v rest made
  cases failure_eq_some.mp made

theorem carries_guard (c : Prop) [Decidable c] : Carries (guard c : Reader Unit) (guard c) := by
  intro s v rest made
  obtain ⟨holds,rfl⟩ := guard_eq_some.mp made
  exact ⟨List.suffix_refl _,fun _ _ s' followed => ⟨s',guard_eq_some.mpr ⟨holds,rfl⟩,followed⟩⟩

theorem Carries.bind (first : Carries r r') (second : ∀ a, Carries (f a) (f' a)) : Carries (r >>= f) (r' >>= f') := by
  intro s v rest made
  obtain ⟨a,middle,before,after⟩ := bind_eq_some.mp made
  obtain ⟨suffix,go⟩ := first before
  obtain ⟨suffix',go'⟩ := second a after
  refine ⟨suffix'.trans suffix,fun inside more s' followed => ?_⟩
  obtain ⟨middle',before',followed⟩ := go (inside.of_suffix suffix') followed
  obtain ⟨rest',after',followed⟩ := go' inside followed
  exact ⟨rest',bind_eq_some.mpr ⟨a,middle',before',after'⟩,followed⟩

theorem Carries.map (made : Carries r r') (g : α → β) : Carries (g <$> r) (g <$> r') := by
  intro s v rest mapped
  obtain ⟨a,here,rfl⟩ := map_eq_some.mp mapped
  obtain ⟨suffix,go⟩ := made here
  refine ⟨suffix,fun inside more s' followed => ?_⟩
  obtain ⟨rest',here',followed⟩ := go inside followed
  exact ⟨rest',map_eq_some.mpr ⟨a,here',rfl⟩,followed⟩

theorem Carries.ite {c : Prop} [Decidable c] (yes : Carries x x') (no : Carries y y') :
    Carries (if c then x else y) (if c then x' else y') := by
  split
  · exact yes
  · exact no

/-- A reader may look at what comes next. -/
theorem carries_get {g g' : List Token → Reader β} (each : ∀ s, Carries (g s) (g' s)) (steady : Steady g') :
    Carries (get >>= g) (get >>= g') := by
  intro s v rest made
  obtain ⟨_,_,here,after⟩ := bind_eq_some.mp made
  obtain ⟨rfl,rfl⟩ := get_eq_some.mp here
  obtain ⟨suffix,go⟩ := each s after
  refine ⟨suffix,fun inside more s' followed => ?_⟩
  obtain ⟨rest',after',followed'⟩ := go inside followed
  refine ⟨rest',?_,followed'⟩
  rw [bind_apply,get_apply,Option.bind_some,steady (inside.of_suffix suffix) followed,after']

theorem carries_ite (steady : Steady test) (yes : Carries x x') (no : Carries y y') :
    Carries (do if test (← get) then x else y) (do if test (← get) then x' else y') := by
  refine carries_get (fun s => .ite yes no) fun s s' more inside followed => ?_
  rw [steady inside followed]

theorem Followed.drop_of_inside (n : Nat) (inside : Inside (s.drop n)) (followed : Followed more s s') :
    Followed more (s.drop n) (s'.drop n) := by
  induction n generalizing s s' with
  | zero => exact followed
  | succ n ih =>
    cases s with
    | nil => obtain ⟨_,⟨⟩⟩ := inside
    | cons t s =>
      obtain ⟨_,_,rfl,_,rest⟩ := followed.cons
      exact ih inside rest

theorem carries_skip (n : Nat) : Carries (skip n) (skip n) := by
  intro s v rest made
  obtain rfl := skip_eq_some.mp made
  exact ⟨List.drop_suffix n s,fun inside _ s' followed => ⟨_,skip_eq_some.mpr rfl,followed.drop_of_inside n inside⟩⟩

theorem carries_require (steady : Steady test) (n : Nat) : Carries (require test n) (require test n) := by
  refine carries_get (fun s => (carries_guard _).bind fun _ => carries_skip n) fun s s' more inside followed => ?_
  rw [steady inside followed]

theorem carries_optional (steady : Steady test) (n : Nat) : Carries (optional test n) (optional test n) :=
  carries_ite steady ((carries_skip n).bind fun _ => carries_pure true) (carries_pure false)

end

/-! ### Readers without types -/

theorem carries_word : Carries word word := by
  intro s name rest made
  obtain rfl := word_eq_some.mp made
  refine ⟨List.suffix_cons _ _,fun _ more s' followed => ?_⟩
  obtain ⟨_,r,rfl,⟨⟩,behind⟩ := followed.cons
  exact ⟨r,rfl,behind⟩

theorem carries_lifetime : Carries lifetime lifetime := by
  refine carries_get (fun s => ?_) (steady_of_token (fun t _ _ => by cases t <;> rfl) fun _ _ _ => rfl)
  split
  · exact (carries_skip 1).bind fun _ => carries_pure _
  · exact carries_failure _

theorem carries_literal : Carries literal literal := by
  intro s c rest made
  simp only [literal,bind_eq_some,get_eq_some] at made
  obtain ⟨_,_,⟨rfl,rfl⟩,made⟩ := made
  split at made
  · simp only [bind_eq_some,skip_eq_some,pure_eq_some] at made
    obtain ⟨_,_,rfl,rfl,rfl⟩ := made
    refine ⟨List.suffix_cons _ _,fun _ more s' followed => ?_⟩
    obtain ⟨_,r,rfl,⟨⟩,behind⟩ := followed.cons
    exact ⟨r,rfl,behind⟩
  · simp only [bind_eq_some,skip_eq_some,pure_eq_some] at made
    obtain ⟨_,_,rfl,rfl,rfl⟩ := made
    refine ⟨(List.suffix_cons _ _).trans (List.suffix_cons _ _),fun _ more s' followed => ?_⟩
    obtain ⟨_,r,rfl,alike,behind⟩ := followed.cons
    obtain ⟨_,q,rfl,⟨⟩,last⟩ := behind.cons
    cases alike
    exact ⟨q,rfl,last⟩
  · simp only [bind_eq_some,guard_eq_some,skip_eq_some,pure_eq_some] at made
    obtain ⟨_,_,⟨truth,rfl⟩,_,_,rfl,rfl,rfl⟩ := made
    refine ⟨List.suffix_cons _ _,fun _ more s' followed => ?_⟩
    obtain ⟨_,r,rfl,⟨⟩,behind⟩ := followed.cons
    refine ⟨r,?_,behind⟩
    exact (bind_of_eq (get_apply _)).trans (bind_of_eq (guard_pos truth _))
  · cases failure_eq_some.mp made

section

variable {fuel fuel' : Nat} (enough : fuel ≤ fuel')
include enough

theorem carries_names : Carries (names fuel) (names fuel') := by
  induction fuel generalizing fuel' with
  | zero => exact carries_failure _
  | succ fuel ih =>
    obtain ⟨fuel',rfl⟩ : ∃ n, fuel' = n + 1 := ⟨fuel' - 1,by omega⟩
    rw [names,names]
    refine carries_word.bind fun name => (carries_guard _).bind fun _ => carries_ite steady_atColons ?_ (carries_pure _)
    exact (carries_skip 2).bind fun _ => (ih (by omega)).bind fun _ => carries_pure _

theorem carries_constant : Carries (constant fuel) (constant fuel') := by
  refine carries_ite steady_atLiteral carries_literal ?_
  exact (carries_optional steady_atColons 2).bind fun _ => (carries_names enough).bind fun _ => carries_pure _

theorem carries_constantArgument : Carries (constantArgument fuel) (constantArgument fuel') := by
  refine (carries_optional (steady_atOpening .curly) 1).bind fun _ => .ite ?_ carries_literal
  refine (carries_constant enough).bind fun _ => ?_
  exact (carries_require (steady_atClosing .curly) 1).bind fun _ => carries_pure _

theorem carries_lifetimesToClose : Carries (lifetimesToClose fuel) (lifetimesToClose fuel') := by
  induction fuel generalizing fuel' with
  | zero => exact carries_failure _
  | succ fuel ih =>
    obtain ⟨fuel',rfl⟩ : ∃ n, fuel' = n + 1 := ⟨fuel' - 1,by omega⟩
    rw [lifetimesToClose,lifetimesToClose]
    refine (carries_optional (steady_atMark '>') 1).bind fun _ => .ite (carries_pure _) ?_
    refine carries_lifetime.bind fun _ => ?_
    refine (carries_optional (steady_atMark '>') 1).bind fun _ => .ite (carries_pure _) ?_
    exact (carries_require (steady_atMark ',') 1).bind fun _ => (ih (by omega)).bind fun _ => carries_pure _

theorem carries_generality : Carries (generality fuel) (generality fuel') := by
  refine (carries_optional (steady_atWord "for") 1).bind fun _ => .ite ?_ (carries_pure _)
  refine (carries_require (steady_atMark '<') 1).bind fun _ => ?_
  exact (carries_lifetimesToClose enough).bind fun _ => carries_pure _

end

theorem carries_conventionName : Carries conventionName conventionName := by
  refine carries_get (fun s => ?_) (steady_of_token (fun t _ _ => ?_) fun _ _ _ => rfl)
  · split
    · exact (carries_guard _).bind fun _ => (carries_skip 1).bind fun _ => carries_pure _
    · exact carries_pure _
  · rcases t with _ | _ | _ | ⟨_,_ | _⟩ | _ | _ <;> rfl

theorem carries_functionQualifiers (lifetimes : Option (List String)) :
    Carries (functionQualifiers lifetimes) (functionQualifiers lifetimes) := by
  have last : ∀ q : FunctionQualifiers, Carries (do require (atWord "fn") 1; return q)
      (do require (atWord "fn") 1; return q) :=
    fun _ => (carries_require (steady_atWord "fn") 1).bind fun _ => carries_pure _
  refine (carries_optional (steady_atWord "unsafe") 1).bind fun isUnsafe => ?_
  refine (carries_optional (steady_atWord "extern") 1).bind fun _ => .ite ?_ ?_
  · exact (carries_conventionName.map _).bind fun _ => last _
  · exact (carries_pure _).bind fun _ => last _

theorem carries_parameterName : Carries parameterName parameterName := by
  refine carries_ite steady_atParameterName ?_ (carries_pure _)
  exact carries_word.bind fun _ => (carries_skip 1).bind fun _ => carries_pure _

/-! ### The grammar of types -/

/-- What the readers of types make of tokens inside of arguments, with some fuel and with more of it. -/
structure Carried (fuel fuel' : Nat) : Prop where
  type (plus : Bool) : Carries (type fuel plus) (type fuel' plus)
  pathType (lifetimes : Option (List String)) (plus : Bool) :
    Carries (pathType fuel lifetimes plus) (pathType fuel' lifetimes plus)
  item : Carries (item fuel) (item fuel')
  group (plus : Bool) : Carries (group fuel plus) (group fuel' plus)
  typesToClose : Carries (typesToClose fuel) (typesToClose fuel')
  parametersToClose : Carries (parametersToClose fuel) (parametersToClose fuel')
  result : Carries (result fuel) (result fuel')
  path : Carries (path fuel) (path fuel')
  pathRest : Carries (pathRest fuel) (pathRest fuel')
  itemPath : Carries (itemPath fuel) (itemPath fuel')
  calls (before : List Segment) : Carries (calls fuel before) (calls fuel' before)
  segment : Carries (segment fuel) (segment fuel')
  argumentsToClose : Carries (argumentsToClose fuel) (argumentsToClose fuel')
  argument : Carries (argument fuel) (argument fuel')
  bounds (plus : Bool) : Carries (bounds fuel plus) (bounds fuel' plus)
  moreBounds (plus : Bool) : Carries (moreBounds fuel plus) (moreBounds fuel' plus)
  strictBounds : Carries (strictBounds fuel) (strictBounds fuel')
  bound : Carries (bound fuel) (bound fuel')

section

variable {fuel fuel' : Nat} (ih : Carried fuel fuel')
include ih

theorem carries_path : Carries (path (fuel + 1)) (path (fuel' + 1)) := by
  rw [path,path]
  exact ih.segment.bind fun _ => ih.pathRest.bind fun _ => carries_pure _

theorem carries_pathRest : Carries (pathRest (fuel + 1)) (pathRest (fuel' + 1)) := by
  rw [pathRest,pathRest]
  refine carries_get (fun s => .ite ?_ (carries_pure _)) fun s s' more inside followed => ?_
  · exact (carries_skip 2).bind fun _ => ih.segment.bind fun _ => ih.pathRest.bind fun _ => carries_pure _
  · rw [steady_atColons inside followed,steady_atCallColons inside followed]

theorem carries_itemPath : Carries (itemPath (fuel + 1)) (itemPath (fuel' + 1)) := by
  rw [itemPath,itemPath]
  refine ih.segment.bind fun _ => (carries_optional steady_atColons 2).bind fun _ => .ite ?_ (carries_pure _)
  exact ih.itemPath.bind fun _ => carries_pure _

theorem carries_segment : Carries (segment (fuel + 1)) (segment (fuel' + 1)) := by
  rw [segment,segment]
  refine carries_word.bind fun name => .ite (carries_pure _) ((carries_guard _).bind fun _ => ?_)
  refine carries_ite steady_atAngle ?_ (carries_pure _)
  refine (carries_optional steady_atColons 2).bind fun _ => (carries_skip 1).bind fun _ => ?_
  exact ih.argumentsToClose.bind fun _ => carries_pure _

theorem carries_calls (before : List Segment) : Carries (calls (fuel + 1) before) (calls (fuel' + 1) before) := by
  rw [calls,calls]
  refine carries_get (fun s => .ite ?_ (carries_pure _)) fun s s' more inside followed => ?_
  · refine (carries_optional steady_atColons 2).bind fun _ => (carries_skip 1).bind fun _ => ?_
    refine ih.typesToClose.bind fun inputs => ih.result.bind fun output => ?_
    dsimp only
    split
    · exact ih.pathRest.bind fun _ => ih.calls _
    · exact ih.pathRest.bind fun _ => ih.calls _
    · exact carries_pure _
  · simp only [steady_atOpening _ inside followed,steady_atCallColons inside followed]

theorem carries_typesToClose : Carries (typesToClose (fuel + 1)) (typesToClose (fuel' + 1)) := by
  rw [typesToClose,typesToClose]
  refine (carries_optional (steady_atClosing .round) 1).bind fun _ => .ite (carries_pure _) ?_
  refine (ih.type true).bind fun _ => ?_
  refine (carries_optional (steady_atClosing .round) 1).bind fun _ => .ite (carries_pure _) ?_
  exact (carries_require (steady_atMark ',') 1).bind fun _ => ih.typesToClose.bind fun _ => carries_pure _

theorem carries_parametersToClose : Carries (parametersToClose (fuel + 1)) (parametersToClose (fuel' + 1)) := by
  rw [parametersToClose,parametersToClose]
  refine (carries_optional (steady_atClosing .round) 1).bind fun _ => .ite (carries_pure _) ?_
  refine carries_parameterName.bind fun _ => (ih.type true).bind fun _ => ?_
  refine (carries_optional (steady_atClosing .round) 1).bind fun _ => .ite (carries_pure _) ?_
  exact (carries_require (steady_atMark ',') 1).bind fun _ => ih.parametersToClose.bind fun _ => carries_pure _

theorem carries_result : Carries (result (fuel + 1)) (result (fuel' + 1)) := by
  rw [result,result]
  refine (carries_optional (steady_atPair (by decide) '>') 2).bind fun _ => .ite ?_ (carries_pure _)
  exact (ih.type false).bind fun _ => carries_pure _

theorem carries_bounds (plus : Bool) : Carries (bounds (fuel + 1) plus) (bounds (fuel' + 1) plus) := by
  rw [bounds,bounds]
  exact ih.bound.bind fun _ => (ih.moreBounds plus).bind fun _ => carries_pure _

theorem carries_moreBounds (plus : Bool) : Carries (moreBounds (fuel + 1) plus) (moreBounds (fuel' + 1) plus) := by
  rw [moreBounds,moreBounds]
  refine carries_get (fun s => .ite ?_ (carries_pure _)) fun s s' more inside followed => ?_
  · refine (carries_skip 1).bind fun _ => carries_ite steady_atBound ?_ (carries_pure _)
    exact ih.bound.bind fun _ => (ih.moreBounds plus).bind fun _ => carries_pure _
  · rw [steady_atMark _ inside followed]

theorem carries_strictBounds : Carries (strictBounds (fuel + 1)) (strictBounds (fuel' + 1)) := by
  rw [strictBounds,strictBounds]
  refine (carries_optional (steady_atMark '+') 1).bind fun _ => .ite ?_ (carries_pure _)
  exact ih.bound.bind fun _ => ih.strictBounds.bind fun _ => carries_pure _

theorem carries_argumentsToClose : Carries (argumentsToClose (fuel + 1)) (argumentsToClose (fuel' + 1)) := by
  rw [argumentsToClose,argumentsToClose]
  refine (carries_optional (steady_atMark '>') 1).bind fun _ => .ite (carries_pure _) ?_
  refine ih.argument.bind fun _ => ?_
  refine (carries_optional (steady_atMark '>') 1).bind fun _ => .ite (carries_pure _) ?_
  exact (carries_require (steady_atMark ',') 1).bind fun _ => ih.argumentsToClose.bind fun _ => carries_pure _

theorem carries_item : Carries (item (fuel + 1)) (item (fuel' + 1)) := by
  rw [item,item]
  refine (carries_require (steady_atMark '<') 1).bind fun _ => (ih.type true).bind fun owner => ?_
  refine (carries_optional (steady_atWord "as") 1).bind fun _ => .ite ?_ ?_
  · refine (carries_optional steady_atColons 2).bind fun _ => ih.path.bind fun _ => (carries_pure _).bind fun _ => ?_
    refine (carries_require (steady_atMark '>') 1).bind fun _ => (carries_require steady_atColons 2).bind fun _ => ?_
    exact ih.itemPath.bind fun _ => (ih.calls _).bind fun _ => carries_pure _
  · refine (carries_pure _).bind fun _ => (carries_require (steady_atMark '>') 1).bind fun _ => ?_
    refine (carries_require steady_atColons 2).bind fun _ => ?_
    exact ih.itemPath.bind fun _ => (ih.calls _).bind fun _ => carries_pure _

theorem carries_pathType (lifetimes : Option (List String)) (plus : Bool) :
    Carries (pathType (fuel + 1) lifetimes plus) (pathType (fuel' + 1) lifetimes plus) := by
  rw [pathType,pathType]
  refine (carries_optional steady_atColons 2).bind fun _ => ih.path.bind fun _ => (ih.calls _).bind fun _ => ?_
  refine carries_get (fun s => .ite ?_ (carries_pure _)) fun s s' more inside followed => ?_
  · exact (ih.moreBounds plus).bind fun _ => carries_pure _
  · rw [steady_atMark _ inside followed]

theorem carries_group (plus : Bool) : Carries (group (fuel + 1) plus) (group (fuel' + 1) plus) := by
  rw [group,group]
  refine (carries_optional (steady_atClosing .round) 1).bind fun _ => .ite (carries_pure _) ?_
  refine carries_ite (steady_atMark '?') ?_ (carries_get (fun s => ?_) ?_)
  · refine ih.bound.bind fun first => (carries_require (steady_atClosing .round) 1).bind fun _ => ?_
    cases first with
    | trait => exact ih.strictBounds.bind fun _ => carries_pure _
    | lifetime => exact carries_failure _
  · refine (ih.type true).bind fun first => carries_get (fun s => .ite ?_ ?_) ?_
    · exact (carries_skip 1).bind fun _ => ih.typesToClose.bind fun _ => carries_pure _
    · refine (carries_require (steady_atClosing .round) 1).bind fun _ => ?_
      cases first.bound? with
      | none => exact carries_pure _
      | some b =>
        refine carries_get (fun s => .ite ?_ (carries_pure _)) fun s s' more inside followed => ?_
        · exact ih.strictBounds.bind fun _ => carries_pure _
        · rw [steady_atMark _ inside followed]
    · intro s s' more inside followed
      simp only [steady_atMark _ inside followed]
  · intro s s' more inside followed
    simp only [steady_atLifetime inside followed]

theorem carries_argument (enough : fuel ≤ fuel') : Carries (argument (fuel + 1)) (argument (fuel' + 1)) := by
  rw [argument,argument]
  have constant := carries_constantArgument enough
  refine carries_get (fun s => .ite ?_ (.ite ?_ ?_)) fun s s' more inside followed => ?_
  · exact carries_lifetime.bind fun _ => carries_pure _
  · exact constant.bind fun _ => carries_pure _
  · refine (ih.type true).bind fun first => ?_
    cases first.associated? with
    | none => exact carries_pure _
    | some named =>
      refine (carries_optional (steady_atMark '=') 1).bind fun _ => .ite ?_ ?_
      · refine carries_get (fun s => .ite ?_ ?_) fun s s' more inside followed => ?_
        · exact constant.bind fun _ => carries_pure _
        · exact (ih.type true).bind fun _ => carries_pure _
        · simp only [steady_atLiteral inside followed,steady_atOpening _ inside followed]
      · refine (carries_optional (steady_atMark ':') 1).bind fun _ => .ite ?_ (carries_pure _)
        refine carries_get (fun s => .ite (carries_pure _) ?_) fun s s' more inside followed => ?_
        · exact (ih.bounds true).bind fun _ => carries_pure _
        · simp only [steady_atMark _ inside followed]
  · have lifetime := steady_atLoneLifetime inside followed
    dsimp only at lifetime
    simp only [lifetime,steady_atLiteral inside followed,steady_atOpening _ inside followed]

theorem carries_bound (enough : fuel ≤ fuel') : Carries (bound (fuel + 1)) (bound (fuel' + 1)) := by
  rw [bound,bound]
  refine carries_ite steady_atLifetime (carries_lifetime.bind fun _ => carries_pure _) ?_
  refine (carries_optional (steady_atOpening .round) 1).bind fun isParenthesized => ?_
  refine (carries_generality enough).bind fun lifetimes => (carries_optional (steady_atMark '?') 1).bind fun _ => ?_
  -- With lifetimes behind the question mark and without them, the rest of a bound is read in the same way.
  refine .ite ((carries_generality enough).bind fun _ => ?_) ((carries_pure _).bind fun _ => ?_)
  all_goals
    refine (carries_optional steady_atColons 2).bind fun _ => ih.path.bind fun segments => ?_
    have last : ∀ b : Bound, Carries
        (if isParenthesized = true then do require (atClosing .round) 1; return b else pure b)
        (if isParenthesized = true then do require (atClosing .round) 1; return b else pure b) :=
      fun _ => .ite ((carries_require (steady_atClosing .round) 1).bind fun _ => carries_pure _) (carries_pure _)
    refine carries_get (fun s => .ite ?_ ?_) fun s s' more inside followed => ?_
    · refine (carries_optional steady_atColons 2).bind fun _ => (carries_skip 1).bind fun _ => ?_
      exact ih.typesToClose.bind fun _ => ih.result.bind fun _ => (carries_pure _).bind fun _ => last _
    · exact (carries_pure _).bind fun _ => last _
    · simp only [steady_atOpening _ inside followed,steady_atCallColons inside followed]

theorem carries_type (enough : fuel ≤ fuel') (plus : Bool) :
    Carries (type (fuel + 1) plus) (type (fuel' + 1) plus) := by
  rw [type,type]
  refine (carries_generality enough).bind fun lifetimes => carries_get (fun s => ?_) fun s s' more inside followed => ?_
  · refine (carries_guard _).bind fun _ => ?_
    refine (carries_optional (steady_atOpening .round) 1).bind fun _ => .ite (ih.group plus) (.ite ?_ ?_)
    · refine (carries_functionQualifiers _).bind fun _ => (carries_require (steady_atOpening .round) 1).bind fun _ => ?_
      exact ih.parametersToClose.bind fun _ => ih.result.bind fun _ => carries_pure _
    refine .ite ih.item (.ite (ih.pathType lifetimes plus) ?_)
    refine (carries_optional (steady_atWord "dyn") 1).bind fun _ => .ite ?_ ?_
    · exact (ih.bounds plus).bind fun _ => (carries_guard _).bind fun _ => carries_pure _
    refine (carries_optional (steady_atOpening .square) 1).bind fun _ => .ite ?_ ?_
    · refine (ih.type true).bind fun element => (carries_optional (steady_atMark ';') 1).bind fun _ => .ite ?_ ?_
      · refine carries_ite (steady_atOpening .curly) ?_ ?_
        · refine (carries_constantArgument enough).bind fun _ => ?_
          exact (carries_require (steady_atClosing .square) 1).bind fun _ => carries_pure _
        · refine (carries_constant enough).bind fun _ => ?_
          exact (carries_require (steady_atClosing .square) 1).bind fun _ => carries_pure _
      · exact (carries_require (steady_atClosing .square) 1).bind fun _ => carries_pure _
    refine (carries_optional (steady_atMark '*') 1).bind fun _ => .ite ?_ ?_
    · refine (carries_optional (steady_atWord "const") 1).bind fun _ => .ite ?_ ?_
      · exact (ih.type false).bind fun _ => carries_pure _
      · refine (carries_require (steady_atWord "mut") 1).bind fun _ => ?_
        exact (ih.type false).bind fun _ => carries_pure _
    refine (carries_optional (steady_atMark '&') 1).bind fun _ => .ite ?_ ?_
    · refine carries_ite steady_atLifetime ?_ ?_
      · refine (carries_lifetime.map _).bind fun _ => (carries_optional (steady_atWord "mut") 1).bind fun _ => ?_
        exact (ih.type false).bind fun _ => carries_pure _
      · refine (carries_pure _).bind fun _ => (carries_optional (steady_atWord "mut") 1).bind fun _ => ?_
        exact (ih.type false).bind fun _ => carries_pure _
    refine (carries_optional (steady_atMark '!') 1).bind fun _ => .ite (carries_pure _) ?_
    refine (carries_optional (steady_atWord "impl") 1).bind fun _ => .ite ?_ ?_
    · exact (ih.bounds plus).bind fun _ => (carries_guard _).bind fun _ => carries_pure _
    refine (carries_optional (steady_atWord "_") 1).bind fun _ => .ite (carries_pure _) ?_
    refine (carries_guard _).bind fun _ => ?_
    exact (ih.bounds true).bind fun _ => (carries_guard _).bind fun _ => carries_pure _
  · simp only [steady_atGeneral inside followed,steady_atWord _ inside followed,steady_atMark _ inside followed,
      steady_atName inside followed,steady_atColons inside followed,steady_atLifetime inside followed]

end

/-- What the readers of types make of tokens inside of arguments they make of them wherever these stand, and with more
    fuel. -/
theorem carried {fuel fuel' : Nat} (enough : fuel ≤ fuel') : Carried fuel fuel' := by
  induction fuel generalizing fuel' with
  | zero =>
    constructor <;> intros <;> exact carries_failure _
  | succ fuel ih =>
    obtain ⟨fuel',rfl⟩ : ∃ n, fuel' = n + 1 := ⟨fuel' - 1,by omega⟩
    have enough : fuel ≤ fuel' := by omega
    have ih := ih enough
    exact {
      type := carries_type ih enough
      pathType := carries_pathType ih
      item := carries_item ih
      group := carries_group ih
      typesToClose := carries_typesToClose ih
      parametersToClose := carries_parametersToClose ih
      result := carries_result ih
      path := carries_path ih
      pathRest := carries_pathRest ih
      itemPath := carries_itemPath ih
      calls := carries_calls ih
      segment := carries_segment ih
      argumentsToClose := carries_argumentsToClose ih
      argument := carries_argument ih enough
      bounds := carries_bounds ih
      moreBounds := carries_moreBounds ih
      strictBounds := carries_strictBounds ih
      bound := carries_bound ih enough }

/-! ### Paths that go on -/

theorem Followed.atGreater (followed : Followed more s s') (ends : atMark '>' s = true) :
    atMark '>' s' = true ∧ Followed more (s.drop 1) (s'.drop 1) := by
  obtain ⟨joint,r,rfl⟩ := atMark_iff.mp ends
  obtain ⟨t',r',rfl,alike,behind⟩ := followed.cons
  cases alike <;> exact ⟨rfl,behind⟩

section

variable {fuel fuel' : Nat} {rest : List Token}

/-- What arguments are read from is there up to their end. -/
theorem argumentsToClose_suffix {args : List Argument} (made : argumentsToClose fuel s = some (args,rest)) :
    ∃ joint, .mark '>' joint :: rest <:+ s := by
  induction fuel generalizing s args with
  | zero => cases made
  | succ fuel ih =>
    rcases argumentsToClose_eq_some.mp made with ⟨ends,_,rfl⟩ | ⟨_,first,middle,here,⟨ends,_,rfl⟩ | ⟨_,_,_,later,_⟩⟩
    · obtain ⟨joint,r,rfl⟩ := atMark_iff.mp ends
      exact ⟨joint,List.suffix_rfl⟩
    · obtain ⟨joint,r,rfl⟩ := atMark_iff.mp ends
      exact ⟨joint,((carried le_rfl).argument here).1⟩
    · obtain ⟨joint,inside⟩ := ih later
      exact ⟨joint,(inside.trans (List.drop_suffix 1 middle)).trans ((carried le_rfl).argument here).1⟩

theorem inside_of_argumentsToClose {args : List Argument} (made : argumentsToClose fuel s = some (args,rest)) :
    Inside s :=
  let ⟨joint,ends⟩ := argumentsToClose_suffix made
  ⟨joint,ends.subset (by simp)⟩

/-- Arguments are read up to their end, so it does not matter what follows. -/
theorem argumentsToClose_followed {args : List Argument} (enough : fuel ≤ fuel')
    (made : argumentsToClose fuel s = some (args,rest)) (followed : Followed more s s') :
    ∃ rest', argumentsToClose fuel' s' = some (args,rest') ∧ Followed more rest rest' := by
  induction fuel generalizing fuel' s s' args with
  | zero => cases made
  | succ fuel ih =>
    obtain ⟨fuel',rfl⟩ : ∃ n, fuel' = n + 1 := ⟨fuel' - 1,by omega⟩
    have enough : fuel ≤ fuel' := by omega
    have around := inside_of_argumentsToClose made
    rcases argumentsToClose_eq_some.mp made with ⟨ends,rfl,rfl⟩ | ⟨goesOn,first,middle,here,made⟩
    · obtain ⟨ends,behind⟩ := followed.atGreater ends
      exact ⟨_,argumentsToClose_eq_some.mpr (.inl ⟨ends,rfl,rfl⟩),behind⟩
    · have inside : Inside middle := by
        rcases made with ⟨ends,_⟩ | ⟨_,_,_,later,_⟩
        · obtain ⟨joint,r,rfl⟩ := atMark_iff.mp ends
          exact ⟨joint,by simp⟩
        · exact (inside_of_argumentsToClose later).of_suffix (List.drop_suffix 1 middle)
      obtain ⟨middle',here',followed'⟩ := ((carried enough).argument here).2 inside followed
      have goesOn' := (steady_atMark '>' around followed).trans goesOn
      rcases made with ⟨ends,rfl,rfl⟩ | ⟨on,comma,args,later,rfl⟩
      · obtain ⟨ends,behind⟩ := followed'.atGreater ends
        exact ⟨_,argumentsToClose_eq_some.mpr (.inr ⟨goesOn',_,_,here',.inl ⟨ends,rfl,rfl⟩⟩),behind⟩
      · have behind := followed'.drop_of_inside 1 (inside_of_argumentsToClose later)
        obtain ⟨rest',later',last⟩ := ih enough later behind
        have on' := (steady_atMark '>' inside followed').trans on
        have comma' := (steady_atMark ',' inside followed').trans comma
        exact ⟨rest',argumentsToClose_eq_some.mpr (.inr ⟨goesOn',_,_,here',.inr ⟨on',comma',_,later',rfl⟩⟩),last⟩

/-- A segment is read as it is without more behind it, if the arguments that it may have are seen to end. -/
theorem segment_followed {named : Segment} (enough : fuel ≤ fuel') (made : segment fuel s = some (named,rest))
    (followed : Followed more s s')
    (plain : ∀ r, Followed more rest r → atAngle rest = false → atAngle r = false) :
    ∃ rest', segment fuel' s' = some (named,rest') ∧ Followed more rest rest' := by
  cases fuel with
  | zero => cases made
  | succ fuel =>
    obtain ⟨fuel',rfl⟩ : ∃ n, fuel' = n + 1 := ⟨fuel' - 1,by omega⟩
    obtain ⟨name,r,rfl,outcome⟩ := segment_eq_some.mp made
    obtain ⟨_,r',rfl,⟨⟩,behind⟩ := followed.cons
    rcases outcome with ⟨around,rfl,rfl⟩ | ⟨other,named,⟨none,rfl,rfl⟩ | ⟨angle,args,rfl,inner⟩⟩
    · exact ⟨r',segment_eq_some.mpr ⟨name,r',rfl,.inl ⟨around,rfl,rfl⟩⟩,behind⟩
    · have none' := plain r' behind none
      exact ⟨r',segment_eq_some.mpr ⟨name,r',rfl,.inr ⟨other,named,.inl ⟨none',rfl,rfl⟩⟩⟩,behind⟩
    · have front : ∀ t : List Token, (if atPair ':' ':' t then t.drop 2 else t).drop 1 =
          t.drop (if atPair ':' ':' t then 3 else 1) := by
        intro t
        split <;> simp only [List.drop_drop]
      rw [front] at inner
      have inside := inside_of_argumentsToClose inner
      have around := inside.of_suffix (List.drop_suffix _ _)
      obtain ⟨rest',inner',behind'⟩ :=
        argumentsToClose_followed (by omega : fuel ≤ fuel') inner (behind.drop_of_inside _ inside)
      rw [← steady_atColons around behind,← front] at inner'
      have angle' := (steady_atAngle around behind).trans angle
      exact ⟨rest',segment_eq_some.mpr ⟨name,r',rfl,.inr ⟨other,named,.inr ⟨angle',args,rfl,inner'⟩⟩⟩,behind'⟩

/-- The tokens that end paths. -/
def EndsPath (t : Token) : Prop := (∃ name, t = .identifier name) ∨ ∃ joint, t = .mark '>' joint

theorem segment_suffix {named : Segment} (made : segment fuel s = some (named,rest)) :
    ∃ t, EndsPath t ∧ t :: rest <:+ s := by
  cases fuel with
  | zero => cases made
  | succ fuel =>
    obtain ⟨name,r,rfl,⟨_,_,rfl⟩ | ⟨_,_,⟨_,_,rfl⟩ | ⟨_,_,_,inner⟩⟩⟩ := segment_eq_some.mp made
    · exact ⟨_,.inl ⟨name,rfl⟩,List.suffix_rfl⟩
    · exact ⟨_,.inl ⟨name,rfl⟩,List.suffix_rfl⟩
    · obtain ⟨joint,ends⟩ := argumentsToClose_suffix inner
      have front : (if atPair ':' ':' r then r.drop 2 else r) <:+ r := by
        split
        · exact List.drop_suffix 2 r
        · exact List.suffix_rfl
      have behind := (List.drop_suffix 1 _).trans (front.trans (List.suffix_cons (.identifier name) r))
      exact ⟨_,.inr ⟨joint,rfl⟩,ends.trans behind⟩

/-- What a path is read from is there up to a token that may end it. -/
theorem path_suffix {found : List Segment} (made : path fuel s = some (found,rest)) :
    ∃ t, EndsPath t ∧ t :: rest <:+ s := by
  induction fuel generalizing s found with
  | zero => cases made
  | succ fuel ih =>
    obtain ⟨first,middle,later,here,behind,_⟩ := path_eq_some.mp made
    obtain ⟨_,_,front⟩ := segment_suffix here
    cases fuel with
    | zero => cases here
    | succ fuel =>
      rcases pathRest_eq_some.mp behind with ⟨_,next⟩ | ⟨_,_,rfl⟩
      · obtain ⟨t,ends,last⟩ := ih next
        exact ⟨t,ends,last.trans ((List.drop_suffix 2 middle).trans ((List.suffix_cons _ _).trans front))⟩
      · exact segment_suffix here

/-- Two colons and the name behind them stay. -/
theorem Followed.colons {joint : Bool} {next : String}
    (followed : Followed more (.mark ':' true :: .mark ':' joint :: .identifier next :: s) s') :
    ∃ r, s' = .mark ':' true :: .mark ':' joint :: .identifier next :: r ∧
      Followed more (.identifier next :: s) (.identifier next :: r) := by
  obtain ⟨_,_,rfl,first,behindFirst⟩ := followed.cons
  obtain ⟨_,_,rfl,second,behindSecond⟩ := behindFirst.cons
  obtain ⟨_,r,rfl,⟨⟩,_⟩ := behindSecond.cons
  cases first
  cases second
  exact ⟨r,rfl,behindSecond⟩

/-- What may stand behind a path: what it goes on with, if it does, and what is left behind that. -/
structure GoesOn (more : List Token) (later : List Segment) (rest : List Token) : Prop where
  angle : atAngle more = false
  segments {fuel : Nat} : 2 ≤ fuel → pathRest fuel more = some (later,rest)

/-- A name that is joined to a path. -/
theorem Stops.goesOn_name {name : String} (word : isName name = true ∨ name ∈ ["super","self","crate"])
    (stops : Stops rest) :
    GoesOn (Token.colons ++ .identifier name :: rest) [.plain name] rest where
  angle := rfl
  segments {fuel} enough := by
    obtain ⟨fuel,rfl⟩ : ∃ n, fuel = n + 2 := ⟨fuel - 2,by omega⟩
    have last : pathRest (fuel + 1) rest = some ([],rest) :=
      pathRest_eq_some.mpr (.inr ⟨by rw [stops.colons]; rfl,rfl,rfl⟩)
    rw [pathRest_colons rfl]
    exact path_eq_some.mpr ⟨_,_,_,segment_name word stops.angle fuel,last,rfl⟩

variable {found later : List Segment}

/-- A path that is taken whole is read where more follows, and goes on there. -/
theorem path_followed (on : GoesOn more later rest) (enough : fuel < fuel') (made : path fuel s = some (found,[]))
    (followed : Followed more s s') : path fuel' s' = some (found ++ later,rest) := by
  induction fuel generalizing fuel' s s' found with
  | zero => cases made
  | succ fuel ih =>
    obtain ⟨fuel',rfl⟩ : ∃ n, fuel' = n + 2 := ⟨fuel' - 2,by omega⟩
    obtain ⟨first,middle,found,here,behind,rfl⟩ := path_eq_some.mp made
    cases fuel with
    | zero => cases here
    | succ fuel =>
      rcases pathRest_eq_some.mp behind with ⟨colons,next⟩ | ⟨_,rfl,rfl⟩
      · obtain ⟨pair,_⟩ := Bool.and_eq_true_iff.mp colons
        obtain ⟨joint,q,rfl⟩ := atPair_iff.mp pair
        obtain ⟨name,q,rfl⟩ := path_word next
        have plain : ∀ r, Followed more (.mark ':' true :: .mark ':' joint :: .identifier name :: q) r →
            atAngle (.mark ':' true :: .mark ':' joint :: .identifier name :: q) = false → atAngle r = false := by
          intro r followed _
          obtain ⟨r',rfl,_⟩ := followed.colons
          rfl
        obtain ⟨middle',here',between⟩ := segment_followed (by omega : fuel + 1 ≤ fuel' + 1) here followed plain
        obtain ⟨r',rfl,last⟩ := between.colons
        have next' : path (fuel' + 1) (.identifier name :: r') = some (found ++ later,rest) := ih (by omega) next last
        exact path_eq_some.mpr ⟨first,_,_,here',pathRest_eq_some.mpr (.inl ⟨rfl,next'⟩),rfl⟩
      · have plain : ∀ r, Followed more [] r → atAngle [] = false → atAngle r = false := by
          intro r followed _
          cases followed
          exact on.angle
        obtain ⟨middle',here',between⟩ := segment_followed (by omega : fuel + 1 ≤ fuel' + 1) here followed plain
        cases between
        exact path_eq_some.mpr ⟨first,_,_,here',on.segments (by omega),rfl⟩

theorem path_head {name : String} (made : path fuel s = some (found,s')) (head : found.head? = some (.plain name)) :
    ∃ r, s = .identifier name :: r := by
  cases fuel with
  | zero => cases made
  | succ fuel =>
    obtain ⟨first,_,_,here,_,rfl⟩ := path_eq_some.mp made
    obtain rfl := Option.some.inj head
    cases fuel with
    | zero => cases here
    | succ fuel =>
      obtain ⟨word,r,rfl,⟨_,same,_⟩ | ⟨_,_,⟨_,same,_⟩ | ⟨_,_,other,_⟩⟩⟩ := segment_eq_some.mp here
      · cases same
        exact ⟨r,rfl⟩
      · cases same
        exact ⟨r,rfl⟩
      · cases other

/-- No type begins with the word that a path may begin with by itself. -/
theorem type_try (fuel : Nat) (plus : Bool) (s : List Token) : type fuel plus (.identifier "try" :: s) = none := by
  cases fuel with
  | zero => rfl
  | succ fuel =>
    have other : ∀ w ∈ ["for","fn","unsafe","extern","super","self","Self","crate","dyn","impl","_"],
        atWord w (.identifier "try" :: s) = false := by
      simp [atWord]
    have name : isName "try" = false := by decide +kernel
    rw [type]
    refine (bind_of_eq (bind_of_eq (optional_neg (other "for" (by simp)) 1))).trans ?_
    refine (bind_of_eq (get_apply _)).trans ?_
    refine (bind_of_eq (guard_pos rfl _)).trans ?_
    refine (ite_optional_neg rfl).trans ?_
    rw [if_neg (by simp [other]),if_neg (by simp [atMark]),if_neg (by simp [other,atName,name,atPair])]
    refine (ite_optional_neg (other "dyn" (by simp))).trans ?_
    refine (ite_optional_neg rfl).trans ?_
    refine (ite_optional_neg rfl).trans ?_
    refine (ite_optional_neg rfl).trans ?_
    refine (ite_optional_neg rfl).trans ?_
    refine (ite_optional_neg (other "impl" (by simp))).trans ?_
    refine (ite_optional_neg (other "_" (by simp))).trans ?_
    rfl

/-- What is a path and does not begin with a word of its own begins as the path of a type does. -/
theorem atPath_of_path (made : path fuel s = some (found,s')) (other : found.head? ≠ some (.plain "try")) :
    AtPath s := by
  cases fuel with
  | zero => cases made
  | succ fuel =>
    obtain ⟨first,_,_,here,_,rfl⟩ := path_eq_some.mp made
    cases fuel with
    | zero => cases here
    | succ fuel =>
      obtain ⟨name,r,rfl,⟨around,rfl,_⟩ | ⟨_,named,_⟩⟩ := segment_eq_some.mp here
      · refine .word r (.inr ?_)
        have apart : name ≠ "try" := by
          rintro rfl
          exact other rfl
        simp only [List.mem_cons,List.not_mem_nil,or_false] at around ⊢
        tauto
      · rw [Bool.or_eq_true,beq_iff_eq] at named
        rcases named with rfl | named
        · exact .word r (.inr (by decide))
        · exact .word r (.inl named)

theorem AtPath.of_followed (start : AtPath s) (followed : Followed more s s') : AtPath s' := by
  cases start with
  | colons joint s =>
    obtain ⟨_,_,rfl,first,behind⟩ := followed.cons
    obtain ⟨_,_,rfl,second,_⟩ := behind.cons
    cases first
    cases second
    exact .colons _ _
  | word s word =>
    obtain ⟨_,_,rfl,⟨⟩,_⟩ := followed.cons
    exact .word _ word

/-- A path that is taken whole is read as a type where more follows, and goes on there. -/
theorem type_followed {isGlobal : Bool} {t : List Token} (on : GoesOn more later rest) (stops : Stops rest)
    (start : optional (atPair ':' ':') 2 s = some (isGlobal,t)) (made : path fuel t = some (found,[]))
    (other : isGlobal = false → found.head? ≠ some (.plain "try")) (enough : fuel + 3 ≤ fuel')
    (followed : Followed more s s') :
    AtPath s' ∧ type fuel' true s' = some (.path isGlobal (found ++ later),rest) := by
  obtain ⟨fuel',rfl⟩ : ∃ n, fuel' = n + 3 := ⟨fuel' - 3,by omega⟩
  obtain ⟨test,rfl⟩ := optional_eq_some.mp start
  obtain ⟨begins,t',start',between⟩ : AtPath s ∧
      ∃ t', optional (atPair ':' ':') 2 s' = some (isGlobal,t') ∧
        Followed more (if isGlobal = true then s.drop 2 else s) t' := by
    cases isGlobal with
    | true =>
      obtain ⟨joint,r,rfl⟩ := atPair_iff.mp test
      obtain ⟨name,r,rfl⟩ := path_word made
      obtain ⟨r',rfl,between⟩ := followed.colons
      exact ⟨.colons _ _,_,rfl,between⟩
    | false =>
      have begins : AtPath s := atPath_of_path made (other rfl)
      obtain ⟨name,r,rfl⟩ := path_word made
      obtain ⟨_,r',rfl,⟨⟩,_⟩ := followed.cons
      exact ⟨begins,_,rfl,followed⟩
  have begins' := begins.of_followed followed
  have whole := path_followed on (by omega : fuel < fuel' + 1) made between
  refine ⟨begins',?_⟩
  rw [type_of_path begins',pathType]
  refine (bind_of_eq start').trans ((bind_of_eq whole).trans ((bind_of_eq (calls_of_stops stops _ _)).trans ?_))
  simp [stops.plus]

end

end MsgBindings.Target.Reader
