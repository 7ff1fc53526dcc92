import Mathlib.Data.List.Forall2

/-!
What the outcome of a sequence of readings says of its parts: it succeeds exactly if every part
does, and its error is the error of the first part that fails.
-/
namespace MsgBindings

variable {ε δ α β : Type}

@[simp] theorem bind_eq_ok {x : Except ε α} {f : α → Except ε β} {b : β} :
    (x >>= f) = .ok b ↔ ∃ a, x = .ok a ∧ f a = .ok b := by
  cases x <;> simp [bind,Except.bind]

@[simp] theorem bind_eq_error {x : Except ε α} {f : α → Except ε β} {e : ε} :
    (x >>= f) = .error e ↔ x = .error e ∨ ∃ a, x = .ok a ∧ f a = .error e := by
  cases x <;> simp [bind,Except.bind]

@[simp] theorem pure_eq_ok {a b : α} : (pure a : Except ε α) = .ok b ↔ a = b := by
  simp [pure,Except.pure]

@[simp] theorem pure_ne_error {a : α} {e : ε} : (pure a : Except ε α) ≠ .error e := by
  simp [pure,Except.pure]

@[simp] theorem throw_ne_ok {e : ε} {a : α} : (throw e : Except ε α) ≠ .ok a := by
  simp [throw,throwThe,MonadExceptOf.throw]

@[simp] theorem throw_eq_error {e e' : ε} : (throw e : Except ε α) = .error e' ↔ e = e' := by
  simp [throw,throwThe,MonadExceptOf.throw]

theorem check_eq_ok {c : Prop} [Decidable c] {e : ε} {f : Unit → Except ε α} {a : α} :
    (if c then throw e >>= f else f ()) = .ok a ↔ ¬ c ∧ f () = .ok a := by
  split <;> simp [*]

@[simp] theorem map_eq_ok {x : Except ε α} {f : α → β} {b : β} :
    x.map f = .ok b ↔ ∃ a, x = .ok a ∧ f a = b := by
  cases x <;> simp [Except.map]

@[simp] theorem map_eq_error {x : Except ε α} {f : α → β} {e : ε} :
    x.map f = .error e ↔ x = .error e := by
  cases x <;> simp [Except.map]

@[simp] theorem mapError_eq_ok {x : Except ε α} {f : ε → δ} {a : α} :
    x.mapError f = .ok a ↔ x = .ok a := by
  cases x <;> simp [Except.mapError]

@[simp] theorem mapError_eq_error {x : Except ε α} {f : ε → δ} {e : δ} :
    x.mapError f = .error e ↔ ∃ e', x = .error e' ∧ f e' = e := by
  cases x <;> simp [Except.mapError]

/-- Reading a list gives what reading its members gives, in order. -/
theorem mapM_eq_ok {f : α → Except ε β} {xs : List α} {ys : List β} :
    xs.mapM f = .ok ys ↔ List.Forall₂ (fun x y => f x = .ok y) xs ys := by
  induction xs generalizing ys with
  | nil => simp [List.forall₂_nil_left_iff,pure,Except.pure,eq_comm]
  | cons x xs ih =>
    rw [List.mapM_cons,List.forall₂_cons_left_iff]
    simp only [bind_eq_ok,pure_eq_ok,ih]
    constructor
    · rintro ⟨y,read,zs,rest,rfl⟩
      exact ⟨y,zs,read,rest,rfl⟩
    · rintro ⟨y,zs,read,rest,rfl⟩
      exact ⟨y,read,zs,rest,rfl⟩

/-- What is seen of a list that is read is what is seen of its members. -/
theorem map_mapM {γ : Type} {f : α → Except ε β} {view : β → γ} {xs : List α} :
    (xs.mapM f).map (List.map view) = xs.mapM fun x => (f x).map view := by
  induction xs with
  | nil => rfl
  | cons x xs ih =>
    rw [List.mapM_cons,List.mapM_cons,← ih]
    cases f x with
    | error e => rfl
    | ok y => cases xs.mapM f <;> rfl

/-- What is read of something that may be missing is there only if that is there and can be read. -/
theorem optionMapM_eq_some {f : α → Except ε β} {x : Option α} {y : β} :
    x.mapM f = .ok (some y) ↔ ∃ a, x = some a ∧ f a = .ok y := by
  cases x with
  | none => simp [pure,Except.pure]
  | some a =>
    have mapped : (some a).mapM f = (f a).map some := rfl
    simp [mapped]

/-- Reading a list fails with the error of the first member that cannot be read. -/
theorem mapM_eq_error {f : α → Except ε β} {xs : List α} {e : ε} :
    xs.mapM f = .error e ↔
      ∃ before x after ys, xs = before ++ x :: after ∧ before.mapM f = .ok ys ∧ f x = .error e := by
  induction xs with
  | nil => simp
  | cons x xs ih =>
    rw [List.mapM_cons]
    simp only [bind_eq_error,pure_ne_error,and_false,exists_false,or_false,ih]
    constructor
    · rintro (fails | ⟨y,read,before,z,after,ys,rfl,rest,fails⟩)
      · exact ⟨[],x,xs,[],rfl,rfl,fails⟩
      · refine ⟨x :: before,z,after,y :: ys,rfl,?_,fails⟩
        rw [List.mapM_cons,bind_eq_ok]
        exact ⟨y,read,bind_eq_ok.mpr ⟨ys,rest,rfl⟩⟩
    · rintro ⟨before,z,after,ys,split,rest,fails⟩
      cases before with
      | nil =>
        obtain ⟨rfl,rfl⟩ := List.cons.inj split
        exact .inl fails
      | cons w before =>
        obtain ⟨rfl,rfl⟩ := List.cons.inj split
        simp only [List.mapM_cons,bind_eq_ok,pure_eq_ok] at rest
        obtain ⟨y,read,zs,rest,rfl⟩ := rest
        exact .inr ⟨y,read,before,z,after,zs,rfl,rest,fails⟩

/-- A member of the second of two related lists is related to a member of the first. -/
theorem exists_of_mem_right {related : α → β → Prop} {xs : List α} {ys : List β}
    (pairs : List.Forall₂ related xs ys) {y : β} (member : y ∈ ys) : ∃ x ∈ xs, related x y := by
  induction pairs with
  | nil => cases member
  | @cons x _ _ _ first _ ih =>
    rcases List.mem_cons.mp member with rfl | later
    · exact ⟨x,by simp,first⟩
    · obtain ⟨x',inside,here⟩ := ih later
      exact ⟨x',by simp [inside],here⟩

/-- What is related to one list after another is one list after another. -/
theorem exists_of_forall₂_append {related : α → β → Prop} {xs : List α} {ys zs : List β}
    (each : List.Forall₂ related xs (ys ++ zs)) :
    ∃ front back, xs = front ++ back ∧ List.Forall₂ related front ys ∧ List.Forall₂ related back zs :=
  ⟨_,_,(List.take_append_drop ys.length xs).symm,List.forall₂_take_append _ _ _ each,
    List.forall₂_drop_append _ _ _ each⟩

/-- What is seen of the members of two related lists is one list, if related members always agree. -/
theorem map_of_forall₂ {γ : Type} {related : α → β → Prop} {f : α → γ} {g : β → γ} {xs : List α} {ys : List β}
    (pairs : List.Forall₂ related xs ys) (each : ∀ x y, related x y → f x = g y) : xs.map f = ys.map g := by
  induction pairs with
  | nil => rfl
  | cons here _ ih => rw [List.map_cons,List.map_cons,each _ _ here,ih]

/-- A list is related to another one if each of its members is related to something. -/
theorem exists_forall₂ {related : α → β → Prop} {xs : List α} (each : ∀ x ∈ xs, ∃ y, related x y) :
    ∃ ys, List.Forall₂ related xs ys := by
  induction xs with
  | nil => exact ⟨[],.nil⟩
  | cons x xs ih =>
    rw [List.forall_mem_cons] at each
    obtain ⟨y,first⟩ := each.1
    obtain ⟨ys,others⟩ := ih each.2
    exact ⟨y :: ys,.cons first others⟩

theorem filterMap_of_forall₂ {f : α → Option β} {xs : List α} {ys : List β}
    (pairs : List.Forall₂ (fun x y => f x = some y) xs ys) : xs.filterMap f = ys := by
  induction pairs with
  | nil => rfl
  | cons here _ ih => rw [List.filterMap_cons_some here,ih]

/-- What relates two lists, and their pairs with a third one, relates the first and the third. -/
theorem forall₂_of_zip {γ : Type} {related : α → β → Prop} {further : α × β → γ → Prop} {xs : List α} {ys : List β}
    {zs : List γ} (first : List.Forall₂ related xs ys) (second : List.Forall₂ further (xs.zip ys) zs) :
    List.Forall₂ (fun x z => ∃ y, related x y ∧ further (x,y) z) xs zs := by
  induction first generalizing zs with
  | nil =>
    cases second
    exact .nil
  | @cons x y _ _ here _ ih =>
    cases second with
    | cons next rest => exact .cons ⟨y,here,next⟩ (ih rest)

theorem mapM_eq_some {f : α → Option β} {xs : List α} {ys : List β} :
    xs.mapM f = some ys ↔ List.Forall₂ (fun x y => f x = some y) xs ys := by
  induction xs generalizing ys with
  | nil => simp [List.forall₂_nil_left_iff,eq_comm]
  | cons x xs ih =>
    rw [List.mapM_cons,List.forall₂_cons_left_iff]
    simp only [bind,Option.bind_eq_some_iff,pure,Option.some.injEq,ih]
    constructor
    · rintro ⟨y,first,zs,rest,rfl⟩
      exact ⟨y,zs,first,rest,rfl⟩
    · rintro ⟨y,zs,first,rest,rfl⟩
      exact ⟨y,first,zs,rest,rfl⟩

end MsgBindings
