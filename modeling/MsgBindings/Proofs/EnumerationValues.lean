import Mathlib.Data.List.Nodup
import MsgBindings.Enumeration
import MsgBindings.Proofs.Results

/-!
The enumeration that a list of constants makes. There is one exactly if the constants are integers
of one type (`ofConstants_eq_ok`), and nothing speaks against it exactly if no number and no variant
comes twice (`conflict?_eq_none`).
-/
namespace MsgBindings

def Field.enumValue? (c : Field) : Option EnumValue := c.integer?.map fun n => ⟨c.name,n,c.comment⟩

namespace Enumeration

/-- The enumeration of constants, if there are some and all of them are integers of one type. -/
def gather? (name : String) (comment : Option String) (explicit : Bool) : List Field → Option Enumeration
  | [] => none
  | c :: cs => do
    let repr ← c.type.base.primitive?
    if (c :: cs).all fun d => d.type.base.primitive? == some repr && d.integer?.isSome then
      some ⟨name,repr,(c :: cs).filterMap Field.enumValue?,comment,explicit⟩
    else none

theorem valueOf_eq_ok {name : String} {repr : Primitive} {c : Field} {v : EnumValue} :
    valueOf name repr c = .ok v ↔ c.type.base.primitive? = some repr ∧ c.enumValue? = some v := by
  unfold valueOf Field.enumValue?
  split
  · cases c.integer? <;> simp [*]
  · simp [*]

theorem mapM_valueOf_eq_ok {name : String} {repr : Primitive} {cs : List Field} {vs : List EnumValue} :
    cs.mapM (valueOf name repr) = .ok vs ↔
      (cs.all fun d => d.type.base.primitive? == some repr && d.integer?.isSome) = true ∧
        vs = cs.filterMap Field.enumValue? := by
  induction cs generalizing vs with
  | nil => simp [pure,Except.pure,eq_comm]
  | cons c cs ih =>
    simp only [List.mapM_cons,bind_eq_ok,pure_eq_ok,valueOf_eq_ok,ih,List.all_cons,Bool.and_eq_true,
      beq_iff_eq]
    constructor
    · rintro ⟨v,⟨typed,value⟩,_,⟨others,rfl⟩,rfl⟩
      have integer : c.integer?.isSome = true := by
        cases number : c.integer? <;> simp_all [Field.enumValue?]
      exact ⟨⟨⟨typed,integer⟩,others⟩,by simp [value]⟩
    · rintro ⟨⟨⟨typed,integer⟩,others⟩,rfl⟩
      obtain ⟨n,number⟩ := Option.isSome_iff_exists.mp integer
      have value : c.enumValue? = some ⟨c.name,n,c.comment⟩ := by simp [Field.enumValue?,number]
      exact ⟨_,⟨typed,value⟩,_,⟨others,rfl⟩,by simp [value]⟩

/-- Constants make an enumeration exactly if its name is good and they are integers of one type. -/
theorem ofConstants_eq_ok {name : String} {cs : List Field} {comment : Option String} {explicit : Bool}
    {e : Enumeration} :
    ofConstants name cs comment explicit = .ok e ↔
      isMessageName name = true ∧ gather? name comment explicit cs = some e ∧ e.repr.isInteger = true := by
  unfold ofConstants
  cases named : isMessageName name with
  | false => simp
  | true =>
    cases cs with
    | nil => simp [gather?]
    | cons c cs =>
      cases typed : c.type.base.primitive? with
      | none => simp [gather?,typed]
      | some repr =>
        cases whole : repr.isInteger with
        | false =>
          simp only [↓reduceIte,Option.filter,whole,reduceCtorEq,false_iff,gather?,typed,bind,Option.bind]
          rintro ⟨_,made,integer⟩
          split at made
          · cases made
            simp [whole] at integer
          · cases made
        | true =>
          simp only [↓reduceIte,Option.filter,whole,bind_eq_ok,pure_eq_ok,mapM_valueOf_eq_ok,gather?,typed]
          constructor
          · rintro ⟨_,⟨alike,rfl⟩,rfl⟩
            exact ⟨trivial,by simp only [bind,Option.bind,alike,↓reduceIte],whole⟩
          · rintro ⟨_,made,_⟩
            obtain ⟨alike,rfl⟩ : _ ∧ _ := by simpa [bind,Option.bind] using made
            exact ⟨_,⟨by simpa using alike,rfl⟩,rfl⟩

theorem name_of_ofConstants {name : String} {cs : List Field} {comment : Option String} {explicit : Bool}
    {e : Enumeration} (made : ofConstants name cs comment explicit = .ok e) : e.name = name := by
  obtain ⟨_,gathered,_⟩ := ofConstants_eq_ok.mp made
  cases cs with
  | nil => cases gathered
  | cons c cs =>
    obtain ⟨repr,_,some⟩ := Option.bind_eq_some_iff.mp gathered
    split at some
    · cases some
      rfl
    · cases some

/-- An enumeration of constants: its name is good, and it has a value for each constant. The constants are
    of one integer type. -/
structure IsOf (cs : List Field) (e : Enumeration) : Prop where
  named : isMessageName e.name = true
  whole : e.repr.isInteger = true
  nonempty : cs ≠ []
  typed : ∀ c ∈ cs, c.type.base.primitive? = some e.repr
  values : List.Forall₂ (fun c v => c.enumValue? = some v) cs e.values

theorem isOf_of_ofConstants {name : String} {cs : List Field} {comment : Option String} {explicit : Bool}
    {e : Enumeration} (made : ofConstants name cs comment explicit = .ok e) : e.IsOf cs := by
  unfold ofConstants at made
  cases named : isMessageName name with
  | false => simp [named] at made
  | true =>
    cases cs with
    | nil => simp [named] at made
    | cons c cs =>
      cases typed : c.type.base.primitive?.filter Primitive.isInteger with
      | none => simp [named,typed] at made
      | some repr =>
        simp only [named,typed,↓reduceIte,bind_eq_ok,pure_eq_ok,mapM_eq_ok,valueOf_eq_ok] at made
        obtain ⟨vs,each,rfl⟩ := made
        refine ⟨named,(Option.filter_eq_some_iff.mp typed).2,by simp,?_,each.imp fun _ _ both => both.2⟩
        intro d member
        obtain ⟨_,_,one⟩ := exists_of_mem_right each.flip member
        exact one.1

/-! ### Conflicts -/

/-- Among values with their variants, the one at a position has the number or the variant of one before it. Both are
    looked at, the number first. -/
inductive RepeatsAt (name : String) (vs : List (EnumValue × String)) (i : Nat) : EnumFault → Prop where
  | number {v w : EnumValue} {x y : String} (here : vs[i]? = some (v,x)) (earlier : (w,y) ∈ vs.take i)
      (same : w.number = v.number) : RepeatsAt name vs i (.duplicateValue v.name v.number w.name name)
  | variant {v w : EnumValue} {x : String} (here : vs[i]? = some (v,x)) (earlier : (w,x) ∈ vs.take i)
      (apart : ∀ u ∈ vs.take i, u.1.number ≠ v.number) : RepeatsAt name vs i (.sameVariant w.name v.name x name)

/-- A conflict is at the first position that repeats an earlier one. -/
theorem repeatsAt_of_conflictAfter {name : String} {earlier vs : List (EnumValue × String)} {i : Nat}
    {fault : EnumFault} (found : conflictAfter name earlier vs = some (i,fault)) :
    RepeatsAt name (earlier ++ vs) i fault ∧
      ∀ j, earlier.length ≤ j → j < i → ∀ f, ¬ RepeatsAt name (earlier ++ vs) j f := by
  induction vs generalizing earlier with
  | nil => cases found
  | cons first rest ih =>
    obtain ⟨v,x⟩ := first
    have here : (earlier ++ (v,x) :: rest)[earlier.length]? = some (v,x) := by simp
    have before : (earlier ++ (v,x) :: rest).take earlier.length = earlier := List.take_left
    rw [conflictAfter] at found
    cases number : earlier.find? fun e => e.1.number == v.number with
    | some e =>
      simp only [number] at found
      cases found
      have member := List.mem_of_find?_eq_some number
      rw [← before] at member
      exact ⟨.number here member (by simpa using List.find?_some number),by omega⟩
    | none =>
      have apart : ∀ u ∈ earlier, u.1.number ≠ v.number := by simpa using List.find?_eq_none.mp number
      cases same : earlier.find? fun e => e.2 == x with
      | some e =>
        simp only [number,same] at found
        cases found
        have member := List.mem_of_find?_eq_some same
        obtain rfl : e.2 = x := by simpa using List.find?_some same
        rw [← before] at member apart
        exact ⟨.variant here member apart,by omega⟩
      | none =>
        have unlike : ∀ u ∈ earlier, u.2 ≠ x := by simpa using List.find?_eq_none.mp same
        simp only [number,same] at found
        obtain ⟨repeats,least⟩ := ih found
        rw [List.append_assoc,List.singleton_append] at repeats least
        refine ⟨repeats,fun j low high f again => ?_⟩
        rcases Nat.eq_or_lt_of_le low with rfl | later
        · cases again with
          | number there member equal =>
            obtain ⟨rfl,rfl⟩ := Prod.mk.inj (Option.some.inj (here.symm.trans there))
            rw [before] at member
            exact apart _ member equal
          | variant there member _ =>
            obtain ⟨rfl,rfl⟩ := Prod.mk.inj (Option.some.inj (here.symm.trans there))
            rw [before] at member
            exact unlike _ member rfl
        · exact least j (by simpa [Nat.succ_le_iff] using later) high f again

/-- The conflict of an enumeration is at the first of its values that repeats an earlier number or variant. -/
theorem repeatsAt_of_conflict? {e : Enumeration} {i : Nat} {fault : EnumFault}
    (found : e.conflict? = some (i,fault)) :
    RepeatsAt e.name (e.values.zip e.variantNames) i fault ∧
      ∀ j < i, ∀ f, ¬ RepeatsAt e.name (e.values.zip e.variantNames) j f := by
  obtain ⟨repeats,least⟩ := repeatsAt_of_conflictAfter found
  exact ⟨repeats,fun j high => least j (Nat.zero_le j) high⟩

theorem RepeatsAt.lt {name : String} {vs : List (EnumValue × String)} {i : Nat} {fault : EnumFault}
    (repeats : RepeatsAt name vs i fault) : i < vs.length := by
  cases repeats with
  | number here _ _ => exact (List.getElem?_eq_some_iff.mp here).1
  | variant here _ _ => exact (List.getElem?_eq_some_iff.mp here).1

/-- A conflict is at the position of one of the values. -/
theorem lt_of_conflict? {e : Enumeration} {i : Nat} {fault : EnumFault} (found : e.conflict? = some (i,fault)) :
    i < e.values.length := by
  have bound := (repeatsAt_of_conflict? found).1.lt
  rw [List.length_zip] at bound
  omega

theorem conflictAfter_eq_none {name : String} {earlier vs : List (EnumValue × String)} :
    conflictAfter name earlier vs = none ↔
      (vs.map fun v => v.1.number).Nodup ∧ (vs.map Prod.snd).Nodup ∧
        ∀ v ∈ vs, ∀ e ∈ earlier, e.1.number ≠ v.1.number ∧ e.2 ≠ v.2 := by
  induction vs generalizing earlier with
  | nil => simp [conflictAfter]
  | cons first rest ih =>
    obtain ⟨v,variant⟩ := first
    have step : conflictAfter name earlier ((v,variant) :: rest) = none ↔
        (∀ e ∈ earlier, e.1.number ≠ v.number ∧ e.2 ≠ variant) ∧
          conflictAfter name (earlier ++ [(v,variant)]) rest = none := by
      rw [conflictAfter]
      cases number : earlier.find? fun e => e.1.number == v.number with
      | some e =>
        have member := List.mem_of_find?_eq_some number
        have repeated : e.1.number = v.number := by simpa using List.find?_some number
        simp only [reduceCtorEq,false_iff,not_and]
        intro apart
        exact absurd repeated (apart e member).1
      | none =>
        cases same : earlier.find? fun e => e.2 == variant with
        | some e =>
          have member := List.mem_of_find?_eq_some same
          have repeated : e.2 = variant := by simpa using List.find?_some same
          simp only [reduceCtorEq,false_iff,not_and]
          intro apart
          exact absurd repeated (apart e member).2
        | none =>
          simp only [List.find?_eq_none,beq_iff_eq] at number same
          simp only [iff_and_self]
          exact fun _ e member => ⟨number e member,same e member⟩
    rw [step,ih]
    simp only [List.map_cons,List.nodup_cons,List.mem_cons,forall_eq_or_imp,List.mem_append,List.mem_map]
    constructor
    · rintro ⟨apart,numbers,variants,others⟩
      refine ⟨⟨?_,numbers⟩,⟨?_,variants⟩,apart,fun w member e early => others w member e (.inl early)⟩
      · rintro ⟨w,member,same⟩
        exact (others w member (v,variant) (.inr (by simp))).1 same.symm
      · rintro ⟨w,member,same⟩
        exact (others w member (v,variant) (.inr (by simp))).2 same.symm
    · rintro ⟨⟨number,numbers⟩,⟨unlike,variants⟩,apart,others⟩
      refine ⟨apart,numbers,variants,?_⟩
      rintro w member e (early | last)
      · exact others w member e early
      · obtain rfl : e = (v,variant) := by simpa using last
        exact ⟨fun same => number ⟨w,member,same.symm⟩,fun same => unlike ⟨w,member,same.symm⟩⟩

@[simp] theorem length_variantNames (e : Enumeration) : e.variantNames.length = e.values.length := by
  simp [variantNames]

/-- Nothing speaks against an enumeration exactly if no number and no variant comes twice. -/
theorem conflict?_eq_none {e : Enumeration} :
    e.conflict? = none ↔ (e.values.map EnumValue.number).Nodup ∧ e.variantNames.Nodup := by
  have values : (e.values.zip e.variantNames).map Prod.fst = e.values := List.map_fst_zip (by simp)
  have numbers : ((e.values.zip e.variantNames).map fun v => v.1.number) = e.values.map EnumValue.number := by
    simpa [Function.comp_def] using congrArg (List.map EnumValue.number) values
  have variants : (e.values.zip e.variantNames).map Prod.snd = e.variantNames :=
    List.map_snd_zip (by simp)
  rw [conflict?,conflictAfter_eq_none,numbers,variants]
  simp

end Enumeration

end MsgBindings
