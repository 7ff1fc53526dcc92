import MsgBindings.Proofs.IntegerLiterals
import MsgBindings.Proofs.TypedMessages

/-!
The texts of truth values and integers, alone and in arrays. Such a value is shown as it is read, but for the least
integer, whose literal is refused. So the text of a default value made of them is read as the value again
(`DefaultValue.read_text`).
-/
namespace MsgBindings

/-! ### Integers -/

/-- Only zero is shown with a leading zero. -/
theorem toDigits_of_leading_zero {n : Nat} (zero : (Nat.toDigits 10 n).head? = some '0') : n = 0 := by
  induction n using Nat.strongRecOn with
  | ind n ih =>
    by_cases single : n < 10
    · rw [Nat.toDigits_of_lt_base single] at zero
      have all : ∀ d < 10, [d.digitChar].head? = some '0' → d = 0 := by decide
      exact all n single zero
    · rw [Nat.toDigits_of_base_le (by decide) (by omega),List.head?_append_of_ne_nil _ Nat.toDigits_ne_nil] at zero
      have := ih (n / 10) (by omega) zero
      omega

theorem isMagnitude_toString (n : Nat) : IsMagnitude (toString n).toList n := by
  rw [toList_toString]
  refine .decimal (isNumeral_toDigits (by decide) (by decide) n) fun zero => ?_
  obtain rfl := toDigits_of_leading_zero zero
  rfl

theorem toList_toString_negSucc (n : Nat) : (toString (Int.negSucc n)).toList = '-' :: (toString (n + 1)).toList := by
  have text : toString (Int.negSucc n) = "-" ++ toString (n + 1) := rfl
  rw [text,String.toList_append]
  rfl

/-- The text of an integer is a literal of it. -/
theorem isIntegerLiteral_toString {v : Int} (fits : fitsInteger v = true) : IsIntegerLiteral (toString v).toList v := by
  cases v with
  | ofNat n => exact ⟨.none,isMagnitude_toString n,rfl,by simp,fits⟩
  | negSucc n =>
    exact ⟨.minus,isMagnitude_toString (n + 1),toList_toString_negSucc n,by rw [Int.negSucc_eq]; simp,fits⟩

theorem readInteger_toString {v : Int} (fits : fitsInteger v = true) (other : v ≠ leastInteger) :
    readInteger (toString v).toList = .value v :=
  readInteger_eq_value.mpr (.inl ⟨isIntegerLiteral_toString fits,other⟩)

theorem fits_of_readInteger {text : List Char} {v : Int} (read : readInteger text = .value v) :
    fitsInteger v = true := by
  rcases readInteger_eq_value.mp read with ⟨⟨_,_,_,_,fits⟩,_⟩ | ⟨_,_,_,_,_,_,_,_,fits⟩
  · exact fits
  · exact fits

/-! ### Values -/

/-- The characters of the texts of truth values and integers. -/
def isValueChar (c : Char) : Prop := c.isAlphanum = true ∨ c = '-'

theorem isBlank_of_isValueChar {c : Char} (plain : isValueChar c) : Text.isBlank c = false := by
  rcases plain with plain | rfl
  · exact Text.isBlank_of_isAlphanum plain
  · decide

namespace Literal

/-- A truth value, or an integer whose literal is read. -/
def IsPlain : Literal → Prop
  | bool _ => True
  | integer v => v ≠ leastInteger
  | _ => False

instance : DecidablePred IsPlain
  | bool _ => isTrue trivial
  | integer v => inferInstanceAs (Decidable (v ≠ leastInteger))
  | float _ => isFalse id
  | string _ => isFalse id

/-- A truth value, or an integer whose text is read back. -/
inductive IsShown : Literal → Prop where
  | bool (v : Bool) : IsShown (.bool v)
  | integer {v : Int} (fits : fitsInteger v = true) (other : v ≠ leastInteger) : IsShown (.integer v)

variable {p : Primitive} {v : Literal}

theorem char_of_text (shown : v.IsShown) : ∀ c ∈ v.text.toList, isValueChar c := by
  have digit : ∀ {n : Nat}, ∀ c ∈ (toString n).toList, isValueChar c := by
    intro n c inside
    exact .inl (by rw [Text.isAlphanum_eq,digit_of_mem_toString c inside,Bool.or_true])
  cases shown with
  | bool v =>
    have all : ∀ v, ∀ c ∈ (text (.bool v)).toList, c.isAlphanum = true := by decide
    exact fun c inside => .inl (all v c inside)
  | @integer v fits other =>
    cases v with
    | ofNat n => exact digit
    | negSucc n =>
      intro c inside
      rw [text,toList_toString_negSucc] at inside
      rcases List.mem_cons.mp inside with rfl | inside
      · exact .inr rfl
      · exact digit c inside

theorem text_ne_nil (shown : v.IsShown) : v.text.toList ≠ [] := by
  cases shown with
  | bool v => cases v <;> decide
  | @integer v fits other =>
    cases v with
    | ofNat n =>
      show (toString n).toList ≠ []
      rw [toList_toString]
      exact Nat.toDigits_ne_nil
    | negSucc n =>
      rw [text,toList_toString_negSucc]
      exact List.cons_ne_nil _ _

/-- The text of a value is read as the value, with blanks in front as well. -/
theorem read_text (shown : v.IsShown) (typed : v.IsOf p) (blanks : List Char)
    (blank : ∀ c ∈ blanks, Text.isBlank c = true) : read p (blanks ++ v.text.toList) = .ok v := by
  have solid : ∀ c ∈ v.text.toList, Text.isBlank c = false := fun c inside =>
    isBlank_of_isValueChar (char_of_text shown c inside)
  have trimmed : Text.trim (blanks ++ v.text.toList) = v.text.toList :=
    (Text.trim_of_blank blank).trans (Text.trim_solid solid)
  cases typed with
  | bool v =>
    cases v <;> simp only [read,trimmed] <;> decide
  | integer v whole =>
    cases shown with
    | integer fits other =>
      rw [read_of_isInteger whole,trimmed,text,readInteger_toString fits other]
  | float v _ => cases shown
  | string v _ => cases shown

/-- A value that was read is shown as it is read, unless it is the least integer or no truth value and no integer. -/
theorem isShown_of_read {p : Primitive} {text : List Char} {v : Literal} (ok : read p text = .ok v)
    (plain : v.IsPlain) : v.IsShown := by
  cases isOf_of_read ok with
  | bool v => exact .bool v
  | integer v whole =>
    rw [read_of_isInteger whole] at ok
    split at ok <;> cases ok
    rename_i value
    exact .integer (fits_of_readInteger value) plain
  | float v _ => exact plain.elim
  | string v _ => exact plain.elim

end Literal

/-! ### Arrays -/

namespace Text

theorem prefix_intercalate (separator first : List Char) (others : List (List Char)) :
    first <+: separator.intercalate (first :: others) := by
  cases others with
  | nil => exact ⟨[],by rw [List.append_nil,List.intercalate_singleton]⟩
  | cons next others =>
    rw [List.intercalate_cons_cons,List.append_assoc]
    exact List.prefix_append _ _

/-- Texts with a comma and a space between them are cut at those commas and at the commas in them. -/
theorem cutBy_intercalate (first : List Char) (others : List (List Char)) :
    cutBy (· == ',') ([',',' '].intercalate (first :: others)) =
      cutBy (· == ',') first ++ others.flatMap fun t => cutBy (· == ',') (' ' :: t) := by
  induction others generalizing first with
  | nil => rw [List.intercalate_singleton,List.flatMap_nil,List.append_nil]
  | cons next others ih =>
    -- The space behind a comma belongs to the text that follows.
    have spaced : ' ' :: [',',' '].intercalate (next :: others) = [',',' '].intercalate ((' ' :: next) :: others) := by
      cases others with
      | nil => rw [List.intercalate_singleton,List.intercalate_singleton]
      | cons other others =>
        rw [List.intercalate_cons_cons,List.intercalate_cons_cons,List.cons_append,List.cons_append]
    rw [List.intercalate_cons_cons,List.append_assoc,List.cons_append,List.singleton_append,cutBy_append_cons rfl,
      spaced,ih,List.flatMap_cons]

end Text

namespace DefaultValue

/-- The values that a default value is made of. -/
def literals : DefaultValue → List Literal
  | single v => [v]
  | array vs => vs

/-- The values in a default value were read one by one. -/
theorem literals_of_read {type : FieldType} {text : List Char} {d : DefaultValue}
    (ok : read type text = .ok d) : ∀ v ∈ d.literals, ∃ p t, Literal.read p t = .ok v := by
  simp only [read] at ok
  split at ok
  · cases ok
  · obtain ⟨w,made,rfl⟩ := map_eq_ok.mp ok
    intro v inside
    obtain rfl := List.mem_singleton.mp inside
    exact ⟨_,_,made⟩
  · split at ok
    · cases ok
    · split at ok
      · cases ok
      · obtain ⟨vs,made,rfl⟩ := map_eq_ok.mp ok
        intro v inside
        obtain ⟨t,_,here⟩ := exists_of_mem_right (mapM_eq_ok.mp made) inside
        exact ⟨_,t,here⟩

/-- What stands between the brackets of an array. -/
def inside (vs : List Literal) : List Char := [',',' '].intercalate (vs.map fun v => v.text.toList)

theorem toList_text_array (vs : List Literal) : (text (.array vs)).toList = '[' :: (inside vs ++ [']']) := by
  show ("[" ++ ", ".intercalate (vs.map Literal.text) ++ "]").toList = _
  rw [String.toList_append,String.toList_append,String.toList_intercalate,List.map_map]
  rfl

/-- The text of an array has no other characters than those of its values and the marks between them. -/
theorem char_of_inside {vs : List Literal} (shown : ∀ v ∈ vs, v.IsShown) :
    ∀ c ∈ inside vs, isValueChar c ∨ c = ',' ∨ c = ' ' := by
  intro c member
  rw [inside,← Text.join_eq] at member
  rcases Text.mem_join member with mark | ⟨_,piece,here⟩
  · exact .inr (by simpa using mark)
  · obtain ⟨v,listed,rfl⟩ := List.mem_map.mp piece
    exact .inl (Literal.char_of_text (shown v listed) c here)

theorem trim_brackets (inside : List Char) : Text.trim ('[' :: (inside ++ [']'])) = '[' :: (inside ++ [']']) :=
  Text.trim_closed (s := '[' :: inside) (by rintro d ⟨⟩; decide) (by decide) nofun

theorem bracketed?_brackets (inside : List Char) : bracketed? ('[' :: (inside ++ [']'])) = some inside := by
  rw [bracketed?,trim_brackets]
  show (if (inside ++ [']']).getLast? = some ']' then some (inside ++ [']']).dropLast else none) = _
  rw [List.getLast?_concat,if_pos rfl,List.dropLast_concat]

/-- Where not all is blank between the brackets, the elements are what stands between commas. -/
theorem elements_of_solid {text : List Char} {c : Char} (member : c ∈ text) (solid : Text.isBlank c = false) :
    elements text = Text.cutBy (· == ',') text := by
  have filled : (Text.trim text).isEmpty = false := by
    rw [List.isEmpty_eq_false_iff,ne_eq,Text.trim_eq_nil]
    intro blank
    rw [blank c member] at solid
    cases solid
  unfold elements
  rw [filled]
  rfl

/-- The elements of an array are cut apart as they were put together, but for the space in front. -/
theorem elements_inside {v : Literal} {vs : List Literal} (shown : ∀ w ∈ v :: vs, w.IsShown) :
    elements (inside (v :: vs)) = v.text.toList :: vs.map fun w => ' ' :: w.text.toList := by
  have plain : ∀ t ∈ (v :: vs).map (fun w => w.text.toList), ∀ c ∈ t, (c == ',') = false := by
    intro t member c inside
    obtain ⟨w,here,rfl⟩ := List.mem_map.mp member
    rw [beq_eq_false_iff_ne]
    rintro rfl
    exact absurd (Literal.char_of_text (shown w here) ',' inside) (by unfold isValueChar; decide)
  have cut : Text.cutBy (· == ',') (inside (v :: vs)) = v.text.toList :: vs.map fun w => ' ' :: w.text.toList := by
    rw [List.map_cons,List.forall_mem_cons,List.forall_mem_map] at plain
    have others : ∀ w ∈ vs, Text.cutBy (· == ',') (' ' :: w.text.toList) = [' ' :: w.text.toList] := fun w member =>
      Text.cutBy_of_none (List.forall_mem_cons.mpr ⟨rfl,plain.2 w member⟩)
    rw [inside,List.map_cons,Text.cutBy_intercalate,Text.cutBy_of_none plain.1,List.flatMap_map,
      List.flatMap_congr others,← List.map_eq_flatMap,List.singleton_append]
  obtain ⟨c,rest,chars⟩ := List.exists_cons_of_ne_nil (Literal.text_ne_nil (shown v (by simp)))
  have first : c ∈ v.text.toList := by
    rw [chars]
    exact List.mem_cons_self
  have solid := isBlank_of_isValueChar (Literal.char_of_text (shown v (by simp)) c first)
  have member : c ∈ inside (v :: vs) := (Text.prefix_intercalate _ _ _).subset first
  rw [elements_of_solid member solid,cut]

theorem read_elements {p : Primitive} {vs : List Literal} (shown : ∀ v ∈ vs, v.IsShown) (typed : ∀ v ∈ vs, v.IsOf p) :
    (elements (inside vs)).mapM (Literal.read p) = .ok vs := by
  cases vs with
  | nil => rfl
  | cons v vs =>
    rw [elements_inside shown,mapM_eq_ok]
    rw [List.forall_mem_cons] at shown typed
    refine .cons (Literal.read_text shown.1 typed.1 [] nofun) ?_
    rw [List.forall₂_map_left_iff,List.forall₂_same]
    exact fun w member => Literal.read_text (shown.2 w member) (typed.2 w member) [' '] (by decide)

/-- The text of a default value has no blanks around it, and no marks but those of arrays. -/
theorem text_facts {d : DefaultValue} (shown : ∀ v ∈ d.literals, v.IsShown) :
    d.text.toList ≠ [] ∧ Text.trim d.text.toList = d.text.toList ∧
      ∀ c ∈ d.text.toList, isValueChar c ∨ c ∈ [' ','[',']',','] := by
  cases d with
  | single v =>
    have value := shown v (List.mem_singleton_self v)
    have each := Literal.char_of_text value
    exact ⟨Literal.text_ne_nil value,Text.trim_solid fun c inside => isBlank_of_isValueChar (each c inside),
      fun c inside => .inl (each c inside)⟩
  | array vs =>
    rw [toList_text_array]
    refine ⟨List.cons_ne_nil _ _,trim_brackets (inside vs),fun c member => ?_⟩
    simp only [List.mem_cons,List.mem_append,List.not_mem_nil,or_false] at member ⊢
    rcases member with rfl | member | rfl
    · simp
    · rcases char_of_inside shown c member with value | rfl | rfl
      · exact .inl value
      · simp
      · simp
    · simp

/-- The text of a default value is read as the value. -/
theorem read_text {type : FieldType} {d : DefaultValue} (shown : ∀ v ∈ d.literals, v.IsShown) (typed : d.IsOf type) :
    read type d.text.toList = .ok d := by
  cases typed with
  | single typed =>
    have ok := Literal.read_text (shown _ (List.mem_singleton_self _)) typed [] nofun
    exact map_eq_ok.mpr ⟨_,ok,rfl⟩
  | @array p bound shape vs typed allowed =>
    have all : (elements (inside vs)).mapM (Literal.read p) = .ok vs := read_elements shown typed
    have count : countFault? shape (elements (inside vs)).length = none := by
      rw [(mapM_eq_ok.mp all).length_eq]
      exact countFault?_eq_none.mpr allowed
    simp only [read,BaseType.primitive?,toList_text_array,bracketed?_brackets,count,all]
    rfl

end DefaultValue

end MsgBindings
