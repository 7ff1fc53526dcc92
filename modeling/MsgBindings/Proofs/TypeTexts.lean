import MsgBindings.Proofs.TypeSpellings

/-!
The texts of types. A type that is read has bounds that are positive, and a message of the package of the definition
is held without its package (`isNormal_of_read`). The text of such a type is a spelling of it (`IsNormal.spelled`), so
that it is read as the type again, in every package but the one that it names (`read_shown`).
-/
namespace MsgBindings

/-! ### Types as they are held -/

/-- An element type as it is held in a definition of the package `context`. -/
inductive BaseType.IsNormal (context : Option String) : BaseType → Prop where
  | builtin (p : Primitive) : IsNormal context (.primitive p none)
  | string {p : Primitive} {bound : Nat} (string : p.isString = true) (positive : 0 < bound)
      (small : bound ≤ greatestSize) : IsNormal context (.primitive p (some bound))
  | own {name : String} (named : isMessageName name = true) : IsNormal context (.message none name)
  | foreign {package name : String} (other : context ≠ some package) (owned : isPackageName package = true)
      (named : isMessageName name = true) : IsNormal context (.message (some package) name)

inductive ArrayShape.IsNormal : ArrayShape → Prop where
  | unbounded : IsNormal .unbounded
  | fixed {size : Nat} (small : size ≤ greatestSize) : IsNormal (.fixed size)
  | bounded {bound : Nat} (positive : 0 < bound) (small : bound ≤ greatestSize) : IsNormal (.bounded bound)

structure FieldType.IsNormal (context : Option String) (type : FieldType) : Prop where
  base : type.base.IsNormal context
  array : ∀ shape ∈ type.array, shape.IsNormal

theorem BaseSpelling.isNormal_type (s : BaseSpelling) (context : Option String) :
    (s.type context).IsNormal context := by
  cases s with
  | builtin p => exact .builtin p
  | boundedString p string bound positive => exact .string string positive bound.small
  | message name named => exact .own named
  | messageOf package name owned named =>
    rw [type]
    split
    · exact .own named
    · exact .foreign ‹_› owned named

theorem ArraySpelling.isNormal_shape (s : ArraySpelling) : s.shape.IsNormal := by
  cases s with
  | unbounded => exact .unbounded
  | fixed size => exact .fixed size.small
  | bounded bound positive => exact .bounded positive bound.small

theorem FieldType.isNormal_of_read {context : Option String} {token : String} {type : FieldType}
    (ok : read context token = .ok type) : type.IsNormal context := by
  obtain ⟨⟨base,array⟩,_,rfl⟩ := spelling_of_read ok
  refine ⟨base.isNormal_type context,fun shape some => ?_⟩
  obtain ⟨spelling,_,rfl⟩ := Option.map_eq_some_iff.mp some
  exact spelling.isNormal_shape

/-! ### Their texts -/

theorem toList_toString (n : Nat) : (toString n).toList = Nat.toDigits 10 n := by
  simp

/-- The text of a size is a spelling of it. -/
theorem SizeSpelling.exists_toString {n : Nat} (small : n ≤ greatestSize) :
    ∃ s : SizeSpelling, s.text = (toString n).toList ∧ s.value = n := by
  have numeral : natural? 10 (toString n).toList = some n := by
    rw [toList_toString]
    exact (natural?_eq_some (by decide)).mpr (isNumeral_toDigits (by decide) (by decide) n)
  obtain ⟨filled,decimal,value⟩ := natural?_ten.mp numeral
  exact ⟨⟨false,_,filled,decimal,by rw [value]; exact small⟩,rfl,value⟩

/-- The characters that the text of an element type is made of. -/
def isTypeChar (c : Char) : Prop := c.isAlphanum = true ∨ c ∈ ['_','/','<','=']

namespace BaseType

variable {context : Option String} {base : BaseType}

theorem toList_text_string (p : Primitive) (bound : Nat) :
    (text (.primitive p (some bound))).toList = p.name.toList ++ '<' :: '=' :: (toString bound).toList := by
  show (p.name ++ "<=" ++ toString bound).toList = _
  rw [String.toList_append,String.toList_append,List.append_assoc]
  rfl

theorem toList_text_foreign (package name : String) :
    (text (.message (some package) name)).toList = package.toList ++ '/' :: name.toList := by
  show (package ++ "/" ++ name).toList = _
  rw [String.toList_append,String.toList_append,List.append_assoc]
  rfl

theorem IsNormal.spelled (normal : base.IsNormal context) :
    ∃ s : BaseSpelling, s.text = base.text.toList ∧ s.type context = base := by
  cases normal with
  | builtin p => exact ⟨.builtin p,rfl,rfl⟩
  | @string p bound string positive small =>
    obtain ⟨size,text,rfl⟩ := SizeSpelling.exists_toString small
    exact ⟨.boundedString p string size positive,by rw [toList_text_string,BaseSpelling.text,text],rfl⟩
  | own named => exact ⟨.message _ named,rfl,rfl⟩
  | foreign other owned named =>
    exact ⟨.messageOf _ _ owned named,(toList_text_foreign _ _).symm,by rw [BaseSpelling.type,if_neg other]⟩

/-- The text of an element type is made of letters, digits and the marks of names and of an upper bound. -/
theorem char_of_text (normal : base.IsNormal context) : ∀ c ∈ base.text.toList, isTypeChar c := by
  have word : ∀ {name : String}, IsWord name → ∀ c ∈ name.toList, isTypeChar c := by
    intro name word c inside
    rcases word.chars c inside with plain | rfl
    · exact .inl plain
    · exact .inr (by decide)
  have builtin : ∀ p : Primitive, ∀ c ∈ p.name.toList, isTypeChar c := by
    intro p c inside
    refine .inl ?_
    rw [Text.isAlphanum_eq]
    rcases p.char_of_name c inside with lower | digit
    · simp [lower]
    · simp [digit]
  cases normal with
  | builtin p => exact builtin p
  | @string p bound =>
    rw [toList_text_string]
    intro c inside
    simp only [List.mem_append,List.mem_cons] at inside
    rcases inside with name | rfl | rfl | digits
    · exact builtin p c name
    · exact .inr (by decide)
    · exact .inr (by decide)
    · exact .inl (by rw [Text.isAlphanum_eq,digit_of_mem_toString c digits,Bool.or_true])
  | own named => exact word (NamePattern.isWord_of_accepts named)
  | foreign other owned named =>
    rw [toList_text_foreign]
    intro c inside
    simp only [List.mem_append,List.mem_cons] at inside
    rcases inside with package | rfl | name
    · exact word (NamePattern.isWord_of_accepts owned) c package
    · exact .inr (by decide)
    · exact word (NamePattern.isWord_of_accepts named) c name

end BaseType

/-- What stands between the brackets of an array. -/
def ArrayShape.inside : ArrayShape → List Char
  | unbounded => []
  | fixed size => (toString size).toList
  | bounded bound => '<' :: '=' :: (toString bound).toList

namespace ArrayShape

variable {shape : ArrayShape}

theorem toList_text (shape : ArrayShape) : shape.text.toList = '[' :: (shape.inside ++ [']']) := by
  cases shape with
  | unbounded => rfl
  | fixed size =>
    show ("[" ++ toString size ++ "]").toList = _
    rw [String.toList_append,String.toList_append]
    rfl
  | bounded bound =>
    show ("[<=" ++ toString bound ++ "]").toList = _
    rw [String.toList_append,String.toList_append]
    rfl

theorem char_of_inside (shape : ArrayShape) : ∀ c ∈ shape.inside, c.isDigit = true ∨ c = '<' ∨ c = '=' := by
  cases shape with
  | unbounded => exact nofun
  | fixed size => exact fun c digit => .inl (digit_of_mem_toString c digit)
  | bounded bound =>
    intro c inside
    rcases List.mem_cons.mp inside with rfl | inside
    · exact .inr (.inl rfl)
    · rcases List.mem_cons.mp inside with rfl | digit
      · exact .inr (.inr rfl)
      · exact .inl (digit_of_mem_toString c digit)

theorem IsNormal.spelled (normal : shape.IsNormal) : ∃ s : ArraySpelling, s.text = shape.inside ∧ s.shape = shape := by
  cases normal with
  | unbounded => exact ⟨.unbounded,rfl,rfl⟩
  | fixed small =>
    obtain ⟨size,text,rfl⟩ := SizeSpelling.exists_toString small
    exact ⟨.fixed size,text,rfl⟩
  | bounded positive small =>
    obtain ⟨size,text,rfl⟩ := SizeSpelling.exists_toString small
    exact ⟨.bounded size positive,congrArg ('<' :: '=' :: ·) text,rfl⟩

end ArrayShape

namespace FieldType

variable {context : Option String} {type : FieldType}

theorem toList_text_array (base : BaseType) (shape : ArrayShape) :
    (text ⟨base,some shape⟩).toList = base.text.toList ++ '[' :: (shape.inside ++ [']']) := by
  show (base.text ++ shape.text).toList = _
  rw [String.toList_append,shape.toList_text]

theorem text_single (base : BaseType) : text ⟨base,none⟩ = base.text := String.append_empty

/-- The text of a type is made of letters, digits and the marks of names, bounds and arrays. -/
theorem char_of_text (normal : type.IsNormal context) :
    ∀ c ∈ type.text.toList, c.isAlphanum = true ∨ c ∈ ['_','/','<','=','[',']'] := by
  obtain ⟨base,array⟩ := type
  have first : ∀ c ∈ base.text.toList, c.isAlphanum = true ∨ c ∈ ['_','/','<','=','[',']'] := by
    intro c inside
    rcases BaseType.char_of_text normal.base c inside with plain | mark
    · exact .inl plain
    · exact .inr (List.mem_append_left ['[',']'] mark)
  cases array with
  | none =>
    rw [text_single]
    exact first
  | some shape =>
    rw [toList_text_array]
    intro c inside
    simp only [List.mem_append,List.mem_cons,List.not_mem_nil,or_false] at inside
    rcases inside with inside | rfl | inside | rfl
    · exact first c inside
    · exact .inr (by decide)
    · rcases shape.char_of_inside c inside with digit | rfl | rfl
      · exact .inl (by rw [Text.isAlphanum_eq,digit,Bool.or_true])
      · exact .inr (by decide)
      · exact .inr (by decide)
    · exact .inr (by decide)

theorem IsNormal.spelled (normal : type.IsNormal context) :
    ∃ s : TypeSpelling, s.text = type.text.toList ∧ s.type context = type := by
  obtain ⟨base,array⟩ := type
  obtain ⟨element,text,rfl⟩ := normal.base.spelled
  cases array with
  | none => exact ⟨⟨element,none⟩,by rw [text_single,TypeSpelling.text,List.append_nil,text],rfl⟩
  | some shape =>
    obtain ⟨brackets,inside,rfl⟩ := (normal.array shape rfl).spelled
    refine ⟨⟨element,some brackets⟩,?_,rfl⟩
    show element.text ++ '[' :: (brackets.text ++ [']']) = _
    rw [toList_text_array,text,inside]

/-- The text of a type is read as the type. -/
theorem read_text (normal : type.IsNormal context) : read context type.text = .ok type := by
  obtain ⟨s,written,same⟩ := normal.spelled
  rw [read_spelled s written,same]

theorem text_ne_nil (normal : type.IsNormal context) : type.text.toList ≠ [] := by
  intro empty
  have nothing : read context "" = .error (.type "" .unknown) := rfl
  rw [← String.toList_eq_nil_iff.mp empty,read_text normal] at nothing
  cases nothing

/-- A type is normal in every package but the one that it names. -/
theorem IsNormal.elsewhere {other : Option String} (normal : type.IsNormal context)
    (unnamed : ∀ package name, type.base = .message (some package) name → other ≠ some package) :
    type.IsNormal other := by
  obtain ⟨base,array⟩ := type
  refine ⟨?_,normal.array⟩
  cases normal.base with
  | builtin p => exact .builtin p
  | string string positive small => exact .string string positive small
  | own named => exact .own named
  | foreign _ owned named => exact .foreign (unnamed _ _ rfl) owned named

/-- The text of a type that is read is read as the type again, in the same package and in every other one that the
type does not name. -/
theorem read_shown {token : String} (ok : read context token = .ok type) :
    read context type.text = .ok type ∧
      ∀ other : Option String, (∀ package name, type.base = .message (some package) name → other ≠ some package) →
        read other type.text = .ok type :=
  ⟨read_text (isNormal_of_read ok),fun _ unnamed => read_text ((isNormal_of_read ok).elsewhere unnamed)⟩

/-- An array of messages of another package, with a bound that is written with a sign and a leading zero. -/
theorem read_shown_points :
    let type : FieldType := ⟨.message (some "geometry_msgs") "Point",some (.bounded 8)⟩
    read (some "test_msgs") "geometry_msgs/Point[<=+08]" = .ok type ∧
      (read (some "test_msgs") type.text = .ok type ∧
        ∀ other : Option String, (∀ package name, type.base = .message (some package) name → other ≠ some package) →
          read other type.text = .ok type) ∧
      read (some "nav_msgs") type.text = .ok type := by
  intro type
  have ok : read (some "test_msgs") "geometry_msgs/Point[<=+08]" = .ok type := by decide +kernel
  refine ⟨ok,read_shown ok,(read_shown ok).2 _ ?_⟩
  rintro _ _ ⟨⟩
  decide

end FieldType

end MsgBindings
