import MsgBindings.FieldType
import MsgBindings.Proofs.Failures
import MsgBindings.Proofs.IdentifierClashes
import MsgBindings.Proofs.Numerals

/-!
How types are written. A type token is the type of an element and, for an array, what stands in the brackets behind
it; sizes and bounds are decimal digits with or without a plus sign. A `TypeSpelling` is such a token with its parts
told apart. A token is read as a type exactly if it is the text of a spelling of the type, it has no other spelling,
and a token without one is refused as a type (`FieldType.read_of_spellings`).
-/
namespace MsgBindings

/-! ### Sizes -/

/-- The number that decimal digits stand for, the most significant first. -/
def decimalValue (digits : List Char) : Nat := Nat.ofDigits 10 (digits.map fun c => c.toNat - '0'.toNat).reverse

/-- A size or a bound as it is written. -/
structure SizeSpelling where
  plus : Bool
  digits : List Char
  filled : digits ≠ []
  decimal : ∀ c ∈ digits, c.isDigit = true
  small : decimalValue digits ≤ greatestSize

namespace SizeSpelling

def text (s : SizeSpelling) : List Char := if s.plus then '+' :: s.digits else s.digits

def value (s : SizeSpelling) : Nat := decimalValue s.digits

end SizeSpelling

theorem digitBelow?_ten (c : Char) : digitBelow? 10 c = if c.isDigit then some (c.toNat - '0'.toNat) else none := by
  have zero : '0'.toNat = 48 := rfl
  unfold digitBelow? digitValue?
  by_cases digit : c.isDigit = true
  · have range := Text.isDigit_iff.mp digit
    rw [if_pos digit,if_pos digit,Option.filter_some,if_pos (by simp only [decide_eq_true_eq]; omega)]
  · rw [if_neg digit,if_neg digit]
    split_ifs <;> simp [Option.filter]

theorem digits?_ten {text : List Char} {digits : List Nat} :
    digits? 10 text = some digits ↔
      (∀ c ∈ text, c.isDigit = true) ∧ text.map (fun c => c.toNat - '0'.toNat) = digits := by
  unfold digits?
  induction text generalizing digits with
  | nil => simp
  | cons c rest ih =>
    rw [List.mapM_cons,digitBelow?_ten,List.forall_mem_cons]
    by_cases digit : c.isDigit = true
    · simp [digit,Option.bind_eq_some_iff,ih,and_assoc]
    · simp [digit]

/-- A text is read as a decimal number exactly if it is made of digits. -/
theorem natural?_ten {text : List Char} {n : Nat} :
    natural? 10 text = some n ↔ text ≠ [] ∧ (∀ c ∈ text, c.isDigit = true) ∧ decimalValue text = n := by
  unfold natural? decimalValue
  by_cases empty : text = []
  · simp [empty]
  · rw [if_neg (by simpa using empty),Option.map_eq_some_iff]
    simp only [digits?_ten,ofDigits_eq,ne_eq,empty,not_false_eq_true,true_and]
    constructor
    · rintro ⟨_,⟨decimal,rfl⟩,value⟩
      exact ⟨decimal,value⟩
    · rintro ⟨decimal,value⟩
      exact ⟨_,⟨decimal,rfl⟩,value⟩

namespace SizeSpelling

theorem not_plus (s : SizeSpelling) (rest : List Char) : s.digits ≠ '+' :: rest := by
  intro plus
  exact absurd (s.decimal '+' (by rw [plus]; exact List.mem_cons_self)) (by decide)

theorem text_injective : Function.Injective text := by
  rintro ⟨plus,digits,filled,decimal,small⟩ ⟨plus',digits',filled',decimal',small'⟩ same
  cases plus with
  | true =>
    cases plus' with
    | true =>
      obtain rfl : digits = digits' := List.tail_eq_of_cons_eq same
      rfl
    | false => exact absurd (Eq.symm same) (not_plus ⟨false,digits',filled',decimal',small'⟩ digits)
  | false =>
    cases plus' with
    | true => exact absurd same (not_plus ⟨false,digits,filled,decimal,small⟩ digits')
    | false =>
      obtain rfl : digits = digits' := same
      rfl

theorem char_of_text (s : SizeSpelling) : ∀ c ∈ s.text, c.isDigit = true ∨ c = '+' := by
  unfold text
  split
  · intro c inside
    exact (List.mem_cons.mp inside).symm.imp_left (s.decimal c)
  · exact fun c inside => .inl (s.decimal c inside)

theorem ne_bracket_of_text (s : SizeSpelling) : ∀ c ∈ s.text, c ≠ '[' ∧ c ≠ ']' := by
  intro c inside
  rcases s.char_of_text c inside with digit | rfl
  · constructor
    · rintro rfl
      simp at digit
    · rintro rfl
      simp at digit
  · decide

theorem text_ne_nil (s : SizeSpelling) : s.text ≠ [] := by
  unfold text
  split
  · exact List.cons_ne_nil _ _
  · exact s.filled

end SizeSpelling

/-- A text is read as a size exactly if it is a spelling of the size. -/
theorem size?_eq_some {text : List Char} {n : Nat} :
    size? text = some n ↔ ∃ s : SizeSpelling, s.text = text ∧ s.value = n := by
  unfold size?
  rw [Option.filter_eq_some_iff,decide_eq_true_eq]
  constructor
  · rintro ⟨read,small⟩
    split at read
    · rename_i digits
      obtain ⟨filled,decimal,rfl⟩ := natural?_ten.mp read
      exact ⟨⟨true,digits,filled,decimal,small⟩,rfl,rfl⟩
    · obtain ⟨filled,decimal,rfl⟩ := natural?_ten.mp read
      exact ⟨⟨false,text,filled,decimal,small⟩,rfl,rfl⟩
  · rintro ⟨⟨plus,digits,filled,decimal,small⟩,rfl,rfl⟩
    have read : natural? 10 digits = some (decimalValue digits) := natural?_ten.mpr ⟨filled,decimal,rfl⟩
    refine ⟨?_,small⟩
    cases plus with
    | true => exact read
    | false =>
      unfold SizeSpelling.text
      split
      · rename_i rest plus
        exact absurd plus (SizeSpelling.not_plus ⟨false,digits,filled,decimal,small⟩ rest)
      · exact read

/-! ### Types of elements -/

/-- The type of an element as it is written. -/
inductive BaseSpelling where
  | builtin (p : Primitive)
  | boundedString (p : Primitive) (string : p.isString = true) (bound : SizeSpelling) (positive : 0 < bound.value)
  | message (name : String) (named : isMessageName name = true)
  | messageOf (package name : String) (owned : isPackageName package = true) (named : isMessageName name = true)

namespace BaseSpelling

def text : BaseSpelling → List Char
  | builtin p => p.name.toList
  | boundedString p _ bound _ => p.name.toList ++ '<' :: '=' :: bound.text
  | message name _ => name.toList
  | messageOf package name _ _ => package.toList ++ '/' :: name.toList

/-- The type that is written, in a definition of the package `context`. -/
def type (context : Option String) : BaseSpelling → BaseType
  | builtin p => .primitive p none
  | boundedString p _ bound _ => .primitive p (some bound.value)
  | message name _ => .message none name
  | messageOf package name _ _ => .message (if context = some package then none else some package) name

end BaseSpelling

theorem IsWord.not_mem {name : String} {c : Char} (word : IsWord name) (mark : ¬ (c.isAlphanum = true ∨ c = '_')) :
    c ∉ name.toList := fun inside => mark (word.chars c inside)

/-- A message name begins with a capital. -/
theorem isUpper_of_isMessageName {name : String} (named : isMessageName name = true) :
    ∃ c rest, name.toList = c :: rest ∧ c.isUpper = true := by
  unfold isMessageName NamePattern.accepts at named
  split at named
  · cases named
  · rename_i c rest chars
    rw [Bool.and_eq_true] at named
    exact ⟨c,rest,chars,named.1⟩

namespace Primitive

theorem ofName?_name (p : Primitive) : ofName? p.name = some p := by
  cases p <;> decide

theorem name_of_ofName? {text : String} {p : Primitive} (found : ofName? text = some p) : p.name = text := by
  simpa using List.find?_some found

/-- The names of the built-in types are small letters and digits. -/
theorem char_of_name (p : Primitive) : ∀ c ∈ p.name.toList, c.isLower = true ∨ c.isDigit = true := by
  cases p <;> decide

theorem ofName?_eq_none {text : String} {c : Char} (inside : c ∈ text.toList)
    (other : ¬ (c.isLower = true ∨ c.isDigit = true)) : ofName? text = none := by
  unfold ofName?
  rw [List.find?_eq_none]
  intro p _ same
  rw [beq_iff_eq] at same
  subst same
  exact other (p.char_of_name c inside)

end Primitive

namespace BaseType

variable {context : Option String} {token : String} {base : BaseType}

/-- The marks of an upper bound, where no such mark is in front of them. -/
theorem splitBound_append {before : List Char} (outside : '<' ∉ before) (bound : List Char) :
    splitBound (before ++ '<' :: '=' :: bound) = some (before,bound) := by
  induction before with
  | nil => rfl
  | cons c rest ih =>
    simp only [List.mem_cons,not_or] at outside
    rw [List.cons_append,splitBound,ih outside.2]
    · rfl
    · rintro _ rfl
      exact absurd rfl outside.1

theorem splitBound_eq_none {text : List Char} (outside : '<' ∉ text) : splitBound text = none := by
  induction text with
  | nil => rfl
  | cons c rest ih =>
    simp only [List.mem_cons,not_or] at outside
    rw [splitBound,ih outside.2]
    · rfl
    · rintro _ rfl
      exact absurd rfl outside.1

theorem eq_of_splitBound {text before bound : List Char} (cut : splitBound text = some (before,bound)) :
    text = before ++ '<' :: '=' :: bound := by
  fun_induction splitBound text generalizing before with
  | case1 => cases cut
  | case2 rest =>
    cases cut
    rfl
  | case3 c rest _ ih =>
    obtain ⟨⟨before',after⟩,inner,same⟩ := Option.map_eq_some_iff.mp cut
    cases same
    rw [ih inner,List.cons_append]

/-- The text of a spelling is read as the type that it spells. -/
theorem read_spelled (s : BaseSpelling) (written : s.text = token.toList) :
    read context token = .ok (s.type context) := by
  unfold read
  rw [← written]
  cases s with
  | builtin p =>
    obtain rfl : p.name = token := String.toList_inj.mp written
    simp only [Primitive.ofName?_name,BaseSpelling.type]
  | boundedString p string bound positive =>
    have outside : '<' ∉ p.name.toList := fun inside => absurd (p.char_of_name _ inside) (by decide)
    have mark : '<' ∈ token.toList := by rw [← written]; simp [BaseSpelling.text]
    rw [Primitive.ofName?_eq_none mark (by decide),BaseSpelling.text,splitBound_append outside]
    have sized : size? bound.text = some bound.value := size?_eq_some.mpr ⟨bound,rfl,rfl⟩
    obtain ⟨n,value⟩ := Nat.exists_eq_succ_of_ne_zero (Nat.ne_of_gt positive)
    simp only [readBounded,String.ofList_toList,Primitive.ofName?_name,Option.filter_some,string,sized,value,↓reduceIte,
      BaseSpelling.type]
  | message name named =>
    obtain rfl : name = token := String.toList_inj.mp written
    have word : IsWord name := NamePattern.isWord_of_accepts named
    obtain ⟨c,rest,chars,upper⟩ := isUpper_of_isMessageName named
    have other : ¬ (c.isLower = true ∨ c.isDigit = true) := by
      rw [Text.isLower_iff,Text.isDigit_iff]
      rw [Text.isUpper_iff] at upper
      omega
    have whole : Text.splitFirst (· == '/') name.toList = none := by
      rw [Text.splitFirst_eq_none]
      intro d inside
      rw [beq_eq_false_iff_ne]
      rintro rfl
      exact word.not_mem (by decide) inside
    rw [Primitive.ofName?_eq_none (c := c) (by simp [chars]) other,BaseSpelling.text,
      splitBound_eq_none (word.not_mem (by decide)),whole]
    simp only [readMessage,named,↓reduceIte,BaseSpelling.type]
  | messageOf package name owned named =>
    have packageWord : IsWord package := NamePattern.isWord_of_accepts owned
    have word : IsWord name := NamePattern.isWord_of_accepts named
    have outside : '<' ∉ package.toList ++ '/' :: name.toList := by
      simp only [List.mem_append,List.mem_cons,not_or]
      exact ⟨packageWord.not_mem (by decide),by decide,word.not_mem (by decide)⟩
    have cut : Text.splitFirst (· == '/') (package.toList ++ '/' :: name.toList) =
        some (package.toList,name.toList) := by
      refine Text.splitFirst_eq_some.mpr ⟨'/',rfl,rfl,fun d inside => ?_⟩
      rw [beq_eq_false_iff_ne]
      rintro rfl
      exact packageWord.not_mem (by decide) inside
    have mark : '/' ∈ token.toList := by rw [← written]; simp [BaseSpelling.text]
    rw [Primitive.ofName?_eq_none mark (by decide),BaseSpelling.text,splitBound_eq_none outside,cut]
    simp only [String.ofList_toList,owned,↓reduceIte,readMessage,named,BaseSpelling.type]

/-- A token that is read is the text of a spelling of its type. -/
theorem spelling_of_read (ok : read context token = .ok base) :
    ∃ s : BaseSpelling, s.text = token.toList ∧ s.type context = base := by
  unfold read at ok
  split at ok
  · rename_i p found
    cases ok
    exact ⟨.builtin p,congrArg String.toList (Primitive.name_of_ofName? found),rfl⟩
  · split at ok
    · rename_i before bound cut
      unfold readBounded at ok
      split at ok
      · cases ok
      · rename_i p found
        obtain ⟨found,string⟩ := Option.filter_eq_some_iff.mp found
        split at ok
        · cases ok
        · cases ok
        · rename_i n sized
          cases ok
          obtain ⟨s,text,value⟩ := size?_eq_some.mp sized
          refine ⟨.boundedString p string s (by omega),?_,by rw [BaseSpelling.type,value]⟩
          rw [BaseSpelling.text,Primitive.name_of_ofName? found,String.toList_ofList,text,eq_of_splitBound cut]
    · split at ok
      · unfold readMessage at ok
        split at ok <;> cases ok
        rename_i named
        exact ⟨.message token named,rfl,rfl⟩
      · rename_i package name cut
        obtain ⟨mark,split,slash,_⟩ := Text.splitFirst_eq_some.mp cut
        obtain rfl := beq_iff_eq.mp slash
        dsimp only at ok
        split at ok
        · rename_i owned
          unfold readMessage at ok
          split at ok <;> cases ok
          rename_i named
          refine ⟨.messageOf _ _ owned named,?_,rfl⟩
          rw [BaseSpelling.text,String.toList_ofList,String.toList_ofList,split]
        · cases ok

end BaseType

namespace BaseSpelling

/-- No token has two spellings: the kind of the type and the names in it are those of the type that is read, and the
bound is what is left of the text. -/
theorem text_injective : Function.Injective text := by
  intro s t same
  have written : t.text = (String.ofList s.text).toList := by rw [String.toList_ofList,same]
  have types : s.type none = t.type none :=
    Except.ok.inj ((BaseType.read_spelled s String.toList_ofList.symm).symm.trans (BaseType.read_spelled t written))
  cases s <;> cases t <;> simp only [type,BaseType.primitive.injEq,BaseType.message.injEq,reduceCtorEq,↓reduceIte,
    false_and,and_false,and_true,true_and,Option.some.injEq] at types
  case builtin.builtin =>
    subst types
    rfl
  case boundedString.boundedString p string bound positive p' string' bound' positive' =>
    obtain ⟨rfl,_⟩ := types
    obtain rfl : bound = bound' := SizeSpelling.text_injective (by simpa [text] using same)
    rfl
  case message.message =>
    subst types
    rfl
  case messageOf.messageOf =>
    obtain ⟨rfl,rfl⟩ := types
    rfl

/-- There are no brackets in the text of the type of an element. -/
theorem ne_bracket_of_text (s : BaseSpelling) : ∀ c ∈ s.text, c ≠ '[' ∧ c ≠ ']' := by
  have word : ∀ {name : String}, IsWord name → ∀ c ∈ name.toList, c ≠ '[' ∧ c ≠ ']' := fun word c inside =>
    ⟨by rintro rfl; exact word.not_mem (by decide) inside,by rintro rfl; exact word.not_mem (by decide) inside⟩
  have builtin : ∀ p : Primitive, ∀ c ∈ p.name.toList, c ≠ '[' ∧ c ≠ ']' := by
    intro p
    cases p <;> decide
  cases s with
  | builtin p => exact builtin p
  | boundedString p string bound positive =>
    intro c inside
    simp only [text,List.mem_append,List.mem_cons] at inside
    rcases inside with name | rfl | rfl | size
    · exact builtin p c name
    · decide
    · decide
    · exact bound.ne_bracket_of_text c size
  | message name named => exact word (NamePattern.isWord_of_accepts named)
  | messageOf package name owned named =>
    intro c inside
    simp only [text,List.mem_append,List.mem_cons] at inside
    rcases inside with package | rfl | name
    · exact word (NamePattern.isWord_of_accepts owned) c package
    · decide
    · exact word (NamePattern.isWord_of_accepts named) c name

end BaseSpelling

/-! ### Arrays -/

/-- What stands in the brackets of an array. -/
inductive ArraySpelling where
  | unbounded
  | fixed (size : SizeSpelling)
  | bounded (bound : SizeSpelling) (positive : 0 < bound.value)

namespace ArraySpelling

def text : ArraySpelling → List Char
  | unbounded => []
  | fixed size => size.text
  | bounded bound _ => '<' :: '=' :: bound.text

/-- The shape of the array. -/
def shape : ArraySpelling → ArrayShape
  | unbounded => .unbounded
  | fixed size => .fixed size.value
  | bounded bound _ => .bounded bound.value

theorem ne_bracket_of_text (s : ArraySpelling) : ∀ c ∈ s.text, c ≠ '[' ∧ c ≠ ']' := by
  cases s with
  | unbounded => exact nofun
  | fixed size => exact size.ne_bracket_of_text
  | bounded bound positive =>
    intro c inside
    simp only [text,List.mem_cons] at inside
    rcases inside with rfl | rfl | size
    · decide
    · decide
    · exact bound.ne_bracket_of_text c size

end ArraySpelling

namespace ArrayShape

variable {token : String} {inside : List Char} {shape : ArrayShape}

theorem read_spelled (token : String) (s : ArraySpelling) : read token s.text = .ok s.shape := by
  cases s with
  | unbounded => rfl
  | fixed size =>
    have sized : size? size.text = some size.value := size?_eq_some.mpr ⟨size,rfl,rfl⟩
    unfold read ArraySpelling.text
    split
    · rename_i empty
      exact absurd empty size.text_ne_nil
    · rename_i rest mark
      have chars : size.text = '<' :: '=' :: rest := mark
      exact absurd (size.char_of_text '<' (by rw [chars]; exact List.mem_cons_self)) (by decide)
    · rw [sized]
      rfl
  | bounded bound positive =>
    have sized : size? bound.text = some bound.value := size?_eq_some.mpr ⟨bound,rfl,rfl⟩
    obtain ⟨n,value⟩ := Nat.exists_eq_succ_of_ne_zero (Nat.ne_of_gt positive)
    simp only [read,ArraySpelling.text,sized,value,ArraySpelling.shape]

theorem spelling_of_read (ok : read token inside = .ok shape) :
    ∃ s : ArraySpelling, s.text = inside ∧ s.shape = shape := by
  unfold read at ok
  split at ok
  · cases ok
    exact ⟨.unbounded,rfl,rfl⟩
  · split at ok
    · cases ok
    · cases ok
    · rename_i rest n sized
      cases ok
      obtain ⟨s,rfl,value⟩ := size?_eq_some.mp sized
      exact ⟨.bounded s (by omega),rfl,congrArg bounded value⟩
  · split at ok
    · cases ok
    · rename_i n sized
      cases ok
      obtain ⟨s,rfl,rfl⟩ := size?_eq_some.mp sized
      exact ⟨.fixed s,rfl,rfl⟩

end ArrayShape

theorem ArraySpelling.text_injective : Function.Injective text := by
  intro s t same
  -- What is read says which of the three forms both have.
  have read := ArrayShape.read_spelled "" s
  rw [same,ArrayShape.read_spelled "" t] at read
  have shapes : t.shape = s.shape := Except.ok.inj read
  cases s <;> cases t <;> simp only [shape,reduceCtorEq] at shapes
  case unbounded.unbounded => rfl
  case fixed.fixed size size' =>
    obtain rfl : size = size' := SizeSpelling.text_injective same
    rfl
  case bounded.bounded bound positive bound' positive' =>
    obtain rfl : bound = bound' := SizeSpelling.text_injective (by simpa [text] using same)
    rfl

/-! ### Types -/

/-- A type token with its parts told apart. -/
structure TypeSpelling where
  base : BaseSpelling
  array : Option ArraySpelling

namespace TypeSpelling

def text (s : TypeSpelling) : List Char :=
  s.base.text ++
    match s.array with
    | none => []
    | some array => '[' :: (array.text ++ [']'])

/-- The type that is written, in a definition of the package `context`. -/
def type (context : Option String) (s : TypeSpelling) : FieldType :=
  ⟨s.base.type context,s.array.map ArraySpelling.shape⟩

/-- The brackets tell the parts of a token apart. -/
theorem splitFirst_text (s : TypeSpelling) :
    Text.splitFirst (· == '[') s.text = s.array.map fun array => (s.base.text,array.text ++ [']']) := by
  have outside : ∀ c ∈ s.base.text, (c == '[') = false := fun c inside =>
    beq_eq_false_iff_ne.mpr (s.base.ne_bracket_of_text c inside).1
  obtain ⟨base,array⟩ := s
  cases array with
  | none =>
    rw [Option.map_none,Text.splitFirst_eq_none,text,List.append_nil]
    exact outside
  | some array => exact Text.splitFirst_eq_some.mpr ⟨'[',rfl,rfl,outside⟩

theorem text_injective : Function.Injective text := by
  intro s t same
  have cuts := congrArg (Text.splitFirst (· == '[')) same
  rw [splitFirst_text,splitFirst_text] at cuts
  obtain ⟨base,array⟩ := s
  obtain ⟨base',array'⟩ := t
  cases array <;> cases array' <;> simp only [Option.map_none,Option.map_some,reduceCtorEq,Option.some.injEq,
    Prod.mk.injEq,List.append_cancel_right_eq] at cuts
  case none.none =>
    obtain rfl : base = base' := BaseSpelling.text_injective (by simpa [text] using same)
    rfl
  case some.some =>
    obtain rfl := BaseSpelling.text_injective cuts.1
    obtain rfl := ArraySpelling.text_injective cuts.2
    rfl

end TypeSpelling

namespace FieldType

variable {context : Option String} {token : String} {type : FieldType}

theorem readBrackets_eq_ok {rest : List Char} {shape : ArrayShape} :
    readBrackets token rest = .ok shape ↔ ∃ s : ArraySpelling, rest = s.text ++ [']'] ∧ s.shape = shape := by
  constructor
  · intro ok
    unfold readBrackets at ok
    split at ok
    · rename_i closed
      split at ok
      · cases ok
      · obtain ⟨s,text,shape⟩ := ArrayShape.spelling_of_read ok
        obtain ⟨inside,rfl⟩ := List.getLast?_eq_some_iff.mp closed
        exact ⟨s,by rw [text,List.dropLast_concat],shape⟩
    · cases ok
  · rintro ⟨s,rfl,rfl⟩
    have plain : (s.text.any fun c => c == '[' || c == ']') = false := by
      rw [List.any_eq_false]
      intro c inside
      rw [Bool.or_eq_true,beq_iff_eq,beq_iff_eq,not_or]
      exact s.ne_bracket_of_text c inside
    unfold readBrackets
    rw [List.getLast?_concat,if_pos rfl,List.dropLast_concat,plain]
    exact ArrayShape.read_spelled token s

/-- The text of a spelling is read as the type that it spells. -/
theorem read_spelled (s : TypeSpelling) (written : s.text = token.toList) :
    read context token = .ok (s.type context) := by
  unfold read
  rw [← written,s.splitFirst_text]
  obtain ⟨base,array⟩ := s
  cases array with
  | none =>
    have text : base.text = token.toList := by simpa [TypeSpelling.text] using written
    have closed : (TypeSpelling.text ⟨base,none⟩).contains ']' = false := by
      rw [← Bool.not_eq_true,List.contains_iff_mem,written,← text]
      exact fun inside => (base.ne_bracket_of_text _ inside).2 rfl
    simp only [Option.map_none,closed,Bool.false_eq_true,↓reduceIte,BaseType.read_spelled base text]
    rfl
  | some array =>
    have brackets : readBrackets token (array.text ++ [']']) = .ok array.shape :=
      readBrackets_eq_ok.mpr ⟨array,rfl,rfl⟩
    have element : BaseType.read context (.ofList base.text) = .ok (base.type context) :=
      BaseType.read_spelled base String.toList_ofList.symm
    simp only [Option.map_some,brackets,element]
    rfl

/-- A token that is read is the text of a spelling of its type. -/
theorem spelling_of_read (ok : read context token = .ok type) :
    ∃ s : TypeSpelling, s.text = token.toList ∧ s.type context = type := by
  unfold read at ok
  split at ok
  · split at ok
    · cases ok
    · obtain ⟨base,element,rfl⟩ := map_eq_ok.mp ok
      obtain ⟨s,text,rfl⟩ := BaseType.spelling_of_read element
      exact ⟨⟨s,none⟩,by simpa [TypeSpelling.text] using text,rfl⟩
  · rename_i before rest cut
    simp only [bind_eq_ok,pure_eq_ok] at ok
    obtain ⟨shape,brackets,base,element,rfl⟩ := ok
    obtain ⟨array,rfl,rfl⟩ := readBrackets_eq_ok.mp brackets
    obtain ⟨s,text,rfl⟩ := BaseType.spelling_of_read element
    obtain ⟨mark,split,opened,_⟩ := Text.splitFirst_eq_some.mp cut
    obtain rfl := beq_iff_eq.mp opened
    refine ⟨⟨s,some array⟩,?_,rfl⟩
    rw [TypeSpelling.text,text,String.toList_ofList,split]

/-- A token is read as a type exactly if it is the text of a spelling of the type, no token is the text of two
spellings, and a token that is the text of none is refused as a type. -/
theorem read_of_spellings (context : Option String) (token : String) :
    (∀ type, read context token = .ok type ↔ ∃ s : TypeSpelling, s.text = token.toList ∧ s.type context = type) ∧
      (∀ s t : TypeSpelling, s.text = token.toList → t.text = token.toList → s = t) ∧
      ((∀ s : TypeSpelling, s.text ≠ token.toList) → ∃ part fault, read context token = .error (.type part fault)) := by
  refine ⟨fun type => ⟨spelling_of_read,?_⟩,fun s t here there => ?_,fun none => ?_⟩
  · rintro ⟨s,written,rfl⟩
    exact read_spelled s written
  · exact TypeSpelling.text_injective (here.trans there.symm)
  · cases outcome : read context token with
    | ok type =>
      obtain ⟨s,written,_⟩ := spelling_of_read outcome
      exact absurd written (none s)
    | error e =>
      obtain ⟨part,fault,rfl⟩ := refuses_read context token e outcome
      exact ⟨part,fault,rfl⟩

end FieldType

end MsgBindings
