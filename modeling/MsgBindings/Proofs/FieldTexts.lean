import MsgBindings.Proofs.LineByLine
import MsgBindings.Proofs.PrintedValues
import MsgBindings.Proofs.WrittenLines

/-!
The texts of fields. A field of a definition of a package is shown as its type, its name and its value or default
value. Where the values are shown as they are read, this text is read as a declaration of the field again
(`Field.read_text`, `Field.field?_declaration`): the equals sign of an upper bound is none of the declaration, and no
other mark of a type, a name or a value is taken for one. So a line with the text declares the field by itself
(`Field.fieldOf?_text`).
-/
namespace MsgBindings

open SourceText

/-! ### The text of a field -/

/-- The values that a field comes with: that of a constant, or those of the default value of a member. -/
def FieldRole.literals : FieldRole → List Literal
  | constant v => [v]
  | member (some d) => d.literals
  | member none => []

/-- The declaration that the text of a field is. -/
def Field.declaration (f : Field) : Declaration :=
  match f.role with
  | .constant v => .constant f.type.text f.name v.text
  | .member d => .field f.type.text f.name (d.map DefaultValue.text)

/-- What follows the name in the text of a field. -/
def FieldRole.suffix : FieldRole → List Char
  | constant v => '=' :: v.text.toList
  | member (some d) => ' ' :: d.text.toList
  | member none => []

/-- A field of a definition of the package, whose values are shown as they are read. -/
structure Field.IsPrinted (package : String) (f : Field) : Prop where
  normal : f.type.IsNormal (some package)
  typed : f.IsWellTyped
  shown : ∀ v ∈ f.role.literals, v.IsShown

theorem Field.toList_text (f : Field) :
    f.text.toList = f.type.text.toList ++ ' ' :: (f.name.toList ++ f.role.suffix) := by
  obtain ⟨name,type,role,_,_⟩ := f
  unfold text FieldRole.suffix
  cases role with
  | constant v =>
    show ((type.text ++ " " ++ name) ++ ("=" ++ v.text)).toList = _
    simp
  | member d =>
    cases d with
    | none =>
      show ((type.text ++ " " ++ name) ++ "").toList = _
      simp
    | some d =>
      show ((type.text ++ " " ++ name) ++ (" " ++ d.text)).toList = _
      simp

namespace Declaration

variable {before : Char} {s t : List Char}

/-- The equals sign of an upper bound is no equals sign of a declaration. -/
theorem splitEquals_bound (outside : '=' ∉ t) : splitEquals before ('<' :: '=' :: t) = none := by
  rw [splitEquals,splitEquals,splitEquals_eq_none outside]
  rfl

theorem splitEquals_baseText {context : Option String} {base : BaseType} (normal : base.IsNormal context) :
    splitEquals before base.text.toList = none := by
  have word : ∀ {name : String}, IsWord name → '=' ∉ name.toList := fun word => word.not_mem (by decide)
  have builtin : ∀ p : Primitive, '=' ∉ p.name.toList := fun p inside => absurd (p.char_of_name _ inside) (by decide)
  cases normal with
  | builtin p => exact splitEquals_eq_none (builtin p)
  | @string p bound =>
    have quiet : ∀ c ∈ p.name.toList, c ≠ '"' ∧ c ≠ '\'' := by
      intro c inside
      have plain := p.char_of_name c inside
      constructor <;> rintro rfl <;> exact absurd plain (by decide)
    have digits : '=' ∉ (toString bound).toList := fun inside => absurd (digit_of_mem_toString _ inside) (by decide)
    rw [BaseType.toList_text_string,splitEquals_append quiet (splitEquals_eq_none (builtin p)),splitEquals_bound digits]
    rfl
  | own named => exact splitEquals_eq_none (word (NamePattern.isWord_of_accepts named))
  | foreign other owned named =>
    rw [BaseType.toList_text_foreign]
    refine splitEquals_eq_none ?_
    simp only [List.mem_append,List.mem_cons,not_or]
    exact ⟨word (NamePattern.isWord_of_accepts owned),by decide,word (NamePattern.isWord_of_accepts named)⟩

theorem splitEquals_shape (shape : ArrayShape) : splitEquals before ('[' :: (shape.inside ++ [']'])) = none := by
  have digits : ∀ n : Nat, '=' ∉ (toString n).toList := fun n inside =>
    absurd (digit_of_mem_toString _ inside) (by decide)
  have closed : ∀ n : Nat, '=' ∉ (toString n).toList ++ [']'] := fun n => by
    simp only [List.mem_append,not_or]
    exact ⟨digits n,by decide⟩
  cases shape with
  | unbounded => exact splitEquals_eq_none (by decide)
  | fixed size =>
    refine splitEquals_eq_none ?_
    rw [List.mem_cons,not_or]
    exact ⟨by decide,closed size⟩
  | bounded bound =>
    show splitEquals before ('[' :: '<' :: '=' :: ((toString bound).toList ++ [']'])) = none
    rw [splitEquals,splitEquals_bound (closed bound)]
    rfl

/-- The text of a type has no equals sign but those of bounds. -/
theorem splitEquals_typeText (before : Char) {context : Option String} {type : FieldType}
    (normal : type.IsNormal context) : splitEquals before type.text.toList = none := by
  obtain ⟨base,array⟩ := type
  have first : splitEquals before base.text.toList = none := splitEquals_baseText normal.base
  cases array with
  | none =>
    rw [FieldType.text_single]
    exact first
  | some shape =>
    have quiet : ∀ c ∈ base.text.toList, c ≠ '"' ∧ c ≠ '\'' := by
      intro c inside
      have plain := BaseType.char_of_text normal.base c inside
      constructor <;> rintro rfl <;> exact absurd plain (by unfold isTypeChar; decide)
    rw [FieldType.toList_text_array,splitEquals_append quiet first,splitEquals_shape]
    rfl

/-! ### Declarations -/

/-- A text that stands for itself between blanks: no blank, quote or other mark of declarations is in it. -/
structure IsToken (t : List Char) : Prop where
  filled : t ≠ []
  solid : ∀ c ∈ t, Text.isBlank c = false
  quiet : ∀ c ∈ t, c ∉ ['"','\'','@']

theorem IsToken.unquoted {t : List Char} (token : IsToken t) : ∀ c ∈ t, c ≠ '"' ∧ c ≠ '\'' := by
  intro c inside
  have quiet := token.quiet c inside
  simp only [List.mem_cons,not_or] at quiet
  exact ⟨quiet.1,quiet.2.1⟩

/-- A type whose equals signs belong to bounds and the name of a field are what a line declares. -/
theorem IsToken.isHead {type name : List Char} (typeToken : IsToken type) (nameToken : IsToken name)
    (unequal : splitEquals ' ' type = none) (plain : ∀ c ∈ name, c ∉ ['<','=']) : IsHead type name where
  typed := typeToken.filled
  named := nameToken.filled
  typeSolid := typeToken.solid
  nameSolid := nameToken.solid
  typeQuiet := typeToken.unquoted
  nameQuiet c inside := by
    have quiet := nameToken.unquoted c inside
    have sign := plain c inside
    simp only [List.mem_cons,not_or] at sign ⊢
    exact ⟨quiet.1,quiet.2,sign.2.1,sign.1,sign.2.2⟩
  unmarked first := typeToken.quiet '@' (List.mem_of_mem_head? first) (by decide)
  bounds := bounds_of_splitEquals typeToken.unquoted unequal

end Declaration

/-! ### Fields -/

/-- A text of letters, digits and harmless marks stands for itself. -/
theorem Declaration.isToken_of_chars {t marks : List Char} (filled : t ≠ [])
    (each : ∀ c ∈ t, c.isAlphanum = true ∨ c ∈ marks)
    (harmless : ∀ c ∈ marks, Text.isBlank c = false ∧ c ∉ ['"','\'','@']) : IsToken t := by
  have letters : ∀ c ∈ ['"','\'','@'], c.isAlphanum = false := by decide
  refine ⟨filled,fun c inside => ?_,fun c inside mark => ?_⟩
  · rcases each c inside with plain | listed
    · exact Text.isBlank_of_isAlphanum plain
    · exact (harmless c listed).1
  · rcases each c inside with plain | listed
    · rw [letters c mark] at plain
      cases plain
    · exact (harmless c listed).2 mark

theorem FieldType.isToken_text {context : Option String} {type : FieldType} (normal : type.IsNormal context) :
    Declaration.IsToken type.text.toList :=
  Declaration.isToken_of_chars (text_ne_nil normal) (char_of_text normal) (by decide)

theorem IsWord.isToken {name : String} (word : IsWord name) : Declaration.IsToken name.toList := by
  obtain ⟨c,rest,chars,_⟩ := id word
  have filled : name.toList ≠ [] := by
    rw [chars]
    exact List.cons_ne_nil _ _
  have each : ∀ c ∈ name.toList, c.isAlphanum = true ∨ c ∈ ['_'] := fun c inside =>
    (word.chars c inside).imp_right List.mem_singleton.mpr
  exact Declaration.isToken_of_chars filled each (by decide)

/-- What follows the name of a field has no blank at its end, and no marks but those of values. -/
theorem FieldRole.suffix_facts {role : FieldRole} (shown : ∀ v ∈ role.literals, v.IsShown) :
    (∀ c ∈ role.suffix, isValueChar c ∨ c ∈ ['=',' ','[',']',',']) ∧
      ∀ c ∈ role.suffix.getLast?, Text.isBlank c = false := by
  match role with
  | constant v =>
    have value := shown v (List.mem_singleton_self v)
    have each := Literal.char_of_text value
    constructor
    · intro c inside
      rcases List.mem_cons.mp inside with rfl | inside
      · exact .inr (by decide)
      · exact .inl (each c inside)
    · intro c last
      rw [suffix,List.getLast?_cons_of_ne_nil (Literal.text_ne_nil value)] at last
      exact isBlank_of_isValueChar (each c (List.mem_of_getLast? last))
  | member none => exact ⟨nofun,nofun⟩
  | member (some d) =>
    obtain ⟨filled,trimmed,each⟩ := DefaultValue.text_facts (d := d) shown
    constructor
    · intro c inside
      rcases List.mem_cons.mp inside with rfl | inside
      · exact .inr (by decide)
      · exact (each c inside).imp_right (List.mem_cons_of_mem '=')
    · intro c last
      rw [suffix,List.getLast?_cons_of_ne_nil filled] at last
      exact Text.isBlank_getLast_of_trim trimmed c last

namespace Field

variable {package : String} {f : Field}

theorem isWord_name (typed : f.IsWellTyped) : IsWord f.name := by
  cases kind : f.isConstant with
  | true => exact NamePattern.isWord_of_accepts (typed.constant kind).named
  | false => exact NamePattern.isWord_of_accepts (typed.member kind).named

/-- The text of a field is read as its declaration. -/
theorem read_text (printed : f.IsPrinted package) : Declaration.read f.text.toList = .ok f.declaration := by
  have typeToken := FieldType.isToken_text printed.normal
  have word := isWord_name printed.typed
  have unequal := Declaration.splitEquals_typeText ' ' printed.normal
  have plain : ∀ c ∈ f.name.toList, c ∉ ['<','='] := by
    intro c inside mark
    have all : ∀ d ∈ ['<','='], ¬ (d.isAlphanum = true ∨ d = '_') := by decide
    exact all c mark (word.chars c inside)
  have head := typeToken.isHead word.isToken unequal plain
  have space : ∀ c ∈ [' '], Text.isBlank c = true := by decide
  obtain ⟨_,_,shown⟩ := printed
  rw [toList_text]
  unfold declaration FieldRole.suffix
  cases role : f.role with
  | constant v =>
    rw [role] at shown
    have value := shown v (List.mem_singleton_self v)
    have solid : ∀ c ∈ v.text.toList, Text.isBlank c = false := fun c inside =>
      isBlank_of_isValueChar (Literal.char_of_text value c inside)
    have nothing : ∀ c ∈ ([] : List Char), Text.isBlank c = true := nofun
    have read := head.read_constant (List.cons_ne_nil _ _) space nothing nothing
      (Literal.text_ne_nil value) (Text.trim_solid solid)
    simpa only [String.ofList_toList,List.singleton_append,List.nil_append] using read
  | member d =>
    rw [role] at shown
    cases d with
    | none =>
      have read := head.read_field (List.cons_ne_nil _ _) space
      simpa only [String.ofList_toList,List.singleton_append,List.append_nil,Option.map_none] using read
    | some d =>
      obtain ⟨_,trimmed,each⟩ := DefaultValue.text_facts (d := d) shown
      have hidden : ∀ front rest, d.text.toList = front ++ '=' :: rest → (∀ c ∈ front, c ≠ '"' ∧ c ≠ '\'') →
          front.getLast? = some '<' := by
        intro front rest split _
        have inside : '=' ∈ d.text.toList := by simp [split]
        exact absurd (each '=' inside) (by unfold isValueChar; decide)
      have read := head.read_default (List.cons_ne_nil _ _) space (List.cons_ne_nil _ _) space trimmed hidden
      simpa only [String.ofList_toList,List.singleton_append,Option.map_some] using read

/-- The declaration of a field makes the field again. -/
theorem field?_declaration (printed : f.IsPrinted package) :
    f.declaration.field? package = .ok (some f.bare) := by
  obtain ⟨normal,typed,shown⟩ := printed
  have type := FieldType.read_text normal
  obtain ⟨name,fieldType,role,comment,line⟩ := f
  cases role with
  | constant v =>
    obtain ⟨named,⟨p,bound,w,single,value,isOf⟩,_⟩ := typed.constant rfl
    cases value
    have read := Literal.read_text (shown v (List.mem_singleton_self v)) isOf [] nofun
    have made : Field.constant fieldType name v.text.toList = .ok ⟨name,fieldType,.constant v,none,0⟩ :=
      constant_eq_ok.mpr ⟨p,bound,v,single,named,read,rfl⟩
    exact bind_eq_ok.mpr ⟨fieldType,type,bind_eq_ok.mpr ⟨_,made,rfl⟩⟩
  | member d =>
    obtain ⟨named,_,isOf⟩ := typed.member rfl
    have read : ((d.map DefaultValue.text).map String.toList).mapM (DefaultValue.read fieldType) = .ok d := by
      cases d with
      | none => rfl
      | some d => exact optionMapM_eq_some.mpr ⟨_,rfl,DefaultValue.read_text shown (isOf d rfl)⟩
    have made : Field.member fieldType name ((d.map DefaultValue.text).map String.toList) =
        .ok ⟨name,fieldType,.member d,none,0⟩ := member_eq_ok.mpr ⟨named,d,read,rfl⟩
    exact bind_eq_ok.mpr ⟨fieldType,type,bind_eq_ok.mpr ⟨_,made,rfl⟩⟩

/-- No character of the text of a field begins a comment or ends a line. -/
theorem char_of_text (printed : f.IsPrinted package) : ∀ c ∈ f.text.toList, c ∉ ['#','\n','\r'] := by
  have other : ∀ d ∈ ['#','\n','\r'], ¬ (d.isAlphanum = true ∨
      d ∈ ['_','/','<','=','[',']'] ∨ d = ' ' ∨ isValueChar d ∨ d ∈ ['=',' ','[',']',',']) := by
    unfold isValueChar
    decide
  intro c inside mark
  refine other c mark ?_
  rw [toList_text,List.mem_append,List.mem_cons,List.mem_append] at inside
  rcases inside with type | rfl | name | suffix
  · exact (FieldType.char_of_text printed.normal c type).imp_right .inl
  · simp
  · exact ((isWord_name printed.typed).chars c name).imp_right fun same => .inl (by simp [same])
  · exact .inr (.inr (.inr ((FieldRole.suffix_facts printed.shown).1 c suffix)))

theorem trim_text (printed : f.IsPrinted package) : Text.trim f.text.toList = f.text.toList := by
  have typeToken := FieldType.isToken_text printed.normal
  have nameToken := (isWord_name printed.typed).isToken
  rw [toList_text]
  refine Text.trim_of_ends (fun c first => ?_) fun c last => ?_
  · obtain ⟨d,rest,chars⟩ := List.exists_cons_of_ne_nil typeToken.filled
    rw [chars] at first
    cases first
    exact typeToken.solid c (by simp [chars])
  · have filled : f.name.toList ++ f.role.suffix ≠ [] := List.append_ne_nil_of_left_ne_nil nameToken.filled _
    rw [List.getLast?_append_of_ne_nil _ (List.cons_ne_nil _ _),List.getLast?_cons_of_ne_nil filled] at last
    by_cases bare : f.role.suffix = []
    · rw [bare,List.append_nil] at last
      exact nameToken.solid c (List.mem_of_getLast? last)
    · rw [List.getLast?_append_of_ne_nil _ bare] at last
      exact (FieldRole.suffix_facts printed.shown).2 c last

/-- A line with the text of a field declares the field by itself. -/
theorem fieldOf?_text (printed : f.IsPrinted package) (number : Nat) :
    declares f.text.toList = true ∧
      fieldOf? package (f.text.toList,number) = .ok (some (f.declaredAt none number)) := by
  have outside : '#' ∉ f.text.toList := fun inside => char_of_text printed '#' inside (by decide)
  obtain ⟨whole,noComment⟩ := comment_of_no_mark outside
  rw [trim_text printed] at whole
  constructor
  · rw [declares_iff,whole,toList_text]
    simp
  · unfold fieldOf?
    rw [whole,noComment,read_text printed]
    show (f.declaration.field? package >>= _) = _
    rw [field?_declaration printed]
    rfl

end Field

end MsgBindings
