import MsgBindings.Proofs.GenerationOutcome

/-!
What the string literals of generated code stand for. A body between quotes is decoded escape by escape
(`decodeBody?`), without a look at how texts are escaped, and the literal of a text is decoded to that text
(`isLiteralOf_stringLiteral`): its last character closes it and no other one does, and it stays on its line. The
strings of constants and of default values are written as such literals (`Field.writesStrings_of_primitive`).
-/
namespace MsgBindings

namespace Target

variable {c : Char} {s rest : List Char}

/-! ### Decoding -/

/-- The character that a letter after a backslash stands for. -/
def shortEscape? : Char → Option Char
  | 'n' => some '\n'
  | 'r' => some '\r'
  | 't' => some '\t'
  | '\\' => some '\\'
  | '0' => some '\x00'
  | '"' => some '"'
  | '\'' => some '\''
  | _ => none

/-- The character whose code point stands between curly brackets: one to six digits to the base sixteen, with
    underscores after the first of them. -/
def codePoint? (inside : List Char) : Option Char :=
  let digits := inside.filter (· != '_')
  if inside.head? = some '_' ∨ 6 < digits.length then none
  else (natural? 16 digits).bind fun n => if n.isValidChar then some (.ofNat n) else none

/-- The character that the body of a literal starts with, and what follows it. A quote has to be escaped. -/
def character? : List Char → Option (Char × List Char)
  | '\\' :: 'u' :: '\x7b' :: rest =>
    match rest.dropWhile (· != '\x7d') with
    | [] => none
    | _ :: after => (codePoint? (rest.takeWhile (· != '\x7d'))).map fun c => (c,after)
  | '\\' :: c :: rest => (shortEscape? c).map fun c => (c,rest)
  | '\\' :: [] => none
  | c :: rest => if c = '"' then none else some (c,rest)
  | [] => none

/-- What a body of at most `fuel` characters stands for. -/
def decodeBodyFrom : (fuel : Nat) → List Char → Option (List Char)
  | _, [] => some []
  | 0, _ :: _ => none
  | fuel + 1, c :: s => (character? (c :: s)).bind fun (c,rest) => (decodeBodyFrom fuel rest).map (c :: ·)

/-- What the body of a literal stands for. -/
def decodeBody? (body : List Char) : Option (List Char) := decodeBodyFrom body.length body

/-- What follows the first quote that no backslash escapes. -/
def behindQuote? : List Char → Option (List Char)
  | [] => none
  | '\\' :: _ :: rest => behindQuote? rest
  | c :: rest => if c = '"' then some rest else behindQuote? rest

/-- Whether a literal is one of a text: its last character is the first that closes it, what stands between its quotes
    is decoded to the text, and it is a single token on a single line. -/
structure IsLiteralOf (literal text : String) : Prop where
  closes : ∃ rest, literal.toList = '"' :: rest ∧ behindQuote? rest = some []
  decodes : ∃ body, literal.toList = '"' :: (body ++ ['"']) ∧ decodeBody? body = some text.toList
  oneLine : '\n' ∉ literal.toList ∧ '\r' ∉ literal.toList
  token : Token.readAll literal.toList = some [.literal literal false]

/-! ### Code points -/

theorem codePoint?_hexDigits (c : Char) : codePoint? (hexDigits c.toNat) = some c := by
  obtain ⟨each,_⟩ := ofDigits_hexDigits c.toNat
  have plain : (hexDigits c.toNat).filter (· != '_') = hexDigits c.toNat :=
    List.filter_eq_self.mpr fun d member => bne_iff_ne.mpr (each d member).2
  have first : (hexDigits c.toNat).head? ≠ some '_' := fun mark => (each '_' (List.mem_of_mem_head? mark)).2 rfl
  have valid : c.toNat.isValidChar := c.valid
  have count : (hexDigits c.toNat).length ≤ 6 := by
    have below : c.toNat < 16 ^ 6 := by
      unfold Nat.isValidChar at valid
      omega
    exact Nat.toDigits_length 16 c.toNat 6 (by decide) below
  have value : natural? 16 (hexDigits c.toNat) = some c.toNat :=
    (natural?_eq_some le_rfl).mpr (isNumeral_toDigits (by decide) le_rfl c.toNat)
  have allowed : ¬ ((hexDigits c.toNat).head? = some '_' ∨ 6 < (hexDigits c.toNat).length) :=
    not_or.mpr ⟨first,Nat.not_lt.mpr count⟩
  rw [codePoint?,plain,if_neg allowed,value,Option.bind_some,if_pos valid,Char.ofNat_toNat]

/-- The marks of literals are no digits. -/
theorem ne_of_mem_hexDigits {n : Nat} (member : c ∈ hexDigits n) :
    c ≠ '"' ∧ c ≠ '\\' ∧ c ≠ '\x7d' ∧ c ≠ '\n' ∧ c ≠ '\r' := by
  have digit := ((ofDigits_hexDigits n).1 c member).1
  have marks : ∀ mark ∈ ['"','\\','\x7d','\n','\r'], (digitBelow? 16 mark).isSome = false := by decide
  have other : ∀ mark ∈ ['"','\\','\x7d','\n','\r'], c ≠ mark := by
    rintro mark listed rfl
    rw [marks c listed] at digit
    cases digit
  simpa using other

theorem character?_codePoint (c : Char) (rest : List Char) :
    character? ('\\' :: 'u' :: '\x7b' :: (hexDigits c.toNat ++ '\x7d' :: rest)) = some (c,rest) := by
  have inside : ∀ d ∈ hexDigits c.toNat, (d != '\x7d') = true :=
    fun d member => bne_iff_ne.mpr (ne_of_mem_hexDigits member).2.2.1
  have taken : (hexDigits c.toNat ++ '\x7d' :: rest).takeWhile (· != '\x7d') = hexDigits c.toNat := by
    rw [List.takeWhile_append_of_pos inside,List.takeWhile_cons_of_neg (by decide),List.append_nil]
  have dropped : (hexDigits c.toNat ++ '\x7d' :: rest).dropWhile (· != '\x7d') = '\x7d' :: rest := by
    rw [List.dropWhile_append_of_pos inside,List.dropWhile_cons_of_neg (by decide)]
  rw [character?,dropped,taken,codePoint?_hexDigits]
  rfl

/-! ### One character -/

/-- A character is decoded from what it is written as. -/
theorem character?_of_escapes (written : Escapes c s) (rest : List Char) : character? (s ++ rest) = some (c,rest) := by
  cases written with
  | short pair =>
    have decoded : ∀ pair ∈ shortEscapes, pair.2 ≠ 'u' ∧ shortEscape? pair.2 = some pair.1 := by decide
    obtain ⟨other,value⟩ := decoded _ pair
    rw [List.cons_append,List.singleton_append,character?,value]
    · rfl
    · rintro more rfl
      exact absurd rfl other
  | plain other =>
    rw [List.singleton_append,character?.eq_def]
    split <;> simp_all
  | codePoint => simpa using character?_codePoint c rest

theorem behindQuote?_plain (plain : ∀ c ∈ s, c ≠ '"' ∧ c ≠ '\\') (rest : List Char) :
    behindQuote? (s ++ rest) = behindQuote? rest := by
  induction s with
  | nil => rfl
  | cons c s ih =>
    rw [List.forall_mem_cons] at plain
    rw [List.cons_append,behindQuote?,if_neg plain.1.1,ih plain.2]
    rintro d more rfl
    exact absurd rfl plain.1.2

/-- What a character is written as does not close a literal. -/
theorem behindQuote?_of_escapes (written : Escapes c s) (rest : List Char) :
    behindQuote? (s ++ rest) = behindQuote? rest := by
  cases written with
  | short pair => rfl
  | plain other =>
    refine behindQuote?_plain ?_ rest
    rw [List.forall_mem_singleton]
    exact ⟨fun quote => other (by simp [quote]),fun backslash => other (by simp [backslash])⟩
  | codePoint =>
    have inside : ∀ d ∈ '\x7b' :: (hexDigits c.toNat ++ ['\x7d']), d ≠ '"' ∧ d ≠ '\\' := by
      intro d member
      simp only [List.mem_cons,List.mem_append,List.not_mem_nil,or_false] at member
      rcases member with rfl | digit | rfl
      · decide
      · exact ⟨(ne_of_mem_hexDigits digit).1,(ne_of_mem_hexDigits digit).2.1⟩
      · decide
    exact behindQuote?_plain inside rest

/-- What a character is written as stays on its line. -/
theorem oneLine_of_escapes (written : Escapes c s) : '\n' ∉ s ∧ '\r' ∉ s := by
  cases written with
  | short pair =>
    have shown : ∀ pair ∈ shortEscapes, '\n' ∉ ['\\',pair.2] ∧ '\r' ∉ ['\\',pair.2] := by decide
    exact shown _ pair
  | plain other =>
    rw [List.mem_singleton,List.mem_singleton]
    exact ⟨fun newline => other (by simp [← newline]),fun carriage => other (by simp [← carriage])⟩
  | codePoint =>
    have digits : '\n' ∉ hexDigits c.toNat ∧ '\r' ∉ hexDigits c.toNat :=
      ⟨fun digit => (ne_of_mem_hexDigits digit).2.2.2.1 rfl,fun digit => (ne_of_mem_hexDigits digit).2.2.2.2 rfl⟩
    simpa using digits

/-! ### Whole texts -/

/-- Escaped characters are decoded one after the other. -/
theorem decodeBodyFrom_escapes (text : List Char) {fuel : Nat} (enough : text.length ≤ fuel) :
    decodeBodyFrom fuel (text.flatMap escapeInString) = some text := by
  induction text generalizing fuel with
  | nil => rw [List.flatMap_nil,decodeBodyFrom]
  | cons c text ih =>
    obtain ⟨fuel,rfl⟩ : ∃ n, fuel = n + 1 := ⟨fuel - 1,by simp only [List.length_cons] at enough; omega⟩
    have read := character?_of_escapes (escapes_escapeInString c) (text.flatMap escapeInString)
    have later : decodeBodyFrom fuel (text.flatMap escapeInString) = some text :=
      ih (by simp only [List.length_cons] at enough; omega)
    rw [List.flatMap_cons]
    cases chars : escapeInString c ++ text.flatMap escapeInString with
    | nil =>
      rw [chars] at read
      cases read
    | cons d more =>
      rw [chars] at read
      rw [decodeBodyFrom,read,Option.bind_some]
      dsimp only
      rw [later,Option.map_some]

theorem decodeBody?_escapes (text : List Char) : decodeBody? (text.flatMap escapeInString) = some text :=
  decodeBodyFrom_escapes text (Token.length_le_escapes text)

theorem behindQuote?_escapes (text rest : List Char) :
    behindQuote? (text.flatMap escapeInString ++ '"' :: rest) = some rest := by
  induction text with
  | nil => rfl
  | cons c text ih =>
    rw [List.flatMap_cons,List.append_assoc,behindQuote?_of_escapes (escapes_escapeInString c),ih]

theorem toList_stringLiteral (text : String) :
    (stringLiteral text).toList = '"' :: (text.toList.flatMap escapeInString ++ ['"']) := String.toList_ofList

/-- The literal of a text is a literal of that text. -/
theorem isLiteralOf_stringLiteral (text : String) : IsLiteralOf (stringLiteral text) text where
  closes := ⟨_,toList_stringLiteral text,behindQuote?_escapes text.toList []⟩
  decodes := ⟨_,toList_stringLiteral text,decodeBody?_escapes text.toList⟩
  oneLine := by
    rw [toList_stringLiteral]
    have newline : ∀ c ∈ text.toList, '\n' ∉ escapeInString c :=
      fun c _ => (oneLine_of_escapes (escapes_escapeInString c)).1
    have carriage : ∀ c ∈ text.toList, '\r' ∉ escapeInString c :=
      fun c _ => (oneLine_of_escapes (escapes_escapeInString c)).2
    simpa [List.mem_flatMap] using ⟨newline,carriage⟩
  token := by
    have alone : Token.Reads (stringLiteral text).toList [.literal (stringLiteral text) false] := by
      simpa using Token.reads_stringLiteral text (by simp [Token.Parted]) Token.reads_nil
    refine Token.readAll_eq alone fun c first => ?_
    rw [toList_stringLiteral] at first
    obtain rfl : '"' = c := Option.some.inj first
    decide

/-! ### Constants and default values -/

/-- Whether a text is the call that owns the text of a literal, and is read as this call of this literal. -/
def IsOwnedLiteralOf (text value : String) : Prop :=
  ∃ literal, IsLiteralOf literal value ∧ text = "::std::string::String::from(" ++ literal ++ ")" ∧
    Expression.read? text.toList =
      some (.call true ["std","string","String","from"] [.constant (.literal false literal)])

theorem isOwnedLiteralOf_owned (value : String) : IsOwnedLiteralOf (ScalarExpr.owned value).text value :=
  ⟨stringLiteral value,isLiteralOf_stringLiteral value,rfl,read?_text (.scalar (.owned value))⟩

end Target

open Target

/-- How the strings of a field are written in the code: the value of a constant as a literal, a default value as the
    call that owns one, and each string among the elements of a default value so too. -/
structure Field.WritesStrings (f : Field) : Prop where
  constant : ∀ v, f.value? = some (.string v) →
    ∃ item, Message.constantItem? f = some item ∧ IsLiteralOf item.value.text v
  single : ∀ v, f.default? = some (.single (.string v)) → IsOwnedLiteralOf (ValueExpr.ofField f).text v
  elements : ∀ vs, f.default? = some (.array vs) → ∃ texts,
    (ValueExpr.ofField f).text =
      (match f.type.array with | some (.fixed _) => "[" | _ => "::std::vec![") ++ ", ".intercalate texts ++ "]" ∧
    List.Forall₂ (fun value text => ∀ v, value = .string v → IsOwnedLiteralOf text v) vs texts

/-- The strings of a field are written as literals of them, whatever characters they have. -/
theorem Field.writesStrings_of_primitive {f : Field} {p : Primitive} (base : f.type.base.primitive? = some p) :
    f.WritesStrings where
  constant v value := by
    obtain ⟨type,read⟩ := Option.isSome_iff_exists.mp (read?_constantTypeText p)
    refine ⟨⟨f.comment,identifier f.name,type,.scalar (.literal p (.string v))⟩,?_,?_⟩
    · simp [Message.constantItem?,base,value,read]
    · exact isLiteralOf_stringLiteral v
  single v default := by
    have written : ValueExpr.ofField f = .scalar (.owned v) := by
      simp [ValueExpr.ofField,default,base,ScalarExpr.ofLiteral]
    rw [written]
    exact isOwnedLiteralOf_owned v
  elements vs default := by
    have owned : List.Forall₂ (fun value text => ∀ v, value = .string v → IsOwnedLiteralOf text v) vs
        ((vs.map (ScalarExpr.ofLiteral p)).map ScalarExpr.text) := by
      rw [List.map_map,List.forall₂_map_right_iff,List.forall₂_same]
      rintro _ _ v rfl
      exact isOwnedLiteralOf_owned v
    refine ⟨_,?_,owned⟩
    unfold ValueExpr.ofField
    rw [default,base]
    -- Whether the array has a fixed size decides what stands in front of its elements.
    cases f.type.array with
    | none => simp [ValueExpr.text,ScalarExpr.listText,toString]
    | some shape => cases shape <;> simp [ValueExpr.text,ScalarExpr.listText,toString]

/-- A constant and default values with quotes, backslashes, the ends of lines and characters that do not show. -/
theorem Field.writesStrings_of_sample :
    let constant : Field := ⟨"S",⟨.primitive .string none,none⟩,.constant (.string "\\\"\n"),none,1⟩
    let hidden := DefaultValue.single (.string "\x00\u0301'")
    let single : Field := ⟨"s",⟨.primitive .wstring (some 8),none⟩,.member (some hidden),none,2⟩
    let quoted := DefaultValue.array [.string "\",b",.string "é\r"]
    let elements : Field := ⟨"xs",⟨.primitive .string none,some (.bounded 3)⟩,.member (some quoted),none,3⟩
    constant.WritesStrings ∧ single.WritesStrings ∧ elements.WritesStrings ∧
    (Message.constantItem? constant).map (fun item => item.value.text) = some "\"\\\\\\\"\\n\"" ∧
    (ValueExpr.ofField single).text = "::std::string::String::from(\"\\0\\u\x7b301\x7d'\")" ∧
    (ValueExpr.ofField elements).text =
      "::std::vec![::std::string::String::from(\"\\\",b\"), ::std::string::String::from(\"é\\r\")]" := by
  intro constant hidden single quoted elements
  exact ⟨Field.writesStrings_of_primitive rfl,Field.writesStrings_of_primitive rfl,
    Field.writesStrings_of_primitive rfl,by decide +kernel,by decide +kernel,by decide +kernel⟩

end MsgBindings
