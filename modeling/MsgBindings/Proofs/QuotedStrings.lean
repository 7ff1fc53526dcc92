import MsgBindings.Proofs.PrintedValues

/-!
Strings that are written as literals, alone and in arrays. A literal between quotes is read as the string that it was
made from, and a text without two equal quotes around it stands for itself (`Text.readQuoted_of_literal_or_bare`).
Within an array that fails for a string with a comma in it: the text between the brackets is cut at all commas, also
at those between quotes, and the pieces of a literal that is cut are read one by one, each with the one quote that is
left to it (`Field.member_of_strings`).
-/
namespace MsgBindings

/-! ### Literals -/

namespace Text

variable {q c : Char}

/-- The quotes of string literals. -/
def IsQuote (q : Char) : Prop := q = '"' ∨ q = '\''

theorem isBlank_of_isQuote (mark : IsQuote q) : isBlank q = false := by
  rcases mark with rfl | rfl <;> decide

theorem unescape_cons (plain : c ≠ '\\') (rest : List Char) : unescape q (c :: rest) = c :: unescape q rest := by
  cases rest with
  | nil => rfl
  | cons next rest => rw [unescape,if_neg plain]

theorem unescape_escape {next : Char} (escape : escaped? q next = some c) (rest : List Char) :
    unescape q ('\\' :: next :: rest) = c :: unescape q rest := by
  rw [unescape,if_pos rfl,escape]

/-- What is written for a character is read as the character. -/
theorem unescape_escapeChar (mark : IsQuote q) (c : Char) (rest : List Char) :
    unescape q (escapeChar q c ++ rest) = c :: unescape q rest := by
  unfold escapeChar
  split_ifs with feed tab return' backslash quote
  · subst feed
    exact unescape_escape rfl rest
  · subst tab
    exact unescape_escape rfl rest
  · subst return'
    exact unescape_escape rfl rest
  · subst backslash
    exact unescape_escape rfl rest
  · subst quote
    have itself : escaped? c c = some c := by
      rcases mark with rfl | rfl <;> decide
    exact unescape_escape itself rest
  · exact unescape_cons backslash rest

theorem unescape_flatMap (mark : IsQuote q) (s : List Char) : unescape q (s.flatMap (escapeChar q)) = s := by
  induction s with
  | nil => rfl
  | cons c s ih => rw [List.flatMap_cons,unescape_escapeChar mark,ih]

theorem trim_quote (mark : IsQuote q) (s : List Char) : trim (quote q s) = quote q s := by
  have solid := isBlank_of_isQuote mark
  exact trim_closed (by rintro d ⟨⟩; exact solid) solid nofun

/-- A text is enclosed in quotes exactly if one quote stands at both of its ends. -/
theorem enclosed?_eq_some {s inside : List Char} :
    enclosed? s = some (q,inside) ↔ IsQuote q ∧ s = q :: (inside ++ [q]) := by
  constructor
  · intro enclosed
    unfold enclosed? at enclosed
    split at enclosed
    · cases enclosed
    · split_ifs at enclosed with mark last
      cases enclosed
      exact ⟨mark,congrArg (_ :: ·) (List.dropLast_append_getLast? _ last).symm⟩
  · rintro ⟨mark,rfl⟩
    have last : (inside ++ [q]).getLast? = some q := List.getLast?_concat
    rw [enclosed?,if_pos (show q = '"' ∨ q = '\'' from mark),if_pos last,List.dropLast_concat]

theorem enclosed?_quote (mark : IsQuote q) (s : List Char) :
    enclosed? (quote q s) = some (q,s.flatMap (escapeChar q)) :=
  enclosed?_eq_some.mpr ⟨mark,rfl⟩

/-- A literal stands for the string that it was made from. -/
theorem readQuoted_quote (mark : IsQuote q) (s : List Char) : readQuoted (quote q s) = s := by
  rw [readQuoted,trim_quote mark,enclosed?_quote mark]
  exact unescape_flatMap mark s

theorem readQuoted_trim (s : List Char) : readQuoted (trim s) = readQuoted s := by
  rw [readQuoted,readQuoted,trim_trim]

/-- A literal is read as the string that it was made from, whatever blanks are around it, and a text that no two equal
    quotes enclose stands for itself. -/
theorem readQuoted_of_literal_or_bare :
    (∀ q, IsQuote q → ∀ s before behind, (∀ c ∈ before ++ behind, isBlank c = true) →
        readQuoted (before ++ (quote q s ++ behind)) = s) ∧
      ∀ text, (∀ q inside, IsQuote q → trim text ≠ q :: (inside ++ [q])) → readQuoted text = trim text := by
  constructor
  · intro q mark s before behind blank
    obtain ⟨start,finish⟩ := List.forall_mem_append.mp blank
    rw [← readQuoted_trim,trim_between (trim_quote mark s) start finish]
    exact readQuoted_quote mark s
  · intro text bare
    unfold readQuoted
    cases enclosed : enclosed? (trim text) with
    | none => rfl
    | some found =>
      obtain ⟨mark,ends⟩ := enclosed?_eq_some.mp enclosed
      exact absurd ends (bare found.1 found.2 mark)

/-- A string of backslashes, quotes and letters behind them, between single quotes, and two texts without a second
    quote. -/
theorem readQuoted_of_backslashes :
    let s := "\\n\'\\\n\"'\t\\".toList
    IsQuote '\'' ∧ (∀ c ∈ " \t".toList ++ "\n".toList, isBlank c = true) ∧
      quote '\'' s = "'\\\\n\\'\\\\\\n\"\\'\\t\\\\'".toList ∧
      readQuoted " \t'\\\\n\\'\\\\\\n\"\\'\\t\\\\'\n".toList = s ∧
      (∀ q inside, IsQuote q → trim " \"it\\n' ".toList ≠ q :: (inside ++ [q])) ∧
      readQuoted " \"it\\n' ".toList = "\"it\\n'".toList ∧
      (∀ q inside, IsQuote q → trim " ' ".toList ≠ q :: (inside ++ [q])) ∧ readQuoted " ' ".toList = ['\''] := by
  intro s
  have bare : ∀ text, enclosed? (trim text) = none → ∀ q inside, IsQuote q → trim text ≠ q :: (inside ++ [q]) := by
    intro text none q inside mark ends
    rw [enclosed?_eq_some.mpr ⟨mark,ends⟩] at none
    cases none
  have blank : ∀ c ∈ " \t".toList ++ "\n".toList, isBlank c = true := by decide
  obtain ⟨literal,other⟩ := readQuoted_of_literal_or_bare
  have open' := bare " \"it\\n' ".toList (by decide)
  have single := bare " ' ".toList (by decide)
  refine ⟨.inr rfl,blank,by decide,?_,open',(other _ open').trans (by decide),single,(other _ single).trans (by decide)⟩
  exact literal '\'' (.inr rfl) s " \t".toList "\n".toList blank

/-- A blank in front of a text does not change what its pieces are read as. -/
theorem map_readQuoted_cutBy (s : List Char) :
    (cutBy (· == ',') (' ' :: s)).map readQuoted = (cutBy (· == ',') s).map readQuoted := by
  obtain ⟨piece,pieces,cut⟩ := List.exists_cons_of_ne_nil (cutBy_ne_nil (· == ',') s)
  have front : cutBy (· == ',') (' ' :: s) = (' ' :: piece) :: pieces := by
    rw [cutBy,cut]
    rfl
  have trimmed : trim ([' '] ++ piece) = trim piece := trim_of_blank (by decide)
  have same : readQuoted (' ' :: piece) = readQuoted piece := by
    rw [← readQuoted_trim,← readQuoted_trim piece,← trimmed,List.singleton_append]
  rw [front,cut,List.map_cons,List.map_cons,same]

theorem count_escapeChar (c : Char) : (escapeChar '"' c).count ',' = [c].count ',' := by
  have special : ∀ d ∈ ['\n','\t','\r','\\','"'], (escapeChar '"' d).count ',' = [d].count ',' := by decide
  by_cases escaped : c ∈ ['\n','\t','\r','\\','"']
  · exact special c escaped
  · simp only [List.mem_cons,List.not_mem_nil,or_false,not_or] at escaped
    simp only [escapeChar,escaped,↓reduceIte]

/-- A literal has the commas of its string. -/
theorem count_quote (s : List Char) : (quote '"' s).count ',' = s.count ',' := by
  have inside : (s.flatMap (escapeChar '"')).count ',' = s.count ',' := by
    induction s with
    | nil => rfl
    | cons c s ih =>
      rw [List.flatMap_cons,List.count_append,count_escapeChar,ih,← List.count_append,List.singleton_append]
  rw [quote,List.count_append,List.count_cons,inside]
  simp

end Text

/-! ### Arrays -/

/-- The literals of strings between double quotes, with a comma and a space between them. -/
def literalsText (xs : List String) : List Char := [',',' '].intercalate (xs.map fun x => Text.quote '"' x.toList)

/-- The text of an array of strings. -/
def stringsText (xs : List String) : List Char := '[' :: (literalsText xs ++ [']'])

/-- The strings that the literal of a string is read as within an array: one for each piece between its commas. -/
def literalParts (x : String) : List String :=
  (Text.cutBy (· == ',') (Text.quote '"' x.toList)).map fun piece => .ofList (Text.readQuoted piece)

theorem length_literalParts (x : String) : (literalParts x).length = x.toList.count ',' + 1 := by
  rw [literalParts,List.length_map,Text.length_cutBy,← Text.count_quote x.toList]
  rfl

/-- A literal without a comma is one element of the array, the string itself. -/
theorem literalParts_of_plain {x : String} (plain : ',' ∉ x.toList) : literalParts x = [x] := by
  have solid : ∀ c ∈ Text.quote '"' x.toList, (c == ',') = false := by
    intro c member
    rw [beq_eq_false_iff_ne]
    rintro rfl
    have count := Text.count_quote x.toList
    rw [List.count_eq_zero_of_not_mem plain] at count
    exact List.count_eq_zero.mp count member
  rw [literalParts,Text.cutBy_of_none solid,List.map_singleton,Text.readQuoted_quote (.inl rfl),String.ofList_toList]

theorem length_flatMap_literalParts (xs : List String) :
    (xs.flatMap literalParts).length = xs.length + (xs.map fun x => x.toList.count ',').sum := by
  induction xs with
  | nil => rfl
  | cons x xs ih =>
    rw [List.flatMap_cons,List.length_append,length_literalParts,ih,List.length_cons,List.map_cons,List.sum_cons]
    omega

/-- An array of strings is read as itself exactly if no string has a comma. -/
theorem flatMap_literalParts_eq_self {xs : List String} :
    xs.flatMap literalParts = xs ↔ ∀ x ∈ xs, ',' ∉ x.toList := by
  constructor
  · intro same x member
    have count := length_flatMap_literalParts xs
    rw [same] at count
    have none : ∀ n ∈ xs.map fun x => x.toList.count ',', n = 0 := List.sum_eq_zero_iff_forall_eq_nat.mp (by omega)
    exact List.count_eq_zero.mp (none _ (List.mem_map_of_mem member))
  · intro plain
    rw [List.flatMap_congr fun x member => literalParts_of_plain (plain x member),← List.map_eq_flatMap,List.map_id']

theorem Literal.read_string (text : List Char) :
    read .string text = .ok (.string (.ofList (Text.readQuoted text))) := by
  rw [← Text.readQuoted_trim]
  rfl

/-- What stands between the commas of literals is read as the parts of the literals. -/
theorem map_cutBy_literalsText (x : String) (xs : List String) :
    (Text.cutBy (· == ',') (literalsText (x :: xs))).map (fun piece => String.ofList (Text.readQuoted piece)) =
      (x :: xs).flatMap literalParts := by
  have spaced : ∀ y : String, (Text.cutBy (· == ',') (' ' :: Text.quote '"' y.toList)).map
      (fun piece => String.ofList (Text.readQuoted piece)) = literalParts y := by
    intro y
    have strings := congrArg (List.map String.ofList) (Text.map_readQuoted_cutBy (Text.quote '"' y.toList))
    rwa [List.map_map,List.map_map] at strings
  rw [literalsText,List.map_cons,Text.cutBy_intercalate,List.map_append,List.map_flatMap,List.flatMap_map,
    List.flatMap_cons]
  exact congrArg (literalParts x ++ ·) (List.flatMap_congr fun y _ => spaced y)

theorem Literal.mapM_read_string (texts : List (List Char)) : texts.mapM (read .string) =
    .ok ((texts.map fun text => String.ofList (Text.readQuoted text)).map .string) := by
  rw [mapM_eq_ok,List.map_map,List.forall₂_map_right_iff,List.forall₂_same]
  exact fun text _ => read_string text

/-- The type of arrays of any number of strings. -/
def stringArray : FieldType := ⟨.primitive .string none,some .unbounded⟩

/-- The text of an array of strings is read as the parts of its literals. -/
theorem DefaultValue.read_stringsText (xs : List String) :
    read stringArray (stringsText xs) = .ok (.array ((xs.flatMap literalParts).map .string)) := by
  cases xs with
  | nil => rfl
  | cons x xs =>
    have first : '"' ∈ Text.quote '"' x.toList := List.mem_cons_self
    have mark : '"' ∈ literalsText (x :: xs) := (Text.prefix_intercalate _ _ _).subset first
    have value : (elements (literalsText (x :: xs))).mapM (Literal.read .string) =
        .ok (((x :: xs).flatMap literalParts).map .string) := by
      rw [elements_of_solid mark (by decide),Literal.mapM_read_string,map_cutBy_literalsText]
    simp only [read,stringArray,BaseType.primitive?,stringsText,bracketed?_brackets,countFault?,value]
    rfl

/-- A member with an array of strings as its default value is read with the parts of their literals: the strings
    themselves, if none of them has a comma, and else one more element for each comma. -/
theorem Field.member_of_strings {name : String} (named : isFieldName name = true) (xs : List String) :
    Field.member stringArray name (some (stringsText xs)) =
        .ok ⟨name,stringArray,.member (some (.array ((xs.flatMap literalParts).map .string))),none,0⟩ ∧
      (xs.flatMap literalParts).length = xs.length + (xs.map fun x => x.toList.count ',').sum ∧
      (xs.flatMap literalParts = xs ↔ ∀ x ∈ xs, ',' ∉ x.toList) := by
  have value : (some (stringsText xs)).mapM (DefaultValue.read stringArray) =
      .ok (some (.array ((xs.flatMap literalParts).map .string))) :=
    optionMapM_eq_some.mpr ⟨_,rfl,DefaultValue.read_stringsText xs⟩
  exact ⟨member_eq_ok.mpr ⟨named,_,value,rfl⟩,length_flatMap_literalParts xs,flatMap_literalParts_eq_self⟩

theorem member_of_three_strings :
    FieldType.read none "string[]" = .ok stringArray ∧ isFieldName "labels" = true ∧
      Field.member stringArray "labels" (some "[\"a] b\", \"\\\"\\\\\\n'\", \"\"]".toList) =
        .ok ⟨"labels",stringArray,.member (some (.array [.string "a] b",.string "\"\\\n'",.string ""])),none,0⟩ := by
  have named : isFieldName "labels" = true := by decide
  refine ⟨by decide +kernel,named,?_⟩
  obtain ⟨made,_,same⟩ := Field.member_of_strings named ["a] b","\"\\\n'",""]
  rw [same.mpr (by decide)] at made
  exact made

/-- A string with a comma is read as two strings, with a quote each. -/
theorem member_of_string_with_comma :
    stringsText ["a,b"] = "[\"a,b\"]".toList ∧
      Field.member stringArray "labels" (some "[\"a,b\"]".toList) =
        .ok ⟨"labels",stringArray,.member (some (.array [.string "\"a",.string "b\""])),none,0⟩ ∧
      Field.member stringArray "labels" (some "[\"a,b\"]".toList) ≠
        .ok ⟨"labels",stringArray,.member (some (.array [.string "a,b"])),none,0⟩ := by
  decide +kernel

end MsgBindings
