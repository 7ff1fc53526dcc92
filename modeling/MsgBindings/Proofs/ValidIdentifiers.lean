import MsgBindings.Proofs.ModuleNames
import MsgBindings.Proofs.Segments

/-!
Which identifiers of ASCII texts are valid. What is valid is said by the keywords of the target language and the
characters of a name (`IsValidIdentifier`), apart from how identifiers are made. Names and keywords are looked for
before characters are replaced, and replacing them makes no keyword of another text (`eq_of_clean`). But a text of one
character that no identifier holds becomes the lone underscore, which is no identifier. Every other text has a valid
one (`isValidIdentifier_iff`).
-/
namespace MsgBindings.Target

/-! ### Valid identifiers -/

/-- The keywords of the target language: those in use, and those kept for later. -/
def languageKeywords : List String :=
  ["as","async","await","break","const","continue","crate","dyn","else","enum","extern","false","fn","for","if",
    "impl","in","let","loop","match","mod","move","mut","pub","ref","return","self","Self","static","struct","super",
    "trait","true","type","unsafe","use","where","while"] ++
  ["abstract","become","box","do","final","gen","macro","override","priv","try","typeof","unsized","virtual","yield"]

/-- The keywords that stand for a place in a path. They may not be raw. -/
def pathKeywords : List String := ["crate","self","Self","super"]

/-- A letter or an underscore, and after it letters, digits and underscores, all of them ASCII. -/
def IsAsciiName : List Char → Prop
  | [] => False
  | c :: rest => (c.isAlpha = true ∨ c = '_') ∧ ∀ d ∈ rest, d.isAlphanum = true ∨ d = '_'

instance : DecidablePred IsAsciiName
  | [] => inferInstanceAs (Decidable False)
  | c :: rest => inferInstanceAs (Decidable ((c.isAlpha = true ∨ c = '_') ∧ ∀ d ∈ rest, d.isAlphanum = true ∨ d = '_'))

/-- A raw keyword, or a name that is neither a keyword nor the lone underscore. -/
def IsValidIdentifier (name : String) : Prop :=
  (∃ k ∈ languageKeywords, k ∉ pathKeywords ∧ name = "r#" ++ k) ∨
    IsAsciiName name.toList ∧ name ∉ languageKeywords ∧ name ≠ "_"

instance : DecidablePred IsValidIdentifier := fun name =>
  inferInstanceAs (Decidable ((∃ k ∈ languageKeywords, k ∉ pathKeywords ∧ name = "r#" ++ k) ∨
    IsAsciiName name.toList ∧ name ∉ languageKeywords ∧ name ≠ "_"))

/-- A text of one character that is neither letter nor digit nor underscore. -/
def IsLoneSign (name : String) : Prop := ∃ c, name.toList = [c] ∧ c.isAlphanum = false ∧ c ≠ '_'

theorem mem_languageKeywords {k : String} (keyword : k ∈ languageKeywords) :
    k ∈ keywords ∧ k ∉ pathKeywords ∨ k ∈ reserved := by
  have all : ∀ k ∈ languageKeywords, k ∈ keywords ∧ k ∉ pathKeywords ∨ k ∈ reserved := by decide +kernel
  exact all k keyword

theorem solid_of_languageKeyword {k : String} (keyword : k ∈ languageKeywords) : '_' ∉ k.toList := by
  have all : ∀ k ∈ languageKeywords, '_' ∉ k.toList := by decide +kernel
  exact all k keyword

/-! ### Texts that are cleaned -/

section

variable {s : List Char}

theorem cleanChar_eq_mark {c : Char} : cleanChar c = '_' ↔ Text.isAlphanumeric c = false := by
  rcases cleanChar_cases c with ⟨kept,plain⟩ | ⟨mark,sign⟩
  · rw [kept,plain]
    refine ⟨?_,nofun⟩
    rintro rfl
    exact absurd plain (by decide)
  · simp [mark,sign]

theorem cleanIdentifier_eq_mark :
    cleanIdentifier s = ['_'] ↔ ∃ c, s = [c] ∧ Text.isAlphanumeric c = false := by
  constructor
  · intro cleaned
    rcases cleanIdentifier_cases s with ⟨⟨d,first,_⟩,whole⟩ | ⟨_,whole⟩
    · have none : s.map cleanChar = [] := (List.cons.inj (whole.symm.trans cleaned)).2
      rw [none] at first
      cases first
    · obtain ⟨c,rfl,mark⟩ := List.map_eq_singleton_iff.mp (whole.symm.trans cleaned)
      exact ⟨c,rfl,cleanChar_eq_mark.mp mark⟩
  · rintro ⟨c,rfl,sign⟩
    have mark : [c].map cleanChar = ['_'] := by rw [List.map_singleton,cleanChar_eq_mark.mpr sign]
    rcases cleanIdentifier_cases [c] with ⟨⟨d,first,digit⟩,_⟩ | ⟨_,whole⟩
    · rw [mark] at first
      cases first
      exact absurd digit (by decide)
    · rw [whole,mark]

/-- What is left of an ASCII text is a name. -/
theorem isAsciiName_clean (filled : s ≠ []) (ascii : ∀ c ∈ s, c.toNat < 128) : IsAsciiName (cleanIdentifier s) := by
  have mapped : ∀ d ∈ s.map cleanChar, d.isAlphanum = true ∨ d = '_' := by
    rw [List.forall_mem_map]
    intro c member
    rcases cleanChar_cases c with ⟨kept,plain⟩ | ⟨mark,_⟩
    · rw [Text.isAlphanumeric,if_pos (ascii c member)] at plain
      exact .inl (by rwa [kept])
    · exact .inr mark
  rcases cleanIdentifier_cases s with ⟨_,whole⟩ | ⟨noDigit,whole⟩
  · rw [whole]
    exact ⟨.inr rfl,mapped⟩
  · rw [whole]
    obtain ⟨c,rest,rfl⟩ := List.exists_cons_of_ne_nil filled
    rw [List.map_cons] at mapped noDigit ⊢
    rw [List.forall_mem_cons] at mapped
    refine ⟨mapped.1.imp_left fun plain => ?_,mapped.2⟩
    rw [Text.isAlphanum_eq,Bool.or_eq_true] at plain
    exact plain.resolve_right (by simpa using noDigit)

end

/-! ### The identifiers of ASCII texts -/

variable {name : String}

theorem isValidIdentifier_raw (keyword : name ∈ keywords) : IsValidIdentifier ("r#" ++ name) := by
  have all : ∀ k ∈ keywords, k ∈ languageKeywords ∧ k ∉ pathKeywords := by decide +kernel
  exact .inl ⟨name,(all name keyword).1,(all name keyword).2,rfl⟩

theorem isValidIdentifier_reserved (special : name ∈ reserved) : IsValidIdentifier (name ++ "_") := by
  have all : ∀ n ∈ reserved, IsValidIdentifier (n ++ "_") := by decide +kernel
  exact all name special

theorem isValidIdentifier_clean (filled : name ≠ "") (ascii : ∀ c ∈ name.toList, c.toNat < 128)
    (plain : name ∉ reserved) (free : name ∉ keywords) (other : ¬ IsLoneSign name) :
    IsValidIdentifier (.ofList (cleanIdentifier name.toList)) := by
  refine .inr ⟨?_,fun keyword => ?_,fun mark => ?_⟩
  · rw [String.toList_ofList]
    exact isAsciiName_clean (by simpa using filled) ascii
  · -- A keyword has no underscore, so that the text is the keyword itself.
    have solid := solid_of_languageKeyword keyword
    rw [String.toList_ofList] at solid
    rw [← eq_of_clean solid rfl,String.ofList_toList] at keyword
    rcases mem_languageKeywords keyword with ⟨inside,_⟩ | inside
    · exact free inside
    · exact plain inside
  · have cleaned : cleanIdentifier name.toList = ['_'] := by
      rw [← String.toList_ofList (l := cleanIdentifier name.toList),mark]
      rfl
    obtain ⟨c,single,noName⟩ := cleanIdentifier_eq_mark.mp cleaned
    have small : c.toNat < 128 := ascii c (by simp [single])
    rw [Text.isAlphanumeric,if_pos small] at noName
    refine other ⟨c,single,noName,?_⟩
    rintro rfl
    exact plain (by rw [← String.ofList_toList (s := name),single]; decide)

theorem identifier_of_loneSign (lone : IsLoneSign name) (ascii : ∀ c ∈ name.toList, c.toNat < 128) :
    identifier name = "_" := by
  obtain ⟨c,single,sign,other⟩ := lone
  have solid : ∀ n ∈ reserved ++ keywords, n.toList ≠ [c] := by
    have names : ∀ n ∈ reserved ++ keywords, n.toList.length = 1 → n = "_" := by decide +kernel
    intro n member same
    have mark := names n member (by simp [same])
    rw [mark] at same
    exact other (by simpa using same.symm)
  have noName : Text.isAlphanumeric c = false := by
    rw [Text.isAlphanumeric,if_pos (ascii c (by simp [single])),sign]
  rw [identifier,if_neg fun special => solid name (List.mem_append_left _ special) single,
    if_neg fun keyword => solid name (List.mem_append_right _ keyword) single,
    cleanIdentifier_eq_mark.mpr ⟨c,single,noName⟩]

/-- The identifier of an ASCII text is valid exactly if the text is not a single character that is replaced. Such a
    text has the lone underscore for an identifier. -/
theorem isValidIdentifier_iff (filled : name ≠ "") (ascii : ∀ c ∈ name.toList, c.toNat < 128) :
    (IsValidIdentifier (identifier name) ↔ ¬ IsLoneSign name) ∧ (IsLoneSign name → identifier name = "_") := by
  have lone : IsLoneSign name → identifier name = "_" := fun lone => identifier_of_loneSign lone ascii
  refine ⟨⟨fun valid sign => ?_,fun other => ?_⟩,lone⟩
  · rw [lone sign] at valid
    exact absurd valid (by decide +kernel)
  · unfold identifier
    split
    · rename_i special
      exact isValidIdentifier_reserved special
    · rename_i plain
      split
      · rename_i keyword
        exact isValidIdentifier_raw keyword
      · rename_i free
        exact isValidIdentifier_clean filled ascii plain free other

/-- A keyword behind a digit, of which no keyword is made, and a sign among letters. -/
theorem isValidIdentifier_of_digit_and_sign :
    let digit := "4type"
    let sign := "r#self"
    (digit ≠ "" ∧ ∀ c ∈ digit.toList, c.toNat < 128) ∧ (sign ≠ "" ∧ ∀ c ∈ sign.toList, c.toNat < 128) ∧
      IsValidIdentifier (identifier digit) ∧ identifier digit = "_4type" ∧
      IsValidIdentifier (identifier sign) ∧ identifier sign = "r_self" := by
  intro digit sign
  have first : digit ≠ "" ∧ ∀ c ∈ digit.toList, c.toNat < 128 := by decide
  have second : sign ≠ "" ∧ ∀ c ∈ sign.toList, c.toNat < 128 := by decide
  have long : ∀ {name : String}, name.toList.length ≠ 1 → ¬ IsLoneSign name := by
    rintro name long ⟨c,single,_⟩
    exact long (by simp [single])
  exact ⟨first,second,(isValidIdentifier_iff first.1 first.2).1.mpr (long (by decide)),by decide +kernel,
    (isValidIdentifier_iff second.1 second.2).1.mpr (long (by decide)),by decide +kernel⟩

/-- A hyphen alone is turned into the lone underscore, although the underscore itself is not kept. -/
theorem not_isValidIdentifier_of_hyphen :
    "-" ≠ "" ∧ (∀ c ∈ "-".toList, c.toNat < 128) ∧ identifier "-" = "_" ∧ ¬ IsValidIdentifier (identifier "-") ∧
      identifier "_" = "__" := by
  decide +kernel

end MsgBindings.Target
