import Mathlib.Data.List.Basic
import MsgBindings.Target.Identifier

/-!
The names of modules and of their files. An identifier is a raw keyword or a text of letters, digits and
underscores that is no keyword (`identifier_cases`), so modules with different names have different files
(`fileName_injective`). The module `r#mod` alone has the file that declares the modules
(`fileName_eq_mod`).
-/
namespace MsgBindings.Target

/-- A text of letters, digits and underscores. -/
def IsPlain (s : List Char) : Prop := ∀ c ∈ s, Text.isAlphanumeric c = true ∨ c = '_'

theorem keyword_letters {k : String} (keyword : k ∈ keywords) :
    ∀ c ∈ k.toList, Text.isAlphanumeric c = true ∧ c ≠ '_' := by
  have all : (keywords.all fun k => k.toList.all fun c => Text.isAlphanumeric c && c != '_') = true := by
    decide +kernel
  intro c member
  simpa using List.all_eq_true.mp (List.all_eq_true.mp all k keyword) c member

theorem isPlain_keyword {k : String} (keyword : k ∈ keywords) : IsPlain k.toList :=
  fun c member => .inl (keyword_letters keyword c member).1

/-! ### Texts that are cleaned -/

/-- A character, or the underscore in the place of one that no identifier holds. -/
def cleanChar (c : Char) : Char := if Text.isAlphanumeric c || c == '_' then c else '_'

theorem cleanChar_cases (c : Char) :
    cleanChar c = c ∧ Text.isAlphanumeric c = true ∨ cleanChar c = '_' ∧ Text.isAlphanumeric c = false := by
  unfold cleanChar
  cases plain : Text.isAlphanumeric c with
  | true => exact .inl ⟨by simp,rfl⟩
  | false => exact .inr ⟨by simp,rfl⟩

/-- A text is cleaned character by character, and an underscore goes in front of a digit. -/
theorem cleanIdentifier_cases (s : List Char) :
    (∃ c ∈ (s.map cleanChar).head?, c.isDigit = true) ∧ cleanIdentifier s = '_' :: s.map cleanChar ∨
      (∀ c ∈ (s.map cleanChar).head?, c.isDigit = false) ∧ cleanIdentifier s = s.map cleanChar := by
  have cleaned : (s.map fun c => if Text.isAlphanumeric c || c == '_' then c else '_') = s.map cleanChar := rfl
  unfold cleanIdentifier
  dsimp only
  rw [cleaned]
  cases s.map cleanChar with
  | nil => exact .inr ⟨nofun,rfl⟩
  | cons c rest =>
    cases digit : c.isDigit with
    | true => exact .inl ⟨⟨c,rfl,digit⟩,by simp [digit]⟩
    | false => exact .inr ⟨by simpa using digit,by simp [digit]⟩

theorem isPlain_clean (s : List Char) : IsPlain (cleanIdentifier s) := by
  have mapped : ∀ c ∈ s.map cleanChar, Text.isAlphanumeric c = true ∨ c = '_' := by
    rw [List.forall_mem_map]
    intro c member
    rcases cleanChar_cases c with ⟨kept,plain⟩ | ⟨mark,_⟩
    · exact .inl (by rwa [kept])
    · exact .inr mark
  rcases cleanIdentifier_cases s with ⟨_,whole⟩ | ⟨_,whole⟩
  · rw [whole]
    exact List.forall_mem_cons.mpr ⟨.inr rfl,mapped⟩
  · rw [whole]
    exact mapped

/-- Cleaning makes no text without an underscore of another text. -/
theorem eq_of_clean {s t : List Char} (solid : '_' ∉ t) (cleaned : cleanIdentifier s = t) : s = t := by
  rcases cleanIdentifier_cases s with ⟨_,whole⟩ | ⟨_,whole⟩
  · exact absurd (by rw [← cleaned,whole]; exact List.mem_cons_self) solid
  · have same : s.map cleanChar = t := whole.symm.trans cleaned
    -- A character that is replaced becomes an underscore.
    have kept : ∀ c ∈ s, cleanChar c = c := by
      intro c member
      rcases cleanChar_cases c with ⟨kept,_⟩ | ⟨mark,_⟩
      · exact kept
      · exact absurd (by rw [← same]; exact List.mem_map.mpr ⟨c,member,mark⟩) solid
    rw [← same,List.map_congr_left kept,List.map_id']

/-- An identifier is a raw keyword or a plain text that is no keyword. -/
theorem identifier_cases (name : String) :
    (name ∈ keywords ∧ identifier name = "r#" ++ name) ∨
      (name ∉ keywords ∧ IsPlain (identifier name).toList ∧ identifier name ∉ keywords) := by
  have apart : ∀ n ∈ reserved, n ∉ keywords ∧ IsPlain (n ++ "_").toList ∧ n ++ "_" ∉ keywords := by
    have all : (reserved.all fun n => !keywords.contains n && !keywords.contains (n ++ "_") &&
        (n ++ "_").toList.all fun c => Text.isAlphanumeric c || c == '_') = true := by decide +kernel
    intro n member
    have each := List.all_eq_true.mp all n member
    simp only [Bool.and_eq_true,Bool.not_eq_true',List.contains_eq_mem,decide_eq_false_iff_not] at each
    refine ⟨each.1.1,fun c inside => ?_,each.1.2⟩
    simpa using List.all_eq_true.mp each.2 c inside
  unfold identifier
  by_cases special : name ∈ reserved
  · rw [if_pos special]
    exact .inr (apart name special)
  · rw [if_neg special]
    by_cases keyword : name ∈ keywords
    · rw [if_pos keyword]
      exact .inl ⟨keyword,rfl⟩
    · rw [if_neg keyword]
      refine .inr ⟨keyword,?_,fun cleaned => ?_⟩
      · rw [String.toList_ofList]
        exact isPlain_clean name.toList
      · have solid : '_' ∉ cleanIdentifier name.toList := fun mark =>
          (keyword_letters cleaned '_' (by rwa [String.toList_ofList])).2 rfl
        rw [← eq_of_clean solid rfl,String.ofList_toList] at cleaned
        exact keyword cleaned

theorem fileName_raw (k : String) : fileName ("r#" ++ k) = k ++ ".rs" := by
  simp [fileName]

theorem fileName_plain {module : String} (plain : IsPlain module.toList) : fileName module = module ++ ".rs" := by
  unfold fileName
  split
  · rename_i rest split
    have mark := plain '#' (by rw [split]; simp)
    simp [Text.isAlphanumeric] at mark
  · rfl

/-- What stands in front of the ending of the file of a module: a keyword, or the name of the module, which
    is none. -/
theorem fileName_identifier (name : String) :
    (name ∈ keywords ∧ identifier name = "r#" ++ name ∧ fileName (identifier name) = name ++ ".rs") ∨
      (name ∉ keywords ∧ identifier name ∉ keywords ∧ fileName (identifier name) = identifier name ++ ".rs") := by
  rcases identifier_cases name with ⟨keyword,raw⟩ | ⟨other,plain,free⟩
  · exact .inl ⟨keyword,raw,by rw [raw,fileName_raw]⟩
  · exact .inr ⟨other,free,fileName_plain plain⟩

/-- Modules with one file are one module. -/
theorem fileName_injective {a b : String} (same : fileName (identifier a) = fileName (identifier b)) :
    identifier a = identifier b := by
  rcases fileName_identifier a with ⟨keyword,raw,file⟩ | ⟨_,free,file⟩ <;>
    rcases fileName_identifier b with ⟨keyword',raw',file'⟩ | ⟨_,free',file'⟩ <;>
    rw [file,file',String.append_left_inj] at same
  · rw [same]
  · exact absurd (same ▸ keyword) free'
  · exact absurd (same ▸ keyword') free
  · exact same

/-- Only the module of `mod` has the file `mod.rs`. -/
theorem fileName_eq_mod {name : String} : fileName (identifier name) = "mod.rs" ↔ name = "mod" := by
  have file : "mod.rs" = "mod" ++ ".rs" := rfl
  have keyword : "mod" ∈ keywords := by decide
  rcases fileName_identifier name with ⟨_,_,here⟩ | ⟨other,free,here⟩
  · rw [here,file,String.append_left_inj]
  · rw [here,file,String.append_left_inj]
    constructor
    · intro same
      exact absurd (same ▸ keyword) free
    · rintro rfl
      exact absurd keyword other

theorem fileName_solid (name : String) : '/' ∉ (fileName (identifier name)).toList := by
  have solid : ∀ {s : List Char}, IsPlain s → '/' ∉ s := by
    intro s plain member
    have mark := plain '/' member
    simp [Text.isAlphanumeric] at mark
  have ending : '/' ∉ ".rs".toList := by decide
  rcases identifier_cases name with ⟨keyword,raw⟩ | ⟨_,plain,_⟩
  · rw [raw,fileName_raw,String.toList_append,List.mem_append,not_or]
    exact ⟨solid (isPlain_keyword keyword),ending⟩
  · rw [fileName_plain plain,String.toList_append,List.mem_append,not_or]
    exact ⟨solid plain,ending⟩

theorem fileName_ends (name : String) : ∃ stem, fileName (identifier name) = stem ++ ".rs" := by
  rcases fileName_identifier name with ⟨_,_,file⟩ | ⟨_,_,file⟩
  · exact ⟨_,file⟩
  · exact ⟨_,file⟩

end MsgBindings.Target
