import Mathlib.Data.List.Nodup
import MsgBindings.Names
import MsgBindings.Proofs.ModuleNames
import MsgBindings.Proofs.Segments
import MsgBindings.Target.Token

/-!
Which names have one identifier. The names that definitions may give are words, and the identifier of a
word is the word itself but for the mark of a raw keyword and the underscore after a reserved name
(`identifier_of_word`). It is an identifier of the target language (`isIdentifier_identifier`), and the only
words with one identifier are a reserved name and that name with an underscore (`identifier_eq_iff`).
-/
namespace MsgBindings

/-- A letter, and after it letters, digits and underscores, all of them ASCII. -/
def IsWord (name : String) : Prop :=
  ∃ c rest, name.toList = c :: rest ∧ c.isAlpha = true ∧ ∀ d ∈ rest, d.isAlphanum = true ∨ d = '_'

namespace NamePattern

variable {pattern : NamePattern}

theorem isAlpha_of_starts {c : Char} (first : pattern.starts c = true) : c.isAlpha = true := by
  cases pattern <;> simp_all [starts,Text.isAlpha_eq]

theorem isAlphanum_of_continues {c : Char} (goesOn : pattern.continues c = true) :
    c.isAlphanum = true ∨ c = '_' := by
  cases pattern with
  | message => simpa [continues] using goesOn
  | package | field | constant =>
    simp only [continues,Bool.or_eq_true,beq_iff_eq] at goesOn
    rw [Text.isAlphanum_eq,Bool.or_eq_true,Bool.or_eq_true]
    tauto

/-- Every name that a definition may give is a word. -/
theorem isWord_of_accepts {name : String} (accepted : pattern.accepts name = true) : IsWord name := by
  unfold accepts at accepted
  split at accepted
  · cases accepted
  · rename_i c rest chars
    simp only [Bool.and_eq_true,List.all_eq_true] at accepted
    obtain ⟨first,others⟩ := accepted
    exact ⟨c,rest,chars,isAlpha_of_starts first,fun d member => isAlphanum_of_continues (others d member)⟩

end NamePattern

namespace Text

theorem isDigit_of_isAlpha {c : Char} (letter : c.isAlpha = true) : c.isDigit = false := by
  rw [isAlpha_eq,Bool.or_eq_true,isUpper_iff,isLower_iff] at letter
  rw [← Bool.not_eq_true,isDigit_iff]
  omega

end Text

theorem IsWord.chars {name : String} (word : IsWord name) :
    ∀ d ∈ name.toList, d.isAlphanum = true ∨ d = '_' := by
  obtain ⟨c,rest,chars,letter,others⟩ := word
  rw [chars]
  intro d member
  rcases List.mem_cons.mp member with rfl | member
  · exact .inl (Text.isAlphanum_of_isAlpha letter)
  · exact others d member

namespace Target

/-- The identifiers of the target language: one token, raw or not, that is no keyword and no reserved
    name. -/
def IsIdentifier (name : String) : Prop :=
  Token.identifier? name.toList = some (name.toList,[]) ∧ name ∉ keywords ∧ name ∉ reserved

/-! ### The identifier of a word -/

theorem cleanIdentifier_of_word {name : String} (word : IsWord name) :
    cleanIdentifier name.toList = name.toList := by
  have kept : (name.toList.map fun c => if Text.isAlphanumeric c || c == '_' then c else '_') = name.toList := by
    rw [List.map_congr_left (g := id),List.map_id]
    intro c member
    rcases word.chars c member with plain | rfl
    · simp [Text.isAlphanumeric_of_isAlphanum plain]
    · rfl
  obtain ⟨c,rest,chars,letter,_⟩ := word
  unfold cleanIdentifier
  rw [kept,chars]
  simp [Text.isDigit_of_isAlpha letter]

theorem identifier_of_word {name : String} (word : IsWord name) :
    identifier name =
      if name ∈ reserved then name ++ "_" else if name ∈ keywords then "r#" ++ name else name := by
  rw [identifier,cleanIdentifier_of_word word,String.ofList_toList]

theorem isIdentifier_of_word {name : String} (word : IsWord name) (free : name ∉ keywords)
    (plain : name ∉ reserved) : IsIdentifier name := by
  refine ⟨?_,free,plain⟩
  have chars := word.chars
  obtain ⟨c,rest,split,letter,_⟩ := word
  have continues : ∀ d ∈ rest, Text.continuesIdentifier d = true := by
    intro d member
    rcases chars d (by rw [split]; simp [member]) with plain | rfl
    · rw [Text.continuesIdentifier,if_pos (Text.ascii_of_isAlphanum plain),plain]
      rfl
    · rfl
  have starts : Text.startsIdentifier c = true := by
    have ascii : c.toNat < 128 := Text.ascii_of_isAlphanum (Text.isAlphanum_of_isAlpha letter)
    rw [Text.startsIdentifier,if_pos ascii,letter]
    rfl
  have whole : Token.name? (c :: rest) = some (c :: rest,[]) := by
    rw [Token.name?,if_pos starts,List.takeWhile_eq_self_iff.mpr continues,
      List.dropWhile_eq_nil_iff.mpr continues]
  rw [split,Token.identifier?.eq_2]
  · exact whole
  · rintro more same
    have mark := chars '#' (by rw [split,same]; simp)
    exact absurd mark (by decide)

/-- The identifier of a word is one of the target language. -/
theorem isIdentifier_identifier {name : String} (word : IsWord name) : IsIdentifier (identifier name) := by
  have raw : ∀ k ∈ keywords, Token.identifier? ("r#" ++ k).toList = some (("r#" ++ k).toList,[]) ∧
      "r#" ++ k ∉ keywords ∧ "r#" ++ k ∉ reserved := by decide +kernel
  have marked : ∀ n ∈ reserved, Token.identifier? (n ++ "_").toList = some ((n ++ "_").toList,[]) ∧
      n ++ "_" ∉ keywords ∧ n ++ "_" ∉ reserved := by decide +kernel
  rw [identifier_of_word word]
  split
  · rename_i special
    exact marked name special
  · split
    · rename_i keyword
      exact raw name keyword
    · rename_i plain free
      exact isIdentifier_of_word word free plain

/-! ### Words with one identifier -/

theorem reserved_apart : ∀ n ∈ reserved, n ∉ keywords ∧ n ++ "_" ∉ keywords ∧ n ++ "_" ∉ reserved := by
  decide +kernel

theorem identifier_of_reserved {name : String} (word : IsWord name) (special : name ∈ reserved) :
    identifier name = name ++ "_" := by
  rw [identifier_of_word word,if_pos special]

theorem identifier_of_marked {n : String} (word : IsWord (n ++ "_")) (special : n ∈ reserved) :
    identifier (n ++ "_") = n ++ "_" := by
  obtain ⟨_,free,plain⟩ := reserved_apart n special
  rw [identifier_of_word word,if_neg plain,if_neg free]

theorem raw_ne_word {k name : String} (word : IsWord name) : "r#" ++ k ≠ name := by
  rintro rfl
  have mark := word.chars '#' (by simp)
  exact absurd mark (by decide)

theorem raw_ne_marked {k n : String} (special : n ∈ reserved) : "r#" ++ k ≠ n ++ "_" := by
  have solid : ∀ n ∈ reserved, '#' ∉ (n ++ "_").toList := by decide +kernel
  intro same
  exact solid n special (by rw [← same]; simp)

/-- The words with the identifier of a name that is not reserved. -/
theorem eq_of_identifier_eq {a b : String} (first : IsWord a) (second : IsWord b) (plain : a ∉ reserved)
    (same : identifier a = identifier b) : a = b ∨ b ∈ reserved ∧ a = b ++ "_" := by
  rw [identifier_of_word first,identifier_of_word second,if_neg plain] at same
  by_cases special : b ∈ reserved
  · rw [if_pos special] at same
    split at same
    · exact absurd same (raw_ne_marked special)
    · exact .inr ⟨special,same⟩
  · rw [if_neg special] at same
    split at same
    · split at same
      · exact .inl (String.append_right_inj "r#" |>.mp same)
      · exact absurd same (raw_ne_word second)
    · split at same
      · exact absurd same.symm (raw_ne_word first)
      · exact .inl same

/-- Two words have one identifier exactly if they are the same, or one of them is reserved and the other one
    is that name with an underscore. -/
theorem identifier_eq_iff {a b : String} (first : IsWord a) (second : IsWord b) :
    identifier a = identifier b ↔
      a = b ∨ (a ∈ reserved ∧ b = a ++ "_") ∨ (b ∈ reserved ∧ a = b ++ "_") := by
  constructor
  · intro same
    by_cases special : a ∈ reserved
    · by_cases special' : b ∈ reserved
      · rw [identifier_of_reserved first special,identifier_of_reserved second special',
          String.append_left_inj] at same
        exact .inl same
      · rcases eq_of_identifier_eq second first special' same.symm with equal | marked
        · exact .inl equal.symm
        · exact .inr (.inl marked)
    · rcases eq_of_identifier_eq first second special same with equal | marked
      · exact .inl equal
      · exact .inr (.inr marked)
  · rintro (rfl | ⟨special,rfl⟩ | ⟨special,rfl⟩)
    · rfl
    · rw [identifier_of_reserved first special,identifier_of_marked second special]
    · rw [identifier_of_reserved second special,identifier_of_marked first special]

/-- Different words have different identifiers exactly if no reserved name is among them together with that
    name and an underscore. -/
theorem nodup_identifiers {names : List String} (words : ∀ n ∈ names, IsWord n) (distinct : names.Nodup) :
    (names.map identifier).Nodup ↔ ∀ n ∈ reserved, ¬ (n ∈ names ∧ n ++ "_" ∈ names) := by
  constructor
  · rintro apart n special ⟨here,marked⟩
    have same : identifier n = identifier (n ++ "_") :=
      (identifier_eq_iff (words n here) (words _ marked)).mpr (.inr (.inl ⟨special,rfl⟩))
    have equal := List.inj_on_of_nodup_map apart here marked same
    have longer := congrArg String.length equal
    simp at longer
  · intro free
    refine List.Nodup.map_on (fun a here b there same => ?_) distinct
    rcases (identifier_eq_iff (words a here) (words b there)).mp same with equal | ⟨special,rfl⟩ | ⟨special,rfl⟩
    · exact equal
    · exact absurd ⟨here,there⟩ (free a special)
    · exact absurd ⟨there,here⟩ (free b special)

/-! ### Names of one kind -/

section

variable {pattern : NamePattern}

/-- Two names of one kind have one identifier exactly if they are the same, or one of them is reserved and the
    other one is that name with an underscore. -/
theorem identifier_eq_iff_of_accepts {a b : String} (first : pattern.accepts a = true)
    (second : pattern.accepts b = true) :
    identifier a = identifier b ↔ a = b ∨
      ∃ n ∈ reserved.filter pattern.accepts, (a = n ∧ b = n ++ "_") ∨ (b = n ∧ a = n ++ "_") := by
  rw [identifier_eq_iff (NamePattern.isWord_of_accepts first) (NamePattern.isWord_of_accepts second)]
  refine or_congr_right ⟨?_,?_⟩
  · rintro (⟨special,marked⟩ | ⟨special,marked⟩)
    · exact ⟨a,List.mem_filter.mpr ⟨special,first⟩,.inl ⟨rfl,marked⟩⟩
    · exact ⟨b,List.mem_filter.mpr ⟨special,second⟩,.inr ⟨rfl,marked⟩⟩
  · rintro ⟨n,inside,⟨rfl,marked⟩ | ⟨rfl,marked⟩⟩
    · exact .inl ⟨(List.mem_filter.mp inside).1,marked⟩
    · exact .inr ⟨(List.mem_filter.mp inside).1,marked⟩

theorem nodup_identifiers_of_accepts {names : List String} (accepted : ∀ n ∈ names, pattern.accepts n = true)
    (distinct : names.Nodup) :
    (names.map identifier).Nodup ↔
      ∀ n ∈ reserved.filter pattern.accepts, ¬ (n ∈ names ∧ n ++ "_" ∈ names) := by
  rw [nodup_identifiers (fun n member => NamePattern.isWord_of_accepts (accepted n member)) distinct]
  constructor
  · exact fun apart n inside => apart n (List.mem_filter.mp inside).1
  · rintro apart n special ⟨here,marked⟩
    exact apart n (List.mem_filter.mpr ⟨special,accepted n here⟩) ⟨here,marked⟩

end

theorem reserved_messages : reserved.filter NamePattern.message.accepts = ["Self"] := by
  decide +kernel

theorem reserved_fields : reserved.filter NamePattern.field.accepts = ["self","super","crate"] := by
  decide +kernel

end Target

end MsgBindings
