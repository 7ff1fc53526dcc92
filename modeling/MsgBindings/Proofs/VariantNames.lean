import MsgBindings.Proofs.EnumerationValues
import MsgBindings.Proofs.IdentifierClashes

/-!
The names of variants. A variant is the camel case of the segments that are left of the name of its constant,
one after the other (`variantName_eq`), and the first of them begins with a letter (`strip_keeps_letter`). So a
variant is a capital followed by letters and digits (`variantNames_spell`), and different variants have
different identifiers (`nodup_variant_identifiers`).
-/
namespace MsgBindings

namespace Text

theorem isUpper_of_isAlpha {c : Char} (letter : c.isAlpha = true) (capital : isCapital c = true) :
    c.isUpper = true := by
  rw [isAlpha_eq,Bool.or_eq_true,isUpper_iff,isLower_iff] at letter
  rw [isCapital_iff] at capital
  rw [isUpper_iff]
  omega

end Text

/-! ### The segments of names -/

namespace Enumeration

theorem capital_of_mem_segments {name : String} (named : isConstantName name = true) :
    ∀ s ∈ segments name, ∀ c ∈ s, Text.isCapital c = true := by
  obtain ⟨first,rest,chars,upper,others⟩ := isConstantName_iff.mp named
  intro s member c inside
  obtain ⟨solid,within⟩ := Text.mem_of_mem_cutBy member c inside
  rw [chars] at within
  rcases List.mem_cons.mp within with rfl | within
  · exact Text.isCapital_of_isUpper upper
  · rcases others c within with capital | mark
    · exact capital
    · simp [mark] at solid

/-- The name of a constant begins with a capital, so its first segment does. -/
theorem segments_cons {name : String} (named : isConstantName name = true) :
    ∃ c s more, segments name = (c :: s) :: more ∧ c.isUpper = true := by
  obtain ⟨first,rest,chars,upper,_⟩ := isConstantName_iff.mp named
  have solid : (first == '_') = false := beq_eq_false_iff_ne.mpr (Text.ne_mark_of_isUpper upper)
  unfold segments
  rw [chars,Text.cutBy,solid]
  simp only [Bool.false_eq_true,↓reduceIte]
  split
  · exact ⟨first,[],[],rfl,upper⟩
  · exact ⟨first,_,_,rfl,upper⟩

theorem letterAt_iff {names : List (List (List Char))} {i : Nat} :
    letterAt names i = true ↔ ∀ s ∈ names, ∃ c rest, s[i]? = some (c :: rest) ∧ c.isAlpha = true := by
  unfold letterAt
  rw [List.all_eq_true]
  refine forall_congr' fun s => forall_congr' fun _ => ?_
  cases s[i]? with
  | none => simp
  | some piece => cases piece <;> simp

/-- Backing off ends where all names go on with a letter, or where nothing is dropped. -/
theorem backOff_letter (names : List (List (List Char))) (k : Nat) :
    backOff names k = 0 ∨ letterAt names (backOff names k) = true := by
  induction k with
  | zero => exact .inl rfl
  | succ k ih =>
    rw [backOff]
    split
    · rename_i letter
      exact .inr letter
    · exact ih

/-- What is left of the names of constants begins with a letter. -/
theorem strip_keeps_letter {names : List String} (named : ∀ n ∈ names, isConstantName n = true) :
    ∀ n ∈ names, ∃ c s more, (segments n).drop (strip (names.map segments)) = (c :: s) :: more ∧
      c.isUpper = true := by
  intro n member
  rcases backOff_letter (names.map segments) (shared (names.map segments)) with none | letter
  · rw [strip,none,List.drop_zero]
    exact segments_cons (named n member)
  · obtain ⟨c,s,here,alpha⟩ := letterAt_iff.mp letter _ (List.mem_map_of_mem member)
    obtain ⟨bound,at_strip⟩ := List.getElem?_eq_some_iff.mp here
    have inside : c :: s ∈ segments n := by
      rw [← at_strip]
      exact List.getElem_mem bound
    have capital := capital_of_mem_segments (named n member) _ inside c (by simp)
    have left := List.drop_eq_getElem_cons bound
    rw [at_strip] at left
    exact ⟨c,s,_,left,Text.isUpper_of_isAlpha alpha capital⟩

/-- The spelling of a variant: a capital, and after it letters and digits. -/
def SpellsVariant (name : String) : Prop :=
  ∃ c rest, name.toList = c :: rest ∧ c.isUpper = true ∧ ∀ d ∈ rest, d.isAlphanum = true

theorem variantName_eq {name : String} (named : isConstantName name = true) (k : Nat) :
    variantName k (segments name) = .ofList (((segments name).drop k).flatMap Text.capitalWord) := by
  rw [variantName,Text.upperCamelCase_join]
  exact fun s member => capital_of_mem_segments named s (List.mem_of_mem_drop member)

/-- The variants of constants are spelled as variants are. -/
theorem variantNames_spell {e : Enumeration} (named : ∀ v ∈ e.values, isConstantName v.name = true) :
    ∀ variant ∈ e.variantNames, SpellsVariant variant := by
  have names : e.values.map (fun v => segments v.name) = (e.values.map EnumValue.name).map segments := by simp
  unfold variantNames
  intro variant member
  rw [names,List.map_map] at member
  obtain ⟨n,inside,rfl⟩ := List.mem_map.mp member
  have all : ∀ n ∈ e.values.map EnumValue.name, isConstantName n = true := by simpa using named
  have capital := capital_of_mem_segments (all n inside)
  obtain ⟨c,s,more,left,upper⟩ := strip_keeps_letter all n inside
  have kept : ∀ piece ∈ (c :: s) :: more, ∀ d ∈ piece, Text.isCapital d = true := by
    rw [← left]
    exact fun piece member => capital piece (List.mem_of_mem_drop member)
  simp only [List.mem_cons,forall_eq_or_imp] at kept
  obtain ⟨⟨first,others⟩,later⟩ := kept
  refine ⟨c,s.map Char.toLower ++ more.flatMap Text.capitalWord,?_,upper,?_⟩
  · rw [Function.comp_apply,variantName_eq (all n inside),left,String.toList_ofList,List.flatMap_cons,
      Text.capitalWord_of_capitals first others,List.cons_append]
  · intro d member
    rcases List.mem_append.mp member with member | member
    · obtain ⟨a,inside,rfl⟩ := List.mem_map.mp member
      exact Text.isAlphanum_toLower (others a inside)
    · obtain ⟨piece,inside,member⟩ := List.mem_flatMap.mp member
      exact Text.isAlphanum_of_mem_capitalWord (later piece inside) d member

end Enumeration

/-! ### The identifiers of variants -/

namespace Enumeration.SpellsVariant

theorem isMessageName {name : String} (spelled : SpellsVariant name) : MsgBindings.isMessageName name = true := by
  obtain ⟨c,rest,chars,upper,others⟩ := spelled
  rw [MsgBindings.isMessageName,NamePattern.accepts,chars]
  simp only [NamePattern.starts,upper,Bool.true_and,List.all_eq_true]
  intro d member
  simp [NamePattern.continues,others d member]

theorem mark_notMem {name : String} (spelled : SpellsVariant name) : '_' ∉ name.toList := by
  obtain ⟨c,rest,chars,upper,others⟩ := spelled
  rw [chars]
  intro member
  rcases List.mem_cons.mp member with mark | member
  · exact Text.ne_mark_of_isUpper upper mark.symm
  · exact absurd (others _ member) (by decide)

end Enumeration.SpellsVariant

namespace Target

/-- No keyword is the name of a message, and `Self` is the only such name that is reserved. -/
theorem identifier_of_message {name : String} (named : isMessageName name = true) :
    identifier name = if name = "Self" then "Self_" else name := by
  have small : ∀ k ∈ keywords, isMessageName k = false := by decide +kernel
  have free : name ∉ keywords := by
    intro keyword
    rw [small name keyword] at named
    cases named
  rw [identifier_of_word (NamePattern.isWord_of_accepts named),if_neg free]
  by_cases self : name = "Self"
  · subst self
    rfl
  · have plain : name ∉ reserved := by
      intro special
      have inside : name ∈ reserved.filter NamePattern.message.accepts := List.mem_filter.mpr ⟨special,named⟩
      rw [reserved_messages] at inside
      exact self (List.mem_singleton.mp inside)
    rw [if_neg self,if_neg plain]

/-- Different variants have different identifiers, since none of them has an underscore. -/
theorem nodup_variant_identifiers {names : List String} (spelled : ∀ n ∈ names, Enumeration.SpellsVariant n)
    (distinct : names.Nodup) : (names.map identifier).Nodup := by
  rw [nodup_identifiers_of_accepts (fun n member => (spelled n member).isMessageName) distinct]
  rintro n _ ⟨_,marked⟩
  exact (spelled _ marked).mark_notMem (by simp)

/-- The identifier of a variant begins with a capital. -/
theorem identifier_of_variant_upper {name : String} (spelled : Enumeration.SpellsVariant name) :
    ∃ c rest, (identifier name).toList = c :: rest ∧ c.isUpper = true := by
  rw [identifier_of_message spelled.isMessageName]
  split
  · exact ⟨'S',['e','l','f','_'],rfl,rfl⟩
  · obtain ⟨c,rest,chars,upper,_⟩ := spelled
    exact ⟨c,rest,chars,upper⟩

end Target

end MsgBindings
