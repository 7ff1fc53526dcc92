import MsgBindings.Proofs.EntriesOfLines

/-!
The fields of a message and the lines of its definition. The lines that declare something, less the
headers of enumerations, and the fields of the message correspond one to one and in order
(`fields_of_lines`): each field is what its own line declares, with the number and the comment of
that line. Gathering constants into enumerations moves no field.
-/
namespace MsgBindings

open SourceText

def SourceText.isHeader (line : List Char) : Bool :=
  (Text.words (declared line)).head? == some "@enum".toList

/-- The lines of a definition that declare a field, with their numbers. -/
def SourceText.fieldLines (source : String) : List (List Char × Nat) :=
  (declaring source).filter fun l => !isHeader l.1

namespace Declaration

theorem readConstant_kind {declared value : List Char} {d : Declaration}
    (read : readConstant declared value = .ok d) : ∃ type name value, d = .constant type name value := by
  unfold readConstant at read
  split at read
  · dsimp only at read
    split at read
    · cases read
    · cases read
      exact ⟨_,_,_,rfl⟩
  · cases read

theorem readField_kind {content : List Char} {d : Declaration} (read : readField content = .ok d) :
    ∃ type name default, d = .field type name default := by
  unfold readField at read
  split at read
  · cases read
  · dsimp only at read
    split at read <;> cases read <;> exact ⟨_,_,_,rfl⟩

theorem read_of_no_marker {content : List Char} {d : Declaration} (plain : content.head? ≠ some '@')
    (declares : read content = .ok d) : ¬ ∃ name, d = .enumeration name := by
  rintro ⟨name,rfl⟩
  rw [read,if_neg plain] at declares
  split at declares
  · obtain ⟨_,_,_,same⟩ := readConstant_kind declares
    cases same
  · obtain ⟨_,_,_,same⟩ := readField_kind declares
    cases same

/-- A text that starts with an at sign is a header or no declaration. -/
theorem read_of_marker {rest : List Char} {d : Declaration} (declares : read ('@' :: rest) = .ok d) :
    (Text.words ('@' :: rest)).head? = some "@enum".toList ∧ ∃ name, d = .enumeration name := by
  rw [read,if_pos (by rfl)] at declares
  unfold readMarker at declares
  split at declares
  · cases declares
  · rename_i marker more words
    split at declares
    · rename_i enum
      subst enum
      split at declares
      · cases declares
      · cases declares
        exact ⟨by rw [words]; rfl,_,rfl⟩
      · cases declares
    · cases declares

end Declaration

/-- The headers are the lines that declare an enumeration. -/
theorem isHeader_iff {line : List Char} {d : Declaration} (read : Declaration.read (declared line) = .ok d) :
    isHeader line = true ↔ ∃ name, d = .enumeration name := by
  cases content : declared line with
  | nil =>
    rw [content] at read
    exact absurd read (by simp [Declaration.read,Declaration.splitEquals,Declaration.readField,Text.splitFirst])
  | cons c rest =>
    rw [content] at read
    have solid := Text.isBlank_of_trim_eq_cons content
    by_cases marker : c = '@'
    · subst marker
      obtain ⟨word,header⟩ := Declaration.read_of_marker read
      simp [isHeader,content,word,header]
    · have plain := Declaration.read_of_no_marker (by simpa using marker) read
      obtain ⟨word,more,words⟩ := Text.words_cons solid rest
      have other : isHeader line = false := by
        simp [isHeader,content,words,marker]
      simp [other,plain]

/-- The line of an entry is a header, or it declares the field of the entry. -/
theorem field_of_entry {package : String} {lines : List (List Char)} {line : List Char × Nat} {e : PlacedEntry}
    (entry : EntryOf package lines line e) :
    (isHeader line.1 = true ∧ e.entry.field? = none) ∨
      (isHeader line.1 = false ∧ ∃ f, e.entry.field? = some f ∧ DeclaredBy package line f) := by
  have plain : ∀ {f : Field}, DeclaredBy package line f → isHeader line.1 = false := by
    intro f declares
    rw [← Bool.not_eq_true]
    cases declares with
    | constant declares => simp [isHeader_iff declares]
    | member declares => simp [isHeader_iff declares]
    | memberWithDefault declares => simp [isHeader_iff declares]
  cases entry with
  | header declares => exact .inl ⟨(isHeader_iff declares).mpr ⟨_,rfl⟩,rfl⟩
  | constant declares => exact .inr ⟨plain declares,_,rfl,declares⟩
  | member declares => exact .inr ⟨plain declares,_,rfl,declares⟩

theorem fields_of_entries {package : String} {all : List (List Char)} {lines : List (List Char × Nat)}
    {es : List PlacedEntry} (entries : List.Forall₂ (EntryOf package all) lines es) :
    List.Forall₂ (DeclaredBy package) (lines.filter fun l => !isHeader l.1)
      (es.filterMap fun e => e.entry.field?) := by
  induction entries with
  | nil => exact .nil
  | cons entry _ ih =>
    rcases field_of_entry entry with ⟨header,none⟩ | ⟨header,f,some,declares⟩
    · rw [List.filter_cons_of_neg (by simpa using header)]
      simpa only [List.filterMap_cons,none] using ih
    · rw [List.filter_cons_of_pos (by simpa using header)]
      simpa only [List.filterMap_cons,some] using .cons declares ih

/-- The fields of a message are what the lines of its definition declare, one for each line and in
    order, each with the number and the comment of its own line. -/
theorem fields_of_lines {package name source : String} {m : Message}
    (read : Message.read package name source = .ok m) :
    List.Forall₂ (DeclaredBy package) (fieldLines source) m.fields := by
  obtain ⟨_,_,es,s,entries,follows,closed⟩ := Message.read_eq_ok.mp read
  rw [Message.fields_of_follow follows closed]
  exact fields_of_entries (entries_of_lines entries)

/-- A definition with a header, constants, a member with a default value, and comments. -/
theorem fields_of_constants_and_member :
    let source := "# State.\n\n@enum Mode\nuint8 MODE_OFF=0 # idle\nuint8 MODE_ON=1\n\nint32[] xs [1, 2] # two\n"
    let m : Message := ⟨"test_msgs","State","State.",
      [⟨"MODE_OFF",⟨.primitive .uint8 none,none⟩,.constant (.integer 0),some "idle",4⟩,
        ⟨"MODE_ON",⟨.primitive .uint8 none,none⟩,.constant (.integer 1),none,5⟩,
        ⟨"xs",⟨.primitive .int32 none,some .unbounded⟩,.member (some (.array [.integer 1,.integer 2])),
          some "two",7⟩],
      [⟨"Mode",.uint8,[⟨"MODE_OFF",0,some "idle"⟩,⟨"MODE_ON",1,none⟩],none,true⟩]⟩
    Message.read "test_msgs" "State" source = .ok m ∧
      List.Forall₂ (DeclaredBy "test_msgs") (fieldLines source) m.fields := by
  intro source m
  have read : Message.read "test_msgs" "State" source = .ok m := by decide +kernel
  exact ⟨read,fields_of_lines read⟩

end MsgBindings
