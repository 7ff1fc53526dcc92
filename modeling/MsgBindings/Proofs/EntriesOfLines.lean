import MsgBindings.Proofs.Entries
import MsgBindings.Proofs.Fields
import MsgBindings.Proofs.SourceLines

/-!
The entries of a definition and its lines. The lines that declare something and the entries correspond
one to one and in order (`entries_of_lines`): each entry is what its own line declares, with the number
and the comment of that line.
-/
namespace MsgBindings

open SourceText

/-- The field that a line with a number declares in a package. -/
inductive DeclaredBy (package : String) : List Char × Nat → Field → Prop where
  | constant {line : List Char} {number : Nat} {typeText name valueText : String} {p : Primitive}
      {bound : Option Nat} {value : Literal}
      (declares : Declaration.read (declared line) = .ok (.constant typeText name valueText))
      (typed : FieldType.read (some package) typeText = .ok ⟨.primitive p bound,none⟩)
      (valued : Literal.read p valueText.toList = .ok value) :
      DeclaredBy package (line,number)
        ⟨name,⟨.primitive p bound,none⟩,.constant value,comment? line,number⟩
  | member {line : List Char} {number : Nat} {typeText name : String} {type : FieldType}
      (declares : Declaration.read (declared line) = .ok (.field typeText name none))
      (typed : FieldType.read (some package) typeText = .ok type) :
      DeclaredBy package (line,number) ⟨name,type,.member none,comment? line,number⟩
  | memberWithDefault {line : List Char} {number : Nat} {typeText name valueText : String}
      {type : FieldType} {value : DefaultValue}
      (declares : Declaration.read (declared line) = .ok (.field typeText name (some valueText)))
      (typed : FieldType.read (some package) typeText = .ok type)
      (valued : DefaultValue.read type valueText.toList = .ok value) :
      DeclaredBy package (line,number) ⟨name,type,.member (some value),comment? line,number⟩

/-- The entry that a line with a number declares among the lines of a definition. -/
inductive EntryOf (package : String) (lines : List (List Char)) : List Char × Nat → PlacedEntry → Prop where
  | header {line : List Char} {number : Nat} {name : String}
      (declares : Declaration.read (declared line) = .ok (.enumeration name)) :
      EntryOf package lines (line,number)
        ⟨blankAbove lines number,.header ⟨name,comment? line,number,.ofList (Text.trim line)⟩⟩
  | constant {line : List Char} {number : Nat} {c : Field} (declares : DeclaredBy package (line,number) c)
      (kind : c.isConstant = true) :
      EntryOf package lines (line,number) ⟨blankAbove lines number,.constant ⟨c,.ofList (Text.trim line)⟩⟩
  | member {line : List Char} {number : Nat} {f : Field} (declares : DeclaredBy package (line,number) f)
      (kind : f.isConstant = false) :
      EntryOf package lines (line,number) ⟨blankAbove lines number,.member f⟩

theorem entry_of_line {package : String} {lines : List (List Char)} {line : List Char × Nat}
    {result : Except DefinitionError SourceLine} {e : PlacedEntry} (reads : ReadsAs lines line result)
    (entry : (result >>= SourceLine.placedEntry package) = .ok e) : EntryOf package lines line e := by
  obtain ⟨source,rfl,placed⟩ := bind_eq_ok.mp entry
  obtain ⟨e,read,rfl⟩ := map_eq_ok.mp placed
  unfold ReadsAs at reads
  cases declares : Declaration.read (declared line.1) with
  | error fault => simp [declares] at reads
  | ok d =>
    simp only [declares] at reads
    cases reads
    cases SourceLine.makes_of_entry read with
    | header made =>
      cases made
      exact .header declares
    | constant made typed whole =>
      cases made
      obtain ⟨p,bound,v,rfl,_,valued,rfl⟩ := Field.constant_eq_ok.mp whole
      exact .constant (.constant declares typed valued) rfl
    | @member _ _ defaultText type _ made typed whole =>
      cases made
      obtain ⟨_,v,valued,rfl⟩ := Field.member_eq_ok.mp whole
      refine .member ?_ rfl
      cases defaultText with
      | none =>
        cases valued
        exact .member declares typed
      | some valueText =>
        have mapped : (DefaultValue.read type valueText.toList).map some = .ok v := valued
        obtain ⟨value,single,rfl⟩ := map_eq_ok.mp mapped
        exact .memberWithDefault declares typed single

/-- The entries of lines that are read are what these lines declare, one for each line and in order. -/
theorem entries_of_results {package : String} {all : List (List Char)} {lines : List (List Char × Nat)}
    {results : List (Except DefinitionError SourceLine)} {es : List PlacedEntry}
    (reads : List.Forall₂ (ReadsAs all) lines results)
    (read : results.mapM (fun result => result >>= SourceLine.placedEntry package) = .ok es) :
    List.Forall₂ (EntryOf package all) lines es := by
  replace read := mapM_eq_ok.mp read
  induction reads generalizing es with
  | nil =>
    cases read
    exact .nil
  | cons first _ ih =>
    cases read with
    | cons entry entries => exact .cons (entry_of_line first entry) (ih entries)

/-- The entries of a definition are what its lines declare, one for each line and in order. -/
theorem entries_of_lines {package source : String} {es : List PlacedEntry}
    (read : PlacedEntry.readAll package source = .ok es) :
    List.Forall₂ (EntryOf package (Text.lines source.toList)) (declaring source) es :=
  entries_of_results (readAll_lines source) read

end MsgBindings
