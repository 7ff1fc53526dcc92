import Mathlib.Data.List.Destutter
import MsgBindings.Proofs.BareReading
import MsgBindings.Proofs.SourceLines

/-!
Definitions that differ in comments alone. Two texts with the same lines, once comments are cut and the blank lines
in a row are one, are read as the same message but for comments and lines, or refused for the same reason
(`read_of_uncommented`). Comment lines neither part a run of constants nor hide a blank line, and no comment says
anything.
-/
namespace MsgBindings

namespace SourceText

/-- What is left of a line without its comment. Of a line that is a comment alone nothing is, not even a blank
    line. -/
def content? (line : List Char) : Option (List Char) :=
  if (Text.trimStart line).head? = some '#' then none else some (declared line)

/-- Whether one of two lines in a row is not blank. -/
def Apart (a b : List Char) : Prop := a ≠ [] ∨ b ≠ []

instance : DecidableRel Apart := fun a b => inferInstanceAs (Decidable (a ≠ [] ∨ b ≠ []))

/-- The lines of a definition without comments, with one blank line for each run of them. -/
def uncommented (source : String) : List (List Char) :=
  ((Text.lines source.toList).filterMap content?).destutter Apart

theorem content?_of_blank {line : List Char} (empty : Text.trim line = []) : content? line = some [] := by
  have start : Text.trimStart line = [] := by
    rw [Text.trim_eq_nil] at empty
    exact List.dropWhile_eq_nil_iff.mpr empty
  unfold content?
  rw [start,declared_of_blank empty]
  rfl

theorem content?_of_declares {line : List Char} (something : declares line = true) :
    content? line = some (declared line) := by
  unfold content?
  rw [if_neg]
  intro mark
  obtain ⟨rest,start⟩ := List.head?_eq_some_iff.mp mark
  simp [declares,start] at something

/-- A line that is neither blank nor declares anything is a comment. -/
theorem content?_of_silent {line : List Char} (some : Text.trim line ≠ []) (silent : declares line = false) :
    content? line = none := by
  unfold content?
  rw [if_pos]
  cases start : Text.trimStart line with
  | nil => exact absurd (by rw [Text.trim,start]; rfl) some
  | cons c rest =>
    simp only [declares,start,bne_eq_false_iff_eq] at silent
    rw [silent]
    rfl

/-- What lines without comments say, where `blank` says whether a blank line is above them. -/
def sayings (blank : Bool) : List (List Char) → List (Except DefinitionError (Bool × Declaration))
  | [] => []
  | content :: rest =>
    if content = [] then sayings true rest
    else seen (fun declaration => (blank,declaration)) (Declaration.read content) :: sayings false rest

/-- Reading lines is reading what is left of them without comments. -/
theorem said_of_readFrom (number : Nat) (blank : Bool) (lines : List (List Char)) :
    (SourceLine.readFrom number blank lines).map (seen SourceLine.said) = sayings blank (lines.filterMap content?) := by
  induction lines generalizing number blank with
  | nil => rfl
  | cons line rest ih =>
    rw [SourceLine.readFrom,List.filterMap_cons]
    simp only [splitComment_trim,List.isEmpty_iff]
    by_cases empty : Text.trim line = []
    · rw [if_pos empty,content?_of_blank empty,ih]
      rfl
    · rw [if_neg empty]
      by_cases alone : declared line = []
      · have silent : declares line = false := by
          rw [← Bool.not_eq_true,declares_iff]
          exact fun something => something alone
        rw [if_pos alone,content?_of_silent empty silent,ih]
      · rw [if_neg alone,content?_of_declares ((declares_iff line).mpr alone),List.map_cons,ih]
        simp only [sayings,if_neg alone]
        congr 1
        cases Declaration.read (declared line) <;> simp [SourceLine.said]

/-- A blank line after another one says nothing new. -/
theorem sayings_destutter' (blank : Bool) (line : List Char) (rest : List (List Char)) :
    sayings blank (rest.destutter' Apart line) = sayings blank (line :: rest) := by
  induction rest generalizing blank line with
  | nil => rfl
  | cons next rest ih =>
    by_cases apart : Apart line next
    · rw [List.destutter'_cons_pos rest apart,sayings,sayings,ih,ih]
    · rw [List.destutter'_cons_neg rest apart,ih]
      obtain ⟨rfl,rfl⟩ : line = [] ∧ next = [] := by simpa [Apart,not_or] using apart
      simp [sayings]

theorem said_of_uncommented (source : String) :
    (SourceLine.readAll source).map (seen SourceLine.said) = sayings false (uncommented source) := by
  unfold SourceLine.readAll uncommented
  rw [said_of_readFrom]
  cases (Text.lines source.toList).filterMap content? with
  | nil => rfl
  | cons line rest => exact (sayings_destutter' false line rest).symm

end SourceText

namespace Message

/-- Two definitions that are the same without comments and repeated blank lines are both read or both refused. The
    messages are the same but for comments and lines, and so are the errors but for where they arose. -/
theorem read_of_uncommented (package name : String) {source source' : String}
    (same : SourceText.uncommented source = SourceText.uncommented source') :
    ((∃ m, Message.read package name source = .ok m) ↔ ∃ m', Message.read package name source' = .ok m') ∧
    (∀ m m', Message.read package name source = .ok m → Message.read package name source' = .ok m' →
      m.bare = m'.bare) ∧
    ∀ e e', Message.read package name source = .error e → Message.read package name source' = .error e' →
      e.root = e'.root := by
  apply agree_of_seen
  apply Message.seen_read
  rw [SourceText.said_of_uncommented,SourceText.said_of_uncommented,same]

/-- Comments with quotes, equals signs and number signs, in a run of constants and around a blank line, and an error
    on a line with and without a comment. -/
theorem read_of_uncommented_samples :
    let source := "# Pose = \"@enum\nuint8 MODE_IDLE=0 # a = 'b' # c\n# uint8 MODE_NONE=7\nuint8 MODE_BUSY=1\n" ++
      "\n # \"\n\t\nstring name \"a\" # a\n"
    let source' := "uint8 MODE_IDLE=0\n  uint8 MODE_BUSY=1\n\nstring name \"a\"\n"
    let m : Message := ⟨"test_msgs","Sample","Pose = \"@enum",
      [⟨"MODE_IDLE",.ofPrimitive .uint8,.constant (.integer 0),some "a = 'b' # c",2⟩,
        ⟨"MODE_BUSY",.ofPrimitive .uint8,.constant (.integer 1),none,4⟩,
        ⟨"name",.ofPrimitive .string,.member (some (.single (.string "a"))),some "a",8⟩],
      [⟨"Mode",.uint8,[⟨"MODE_IDLE",0,some "a = 'b' # c"⟩,⟨"MODE_BUSY",1,none⟩],none,false⟩]⟩
    SourceText.uncommented source = SourceText.uncommented source' ∧
    SourceText.uncommented "\nint32 # x\n" = SourceText.uncommented "#\n\n#\n\nint32\n" ∧
    Message.read "test_msgs" "Sample" source = .ok m ∧
    (∃ m', Message.read "test_msgs" "Sample" source' = .ok m' ∧ m.bare = m'.bare) ∧
    Message.read "test_msgs" "Sample" "\nint32 # x\n" =
      .error (.located 2 "int32 # x" (.field (.missingName "int32"))) ∧
    ∀ e', Message.read "test_msgs" "Sample" "#\n\n#\n\nint32\n" = .error e' → .field (.missingName "int32") = e'.root := by
  intro source source' m
  have same : SourceText.uncommented source = SourceText.uncommented source' := by decide +kernel
  have sameError : SourceText.uncommented "\nint32 # x\n" = SourceText.uncommented "#\n\n#\n\nint32\n" := by
    decide +kernel
  have read : Message.read "test_msgs" "Sample" source = .ok m := by decide +kernel
  have failed : Message.read "test_msgs" "Sample" "\nint32 # x\n" =
      .error (.located 2 "int32 # x" (.field (.missingName "int32"))) := by decide +kernel
  obtain ⟨both,messages,_⟩ := read_of_uncommented "test_msgs" "Sample" same
  obtain ⟨_,_,errors⟩ := read_of_uncommented "test_msgs" "Sample" sameError
  obtain ⟨m',read'⟩ := both.mp ⟨m,read⟩
  exact ⟨same,sameError,read,⟨m',read',messages m m' read read'⟩,failed,fun e' failed' => errors _ e' failed failed'⟩

end Message

end MsgBindings
