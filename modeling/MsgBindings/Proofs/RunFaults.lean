import Mathlib.Data.String.Basic
import MsgBindings.Proofs.WrittenFiles

/-!
Runs that fail. The files are read in one order (`Finds`), and the first of them that is refused beside those
before it ends the run; if none is, the first message without code does. Until then nothing is written, so a
run that ends there leaves the files as they are (`faults_of_run`).
-/
namespace MsgBindings

namespace PathText

/-- The paths of files in one directory have the order of their names. -/
theorem join_le_join (directory : String) {a b : String} (before : a ≤ b) : join directory a ≤ join directory b := by
  have appended : ∀ first : List Char, first ++ a.toList ≤ first ++ b.toList := by
    intro first
    rcases lt_or_eq_of_le (String.le_iff_toList_le.mp before) with less | same
    · exact le_of_lt (List.Lex.append_left _ less first)
    · rw [same]
  rw [String.le_iff_toList_le]
  unfold join
  split <;> simpa only [String.toList_append] using appended _

end PathText

namespace Batch

variable {c : Configuration} {t t' : FileTree} {package : String}

/-! ### The order of the files -/

/-- The second list holds the paths of the first one in their order, without those that came before. -/
inductive Firsts : List String → List String → Prop
  | nil : Firsts [] []
  | new {all kept : List String} {path : String} : Firsts all kept →
      (∀ other ∈ all, PathText.key other ≠ PathText.key path) → Firsts (all ++ [path]) (kept ++ [path])
  | repeated {all kept : List String} {path other : String} : Firsts all kept →
      other ∈ all → PathText.key other = PathText.key path → Firsts (all ++ [path]) kept

theorem withoutRepeats_append (seen : List (Bool × List String)) (paths : List String) (path : String) :
    withoutRepeats seen (paths ++ [path]) =
      withoutRepeats seen paths ++
        if seen.contains (PathText.key path) || paths.any (PathText.key · == PathText.key path) then []
        else [path] := by
  induction paths generalizing seen with
  | nil =>
    rw [List.nil_append,List.any_nil,Bool.or_false]
    simp only [withoutRepeats,List.nil_append]
  | cons first paths ih =>
    rw [List.cons_append,withoutRepeats,withoutRepeats,ih,ih]
    by_cases known : seen.contains (PathText.key first)
    · rw [if_pos known,if_pos known]
      -- A path that is the first one again has been seen as well.
      by_cases same : PathText.key first = PathText.key path
      · rw [← same,known]
        rfl
      · simp [same]
    · rw [if_neg known,if_neg known,List.cons_append,List.contains_cons,List.any_cons,
        Bool.beq_comm (a := PathText.key path),← Bool.or_assoc,Bool.or_comm (PathText.key first == _)]

theorem firsts_withoutRepeats (paths : List String) : Firsts paths (withoutRepeats [] paths) := by
  induction paths using List.reverseRecOn with
  | nil => exact .nil
  | append_singleton paths path ih =>
    rw [withoutRepeats_append]
    by_cases repeated : ∃ other ∈ paths, PathText.key other = PathText.key path
    · obtain ⟨other,member,same⟩ := repeated
      have found : (paths.any fun other => PathText.key other == PathText.key path) = true :=
        List.any_eq_true.mpr ⟨other,member,by simpa using same⟩
      rw [found,Bool.or_true,if_pos rfl,List.append_nil]
      exact .repeated ih member same
    · have absent : (paths.any fun other => PathText.key other == PathText.key path) = false := by
        simpa using repeated
      rw [absent,List.contains_nil,Bool.or_self,if_neg (by simp)]
      exact .new ih (by simpa using repeated)

/-- The message files of a directory in the order of their paths. -/
def Lists (t : FileTree) (directory : String) (found : List String) : Prop :=
  ∃ names, t.fileNames directory = .ok names ∧
    found.Perm ((names.filter PathText.isMessageFile).map (PathText.join directory)) ∧ found.Pairwise (· ≤ ·)

theorem lists_discovered {directory : String} {names : List String} (listed : t.fileNames directory = .ok names) :
    Lists t directory (discovered directory names) := by
  refine ⟨names,listed,(List.mergeSort_perm _ _).map _,?_⟩
  have sorted : ((names.filter PathText.isMessageFile).mergeSort fun a b => decide (a ≤ b)).Pairwise
      fun a b => decide (a ≤ b) = true := by
    apply List.pairwise_mergeSort
    · intro a b c first second
      simp only [decide_eq_true_eq] at first second ⊢
      exact le_trans first second
    · intro a b
      simpa using le_total a b
  unfold discovered
  refine sorted.map _ ?_
  intro a b before
  exact PathText.join_le_join directory (by simpa using before)

/-- The files of a run: those of its directory in order, then the others, none of them twice. -/
def Finds (c : Configuration) (t : FileTree) (paths : List String) : Prop :=
  ∃ found, (∀ directory, c.inputDirectory = some directory → Lists t directory found) ∧
    (c.inputDirectory = none → found = []) ∧ Firsts (found ++ c.inputFiles) paths

theorem inputPaths_apply (c : Configuration) (t : FileTree) :
    inputPaths FileTree.access c t =
      (match c.inputDirectory with
      | none => .ok (withoutRepeats [] c.inputFiles)
      | some directory =>
        match t.fileNames directory with
        | .error fault => .error (.file directory fault)
        | .ok names => .ok (withoutRepeats [] (discovered directory names ++ c.inputFiles)),t) := by
  unfold inputPaths
  cases c.inputDirectory with
  | none => rfl
  | some directory =>
    dsimp only
    rw [bind_apply]
    simp only [FileTree.access,FileTree.look]
    cases t.fileNames directory <;> rfl

theorem finds_inputPaths {paths : List String} (found : (inputPaths FileTree.access c t).1 = .ok paths) :
    Finds c t paths := by
  rw [inputPaths_apply] at found
  cases given : c.inputDirectory with
  | none =>
    simp only [given,Except.ok.injEq] at found
    subst found
    exact ⟨[],by simp [given],fun _ => rfl,firsts_withoutRepeats _⟩
  | some directory =>
    cases listed : t.fileNames directory with
    | error fault =>
      simp only [given,listed] at found
      cases found
    | ok names =>
      simp only [given,listed,Except.ok.injEq] at found
      subst found
      refine ⟨discovered directory names,?_,by simp [given],firsts_withoutRepeats _⟩
      intro other same
      obtain rfl : directory = other := Option.some.inj (given.symm.trans same)
      exact lists_discovered listed

/-! ### The first file that is refused -/

/-- The messages of files, no two of one name or of one module. -/
structure AreRead (package : String) (t : FileTree) (paths : List String) (sources : List SourceMessage) : Prop where
  each : List.Forall₂ (fun path source =>
    source.path = path ∧ Message.ofFile package path (t.read path) = .ok source.message) paths sources
  apart : sources.Pairwise fun a b =>
    a.message.name ≠ b.message.name ∧ moduleOf a.message ≠ moduleOf b.message

/-- Messages of one name have one module, so that two modules are two names. -/
theorem areRead_iff {paths : List String} {sources : List SourceMessage} :
    AreRead package t paths sources ↔
      List.Forall₂ (fun path source =>
        source.path = path ∧ Message.ofFile package path (t.read path) = .ok source.message) paths sources ∧
      ((sources.map SourceMessage.message).map moduleOf).Nodup := by
  rw [List.nodup_iff_pairwise_ne,List.pairwise_map,List.pairwise_map]
  constructor
  · rintro ⟨each,apart⟩
    exact ⟨each,apart.imp fun differ => differ.2⟩
  · rintro ⟨each,apart⟩
    refine ⟨each,apart.imp fun differ => ⟨?_,differ⟩⟩
    intro same
    exact differ (congrArg Target.moduleName same)

theorem readInputs_readAll {paths : List String} {sources : List SourceMessage} :
    (readInputs package [] (readAll t paths)).2 = .ok sources ↔ AreRead package t paths sources := by
  rw [readInputs_eq_ok (by simp),List.nil_append,areRead_iff]
  unfold readAll
  rw [List.forall₂_map_left_iff]

/-- Why a file is refused beside the messages before it. -/
inductive Refused (package : String) (before : List Message) (path : String) (content : Except FileFault String) :
    InputFault → Prop
  | unread {fault : InputFault} : Message.ofFile package path content = .error fault →
      Refused package before path content fault
  | sameName {m other : Message} : Message.ofFile package path content = .ok m →
      other ∈ before → other.name = m.name →
      Refused package before path content (.definition (.name m.name (.duplicate package)))
  | sameModule {m other : Message} : Message.ofFile package path content = .ok m →
      (∀ other ∈ before, other.name ≠ m.name) → other ∈ before → moduleOf other = moduleOf m →
      Refused package before path content (.definition (.name m.name (.moduleTaken (moduleOf m) other.name)))

section

variable {before : List Message} (apart : (before.map moduleOf).Nodup)

include apart

theorem nameFault?_eq_some {m : Message} {fault : NameFault} :
    nameFault? package before m = some fault ↔
      (∃ other ∈ before, other.name = m.name) ∧ fault = .duplicate package ∨
      (∀ other ∈ before, other.name ≠ m.name) ∧
        ∃ other ∈ before, moduleOf other = moduleOf m ∧ fault = .moduleTaken (moduleOf m) other.name := by
  unfold nameFault?
  by_cases taken : ∃ other ∈ before, other.name = m.name
  · have found : (before.any (·.name == m.name)) = true := by simpa using taken
    obtain ⟨other,member,same⟩ := taken
    rw [if_pos found]
    constructor
    · rintro ⟨⟩
      exact .inl ⟨⟨other,member,same⟩,rfl⟩
    · rintro (⟨_,rfl⟩ | ⟨free,_⟩)
      · rfl
      · exact absurd same (free other member)
  · have absent : ¬ (before.any (·.name == m.name)) = true := by simpa using taken
    have free : ∀ other ∈ before, other.name ≠ m.name := by simpa using taken
    rw [if_neg absent]
    simp only [taken,false_and,false_or,Option.map_eq_some_iff]
    constructor
    · rintro ⟨other,found,rfl⟩
      have same : moduleOf other = moduleOf m := by simpa [moduleOf] using List.find?_some found
      exact ⟨free,other,List.mem_of_find?_eq_some found,same,rfl⟩
    · rintro ⟨_,other,member,same,rfl⟩
      -- Something is found, and only one message before has this module.
      obtain ⟨first,found⟩ := Option.isSome_iff_exists.mp
        (List.find?_isSome (p := fun other => Target.moduleName other.name == Target.moduleName m.name) |>.mpr
          ⟨other,member,by simpa [moduleOf] using same⟩)
      have sameFirst : moduleOf first = moduleOf m := by simpa [moduleOf] using List.find?_some found
      obtain rfl : first = other := List.inj_on_of_nodup_map apart (List.mem_of_find?_eq_some found) member
        (sameFirst.trans same.symm)
      exact ⟨first,found,rfl⟩

theorem readInput_eq_error {path : String} {content : Except FileFault String} {fault : InputFault} :
    readInput package before path content = .error fault ↔ Refused package before path content fault := by
  unfold readInput
  rw [bind_eq_error]
  constructor
  · rintro (unread | ⟨m,read,refused⟩)
    · exact .unread unread
    · split at refused
      · rename_i taken
        obtain rfl := throw_eq_error.mp refused
        rcases (nameFault?_eq_some apart).mp taken with ⟨⟨other,member,same⟩,rfl⟩ | ⟨free,other,member,same,rfl⟩
        · exact .sameName read member same
        · exact .sameModule read free member same
      · cases refused
  · rintro (unread | ⟨read,member,same⟩ | ⟨read,free,member,same⟩)
    · exact .inl unread
    · refine .inr ⟨_,read,?_⟩
      rw [(nameFault?_eq_some apart).mpr (.inl ⟨⟨_,member,same⟩,rfl⟩)]
      rfl
    · refine .inr ⟨_,read,?_⟩
      rw [(nameFault?_eq_some apart).mpr (.inr ⟨free,_,member,same,rfl⟩)]
      rfl

omit apart in
theorem readInputs_cons_error {path : String} {content : Except FileFault String}
    {rest : List (String × Except FileFault String)} {e : BatchError} :
    (readInputs package before ((path,content) :: rest)).2 = .error e ↔
      (∃ fault, readInput package before path content = .error fault ∧ e = .parse path fault) ∨
      ∃ m, readInput package before path content = .ok m ∧
        (readInputs package (before ++ [m]) rest).2 = .error e := by
  rw [readInputs]
  cases readInput package before path content with
  | error fault => simp [eq_comm]
  | ok m => simp

/-- Reading files fails at the first one that is refused beside the messages of those before it. -/
theorem readInputs_eq_error {paths : List String} {e : BatchError} :
    (readInputs package before (readAll t paths)).2 = .error e ↔
      ∃ first path rest fault sources, paths = first ++ path :: rest ∧
        List.Forall₂ (fun path source =>
          source.path = path ∧ Message.ofFile package path (t.read path) = .ok source.message) first sources ∧
        ((before ++ sources.map SourceMessage.message).map moduleOf).Nodup ∧
        Refused package (before ++ sources.map SourceMessage.message) path (t.read path) fault ∧
        e = .parse path fault := by
  induction paths generalizing before with
  | nil => simp [readAll,readInputs]
  | cons path rest ih =>
    rw [readAll,List.map_cons,readInputs_cons_error]
    simp only [readInput_eq_error apart,readInput_eq_ok apart]
    constructor
    · rintro (⟨fault,refused,rfl⟩ | ⟨m,⟨read,next⟩,fails⟩)
      · exact ⟨[],path,rest,fault,[],rfl,.nil,by simpa using apart,by simpa using refused,rfl⟩
      · obtain ⟨first,path',rest',fault,sources,rfl,reads,distinct,refused,rfl⟩ := (ih next).mp fails
        rw [List.append_assoc] at distinct refused
        exact ⟨path :: first,path',rest',fault,⟨path,m⟩ :: sources,rfl,.cons ⟨rfl,read⟩ reads,distinct,refused,rfl⟩
    · rintro ⟨first,path',rest',fault,sources,split,reads,distinct,refused,rfl⟩
      cases reads with
      | nil =>
        obtain ⟨rfl,rfl⟩ := List.cons.inj split
        rw [List.map_nil,List.append_nil] at refused
        exact .inl ⟨fault,refused,rfl⟩
      | @cons _ source first sources here reads =>
        obtain ⟨rfl,rfl⟩ := List.cons.inj split
        have parts : before ++ (source :: sources).map SourceMessage.message =
            (before ++ [source.message]) ++ sources.map SourceMessage.message := by simp
        rw [parts] at distinct refused
        have next : ((before ++ [source.message]).map moduleOf).Nodup := by
          rw [List.map_append] at distinct
          exact (List.nodup_append.mp distinct).1
        exact .inr ⟨source.message,⟨here.2,next⟩,
          (ih next).mpr ⟨first,path',rest',fault,sources,rfl,reads,distinct,refused,rfl⟩⟩

end

/-! ### Runs -/

/-- An error is that of a file if it comes while files are written. -/
theorem writeAll_eq_error {contents : List (String × String)} {e : BatchError}
    (wrote : (writeAll FileTree.access contents t).1 = .error e) : ∃ path fault, e = .file path fault := by
  induction contents generalizing t with
  | nil => cases wrote
  | cons entry rest ih =>
    obtain ⟨path,content⟩ := entry
    rw [writeAll,bind_apply] at wrote
    cases written : (FileTree.access.write path content t).1 with
    | error fault =>
      rw [written] at wrote
      cases wrote
      exact ⟨path,fault,rfl⟩
    | ok _ =>
      rw [written] at wrote
      exact ih wrote

theorem store_eq_error {directory : String} {contents : List (String × String)} {e : BatchError}
    (stored : (store FileTree.access directory contents t).1 = .error e) : ∃ path fault, e = .file path fault := by
  unfold store at stored
  rw [bind_apply] at stored
  cases made : (FileTree.access.makeDirectories directory t).1 with
  | error fault =>
    rw [made] at stored
    cases stored
    exact ⟨directory,fault,rfl⟩
  | ok _ =>
    rw [made] at stored
    exact writeAll_eq_error stored

/-- The errors of a run that come before it writes anything. -/
inductive BeforeWriting (c : Configuration) (t : FileTree) : BatchError → Prop
  | configuration (fault : ConfigurationFault) : BeforeWriting c t (.configuration fault)
  | listing {directory : String} {fault : FileFault} : c.inputDirectory = some directory →
      t.fileNames directory = .error fault → BeforeWriting c t (.file directory fault)
  | parse (path : String) (fault : InputFault) : BeforeWriting c t (.parse path fault)
  | generate (path : String) (fault : GenerationFault) : BeforeWriting c t (.generate path fault)

/-- A run that fails before it writes anything leaves the files as they are. -/
theorem run_keeps {e : BatchError} (failed : (run FileTree.access c t).1.result = .error e)
    (early : BeforeWriting c t e) : (run FileTree.access c t).2 = t := by
  obtain ⟨announced,ran⟩ := run_apply c t
  rw [ran] at failed ⊢
  split at failed
  · rfl
  rename_i destination checked
  split at failed
  · rfl
  · rfl
  rename_i first rest found
  split at failed
  · rfl
  -- What fails from here on is writing, and the directory has been listed.
  obtain ⟨path,fault,rfl⟩ := store_eq_error failed
  cases early with
  | listing given unlisted =>
    rw [inputPaths_apply] at found
    simp only [given,unlisted] at found
    cases found

section

variable {destination : Destination} {paths : List String} (checked : c.check = .ok destination)
  (found : (inputPaths FileTree.access c t).1 = .ok paths)

include checked found

/-- Once the files of a run are found, it fails for what is in them exactly if they do not compile. -/
theorem result_eq_error {e : BatchError} (configured : ∀ fault, e ≠ .configuration fault)
    (accessible : ∀ path fault, e ≠ .file path fault) :
    (run FileTree.access c t).1.result = .error e ↔ (compile c destination (readAll t paths)).2 = .error e := by
  obtain ⟨announced,ran⟩ := run_apply c t
  rw [ran]
  simp only [checked,found]
  cases paths with
  | nil =>
    -- No file is read, and that compiles.
    have compiled : (compile c destination (readAll t [])).2 =
        .ok (outputs c.style destination.outputDirectory []) := rfl
    rw [compiled]
    constructor
    · intro failed
      exact absurd (Except.error.inj failed).symm (configured .inputMissing)
    · intro failed
      cases failed
  | cons path rest =>
    cases compiled : (compile c destination (readAll t (path :: rest))).2 with
    | error e' => simp only [compiled,Except.error.injEq]
    | ok contents =>
      simp only [compiled,reduceCtorEq,iff_false]
      intro failed
      obtain ⟨path,fault,same⟩ := store_eq_error failed
      exact accessible path fault same

end

/-- What compiles fails with is the fault of a file, or that of a message when all files are read. -/
theorem compile_eq_error {destination : Destination} {inputs : List (String × Except FileFault String)}
    {e : BatchError} :
    (compile c destination inputs).2 = .error e ↔
      (readInputs destination.package [] inputs).2 = .error e ∨
      ∃ sources, (readInputs destination.package [] inputs).2 = .ok sources ∧
        generateAll c.style (indexOf destination.package c.externals (sources.map (·.message))) sources =
          .error e := by
  unfold compile
  simp only [bind_eq_error,pure_ne_error,and_false,exists_false,or_false]

theorem generateAll_eq_error {style : Style} {index : PackageIndex} {sources : List SourceMessage} {e : BatchError} :
    generateAll style index sources = .error e ↔
      ∃ before source after fault, sources = before ++ source :: after ∧
        (∀ other ∈ before, ∃ g, other.message.generate style index = .ok g) ∧
        source.message.generate style index = .error fault ∧ e = .generate source.path fault := by
  unfold generateAll
  rw [mapM_eq_error]
  simp only [mapM_eq_ok,mapError_eq_ok,mapError_eq_error]
  constructor
  · rintro ⟨before,source,after,modules,rfl,made,fault,fails,rfl⟩
    refine ⟨before,source,after,fault,rfl,?_,fails,rfl⟩
    intro other member
    obtain ⟨g,_,here⟩ := exists_of_mem_right made.flip member
    exact ⟨g,here⟩
  · rintro ⟨before,source,after,fault,rfl,each,fails,rfl⟩
    obtain ⟨modules,made⟩ := exists_forall₂ each
    exact ⟨before,source,after,modules,rfl,made,fault,fails,rfl⟩

section

variable {destination : Destination} {paths : List String}

theorem compile_eq_parse {path : String} {fault : InputFault} :
    (compile c destination (readAll t paths)).2 = .error (.parse path fault) ↔
      ∃ before after sources, paths = before ++ path :: after ∧ AreRead destination.package t before sources ∧
        Refused destination.package (sources.map (·.message)) path (t.read path) fault := by
  rw [compile_eq_error,readInputs_eq_error (by simp)]
  simp only [List.nil_append,generateAll_eq_error,areRead_iff]
  constructor
  · rintro (⟨before,_,after,_,sources,rfl,each,distinct,refused,⟨⟩⟩ | ⟨_,_,_,_,_,_,_,_,_,⟨⟩⟩)
    exact ⟨before,after,sources,rfl,⟨each,distinct⟩,refused⟩
  · rintro ⟨before,after,sources,rfl,⟨each,distinct⟩,refused⟩
    exact .inl ⟨before,path,after,fault,sources,rfl,each,distinct,refused,rfl⟩

theorem compile_eq_generate {path : String} {fault : GenerationFault} :
    (compile c destination (readAll t paths)).2 = .error (.generate path fault) ↔
      ∃ before source after, AreRead destination.package t paths (before ++ source :: after) ∧ source.path = path ∧
        let index := indexOf destination.package c.externals ((before ++ source :: after).map (·.message))
        (∀ other ∈ before, ∃ g, other.message.generate c.style index = .ok g) ∧
          source.message.generate c.style index = .error fault := by
  rw [compile_eq_error,readInputs_eq_error (by simp)]
  simp only [readInputs_readAll,generateAll_eq_error]
  constructor
  · rintro (⟨_,_,_,_,_,_,_,_,_,⟨⟩⟩ | ⟨_,read,before,source,after,_,rfl,made,fails,⟨⟩⟩)
    exact ⟨before,source,after,read,rfl,made,fails⟩
  · rintro ⟨before,source,after,read,rfl,made,fails⟩
    exact .inr ⟨_,read,before,source,after,fault,rfl,made,fails,rfl⟩

end

/-- A run that fails for its configuration, for what is in a file or for a message, or because its directory cannot
    be listed, leaves all files as they are. Once its files are found, the fault of a file is that of the first one
    which is refused beside those before it, and the fault of a message is that of the first one without code, when
    no file is refused. -/
theorem faults_of_run (c : Configuration) (t : FileTree) :
    (∀ e, (run FileTree.access c t).1.result = .error e → BeforeWriting c t e → (run FileTree.access c t).2 = t) ∧
    ∀ destination paths, c.check = .ok destination → (inputPaths FileTree.access c t).1 = .ok paths →
      Finds c t paths ∧
      (∀ path fault, (run FileTree.access c t).1.result = .error (.parse path fault) ↔
        ∃ before after sources, paths = before ++ path :: after ∧ AreRead destination.package t before sources ∧
          Refused destination.package (sources.map (·.message)) path (t.read path) fault) ∧
      ∀ path fault, (run FileTree.access c t).1.result = .error (.generate path fault) ↔
        ∃ before source after, AreRead destination.package t paths (before ++ source :: after) ∧
          source.path = path ∧
          let index := indexOf destination.package c.externals ((before ++ source :: after).map (·.message))
          (∀ other ∈ before, ∃ g, other.message.generate c.style index = .ok g) ∧
            source.message.generate c.style index = .error fault := by
  refine ⟨fun e failed early => run_keeps failed early,?_⟩
  intro destination paths checked found
  refine ⟨finds_inputPaths found,fun path fault => ?_,fun path fault => ?_⟩
  · rw [result_eq_error checked found (by simp) (by simp)]
    exact compile_eq_parse
  · rw [result_eq_error checked found (by simp) (by simp)]
    exact compile_eq_generate

/-- Two runs over a directory, the second one after its last file has been corrected. -/
theorem faults_of_run_in_directory :
    let c := { Configuration.empty with
      package := some "test_msgs"
      outputDirectory := some "out"
      inputDirectory := some "msg"
      inputFiles := ["msg//Last.msg"] }
    let tree (last : String) : FileTree := ⟨[(["msg"],.directory),(["msg","Last.msg"],.text last),
      (["msg","Holder.msg"],.text "Missing m\n")]⟩
    let refused : BatchError := .parse "msg/Last.msg" (.definition (.located 1 "int32" (.field (.missingName "int32"))))
    let unresolved : BatchError := .generate "msg/Holder.msg" (.unresolved "Missing" "m" "Holder")
    (run FileTree.access c (tree "int32\n")).1.result = .error refused ∧
      (run FileTree.access c (tree "int32\n")).2 = tree "int32\n" ∧
      (run FileTree.access c (tree "int32 x\n")).1.result = .error unresolved ∧
      (run FileTree.access c (tree "int32 x\n")).2 = tree "int32 x\n" ∧
      Finds c (tree "int32 x\n") ["msg/Holder.msg","msg/Last.msg"] := by
  intro c tree refused unresolved
  let holder : SourceMessage := ⟨"msg/Holder.msg","test_msgs","Holder","",
    [⟨"m",⟨.message none "Missing",none⟩,.member none,none,1⟩],[]⟩
  let last : SourceMessage := ⟨"msg/Last.msg","test_msgs","Last","",
    [⟨"x",.ofPrimitive .int32,.member none,none,1⟩],[]⟩
  have checked : c.check = .ok ⟨"test_msgs","out"⟩ := by decide +kernel
  have sorted : discovered "msg" ["Last.msg","Holder.msg"] = ["msg/Holder.msg","msg/Last.msg"] := by
    have all : ["Last.msg","Holder.msg"].filter PathText.isMessageFile = ["Last.msg","Holder.msg"] := by
      decide +kernel
    have joined : ["Holder.msg","Last.msg"].map (PathText.join "msg") = ["msg/Holder.msg","msg/Last.msg"] := by
      decide +kernel
    rw [discovered,all,← joined]
    simp [List.mergeSort,List.MergeSort.Internal.splitInTwo]
  have paths : withoutRepeats [] (["msg/Holder.msg","msg/Last.msg"] ++ c.inputFiles) =
      ["msg/Holder.msg","msg/Last.msg"] := by decide +kernel
  have listed : ∀ text ∈ ["int32\n","int32 x\n"], (tree text).fileNames "msg" = .ok ["Last.msg","Holder.msg"] := by
    decide +kernel
  have found : ∀ text ∈ ["int32\n","int32 x\n"],
      (inputPaths FileTree.access c (tree text)).1 = .ok ["msg/Holder.msg","msg/Last.msg"] := by
    intro text member
    rw [inputPaths_apply]
    simp only [c,listed text member,sorted]
    exact congrArg Except.ok paths
  obtain ⟨keeps,faults⟩ := faults_of_run c (tree "int32\n")
  obtain ⟨keeps',faults'⟩ := faults_of_run c (tree "int32 x\n")
  obtain ⟨_,parses,_⟩ := faults _ _ checked (found _ (by simp))
  obtain ⟨finds,_,generates⟩ := faults' _ _ checked (found _ (by simp))
  have failed : (run FileTree.access c (tree "int32\n")).1.result = .error refused :=
    (parses _ _).mpr ⟨["msg/Holder.msg"],[],[holder],rfl,⟨.cons (by decide +kernel) .nil,by simp⟩,
      .unread (by decide +kernel)⟩
  have failed' : (run FileTree.access c (tree "int32 x\n")).1.result = .error unresolved :=
    (generates _ _).mpr ⟨[],holder,[last],⟨.cons (by decide +kernel) (.cons (by decide +kernel) .nil),by decide +kernel⟩,
      rfl,by simp,by decide +kernel⟩
  exact ⟨failed,keeps _ failed (.parse _ _),failed',keeps' _ failed' (.generate _ _),finds⟩

end Batch

end MsgBindings
