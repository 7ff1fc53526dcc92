import Mathlib.Data.List.Nodup
import MsgBindings.Batch
import MsgBindings.Proofs.CodeEndings
import MsgBindings.Proofs.FileTrees
import MsgBindings.Proofs.ModuleNames

/-!
What a run leaves in its output directory. The files of the messages are written one after the other,
no two of them to one path, and the declarations of the modules come last. So each file holds its code
in the end, but for the module `r#mod`, whose file is that of the declarations (`files_of_run`).
-/
namespace MsgBindings

namespace Batch

/-! ### Reading and generating -/

theorem nameFault?_eq_none {package : String} {before : List Message} {m : Message} :
    nameFault? package before m = none ↔
      ∀ other ∈ before, other.name ≠ m.name ∧ Target.moduleName other.name ≠ Target.moduleName m.name := by
  unfold nameFault?
  split
  · rename_i taken
    obtain ⟨other,member,same⟩ := List.any_eq_true.mp taken
    simp only [reduceCtorEq,false_iff]
    intro apart
    exact (apart other member).1 (by simpa using same)
  · rename_i free
    simp only [List.any_eq_true,beq_iff_eq,not_exists,not_and] at free
    simp only [Option.map_eq_none_iff,List.find?_eq_none,beq_iff_eq]
    constructor
    · intro apart other member
      exact ⟨free other member,apart other member⟩
    · intro apart other member
      exact (apart other member).2

def moduleOf (m : Message) : String := Target.moduleName m.name

section

variable {package : String} {before : List Message} (apart : (before.map moduleOf).Nodup)

include apart

/-- A file can be read beside messages exactly if it holds a message, and none of them has its module. -/
theorem readInput_eq_ok {path : String} {content : Except FileFault String} {m : Message} :
    readInput package before path content = .ok m ↔
      Message.ofFile package path content = .ok m ∧ ((before ++ [m]).map moduleOf).Nodup := by
  have free : nameFault? package before m = none ↔ ((before ++ [m]).map moduleOf).Nodup := by
    rw [nameFault?_eq_none,List.map_append,List.nodup_append]
    simp only [apart,List.map_cons,List.map_nil,List.nodup_singleton,List.mem_map,List.mem_singleton,true_and,
      forall_exists_index,and_imp,forall_apply_eq_imp_iff₂,forall_eq]
    -- Messages of one name have one module.
    refine forall₂_congr fun other _ => ⟨fun free => free.2,fun free => ⟨?_,free⟩⟩
    intro same
    exact free (congrArg Target.moduleName same)
  unfold readInput
  rw [bind_eq_ok,← free]
  constructor
  · rintro ⟨m',file,made⟩
    split at made
    · cases made
    · cases made
      exact ⟨file,‹_›⟩
  · rintro ⟨file,free⟩
    exact ⟨m,file,by simp only [free,pure_eq_ok]⟩

omit apart in
theorem readInputs_cons {path : String} {content : Except FileFault String}
    {rest : List (String × Except FileFault String)} {sources : List SourceMessage} :
    (readInputs package before ((path,content) :: rest)).2 = .ok sources ↔
      ∃ m, readInput package before path content = .ok m ∧
        ∃ others, (readInputs package (before ++ [m]) rest).2 = .ok others ∧ ⟨path,m⟩ :: others = sources := by
  rw [readInputs]
  cases readInput package before path content with
  | error fault => simp
  | ok m => simp

/-- Reading inputs succeeds exactly if each of them is the message of its file, and no two of them have one
    module. -/
theorem readInputs_eq_ok {inputs : List (String × Except FileFault String)} {sources : List SourceMessage} :
    (readInputs package before inputs).2 = .ok sources ↔
      List.Forall₂ (fun input source =>
        source.path = input.1 ∧ Message.ofFile package input.1 input.2 = .ok source.message) inputs sources ∧
      ((before ++ sources.map SourceMessage.message).map moduleOf).Nodup := by
  induction inputs generalizing before sources with
  | nil =>
    rw [readInputs,List.forall₂_nil_left_iff]
    constructor
    · rintro ⟨⟩
      exact ⟨rfl,by simpa using apart⟩
    · rintro ⟨rfl,_⟩
      rfl
  | cons input rest ih =>
    obtain ⟨path,content⟩ := input
    rw [readInputs_cons,List.forall₂_cons_left_iff]
    constructor
    · rintro ⟨m,made,others,read,rfl⟩
      obtain ⟨file,apart⟩ := (readInput_eq_ok apart).mp made
      obtain ⟨files,distinct⟩ := (ih apart).mp read
      exact ⟨⟨_,others,⟨rfl,file⟩,files,rfl⟩,by simpa using distinct⟩
    · rintro ⟨⟨source,others,⟨rfl,file⟩,files,rfl⟩,distinct⟩
      have split : before ++ (source :: others).map SourceMessage.message =
          (before ++ [source.message]) ++ others.map SourceMessage.message := by simp
      rw [split] at distinct
      have first : ((before ++ [source.message]).map moduleOf).Nodup := by
        rw [List.map_append] at distinct
        exact (List.nodup_append.mp distinct).1
      exact ⟨source.message,(readInput_eq_ok apart).mpr ⟨file,first⟩,others,(ih first).mpr ⟨files,distinct⟩,rfl⟩

end

/-! ### Writing -/

section

variable {α β : Type}

theorem bind_apply (x : StateM FileTree α) (f : α → StateM FileTree β) (t : FileTree) :
    (x >>= f) t = f (x t).1 (x t).2 := rfl

theorem pure_apply (a : α) (t : FileTree) : (pure a : StateM FileTree α) t = (a,t) := rfl

end

variable {t t' : FileTree}

theorem writeAll_cons {path content : String} {rest : List (String × String)} :
    writeAll FileTree.access ((path,content) :: rest) t = (.ok (),t') ↔
      ∃ t₁, t.write path content = (t₁,.ok ()) ∧ writeAll FileTree.access rest t₁ = (.ok (),t') := by
  have first : writeAll FileTree.access ((path,content) :: rest) t =
      match t.write path content with
      | (t₁,.ok ()) => writeAll FileTree.access rest t₁
      | (t₁,.error fault) => (.error (.file path fault),t₁) := by
    rw [writeAll]
    simp only [bind,StateT.bind,FileTree.access,FileTree.act]
    rcases t.write path content with ⟨t₁,fault | _⟩ <;> rfl
  rw [first]
  rcases t.write path content with ⟨t₁,fault | _⟩
  · constructor
    · intro same
      cases same
    · rintro ⟨_,wrote,_⟩
      cases wrote
  · constructor
    · intro wrote
      exact ⟨t₁,rfl,wrote⟩
    · rintro ⟨_,wrote,rest⟩
      cases wrote
      exact rest

theorem writeAll_append {first rest : List (String × String)} :
    writeAll FileTree.access (first ++ rest) t = (.ok (),t') ↔
      ∃ t₁, writeAll FileTree.access first t = (.ok (),t₁) ∧ writeAll FileTree.access rest t₁ = (.ok (),t') := by
  induction first generalizing t with
  | nil =>
    constructor
    · intro wrote
      exact ⟨t,rfl,wrote⟩
    · rintro ⟨_,wrote,rest⟩
      cases wrote
      exact rest
  | cons entry first ih =>
    obtain ⟨path,content⟩ := entry
    rw [List.cons_append,writeAll_cons]
    simp only [ih,writeAll_cons]
    constructor
    · rintro ⟨t₁,wrote,t₂,firsts,rests⟩
      exact ⟨t₂,⟨t₁,wrote,firsts⟩,rests⟩
    · rintro ⟨t₂,⟨t₁,wrote,firsts⟩,rests⟩
      exact ⟨t₁,wrote,t₂,firsts,rests⟩

/-- Files of a directory with their texts, by their paths. -/
def inDirectory (directory : String) (files : List (String × String)) : List (String × String) :=
  files.map fun file => (PathText.join directory file.1,file.2)

theorem holds_of_writeAll_other {directory name content : String} {files : List (String × String)}
    (holds : t.Holds directory name content) (apart : ∀ file ∈ files, PathText.IsName file.1 ∧ name ≠ file.1)
    (wrote : writeAll FileTree.access (inDirectory directory files) t = (.ok (),t')) :
    t'.Holds directory name content := by
  induction files generalizing t with
  | nil =>
    cases wrote
    exact holds
  | cons file files ih =>
    simp only [List.mem_cons,forall_eq_or_imp] at apart
    obtain ⟨⟨isName,other⟩,apart⟩ := apart
    obtain ⟨t₁,first,rest⟩ := writeAll_cons.mp wrote
    exact ih (FileTree.holds_of_write_other holds isName other first) apart rest

/-- A file can be read after it and files of other names have been written. -/
theorem read_of_writeAll {directory name content : String} {before after : List (String × String)}
    (isName : PathText.IsName name) (apart : ∀ file ∈ after, PathText.IsName file.1 ∧ name ≠ file.1)
    (wrote : writeAll FileTree.access (inDirectory directory (before ++ (name,content) :: after)) t = (.ok (),t')) :
    t'.read (PathText.join directory name) = .ok content := by
  unfold inDirectory at wrote
  rw [List.map_append,List.map_cons] at wrote
  obtain ⟨t₁,_,rest⟩ := writeAll_append.mp wrote
  obtain ⟨t₂,here,later⟩ := writeAll_cons.mp rest
  have holds := holds_of_writeAll_other (FileTree.holds_of_write isName here) apart later
  obtain ⟨last,_,good,lastPart,_,_,_,_,_,short,_⟩ := FileTree.write_eq_ok.mp here
  rw [PathText.parts_join isName] at lastPart
  obtain rfl : name = last := by simpa using lastPart
  exact FileTree.read_of_holds holds isName good short

/-! ### Runs -/

theorem inputPaths_keeps (c : Configuration) (t : FileTree) : (inputPaths FileTree.access c t).2 = t := by
  unfold inputPaths
  cases c.inputDirectory with
  | none => rfl
  | some directory =>
    simp only [bind,StateT.bind,FileTree.access,FileTree.look]
    cases t.fileNames directory <;> rfl

def readAll (t : FileTree) (paths : List String) : List (String × Except FileFault String) :=
  paths.map fun path => (path,t.read path)

/-- Reading the files of a run changes nothing. -/
theorem mapM_read (paths : List String) (t : FileTree) :
    (paths.mapM fun path => do return (path,← FileTree.access.read path) : StateM FileTree _) t =
      (readAll t paths,t) := by
  induction paths with
  | nil => rfl
  | cons path paths ih =>
    rw [List.mapM_cons]
    have kept : (FileTree.access.read path t).2 = t := rfl
    simp only [bind_apply,pure_apply,kept,ih]
    rfl

theorem store_eq_ok {directory : String} {contents : List (String × String)}
    (stored : store FileTree.access directory contents t = (.ok (),t')) :
    ∃ t₁, writeAll FileTree.access contents t₁ = (.ok (),t') := by
  simp only [store,bind,StateT.bind,FileTree.access,FileTree.act] at stored
  rcases made : t.makeDirectories directory with ⟨t₁,fault | _⟩
  · rw [made] at stored
    cases stored
  · rw [made] at stored
    exact ⟨t₁,stored⟩

/-- What a run comes to: it only looks at the files until all contents are there to be written. -/
theorem run_apply (c : Configuration) (t : FileTree) :
    ∃ announced, run FileTree.access c t =
      match c.check with
      | .error fault => (⟨announced,.error (.configuration fault)⟩,t)
      | .ok destination =>
        match (inputPaths FileTree.access c t).1 with
        | .error e => (⟨announced,.error e⟩,t)
        | .ok [] => (⟨announced,.error (.configuration .inputMissing)⟩,t)
        | .ok (path :: paths) =>
          match (compile c destination (readAll t (path :: paths))).2 with
          | .error e => (⟨announced,.error e⟩,t)
          | .ok contents =>
            let stored := store FileTree.access destination.outputDirectory contents t
            (⟨announced,stored.1⟩,stored.2) := by
  cases checked : c.check with
  | error fault =>
    refine ⟨[],?_⟩
    unfold run
    rw [checked]
    rfl
  | ok destination =>
    have kept := inputPaths_keeps c t
    unfold run
    simp only [checked]
    unfold runChecked
    rw [bind_apply,kept]
    rcases (inputPaths FileTree.access c t).1 with e | _ | ⟨path,paths⟩
    · exact ⟨[],rfl⟩
    · exact ⟨[],rfl⟩
    · have inputs := mapM_read (path :: paths) t
      simp only [bind_apply,inputs]
      cases (compile c destination (readAll t (path :: paths))).2 with
      | error e => exact ⟨_,rfl⟩
      | ok contents => exact ⟨_,rfl⟩

/-- A run that succeeds reads its files and writes what they compile to. -/
theorem run_eq_ok {c : Configuration} {announced : List String}
    (ran : run FileTree.access c t = (⟨announced,.ok ()⟩,t')) :
    ∃ destination paths contents t₁, c.check = .ok destination ∧ inputPaths FileTree.access c t = (.ok paths,t) ∧
      paths ≠ [] ∧ (compile c destination (readAll t paths)).2 = .ok contents ∧
      writeAll FileTree.access contents t₁ = (.ok (),t') := by
  obtain ⟨_,eq⟩ := run_apply c t
  rw [ran] at eq
  split at eq
  · cases eq
  rename_i destination checked
  split at eq
  · cases eq
  · cases eq
  rename_i path paths found
  split at eq
  · cases eq
  rename_i contents compiled
  obtain ⟨report,tree⟩ := Prod.mk.inj eq
  obtain ⟨t₁,wrote⟩ := store_eq_ok (Prod.ext (Report.mk.inj report).2.symm tree.symm)
  exact ⟨destination,path :: paths,contents,t₁,checked,Prod.ext found (inputPaths_keeps c t),by simp,compiled,wrote⟩

/-! ### What a run leaves -/

/-- What compiles is a file for each message, and one that declares the modules. -/
theorem compile_eq_ok {c : Configuration} {destination : Destination}
    {inputs : List (String × Except FileFault String)} {contents : List (String × String)}
    (compiled : (compile c destination inputs).2 = .ok contents) :
    ∃ messages modules,
      List.Forall₂ (fun input m => Message.ofFile destination.package input.1 input.2 = .ok m) inputs messages ∧
      (messages.map moduleOf).Nodup ∧
      List.Forall₂ (fun (m : Message) g =>
        m.generate c.style (indexOf destination.package c.externals messages) = .ok g) messages modules ∧
      contents = outputs c.style destination.outputDirectory modules := by
  unfold compile at compiled
  simp only [bind_eq_ok,pure_eq_ok] at compiled
  obtain ⟨sources,read,modules,generated,rfl⟩ := compiled
  obtain ⟨files,distinct⟩ := (readInputs_eq_ok (by simp)).mp read
  refine ⟨sources.map SourceMessage.message,modules,?_,by simpa using distinct,?_,rfl⟩
  · rw [List.forall₂_map_right_iff]
    exact files.imp fun _ _ file => file.2
  · rw [List.forall₂_map_left_iff]
    unfold generateAll at generated
    simpa only [mapM_eq_ok,mapError_eq_ok] using generated

theorem isName_fileName (name : String) : PathText.IsName (Target.fileName (Target.identifier name)) := by
  obtain ⟨stem,file⟩ := Target.fileName_ends name
  have long : ∀ text : String, text.length < 3 → Target.fileName (Target.identifier name) ≠ text := by
    rintro _ short rfl
    rw [file,String.length_append] at short
    have ending : ".rs".length = 3 := by decide
    omega
  exact ⟨long _ (by decide),Target.fileName_solid name,long _ (by decide),long _ (by decide)⟩

theorem isName_mod : PathText.IsName "mod.rs" := ⟨by decide,by decide,by decide,by decide⟩

section

variable {style : Style} {index : PackageIndex} {messages : List Message} {modules : List GeneratedModule}
  (generated : List.Forall₂ (fun (m : Message) g => m.generate style index = .ok g) messages modules)

include generated

theorem fileNames_eq : modules.map GeneratedModule.fileName = (messages.map moduleOf).map Target.fileName := by
  induction generated with
  | nil => rfl
  | cons made _ ih =>
    obtain ⟨_,_,rfl⟩ := Message.generate_eq_ok.mp made
    simpa [GeneratedModule.fileName,moduleOf] using ih

theorem isName_of_mem {g : GeneratedModule} (member : g ∈ modules) : PathText.IsName g.fileName := by
  have file : g.fileName ∈ (messages.map moduleOf).map Target.fileName := by
    rw [← fileNames_eq generated]
    exact List.mem_map_of_mem member
  obtain ⟨name,named,same⟩ := List.mem_map.mp file
  obtain ⟨m,_,rfl⟩ := List.mem_map.mp named
  rw [← same,moduleOf,Target.moduleName]
  exact isName_fileName _

theorem fileNames_nodup (distinct : (messages.map moduleOf).Nodup) :
    (modules.map GeneratedModule.fileName).Nodup := by
  rw [fileNames_eq generated]
  refine List.Nodup.map_on ?_ distinct
  intro a memberA b memberB same
  obtain ⟨m,_,rfl⟩ := List.mem_map.mp memberA
  obtain ⟨n,_,rfl⟩ := List.mem_map.mp memberB
  exact Target.fileName_injective same

/-- The code of a module is what its file holds, if that is not the file of the declarations. -/
theorem read_of_module {directory text : String} {g : GeneratedModule} (distinct : (messages.map moduleOf).Nodup)
    (member : g ∈ modules) (other : g.fileName ≠ "mod.rs")
    (wrote : writeAll FileTree.access (inDirectory directory (modules.map (fun g => (g.fileName,g.code)) ++
      [("mod.rs",text)])) t = (.ok (),t')) :
    t'.read (PathText.join directory g.fileName) = .ok g.code := by
  have nodup := fileNames_nodup generated distinct
  obtain ⟨before,after,split⟩ := List.append_of_mem member
  rw [split,List.map_append,List.map_cons,List.append_assoc,List.cons_append] at wrote
  rw [split,List.map_append,List.map_cons,List.nodup_append,List.nodup_cons] at nodup
  refine read_of_writeAll (isName_of_mem generated member) ?_ wrote
  -- No file that is written later has the name of this one.
  intro file later
  rcases List.mem_append.mp later with later | last
  · obtain ⟨h,memberH,rfl⟩ := List.mem_map.mp later
    refine ⟨isName_of_mem generated (by simp [split,memberH]),?_⟩
    intro equal
    exact nodup.2.1.1 (by rw [equal]; exact List.mem_map_of_mem memberH)
  · obtain rfl := List.mem_singleton.mp last
    exact ⟨isName_mod,other⟩

end

/-- The file of a message is that of the declarations exactly if its name in snake case is `mod`. -/
theorem fileName_eq_mod_of_generate {style : Style} {index : PackageIndex} {m : Message} {g : GeneratedModule}
    (made : m.generate style index = .ok g) :
    g.fileName = "mod.rs" ↔ Text.snakeCase m.name.toList = "mod".toList := by
  have named : g.fileName = Target.fileName (Target.identifier (.ofList (Text.snakeCase m.name.toList))) := by
    obtain ⟨_,_,rfl⟩ := Message.generate_eq_ok.mp made
    rw [GeneratedModule.fileName,Target.moduleName]
  rw [named,Target.fileName_eq_mod]
  constructor
  · intro mod
    rw [← mod,String.toList_ofList]
  · intro mod
    rw [mod,String.ofList_toList]

/-- After a run that succeeds, `mod.rs` holds the declarations of the modules, and the file of a message its
    code, exactly if the module of the message is not `mod`: that one has the file of the declarations. -/
theorem files_of_run {c : Configuration} {announced : List String}
    (ran : run FileTree.access c t = (⟨announced,.ok ()⟩,t')) :
    ∃ destination paths messages modules,
      c.check = .ok destination ∧ inputPaths FileTree.access c t = (.ok paths,t) ∧
      List.Forall₂ (fun path m => Message.ofFile destination.package path (t.read path) = .ok m) paths messages ∧
      List.Forall₂ (fun (m : Message) g =>
        m.generate c.style (indexOf destination.package c.externals messages) = .ok g ∧
        (t'.read (PathText.join destination.outputDirectory g.fileName) = .ok g.code ↔
          Text.snakeCase m.name.toList ≠ "mod".toList)) messages modules ∧
      t'.read (PathText.join destination.outputDirectory "mod.rs") = .ok (declarationsText c.style modules) := by
  obtain ⟨destination,paths,contents,t₁,checked,found,_,compiled,wrote⟩ := run_eq_ok ran
  obtain ⟨messages,modules,read,distinct,generated,rfl⟩ := compile_eq_ok compiled
  have layout : outputs c.style destination.outputDirectory modules =
      inDirectory destination.outputDirectory (modules.map (fun g => (g.fileName,g.code)) ++
        [("mod.rs",declarationsText c.style modules)]) := by
    simp [outputs,inDirectory,declarationsFile]
  rw [layout] at wrote
  have declarations := read_of_writeAll isName_mod (by simp) wrote
  refine ⟨destination,paths,messages,modules,checked,found,?_,?_,declarations⟩
  · unfold readAll at read
    rwa [List.forall₂_map_left_iff] at read
  have each : ∀ g ∈ modules, ∀ m : Message,
      m.generate c.style (indexOf destination.package c.externals messages) = .ok g →
      (t'.read (PathText.join destination.outputDirectory g.fileName) = .ok g.code ↔
        Text.snakeCase m.name.toList ≠ "mod".toList) := by
    intro g member m made
    rw [ne_eq,← fileName_eq_mod_of_generate made]
    by_cases same : g.fileName = "mod.rs"
    · -- What the file holds in the end are the declarations, and no code is that.
      have other : declarationsText c.style modules ≠ g.code :=
        (code_ne_declarations made (List.ne_nil_of_mem member)).symm
      rw [same,declarations]
      simp [other]
    · exact iff_of_true (read_of_module generated distinct member same wrote) same
  rw [List.forall₂_iff_get] at generated ⊢
  refine ⟨generated.1,fun i inMessages inModules => ?_⟩
  have made := generated.2 i inMessages inModules
  exact ⟨made,each _ (List.get_mem _ _) _ made⟩

deriving instance DecidableEq for Report

/-- A message with a file of its own. -/
theorem files_of_run_with_point :
    let c := { Configuration.empty with
      package := some "test_msgs"
      outputDirectory := some "out"
      inputFiles := ["msg/Point.msg"] }
    let t : FileTree := ⟨[(["msg"],.directory),(["msg","Point.msg"],.text "int32 x\n")]⟩
    let t' : FileTree := ⟨t.nodes ++ [(["out"],.directory),
      (["out","point.rs"],.text "pub struct Point \x7b\n    pub x: i32,\n\x7d\n"),
      (["out","mod.rs"],.text "pub mod point;\n\npub use point::Point;\n")]⟩
    run FileTree.access c t = (⟨[],.ok ()⟩,t') ∧
    ∃ destination paths messages modules,
      c.check = .ok destination ∧ inputPaths FileTree.access c t = (.ok paths,t) ∧
      List.Forall₂ (fun path m => Message.ofFile destination.package path (t.read path) = .ok m) paths messages ∧
      List.Forall₂ (fun (m : Message) g =>
        m.generate c.style (indexOf destination.package c.externals messages) = .ok g ∧
        (t'.read (PathText.join destination.outputDirectory g.fileName) = .ok g.code ↔
          Text.snakeCase m.name.toList ≠ "mod".toList)) messages modules ∧
      t'.read (PathText.join destination.outputDirectory "mod.rs") = .ok (declarationsText c.style modules) := by
  intro c t t'
  have ran : run FileTree.access c t = (⟨[],.ok ()⟩,t') := by
    change @Eq (Report × FileTree) _ _
    decide +kernel
  exact ⟨ran,files_of_run ran⟩

/-- The file of the message `Mod` is the one that declares the modules, and its code is lost. -/
theorem files_of_run_with_mod :
    let c := { Configuration.empty with
      package := some "test_msgs"
      outputDirectory := some "out"
      inputFiles := ["msg/Mod.msg"] }
    let t : FileTree := ⟨[(["msg"],.directory),(["msg","Mod.msg"],.text "int32 x\n")]⟩
    let m : Message := ⟨"test_msgs","Mod","",[⟨"x",.ofPrimitive .int32,.member none,none,1⟩],[]⟩
    let g : GeneratedModule := ⟨"pub struct Mod \x7b\n    pub x: i32,\n\x7d\n","Mod","r#mod"⟩
    (run FileTree.access c t).1.result = .ok () ∧
      Message.ofFile "test_msgs" "msg/Mod.msg" (t.read "msg/Mod.msg") = .ok m ∧
      m.generate c.style (indexOf "test_msgs" c.externals [m]) = .ok g ∧ g.fileName = "mod.rs" ∧
      (run FileTree.access c t).2.read "out/mod.rs" = .ok "pub mod r#mod;\n\npub use r#mod::Mod;\n" ∧
      (run FileTree.access c t).2.read "out/mod.rs" ≠ .ok g.code := by
  decide +kernel

end Batch

end MsgBindings
