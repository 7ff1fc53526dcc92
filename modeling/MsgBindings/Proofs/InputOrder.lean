import Mathlib
import MsgBindings.Proofs.Resolution
import MsgBindings.Proofs.WrittenFiles

/-!
Runs over the same files in another order. What is checked of a file against those before it does not depend on
their order: no two of them may have one module. An index has no order either, so each message has the same code
(`generated_of_perm`), and the modules are declared in the order of their names, which are different
(`declarationsText_of_perm`).
-/
namespace MsgBindings

namespace Batch

variable {c : Configuration} {package : String} {style : Style}
  {inputs inputs' : List (String × Except FileFault String)}

/-- The modules that are generated from files, each with the path of its file. -/
def generated (c : Configuration) (package : String) (inputs : List (String × Except FileFault String)) :
    Except BatchError (List (String × GeneratedModule)) := do
  let sources ← (readInputs package [] inputs).2
  let modules ← generateAll c.style (indexOf package c.externals (sources.map (·.message))) sources
  return (sources.map (·.path)).zip modules

/-- Whether a module with its path is that of a message. -/
def IsGenerated (style : Style) (index : PackageIndex) (source : SourceMessage) (file : String × GeneratedModule) :
    Prop :=
  file.1 = source.path ∧ source.message.generate style index = .ok file.2

/-- Generating the code of messages succeeds exactly if each of them has code. -/
theorem generateAll_eq_ok {index : PackageIndex} {sources : List SourceMessage}
    {files : List (String × GeneratedModule)} :
    (∃ modules, generateAll style index sources = .ok modules ∧ (sources.map (·.path)).zip modules = files) ↔
      List.Forall₂ (IsGenerated style index) sources files := by
  unfold generateAll
  simp only [mapM_eq_ok,mapError_eq_ok]
  induction sources generalizing files with
  | nil => simp [eq_comm]
  | cons source sources ih =>
    rw [List.forall₂_cons_left_iff]
    constructor
    · rintro ⟨_,all,rfl⟩
      cases all with | cons here rest =>
      exact ⟨_,_,⟨rfl,here⟩,ih.mp ⟨_,rest,rfl⟩,rfl⟩
    · rintro ⟨⟨path,g⟩,others,⟨rfl,here⟩,rest,rfl⟩
      obtain ⟨modules,all,rfl⟩ := ih.mpr rest
      exact ⟨g :: modules,.cons here all,rfl⟩

/-- Files have modules exactly if each of them holds a message, no two messages have one module, and each
    message has code with all of them in the index. -/
theorem generated_eq_ok {files : List (String × GeneratedModule)} :
    generated c package inputs = .ok files ↔
      ∃ sources : List SourceMessage,
        List.Forall₂ (fun input source =>
          source.path = input.1 ∧ Message.ofFile package input.1 input.2 = .ok source.message) inputs sources ∧
        ((sources.map SourceMessage.message).map moduleOf).Nodup ∧
        List.Forall₂ (IsGenerated c.style (indexOf package c.externals (sources.map SourceMessage.message)))
          sources files := by
  unfold generated
  simp only [bind_eq_ok,pure_eq_ok]
  refine exists_congr fun sources => ?_
  rw [generateAll_eq_ok,readInputs_eq_ok (by simp),List.nil_append,and_assoc]

/-- What a run writes are the modules that it generates. -/
theorem compile_eq_generated (c : Configuration) (destination : Destination)
    (inputs : List (String × Except FileFault String)) :
    (compile c destination inputs).2 =
      (generated c destination.package inputs).map fun files =>
        outputs c.style destination.outputDirectory (files.map Prod.snd) := by
  rcases read : readInputs destination.package [] inputs with ⟨paths,fault | sources⟩
  · simp [compile,generated,read,bind,Except.bind,Except.map]
  · cases made : generateAll c.style (indexOf destination.package c.externals (sources.map (·.message))) sources with
    | error e => simp [compile,generated,read,made,bind,Except.bind,Except.map]
    | ok modules =>
      have length : modules.length = sources.length := (mapM_eq_ok.mp made).length_eq.symm
      simp [compile,generated,read,made,bind,Except.bind,Except.map,pure,Except.pure,List.map_snd_zip,length]

/-! ### Other orders -/

/-- Modules with different names are declared in one order. -/
theorem declarationsText_of_perm {modules modules' : List GeneratedModule} (perm : modules.Perm modules')
    (distinct : (modules.map (·.moduleName)).Nodup) :
    declarationsText style modules = declarationsText style modules' := by
  let before (a b : GeneratedModule) : Bool := decide (a.moduleName ≤ b.moduleName)
  have sorted : ∀ ms : List GeneratedModule, (ms.mergeSort before).Pairwise fun a b => before a b = true :=
    List.pairwise_mergeSort (fun a b c first second => by
      simp only [before,decide_eq_true_eq] at first second ⊢
      exact le_trans first second) (fun a b => by
      simpa [before] using le_total a.moduleName b.moduleName)
  have same : modules.mergeSort before = modules'.mergeSort before := by
    refine List.Perm.eq_of_pairwise ?_ (sorted modules) (sorted modules')
      ((List.mergeSort_perm modules before).trans (perm.trans (List.mergeSort_perm modules' before).symm))
    -- Two modules in either order have one name, so they are one.
    intro a b memberA memberB first second
    have inA : a ∈ modules := (List.mergeSort_perm modules before).mem_iff.mp memberA
    have inB : b ∈ modules := perm.mem_iff.mpr ((List.mergeSort_perm modules' before).mem_iff.mp memberB)
    simp only [before,decide_eq_true_eq] at first second
    exact List.inj_on_of_nodup_map distinct inA inB (le_antisymm first second)
  unfold declarationsText
  dsimp only
  rw [show (modules.mergeSort fun a b => decide (a.moduleName ≤ b.moduleName)) = modules.mergeSort before from rfl,same]

/-- In another order, files have the same modules. -/
theorem generated_of_perm {files : List (String × GeneratedModule)} (perm : inputs.Perm inputs')
    (made : generated c package inputs = .ok files) :
    ∃ files', generated c package inputs' = .ok files' ∧ files.Perm files' := by
  obtain ⟨sources,read,distinct,all⟩ := generated_eq_ok.mp made
  obtain ⟨sources',read',reordered⟩ := List.perm_comp_forall₂ perm.symm read
  have messages := reordered.map SourceMessage.message
  have resolve : (indexOf package c.externals (sources'.map SourceMessage.message)).resolve =
      (indexOf package c.externals (sources.map SourceMessage.message)).resolve :=
    resolve_indexOf_of_mem_iff fun name => (messages.map (·.name)).mem_iff
  have all' : List.Forall₂ (IsGenerated c.style (indexOf package c.externals (sources'.map SourceMessage.message)))
      sources files :=
    all.imp fun source file here => ⟨here.1,by rw [Message.generate_congr resolve]; exact here.2⟩
  obtain ⟨files',made',reordered'⟩ := List.perm_comp_forall₂ reordered all'
  exact ⟨files',generated_eq_ok.mpr ⟨sources',read',(messages.map moduleOf).nodup_iff.mpr distinct,made'⟩,
    reordered'.symm⟩

/-- The files of modules are those that are given, and the modules have different names. -/
theorem names_of_generated {files : List (String × GeneratedModule)} (made : generated c package inputs = .ok files) :
    inputs.map Prod.fst = files.map Prod.fst ∧ ((files.map Prod.snd).map (·.moduleName)).Nodup := by
  obtain ⟨sources,read,distinct,all⟩ := generated_eq_ok.mp made
  have modules : (sources.map SourceMessage.message).map moduleOf = (files.map Prod.snd).map (·.moduleName) := by
    rw [List.map_map,List.map_map]
    refine map_of_forall₂ all ?_
    rintro source file ⟨_,here⟩
    obtain ⟨_,_,module⟩ := Message.generate_eq_ok.mp here
    simp only [Function.comp_apply,module,moduleOf]
  constructor
  · exact (map_of_forall₂ read fun _ _ here => here.1.symm).trans (map_of_forall₂ all fun _ _ here => here.1.symm)
  · rw [← modules]
    exact distinct

/-- Runs over the same files in two orders both succeed or both fail. Where they succeed, each file has the same
    module, with its code and its names, and the text that declares the modules is the same. -/
theorem generated_of_reordered (destination : Destination) (perm : inputs.Perm inputs') :
    ((∃ files, generated c destination.package inputs = .ok files) ↔
      ∃ files', generated c destination.package inputs' = .ok files') ∧
    (∀ files files', generated c destination.package inputs = .ok files →
      generated c destination.package inputs' = .ok files' →
      inputs.map Prod.fst = files.map Prod.fst ∧ inputs'.map Prod.fst = files'.map Prod.fst ∧ files.Perm files' ∧
      declarationsText c.style (files.map Prod.snd) = declarationsText c.style (files'.map Prod.snd)) ∧
    ∀ list, (compile c destination list).2 = (generated c destination.package list).map fun files =>
      outputs c.style destination.outputDirectory (files.map Prod.snd) := by
  refine ⟨⟨?_,?_⟩,?_,compile_eq_generated c destination⟩
  · rintro ⟨files,made⟩
    obtain ⟨files',made',_⟩ := generated_of_perm perm made
    exact ⟨files',made'⟩
  · rintro ⟨files',made'⟩
    obtain ⟨files,made,_⟩ := generated_of_perm perm.symm made'
    exact ⟨files,made⟩
  · intro files files' made made'
    obtain ⟨paths,distinct⟩ := names_of_generated made
    obtain ⟨other,made'',reordered⟩ := generated_of_perm perm made
    obtain rfl : other = files' := Except.ok.inj (made''.symm.trans made')
    exact ⟨paths,(names_of_generated made').1,reordered,
      declarationsText_of_perm (reordered.map Prod.snd) distinct⟩

/-- A message that refers to one after it, and the same files in the other order. -/
theorem generated_of_holder_and_point :
    let c := { Configuration.empty with package := some "test_msgs" }
    let destination : Destination := ⟨"test_msgs","out"⟩
    let inputs : List (String × Except FileFault String) :=
      [("msg/Holder.msg",.ok "Point p\n"),("msg/Point.msg",.ok "int32 x\n")]
    let holder : GeneratedModule :=
      ⟨"pub struct Holder \x7b\n    pub p: super::point::Point,\n\x7d\n","Holder","holder"⟩
    let point : GeneratedModule := ⟨"pub struct Point \x7b\n    pub x: i32,\n\x7d\n","Point","point"⟩
    inputs.Perm inputs.reverse ∧
    generated c destination.package inputs = .ok [("msg/Holder.msg",holder),("msg/Point.msg",point)] ∧
    generated c destination.package inputs.reverse = .ok [("msg/Point.msg",point),("msg/Holder.msg",holder)] ∧
    declarationsText c.style [point,holder] =
      "pub mod holder;\npub mod point;\n\npub use holder::Holder;\npub use point::Point;\n" ∧
    ((∃ files, generated c destination.package inputs = .ok files) ↔
      ∃ files', generated c destination.package inputs.reverse = .ok files') ∧
    (∀ files files', generated c destination.package inputs = .ok files →
      generated c destination.package inputs.reverse = .ok files' →
      inputs.map Prod.fst = files.map Prod.fst ∧ inputs.reverse.map Prod.fst = files'.map Prod.fst ∧
      files.Perm files' ∧
      declarationsText c.style (files.map Prod.snd) = declarationsText c.style (files'.map Prod.snd)) ∧
    ∀ list, (compile c destination list).2 = (generated c destination.package list).map fun files =>
      outputs c.style destination.outputDirectory (files.map Prod.snd) := by
  intro c destination inputs holder point
  have perm : inputs.Perm inputs.reverse := inputs.reverse_perm.symm
  refine ⟨perm,?_,?_,?_,generated_of_reordered destination perm⟩
  · decide +kernel
  · decide +kernel
  · cbv

end Batch

end MsgBindings
