import MsgBindings.Batch

/-!
What an index resolves. Whatever is registered in an index, one after the other, a message has the module of its name
exactly if it was registered (`module?_registerAll`), and the path of a package is the last one that was registered
(`find?_registerAll`). So two indexes of the same messages resolve the same references
(`resolve_indexOf_of_mem_iff`), and the code of a message is the same for both (`generate_congr`).
-/
namespace MsgBindings

namespace Catalog

theorem find?_cons (name text : String) (rest : Catalog) (other : String) :
    find? ((name,text) :: rest) other = if other = name then some text else find? rest other := by
  unfold find?
  rw [List.lookup_cons]
  by_cases same : other = name
  · simp [same]
  · simp [same,beq_eq_false_iff_ne.mpr same]

theorem find?_put (c : Catalog) (name text other : String) :
    (put name text c).find? other = if other = name then some text else c.find? other := by
  induction c with
  | nil => exact find?_cons name text [] other
  | cons entry rest ih =>
    obtain ⟨name',text'⟩ := entry
    rw [put]
    split
    · exact find?_cons name text _ other
    · split
      · rename_i here
        subst here
        rw [find?_cons,find?_cons]
        split <;> rfl
      · rename_i apart
        rw [find?_cons,find?_cons,ih]
        by_cases same : other = name
        · subst same
          simp [apart]
        · simp [same]

theorem find?_putNew (c : Catalog) (name text other : String) :
    (c.putNew name text).find? other = (c.find? other).or (if other = name then some text else none) := by
  unfold putNew
  cases held : c.find? name with
  | some text' =>
    rw [if_pos (by rfl)]
    by_cases same : other = name
    · simp [same,held]
    · simp [same]
  | none =>
    rw [if_neg (by simp),find?_put]
    by_cases same : other = name
    · simp [same,held]
    · simp [same]

end Catalog

/-! ### Registrations -/

/-- What is registered in an index. -/
inductive Registration where
  /-- A message of the package of the index. -/
  | message (name : String)
  /-- The path of a package. -/
  | external (package path : String)
  deriving DecidableEq, Repr

namespace Registration

/-- The path that is registered for a package. -/
def path? (package : String) : Registration → Option String
  | message _ => none
  | external other path => if package = other then some path else none

/-- The last path that is registered for a package. -/
def lastPath? (package : String) (registrations : List Registration) : Option String :=
  (registrations.filterMap (path? package)).getLast?

theorem lastPath?_cons (package : String) (r : Registration) (rest : List Registration) :
    lastPath? package (r :: rest) = (lastPath? package rest).or (r.path? package) := by
  unfold lastPath?
  cases here : r.path? package with
  | none => rw [List.filterMap_cons_none here,Option.or_none]
  | some path =>
    rw [List.filterMap_cons_some here,List.getLast?_cons]
    cases (rest.filterMap (path? package)).getLast? <;> rfl

end Registration

namespace PackageIndex

theorem module?_insert (index : PackageIndex) (name other : String) :
    (index.insert name).module? other =
      (index.module? other).or (if other = name then some (Target.moduleName name) else none) :=
  index.modules.find?_putNew name _ other

def register (index : PackageIndex) : Registration → PackageIndex
  | .message name => index.insert name
  | .external package path => index.withExternal package path

/-- The index after registrations that are made one after the other. -/
def registerAll (index : PackageIndex) (registrations : List Registration) : PackageIndex :=
  registrations.foldl register index

section

variable (index : PackageIndex) (registrations : List Registration)

theorem package_register (r : Registration) : (index.register r).package = index.package := by
  cases r <;> rfl

theorem module?_register (r : Registration) (name : String) :
    (index.register r).module? name =
      (index.module? name).or (if r = .message name then some (Target.moduleName name) else none) := by
  cases r with
  | message other =>
    rw [register,module?_insert]
    by_cases same : name = other
    · simp [same]
    · simp [same,Ne.symm same]
  | external package path => simp [register,withExternal,module?]

theorem find?_register (r : Registration) (package : String) :
    (index.register r).externals.find? package = (r.path? package).or (index.externals.find? package) := by
  cases r with
  | message name => rfl
  | external other path =>
    rw [register,withExternal,Catalog.find?_put,Registration.path?]
    split <;> rfl

theorem package_registerAll : (index.registerAll registrations).package = index.package := by
  induction registrations generalizing index with
  | nil => rfl
  | cons r rest ih => exact (ih (index.register r)).trans (index.package_register r)

/-- A message has its module exactly if it was registered. -/
theorem module?_registerAll (name : String) :
    (index.registerAll registrations).module? name =
      (index.module? name).or
        (if .message name ∈ registrations then some (Target.moduleName name) else none) := by
  induction registrations generalizing index with
  | nil => simp [registerAll]
  | cons r rest ih =>
    have later : (index.registerAll (r :: rest)).module? name = ((index.register r).registerAll rest).module? name :=
      rfl
    rw [later,ih,module?_register,Option.or_assoc]
    by_cases here : r = .message name
    · simp [here]
    · simp [here,Ne.symm here]

/-- The path of a package is the last one that was registered. -/
theorem find?_registerAll (package : String) :
    (index.registerAll registrations).externals.find? package =
      (Registration.lastPath? package registrations).or (index.externals.find? package) := by
  induction registrations generalizing index with
  | nil => rfl
  | cons r rest ih =>
    have later : (index.registerAll (r :: rest)).externals.find? package =
        ((index.register r).registerAll rest).externals.find? package := rfl
    rw [later,ih,find?_register,Registration.lastPath?_cons,Option.or_assoc]

end

theorem ofMessages_eq (package : String) (names : List String) :
    ofMessages package names = (empty package).registerAll (names.map .message) := by
  rw [registerAll,List.foldl_map]
  rfl

theorem module?_ofMessages (package : String) (names : List String) (other : String) :
    (ofMessages package names).module? other = if other ∈ names then some (Target.moduleName other) else none := by
  rw [ofMessages_eq,module?_registerAll]
  simp [empty,module?,Catalog.find?]

theorem inserts_keep (index : PackageIndex) (names : List String) :
    (names.foldl insert index).package = index.package ∧ (names.foldl insert index).externals = index.externals := by
  induction names generalizing index with
  | nil => exact ⟨rfl,rfl⟩
  | cons name names ih => exact ih (index.insert name)

/-! ### References -/

section

variable {index : PackageIndex} {package name : String}

theorem resolve_own {reference : Option String} (own : reference = none ∨ reference = some index.package) :
    index.resolve (.message reference name) =
      (index.module? name).map fun module => s!"super::{module}::{Target.identifier name}" := by
  rcases own with rfl | rfl
  · rfl
  · exact if_pos rfl

theorem resolve_foreign (foreign : package ≠ index.package) :
    index.resolve (.message (some package) name) =
      (index.externals.find? package).map fun path => s!"{path}::{Target.identifier name}" :=
  if_neg foreign

end

/-- What is resolved depends on the modules, the package and the paths of other packages. -/
theorem resolve_congr {i j : PackageIndex} (package : i.package = j.package) (externals : i.externals = j.externals)
    (modules : ∀ name, i.module? name = j.module? name) : i.resolve = j.resolve := by
  funext base
  cases base with
  | primitive p bound => rfl
  | message q name => simp only [resolve,package,externals,modules]

end PackageIndex

namespace Batch

/-- The messages of an index have their modules, and the paths of other packages are those that are given. -/
theorem indexOf_eq (package : String) (externals : Catalog) (messages : List Message) :
    (indexOf package externals messages).package = package ∧
      (indexOf package externals messages).externals =
        externals.foldl (fun filed entry => Catalog.put entry.1 entry.2 filed) [] ∧
      ∀ name, (indexOf package externals messages).module? name =
        if name ∈ messages.map (·.name) then some (Target.moduleName name) else none := by
  have registered : ∀ index : PackageIndex,
      externals.foldl (fun index entry => index.withExternal entry.1 entry.2) index =
        { index with externals := externals.foldl (fun filed entry => Catalog.put entry.1 entry.2 filed)
                                    index.externals } := by
    induction externals with
    | nil => exact fun index => rfl
    | cons entry rest ih => exact fun index => ih _
  obtain ⟨same,none⟩ := PackageIndex.inserts_keep (.empty package) (messages.map (·.name))
  have whole : indexOf package externals messages =
      { PackageIndex.ofMessages package (messages.map (·.name)) with
        externals := externals.foldl (fun filed entry => Catalog.put entry.1 entry.2 filed)
                       (PackageIndex.ofMessages package (messages.map (·.name))).externals } := registered _
  rw [whole]
  refine ⟨same,?_,PackageIndex.module?_ofMessages package _⟩
  change externals.foldl _ (PackageIndex.ofMessages package _).externals = _
  rw [PackageIndex.ofMessages,none]
  rfl

/-- Two indexes of the same messages resolve the same references. -/
theorem resolve_indexOf_of_mem_iff {package : String} {externals : Catalog} {first second : List Message}
    (same : ∀ name, name ∈ first.map (·.name) ↔ name ∈ second.map (·.name)) :
    (indexOf package externals first).resolve = (indexOf package externals second).resolve := by
  obtain ⟨package₁,externals₁,modules₁⟩ := indexOf_eq package externals first
  obtain ⟨package₂,externals₂,modules₂⟩ := indexOf_eq package externals second
  refine PackageIndex.resolve_congr (package₁.trans package₂.symm) (externals₁.trans externals₂.symm) ?_
  intro name
  simp only [modules₁,modules₂,same]

end Batch

/-- The code of a message depends on an index only in what that resolves. -/
theorem Message.generate_congr {m : Message} {style : Style} {i j : PackageIndex} (same : i.resolve = j.resolve) :
    m.generate style i = m.generate style j := by
  have texts : m.memberTypeText i = m.memberTypeText j := by
    funext member
    rw [memberTypeText,memberTypeText,same]
  rw [generate,generate,items,items,texts]

end MsgBindings
