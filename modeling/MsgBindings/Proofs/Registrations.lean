import MsgBindings.Proofs.Resolution
import MsgBindings.Proofs.TypeTexts

/-!
References after any registrations in an index. A message of the package of the index may be referred to by its name
or by its package and its name, in every context: it is found if it was registered, and a path that is registered
for the package itself is never used. A message of another package is found at the last path that was registered for
that package. No registration but these matters, in whatever order they are made (`resolve_of_registrations`).
-/
namespace MsgBindings

/-! ### References as they are written -/

namespace BaseType

variable {context : Option String} {package name : String}

theorem read_name (named : isMessageName name = true) : read context name = .ok (.message none name) :=
  read_spelled (.message name named) rfl

theorem read_packageAndName (owned : isPackageName package = true) (named : isMessageName name = true) :
    read context s!"{package}/{name}" = .ok (.message (if context = some package then none else some package) name) :=
  read_spelled (.messageOf package name owned named) (toList_text_foreign package name).symm

/-- A name behind a slash is that of a message only if the name of a package is in front of the slash. -/
theorem isPackageName_of_read {base : BaseType} (ok : read context s!"{package}/{name}" = .ok base) :
    isPackageName package = true := by
  obtain ⟨s,written,_⟩ := spelling_of_read ok
  have parts : s.text = package.toList ++ '/' :: name.toList := written.trans (toList_text_foreign package name)
  have slash : '/' ∈ s.text := by simp [parts]
  cases s with
  | builtin p => exact absurd (p.char_of_name _ slash) (by decide)
  | boundedString p string bound positive =>
    simp only [BaseSpelling.text,List.mem_append,List.mem_cons,Char.reduceEq,false_or] at slash
    rcases slash with slash | slash
    · exact absurd (p.char_of_name _ slash) (by decide)
    · exact absurd (bound.char_of_text _ slash) (by decide)
  | message other named => exact absurd slash ((NamePattern.isWord_of_accepts named).not_mem (by decide))
  | messageOf other target owned named =>
    have front : '/' ∉ other.toList := (NamePattern.isWord_of_accepts owned).not_mem (by decide)
    have behind : '/' ∉ target.toList := (NamePattern.isWord_of_accepts named).not_mem (by decide)
    obtain ⟨same,_⟩ := (List.append_cons_inj_of_notMem front behind).mp parts
    rwa [← String.toList_inj.mp same]

end BaseType

/-! ### What they resolve to -/

namespace PackageIndex

/-- The module that a message of the package of an index is referred to in, and its type. -/
def siblingPath (name : String) : String := s!"super::{Target.moduleName name}::{Target.identifier name}"

/-- After any registrations in an index of the package `p`, all references to a message of `p` resolve to its module if it
    was registered, and those to a message of another package to the last path of that package. What stands in front
    of the slash is always the name of a package. -/
theorem resolve_of_registrations (p : String) (registrations : List Registration) {name : String}
    (named : isMessageName name = true) :
    let index := (empty p).registerAll registrations
    let sibling := if .message name ∈ registrations then some (siblingPath name) else none
    (∀ context, (BaseType.read context name).map index.resolve = .ok sibling) ∧
      (isPackageName p = true → ∀ context, (BaseType.read context s!"{p}/{name}").map index.resolve = .ok sibling) ∧
      (∀ q, isPackageName q = true → q ≠ p → ∀ context, context ≠ some q →
        (BaseType.read context s!"{q}/{name}").map index.resolve =
          .ok ((Registration.lastPath? q registrations).map fun path => s!"{path}::{Target.identifier name}")) ∧
      ∀ q, isPackageName q = false → ∀ context base, BaseType.read context s!"{q}/{name}" ≠ .ok base := by
  intro index sibling
  have package : index.package = p := package_registerAll _ _
  have own : ∀ reference, reference = none ∨ reference = some p →
      index.resolve (.message reference name) = sibling := by
    intro reference kind
    rw [resolve_own (package.symm ▸ kind),module?_registerAll]
    by_cases registered : .message name ∈ registrations
    · simp [empty,module?,Catalog.find?,sibling,registered,siblingPath]
    · simp [empty,module?,Catalog.find?,sibling,registered]
  refine ⟨fun context => ?_,fun owned context => ?_,fun q owned foreign context elsewhere => ?_,
    fun q other context base ok => ?_⟩
  · rw [BaseType.read_name named]
    exact congrArg Except.ok (own none (.inl rfl))
  · rw [BaseType.read_packageAndName owned named]
    refine congrArg Except.ok (own _ ?_)
    split
    · exact .inl rfl
    · exact .inr rfl
  · rw [BaseType.read_packageAndName owned named,if_neg elsewhere]
    refine congrArg Except.ok ?_
    rw [resolve_foreign (package.symm ▸ foreign),find?_registerAll]
    simp [empty,Catalog.find?]
  · rw [BaseType.isPackageName_of_read ok] at other
    cases other

/-- A message that is named after a keyword, in an index that also has a path of its own package and two of another. -/
theorem resolve_of_repeated_registrations :
    let registrations : List Registration :=
      [.external "test_msgs" "crate::test_msgs",.external "geometry_msgs" "::old",.message "Type",.message "Point",
        .external "geometry_msgs" "crate::geometry_msgs",.message "Type"]
    let index := (empty "test_msgs").registerAll registrations
    isMessageName "Type" = true ∧ isPackageName "test_msgs" = true ∧ isPackageName "geometry_msgs" = true ∧
      isPackageName "std_msgs" = true ∧
      (BaseType.read none "Type").map index.resolve = .ok (some "super::r#type::Type") ∧
      (BaseType.read none "test_msgs/Type").map index.resolve = .ok (some "super::r#type::Type") ∧
      (BaseType.read (some "test_msgs") "test_msgs/Type").map index.resolve = .ok (some "super::r#type::Type") ∧
      (BaseType.read (some "test_msgs") "geometry_msgs/Type").map index.resolve =
        .ok (some "crate::geometry_msgs::Type") ∧
      (BaseType.read none "std_msgs/Type").map index.resolve = .ok none := by
  intro registrations index
  have named : isMessageName "Type" = true := by decide
  have own : isPackageName "test_msgs" = true := by decide
  have geometry : isPackageName "geometry_msgs" = true := by decide
  have std : isPackageName "std_msgs" = true := by decide
  obtain ⟨alone,whole,foreign,_⟩ := resolve_of_registrations "test_msgs" registrations named
  have sibling : siblingPath "Type" = "super::r#type::Type" := by decide +kernel
  have member : .message "Type" ∈ registrations := by decide
  rw [if_pos member,sibling] at alone whole
  refine ⟨named,own,geometry,std,alone none,whole own none,whole own (some "test_msgs"),?_,?_⟩
  · exact (foreign "geometry_msgs" geometry (by decide) (some "test_msgs") (by decide)).trans (by decide +kernel)
  · exact (foreign "std_msgs" std (by decide) none (by decide)).trans (by decide +kernel)

end PackageIndex

end MsgBindings
