import MsgBindings.Files.FileTree
import MsgBindings.Proofs.Cuts
import MsgBindings.Proofs.Results

/-!
What writing does to a tree of files. Writing puts a text where no directory is, so that every walk
that leads somewhere leads there after it (`walk_of_grows`). A file holds what is written to it
(`holds_of_write`) and can be read (`read_of_holds`), and writing another file of the same directory
does not change it (`holds_of_write_other`).
-/
namespace MsgBindings

namespace FileTree

variable {t t' : FileTree} {place : List String} {node : FileNode}

/-! ### Places -/

private theorem lookup_first (place other : List String) (node : FileNode) (rest : List (List String × FileNode)) :
    ((place,node) :: rest).lookup other = if other = place then some node else rest.lookup other := by
  by_cases same : other = place
  · simp [same]
  · have differ : (other == place) = false := by simpa using same
    simp [List.lookup_cons,differ,same]

theorem lookup_putNode (place other : List String) (node : FileNode) (nodes : List (List String × FileNode)) :
    (putNode place node nodes).lookup other = if other = place then some node else nodes.lookup other := by
  induction nodes with
  | nil => rw [putNode,lookup_first]
  | cons entry rest ih =>
    obtain ⟨place',node'⟩ := entry
    rw [putNode]
    by_cases here : place' = place
    · rw [if_pos here,lookup_first,lookup_first,here]
      by_cases same : other = place <;> simp [same]
    · rw [if_neg here,lookup_first,lookup_first,ih]
      by_cases first : other = place'
      · subst first
        simp [here]
      · simp [first]

theorem node?_put (t : FileTree) {place : List String} (node : FileNode) (other : List String) (named : place ≠ []) :
    (t.put place node).node? other = if other = place then some node else t.node? other := by
  unfold node? put
  cases other with
  | nil => simp [named.symm]
  | cons part rest => simp [lookup_putNode]

/-- A tree that has every directory of another one, and something wherever that one has something. -/
structure Grows (t t' : FileTree) : Prop where
  directories : ∀ place, t.node? place = some .directory → t'.node? place = some .directory
  places : ∀ place, (t.node? place).isSome = true → (t'.node? place).isSome = true

theorem requireDirectory_eq_ok : t.requireDirectory place = .ok () ↔ t.node? place = some .directory := by
  unfold requireDirectory
  split <;> simp [*]

theorem placeOf_eq_ok {name : String} {next : List String} :
    t.placeOf place name = .ok next ↔
      t.node? place = some .directory ∧ name.utf8ByteSize ≤ longestName ∧ next = place ++ [name] := by
  unfold placeOf
  by_cases long : longestName < name.utf8ByteSize
  · simp only [long,↓reduceIte,bind_eq_ok,throw_ne_ok,false_and,exists_false,and_false,false_iff]
    omega
  · simp only [long,↓reduceIte,bind_eq_ok,pure_eq_ok]
    constructor
    · rintro ⟨_,directory,rfl⟩
      exact ⟨requireDirectory_eq_ok.mp directory,by omega,rfl⟩
    · rintro ⟨directory,_,rfl⟩
      exact ⟨(),requireDirectory_eq_ok.mpr directory,rfl⟩

theorem walk_name {name : String} {rest next : List String} (plain : name ≠ "." ∧ name ≠ "..") :
    t.walk place (name :: rest) = .ok next ↔
      t.node? place = some .directory ∧ name.utf8ByteSize ≤ longestName ∧
        (t.node? (place ++ [name])).isSome = true ∧ t.walk (place ++ [name]) rest = .ok next := by
  rw [walk]
  · simp only [bind_eq_ok,placeOf_eq_ok]
    constructor
    · rintro ⟨_,⟨directory,short,rfl⟩,walked⟩
      cases there : t.node? (place ++ [name]) with
      | none => simp [there] at walked
      | some node =>
        simp only [there,Option.isNone_some,Bool.false_eq_true,↓reduceIte] at walked
        exact ⟨directory,short,rfl,walked⟩
    · rintro ⟨directory,short,there,walked⟩
      refine ⟨_,⟨directory,short,rfl⟩,?_⟩
      obtain ⟨node,here⟩ := Option.isSome_iff_exists.mp there
      simpa [here] using walked
  · exact plain.1
  · exact plain.2

theorem walk_here {rest next : List String} :
    t.walk place ("." :: rest) = .ok next ↔
      t.node? place = some .directory ∧ t.walk place rest = .ok next := by
  rw [walk,bind_eq_ok]
  simp only [← requireDirectory_eq_ok]
  exact ⟨fun ⟨_,there,walked⟩ => ⟨there,walked⟩,fun ⟨there,walked⟩ => ⟨(),there,walked⟩⟩

theorem walk_up {rest next : List String} :
    t.walk place (".." :: rest) = .ok next ↔
      t.node? place = some .directory ∧ t.walk place.dropLast rest = .ok next := by
  rw [walk,bind_eq_ok]
  simp only [← requireDirectory_eq_ok]
  exact ⟨fun ⟨_,there,walked⟩ => ⟨there,walked⟩,fun ⟨there,walked⟩ => ⟨(),there,walked⟩⟩

/-- A walk that leads somewhere leads there in every tree that has grown. -/
theorem walk_of_grows (grows : t.Grows t') {parts next : List String} (walked : t.walk place parts = .ok next) :
    t'.walk place parts = .ok next := by
  induction parts generalizing place with
  | nil =>
    rw [walk] at walked ⊢
    exact walked
  | cons name rest ih =>
    by_cases here : name = "."
    · subst here
      obtain ⟨directory,walked⟩ := walk_here.mp walked
      exact walk_here.mpr ⟨grows.directories _ directory,ih walked⟩
    · by_cases up : name = ".."
      · subst up
        obtain ⟨directory,walked⟩ := walk_up.mp walked
        exact walk_up.mpr ⟨grows.directories _ directory,ih walked⟩
      · obtain ⟨directory,short,there,walked⟩ := (walk_name ⟨here,up⟩).mp walked
        exact (walk_name ⟨here,up⟩).mpr
          ⟨grows.directories _ directory,short,grows.places _ there,ih walked⟩

theorem walk_append {parts rest next : List String} :
    t.walk place (parts ++ rest) = .ok next ↔
      ∃ middle, t.walk place parts = .ok middle ∧ t.walk middle rest = .ok next := by
  induction parts generalizing place with
  | nil => simp [walk]
  | cons name parts ih =>
    rw [List.cons_append]
    by_cases here : name = "."
    · subst here
      simp only [walk_here,ih,and_assoc,exists_and_left]
    · by_cases up : name = ".."
      · subst up
        simp only [walk_up,ih,and_assoc,exists_and_left]
      · simp only [walk_name ⟨here,up⟩,ih,and_assoc,exists_and_left]

/-- The tree after a change, or the tree as it was where the change fails. -/
def orKeep (t : FileTree) : Except FileFault FileTree → FileTree × Except FileFault Unit
  | .ok t => (t,.ok ())
  | .error e => (t,.error e)

theorem orKeep_eq_ok {result : Except FileFault FileTree} : t.orKeep result = (t',.ok ()) ↔ result = .ok t' := by
  cases result <;> simp [orKeep]

/-- Writing that succeeds puts the text at a place in a directory, where no directory is. -/
theorem write_eq_ok {path content : String} :
    t.write path content = (t',.ok ()) ↔
      ∃ name parent, checkPath path = .ok () ∧ (PathText.parts path).getLast? = some name ∧
        t.walk [] (PathText.parts path).dropLast = .ok parent ∧ name ≠ "." ∧ name ≠ ".." ∧
        PathText.endsInSlash path = false ∧ t.node? parent = some .directory ∧
        name.utf8ByteSize ≤ longestName ∧ t.node? (parent ++ [name]) ≠ some .directory ∧
        t' = t.put (parent ++ [name]) (.text content) := by
  unfold write
  refine orKeep_eq_ok.trans ?_
  cases last : (PathText.parts path).getLast? with
  | none => simp only [bind_eq_ok,last,throw_ne_ok,and_false,exists_false,reduceCtorEq,false_and]
  | some name =>
    simp only [bind_eq_ok,last,check_eq_ok,placeOf_eq_ok,pure_eq_ok,Option.some.injEq]
    constructor
    · rintro ⟨_,good,parent,walked,plain,_,⟨directory,short,rfl⟩,free,rfl⟩
      simp only [Bool.or_eq_true,decide_eq_true_eq,not_or,Bool.not_eq_true] at plain
      exact ⟨name,parent,good,rfl,walked,plain.1.1,plain.1.2,plain.2,directory,short,free,rfl⟩
    · rintro ⟨_,parent,good,rfl,walked,here,up,slash,directory,short,free,rfl⟩
      exact ⟨(),good,parent,walked,by simp [here,up,slash],_,⟨directory,short,rfl⟩,free,rfl⟩

theorem grows_of_write {path content : String} (wrote : t.write path content = (t',.ok ())) : t.Grows t' := by
  obtain ⟨name,parent,_,_,_,_,_,_,_,_,free,rfl⟩ := write_eq_ok.mp wrote
  have named : parent ++ [name] ≠ [] := by simp
  refine ⟨fun place directory => ?_,fun place there => ?_⟩
  · have other : place ≠ parent ++ [name] := by
      rintro rfl
      exact free directory
    rw [node?_put _ _ _ named,if_neg other]
    exact directory
  · rw [node?_put _ _ _ named]
    split
    · rfl
    · exact there

end FileTree

/-! ### The files of a directory -/

namespace PathText

/-- Whether a text is the name of a file in a directory. -/
structure IsName (name : String) : Prop where
  some : name ≠ ""
  solid : '/' ∉ name.toList
  here : name ≠ "."
  up : name ≠ ".."

variable {directory name : String}

private theorem cut_name (isName : IsName name) :
    (Text.cutBy (· == '/') name.toList).filter (!·.isEmpty) = [name.toList] := by
  have whole : Text.cutBy (· == '/') name.toList = [name.toList] :=
    Text.cutBy_of_none fun c member => by
      rw [beq_eq_false_iff_ne]
      rintro rfl
      exact isName.solid member
  have full : name.toList ≠ [] := by simpa using isName.some
  simp [whole,full]

/-- A path in a directory ends in a slash and a name, or in the name alone where there is no directory. -/
theorem toList_join (directory name : String) :
    directory.toList = [] ∧ (join directory name).toList = name.toList ∨
      ∃ before, (join directory name).toList = before ++ '/' :: name.toList ∧
        (directory.toList = before ∨ directory.toList = before ++ ['/']) := by
  unfold join
  by_cases empty : directory = ""
  · subst empty
    exact .inl ⟨rfl,by simp⟩
  · by_cases slash : endsInSlash directory = true
    · obtain ⟨before,split⟩ : ∃ before, directory.toList = before ++ ['/'] := by
        unfold endsInSlash at slash
        exact List.getLast?_eq_some_iff.mp (by simpa using slash)
      exact .inr ⟨before,by simp [slash,split],.inr split⟩
    · exact .inr ⟨directory.toList,by simp [empty,slash],.inl rfl⟩

theorem parts_join (isName : IsName name) : parts (join directory name) = parts directory ++ [name] := by
  unfold parts
  rcases toList_join directory name with ⟨empty,path⟩ | ⟨before,path,same | same⟩
  · rw [path,empty,cut_name isName]
    simp [Text.cutBy]
  · rw [path,same,Text.cutBy_append_cons (by rfl),List.filter_append,cut_name isName]
    simp
  · rw [path,same,Text.cutBy_append_cons (by rfl),Text.cutBy_append_cons (by rfl),List.filter_append,
      List.filter_append,cut_name isName]
    simp [Text.cutBy]

theorem endsInSlash_join (isName : IsName name) : endsInSlash (join directory name) = false := by
  have full : name.toList ≠ [] := by simpa using isName.some
  have last : (join directory name).toList.getLast? = name.toList.getLast? := by
    rcases toList_join directory name with ⟨_,path⟩ | ⟨before,path,_⟩
    · rw [path]
    · rw [path,← List.singleton_append,← List.append_assoc,List.getLast?_append_of_ne_nil _ full]
  unfold endsInSlash
  rw [last,beq_eq_false_iff_ne]
  intro slash
  exact isName.solid (List.mem_of_getLast? slash)

end PathText

namespace FileTree

open PathText

/-- A file of a directory holds a text. -/
def Holds (t : FileTree) (directory name content : String) : Prop :=
  ∃ parent, t.walk [] (parts directory) = .ok parent ∧ t.node? parent = some .directory ∧
    t.node? (parent ++ [name]) = some (.text content)

variable {t t' : FileTree} {directory name content : String}

theorem holds_of_write (isName : IsName name) (wrote : t.write (join directory name) content = (t',.ok ())) :
    t'.Holds directory name content := by
  have grows := grows_of_write wrote
  obtain ⟨last,parent,_,lastPart,walked,_,_,_,there,_,_,rfl⟩ := write_eq_ok.mp wrote
  rw [parts_join isName] at lastPart walked
  obtain rfl : name = last := by simpa using lastPart
  rw [List.dropLast_concat] at walked
  refine ⟨parent,walk_of_grows grows walked,grows.directories _ there,?_⟩
  rw [node?_put _ _ _ (by simp),if_pos rfl]

/-- Writing another file of the directory changes nothing of a file. -/
theorem holds_of_write_other {other text : String} (holds : t.Holds directory name content) (isName : IsName other)
    (apart : name ≠ other) (wrote : t.write (join directory other) text = (t',.ok ())) :
    t'.Holds directory name content := by
  have grows := grows_of_write wrote
  -- Both paths walk to the same directory, so the places differ in the name alone.
  obtain ⟨parent,walked,there,held⟩ := holds
  obtain ⟨last,parent',_,lastPart,walked',_,_,_,_,_,_,rfl⟩ := write_eq_ok.mp wrote
  rw [parts_join isName] at lastPart walked'
  obtain rfl : other = last := by simpa using lastPart
  rw [List.dropLast_concat,walked] at walked'
  cases walked'
  refine ⟨parent,walk_of_grows grows walked,grows.directories _ there,?_⟩
  rw [node?_put _ _ _ (by simp),if_neg (by simpa using apart)]
  exact held

theorem read_of_holds (holds : t.Holds directory name content) (isName : IsName name)
    (good : checkPath (join directory name) = .ok ()) (short : name.utf8ByteSize ≤ longestName) :
    t.read (join directory name) = .ok content := by
  obtain ⟨parent,walked,there,held⟩ := holds
  have leads : t.walk [] (parts (join directory name)) = .ok (parent ++ [name]) := by
    rw [parts_join isName,walk_append]
    refine ⟨parent,walked,(walk_name ⟨isName.here,isName.up⟩).mpr ⟨there,short,by simp [held],?_⟩⟩
    rw [walk]
  have found : t.find (join directory name) = .ok (parent ++ [name],.text content) := by
    unfold find
    simp only [good,endsInSlash_join isName,Bool.false_eq_true,↓reduceIte,List.append_nil,bind_eq_ok]
    exact ⟨(),trivial,_,leads,by simp [held]⟩
  unfold read
  rw [found]
  rfl

end FileTree

end MsgBindings
