import MsgBindings.Proofs.Resolution
import MsgBindings.Proofs.TypeReading

/-!
The paths that types refer to. The module of a message is a word in snake case (`isWord_snakeCase`), so its
identifier is one, and the text that stands for an element is that of a path: the type of a primitive
(`isElement_primitive`), a module beside the one that refers to it, or the path of another package
(`isElement_resolve`).
-/
namespace MsgBindings

namespace Text

variable {c d : Char} {s word : List Char}

/-! ### Snake case -/

theorem isAlpha_toLower (letter : c.isAlpha = true) : c.toLower.isAlpha = true := by
  rw [isAlpha_eq,Bool.or_eq_true] at letter ⊢
  rcases letter with upper | lower
  · have shifted := toLower_of_isUpper upper
    rw [isUpper_iff] at upper
    rw [isLower_iff]
    omega
  · have kept : c.toLower = c := by
      unfold Char.toLower
      rw [dif_neg]
      rintro ⟨_,high⟩
      have high : c.toNat ≤ 90 := high
      rw [isLower_iff] at lower
      omega
    rw [kept]
    exact .inr lower

theorem isAlphanum_iff : c.isAlphanum = true ↔ c.isAlpha = true ∨ c.isDigit = true := by
  rw [isAlphanum_eq,isAlpha_eq,Bool.or_eq_true]

theorem isAlphanum_lower (plain : c.isAlphanum = true) : c.toLower.isAlphanum = true := by
  rcases isAlphanum_iff.mp plain with letter | digit
  · exact isAlphanum_of_isAlpha (isAlpha_toLower letter)
  · rwa [toLower_of_isDigit digit]

/-- The words of a run are cut out of it. -/
theorem flatten_caseWordsFrom (before : WordCase) (word : List Char) (some : s ≠ []) :
    (caseWordsFrom before word s).flatten = word ++ s := by
  fun_induction caseWordsFrom before word s with
  | case1 => contradiction
  | case2 => simp
  | case3 before word d next rest _ ih => simp [ih]
  | case4 before word d next rest _ _ ih => simp [ih]
  | case5 before word d next rest _ _ ih => simp [ih]

/-- No word is empty: one that ends before a capital has a capital in it. -/
theorem nil_notMem_caseWordsFrom {before : WordCase} (begun : before = .upper → word ≠ []) :
    [] ∉ caseWordsFrom before word s := by
  fun_induction caseWordsFrom before word s with
  | case1 => simp
  | case2 => simp
  | case3 before word d next rest _ ih => simp [ih]
  | case4 before word d next rest _ cut ih => simp [ih,(begun cut.1).symm]
  | case5 before word d next rest _ _ ih => exact ih (by simp)

theorem mem_of_mem_caseWords {w : List Char} (cut : w ∈ caseWords s) : ∀ c ∈ w, c ∈ s ∧ isAlphanumeric c = true := by
  obtain ⟨piece,inside,cut⟩ := List.mem_flatMap.mp cut
  intro c member
  by_cases empty : piece = []
  · subst empty
    cases cut
  · have all : c ∈ (caseWordsFrom .none [] piece).flatten := List.mem_flatten.mpr ⟨w,cut,member⟩
    rw [flatten_caseWordsFrom _ _ empty,List.nil_append] at all
    obtain ⟨solid,here⟩ := mem_of_mem_cutBy inside c all
    exact ⟨here,by simpa using solid⟩

/-- The first word of a name that begins with a letter begins with that. -/
theorem caseWords_cons (plain : isAlphanumeric c = true) : ∃ w more, caseWords (c :: s) = (c :: w) :: more := by
  obtain ⟨piece,pieces,cut⟩ : ∃ piece pieces, cutBy (fun c => !isAlphanumeric c) (c :: s) = (c :: piece) :: pieces := by
    rw [cutBy]
    simp only [plain,Bool.not_true,Bool.false_eq_true,↓reduceIte]
    split
    · exact ⟨[],[],rfl⟩
    · exact ⟨_,_,rfl⟩
  rw [caseWords,cut,List.flatMap_cons]
  have whole := flatten_caseWordsFrom .none [] (List.cons_ne_nil c piece)
  have filled : [] ∉ caseWordsFrom .none [] (c :: piece) := nil_notMem_caseWordsFrom (by simp)
  generalize caseWordsFrom .none [] (c :: piece) = words at whole filled ⊢
  rcases words with _ | ⟨_ | ⟨d,w⟩,more⟩
  · simp at whole
  · simp at filled
  · simp only [List.flatten_cons,List.cons_append,List.nil_append] at whole
    obtain ⟨rfl,_⟩ := List.cons.inj whole
    exact ⟨w,_,rfl⟩

end Text

/-- The snake case of a name that may be given is a word. -/
theorem isWord_snakeCase {name : String} (word : IsWord name) : IsWord (.ofList (Text.snakeCase name.toList)) := by
  have chars := word.chars
  obtain ⟨c,rest,split,letter,_⟩ := word
  have plain : Text.isAlphanumeric c = true := Text.isAlphanumeric_of_isAlphanum (Text.isAlphanum_of_isAlpha letter)
  have lower : ∀ w ∈ Text.caseWords name.toList,
      Text.lowerWord w = w.map Char.toLower ∧ ∀ d ∈ w, d.isAlphanum = true := by
    intro w cut
    have solid : ∀ d ∈ w, d.isAlphanum = true := by
      intro d member
      obtain ⟨here,kind⟩ := Text.mem_of_mem_caseWords cut d member
      rcases chars d here with plain | rfl
      · exact plain
      · exact absurd kind (by decide)
    exact ⟨Text.lowerWord_of_ascii fun d member => Text.ascii_of_isAlphanum (solid d member),solid⟩
  obtain ⟨w,more,words⟩ := Text.caseWords_cons (s := rest) plain
  rw [← split] at words
  obtain ⟨tail,text⟩ : ∃ tail, Text.snakeCase name.toList = c.toLower :: tail := by
    rw [Text.snakeCase,words,List.map_cons,(lower (c :: w) (by simp [words])).1]
    cases more <;> exact ⟨_,rfl⟩
  refine ⟨c.toLower,tail,by rw [String.toList_ofList,text],Text.isAlpha_toLower letter,fun d member => ?_⟩
  have inside : d ∈ Text.join ['_'] ((Text.caseWords name.toList).map Text.lowerWord) := by
    rw [← Text.snakeCase,text]
    exact List.mem_cons_of_mem _ member
  rcases Text.mem_join inside with mark | ⟨piece,made,here⟩
  · exact .inr (List.mem_singleton.mp mark)
  · obtain ⟨w,cut,rfl⟩ := List.mem_map.mp made
    obtain ⟨small,solid⟩ := lower w cut
    rw [small] at here
    obtain ⟨e,old,rfl⟩ := List.mem_map.mp here
    exact .inl (Text.isAlphanum_lower (solid e old))

namespace Target

/-! ### Names of paths -/

theorem isSpelled_of_isWord {name : String} (word : IsWord name) : Token.IsSpelled name.toList := by
  obtain ⟨c,rest,chars,letter,others⟩ := word
  exact ⟨c,rest,chars,.inl letter,others⟩

/-- The identifier of a word may stand in a path. -/
theorem isPathName_identifier {name : String} (word : IsWord name) : Reader.IsPathName (identifier name) := by
  have raw : ∀ k ∈ keywords, Token.IsSpelled k.toList ∧ k ∉ ["_","super","self","Self","crate"] ∧
      Reader.isName ("r#" ++ k) = true := by decide +kernel
  have marked : ∀ n ∈ reserved, Token.IsSpelled (n ++ "_").toList ∧ Reader.isName (n ++ "_") = true := by
    decide +kernel
  rw [identifier_of_word word]
  split
  · rename_i special
    obtain ⟨spelled,named⟩ := marked name special
    exact ⟨.inl spelled,.inl named⟩
  · split
    · rename_i keyword
      obtain ⟨plain,other,named⟩ := raw name keyword
      exact ⟨.inr ⟨name,rfl,plain,other⟩,.inl named⟩
    · rename_i plain free
      exact ⟨.inl (isSpelled_of_isWord word),.inl (by simp [Reader.isName,plain,free])⟩

/-! ### The texts of elements -/

/-- The path of the type for a built-in type, and whether it is global. -/
def primitivePath (p : Primitive) : Bool × List String :=
  if p.isString then (true,["std","string","String"]) else (false,[primitiveText p none])

theorem isElement_primitive (p : Primitive) (bound : Option Nat) :
    IsElement (primitiveText p bound) (primitivePath p).1 (primitivePath p).2 := by
  have words : ∀ n ∈ ["bool","u8","i8","i16","u16","i32","u32","i64","u64","f32","f64","std","string","String"],
      Token.IsSpelled n.toList ∧ Reader.isName n = true := by decide +kernel
  have name : ∀ {n : String}, n ∈ ["bool","u8","i8","i16","u16","i32","u32","i64","u64","f32","f64","std","string",
      "String"] → Reader.IsPathName n := fun member => ⟨.inl (words _ member).1,.inl (words _ member).2⟩
  cases text : p.isString with
  | true =>
    have path : primitivePath p = (true,["std","string","String"]) := by simp [primitivePath,text]
    rw [path]
    refine ⟨by simp,?_,bound,?_⟩
    · simp only [List.mem_cons,List.not_mem_nil,or_false,forall_eq_or_imp,forall_eq]
      exact ⟨name (by simp),name (by simp),name (by simp)⟩
    · cases p <;> cases text <;> simp [primitiveText,stringType,Token.pathText,Text.join]
  | false =>
    have path : primitivePath p = (false,[primitiveText p none]) := by simp [primitivePath,text]
    rw [path]
    refine ⟨by simp,?_,none,?_⟩
    · rw [List.forall_mem_singleton]
      cases p <;> cases text <;> exact name (by simp [primitiveText])
    · cases p <;> cases text <;> simp [primitiveText,Token.pathText,Text.join]

/-- Names with two colons between them, perhaps with colons in front, none of which is a keyword but the words for
    the modules around. -/
def IsPlainPath (text : String) : Prop :=
  ∃ isGlobal names, names ≠ [] ∧ (∀ n ∈ names, Reader.IsPathName n) ∧ text.toList = Token.pathText isGlobal names

theorem pathText_concat (isGlobal : Bool) {names : List String} (filled : names ≠ []) (name : String) :
    Token.pathText isGlobal (names ++ [name]) = Token.pathText isGlobal names ++ ("::".toList ++ name.toList) := by
  have joined : ∀ pieces : List (List Char), pieces ≠ [] → ∀ piece : List Char,
      Text.join "::".toList (pieces ++ [piece]) = Text.join "::".toList pieces ++ ("::".toList ++ piece) := by
    intro pieces some piece
    induction pieces with
    | nil => contradiction
    | cons first rest ih =>
      cases rest with
      | nil => simp [Text.join]
      | cons next more =>
        have later := ih (by simp)
        simp only [List.cons_append,Text.join,List.append_assoc] at later ⊢
        rw [later]
  rw [Token.pathText,Token.pathText,List.map_append,List.map_singleton,joined _ (by simpa using filled),
    List.append_assoc]

end Target

namespace PackageIndex

/-- The indexes that are made of names that messages may have and of plain paths. -/
inductive IsPlain : PackageIndex → Prop
  | empty (package : String) : IsPlain (.empty package)
  | insert {index : PackageIndex} {name : String} (plain : IsPlain index) (named : isMessageName name = true) :
      IsPlain (index.insert name)
  | withExternal {index : PackageIndex} {path : String} (plain : IsPlain index) (package : String)
      (isPath : Target.IsPlainPath path) : IsPlain (index.withExternal package path)

variable {index : PackageIndex} {name package path : String}

theorem IsPlain.of_module? {module : String} (plain : index.IsPlain) (held : index.module? name = some module) :
    isMessageName name = true ∧ module = Target.moduleName name := by
  induction plain with
  | empty => cases held
  | @insert index other _ named ih =>
    rw [module?_insert,Option.or_eq_some_iff] at held
    rcases held with old | ⟨_,new⟩
    · exact ih old
    · split at new
      · rename_i same
        subst same
        exact ⟨named,(Option.some.inj new).symm⟩
      · cases new
  | withExternal _ _ _ ih => exact ih held

theorem IsPlain.of_find? (plain : index.IsPlain) (held : index.externals.find? package = some path) :
    Target.IsPlainPath path := by
  induction plain with
  | empty => cases held
  | @insert index other _ _ ih => exact ih held
  | @withExternal index text _ other isPath ih =>
    change (Catalog.put other text index.externals).find? package = some path at held
    rw [Catalog.find?_put] at held
    split at held
    · exact Option.some.inj held ▸ isPath
    · exact ih held

/-- The path of a sibling: the module around, the module of the message and its type. -/
def siblingNames (name : String) : List String := ["super",Target.moduleName name,Target.identifier name]

theorem isElement_sibling (named : isMessageName name = true) :
    Target.IsElement s!"super::{Target.moduleName name}::{Target.identifier name}" false (siblingNames name) := by
  have word := NamePattern.isWord_of_accepts named
  have around : Target.Reader.IsPathName "super" := ⟨.inl (by decide),.inr (by decide)⟩
  refine ⟨by simp [siblingNames],?_,none,?_⟩
  · simp only [siblingNames,List.mem_cons,List.not_mem_nil,or_false,forall_eq_or_imp,forall_eq]
    exact ⟨around,Target.isPathName_identifier (isWord_snakeCase word),Target.isPathName_identifier word⟩
  · simp [siblingNames,Target.Token.pathText,Text.join,toString]

/-- What a plain index resolves is the path of a module and of a type in it. -/
theorem isElement_resolve (plain : index.IsPlain) {reference : Option String} (named : isMessageName name = true)
    (resolved : index.resolve (.message reference name) = some path) :
    ∃ isGlobal names, Target.IsElement path isGlobal names ∧ 1 < names.length := by
  have word := NamePattern.isWord_of_accepts named
  by_cases own : reference = none ∨ reference = some index.package
  · rw [resolve_own own] at resolved
    obtain ⟨module,held,rfl⟩ := Option.map_eq_some_iff.mp resolved
    obtain ⟨_,rfl⟩ := plain.of_module? held
    exact ⟨false,_,isElement_sibling named,by simp [siblingNames]⟩
  · cases reference with
    | none => exact absurd (.inl rfl) own
    | some other =>
      have foreign : other ≠ index.package := fun same => own (.inr (congrArg some same))
      rw [resolve_foreign foreign] at resolved
      obtain ⟨text,held,rfl⟩ := Option.map_eq_some_iff.mp resolved
      obtain ⟨isGlobal,names,filled,words,chars⟩ := plain.of_find? held
      refine ⟨isGlobal,names ++ [Target.identifier name],⟨by simp,?_,none,?_⟩,?_⟩
      · intro n member
        rcases List.mem_append.mp member with old | new
        · exact words n old
        · exact List.mem_singleton.mp new ▸ Target.isPathName_identifier word
      · rw [Target.pathText_concat isGlobal filled,← chars]
        simp [toString]
      · have := List.length_pos_iff.mpr filled
        simp only [List.length_append,List.length_singleton]
        omega

end PackageIndex

end MsgBindings
