import MsgBindings.Configuration
import MsgBindings.Proofs.EmittedItems

/-!
The derive that is written out. A derive names something plain exactly if its tokens are one word
(`DeriveList.tokens?_eq_word_iff`), so more texts name the default value than the one that is looked for. Where one of
the others is asked for, the default value is derived, and the default values of members are lost
(`Message.defaults_of_generate`).
-/
namespace MsgBindings

namespace Target

variable {path : Path} {tokens s s' : List Token} {name derive : String} {fuel : Nat}

/-! ### Paths of one word -/

namespace Reader

variable {segments : List Segment}

/-- Whether the segment of a path goes on behind its name, or another one follows. -/
def atMore (s : List Token) : Bool := atAngle s || (atPair ':' ':' s && !atCallColons s)

theorem eq_of_atMore (on : atMore s = true) :
    (∃ joint rest, s = .mark '<' joint :: rest) ∨
      ∃ joint rest, s = .mark ':' true :: .mark ':' joint :: rest ∧ atOpening .round rest = false := by
  simp only [atMore,atAngle,Bool.or_eq_true,Bool.and_eq_true,Bool.not_eq_true'] at on
  rcases on with (⟨less,_⟩ | ⟨colons,less⟩) | ⟨colons,call⟩
  · obtain ⟨joint,rest,rfl⟩ := atMark_iff.mp less
    exact .inl ⟨joint,rest,rfl⟩
  · obtain ⟨joint,rest,rfl⟩ := atPair_iff.mp colons
    obtain ⟨_,_,rfl⟩ := atMark_iff.mp less
    exact .inr ⟨joint,_,rfl,rfl⟩
  · obtain ⟨joint,rest,rfl⟩ := atPair_iff.mp colons
    exact .inr ⟨joint,rest,rfl,by simpa [atCallColons,colons] using call⟩

theorem segment_start {segment : Segment} (taken : Reader.segment fuel s = some (segment,s')) :
    ∃ name rest, s = .identifier name :: rest ∧
      (segment = .plain name ∧ s' = rest ∨ segment.isPlain = false ∧ atMore rest = true) := by
  cases fuel with
  | zero => cases taken
  | succ fuel =>
    obtain ⟨name,rest,rfl,⟨_,plain⟩ | ⟨_,_,⟨_,plain⟩ | ⟨angle,_,rfl,_⟩⟩⟩ := segment_eq_some.mp taken
    · exact ⟨name,rest,rfl,.inl plain⟩
    · exact ⟨name,rest,rfl,.inl plain⟩
    · exact ⟨name,rest,rfl,.inr ⟨rfl,by simp [atMore,angle]⟩⟩

theorem pathRest_start (taken : pathRest fuel s = some (segments,s')) :
    segments = [] ∧ s' = s ∨ segments ≠ [] ∧ atMore s = true := by
  cases fuel with
  | zero => cases taken
  | succ fuel =>
    rcases pathRest_eq_some.mp taken with ⟨colons,path⟩ | ⟨_,none⟩
    · obtain ⟨_,_,_,_,_,rfl⟩ := path_eq_some.mp path
      exact .inr ⟨by simp,by simp [atMore,colons]⟩
    · exact .inl none

/-- A path that is taken whole starts with a name. It is this name alone, or more of it follows. -/
theorem path_start (taken : Reader.path fuel s = some (segments,[])) :
    ∃ name rest, s = .identifier name :: rest ∧
      (segments = [.plain name] ∧ rest = [] ∨ (∀ n, segments ≠ [.plain n]) ∧ atMore rest = true) := by
  cases fuel with
  | zero => cases taken
  | succ fuel =>
    obtain ⟨first,next,later,here,behind,rfl⟩ := path_eq_some.mp taken
    obtain ⟨name,rest,rfl,⟨rfl,rfl⟩ | ⟨arguments,on⟩⟩ := segment_start here
    · rcases pathRest_start behind with ⟨rfl,rfl⟩ | ⟨some,on⟩
      · exact ⟨name,[],rfl,.inl ⟨rfl,rfl⟩⟩
      · exact ⟨name,next,rfl,.inr ⟨by simp [some],on⟩⟩
    · refine ⟨name,rest,rfl,.inr ⟨?_,on⟩⟩
      rintro n same
      obtain ⟨rfl,_⟩ := List.cons.inj same
      cases arguments

end Reader

/-- A path is one plain name exactly if its tokens are. -/
theorem path_eq_plain_iff {text : List Char} (read : Path.read? text = some path)
    (lexed : Token.readAll text = some tokens) : path = ⟨false,[.plain name]⟩ ↔ tokens = [.identifier name] := by
  obtain ⟨_,s,lexed',start,taken⟩ := Path.read?_eq_some.mp read
  obtain rfl := Option.some.inj (lexed.symm.trans lexed')
  obtain ⟨isGlobal,segments⟩ := path
  obtain ⟨test,behind⟩ := Reader.optional_eq_some.mp start
  obtain ⟨word,rest,rfl,here⟩ := Reader.path_start taken
  dsimp only at test behind here
  cases isGlobal with
  | false =>
    obtain rfl : tokens = _ := behind
    rcases here with ⟨rfl,rfl⟩ | ⟨other,on⟩
    · simp [Segment.plain]
    · have filled : rest ≠ [] := by
        rintro rfl
        cases on
      simp [other name,filled]
  | true =>
    have different : tokens ≠ [.identifier name] := by
      rintro rfl
      cases test
    simp [different]

namespace DeriveList

/-! ### Arranged tokens -/

theorem flatten_prepend (front : List Token) (parts : List (List Token)) :
    ((prepend front parts).intersperse [.mark ',' false]).flatten =
      front ++ (parts.intersperse [.mark ',' false]).flatten := by
  rcases parts with _ | ⟨first,_ | ⟨second,rest⟩⟩ <;> simp [prepend]

theorem chunks_word (fuel : Nat) (name : String) (rest : List Token) :
    chunks (fuel + 1) (.identifier name :: rest) =
      (prepend [.identifier name] (chunks fuel rest).1,(chunks fuel rest).2) :=
  chunks.eq_10 fuel _ rest nofun nofun nofun nofun nofun nofun nofun

theorem chunks_colon {rest : List Token} (call : Reader.atOpening .round rest = false) (fuel : Nat) (joint : Bool) :
    chunks (fuel + 1) (.mark ':' true :: .mark ':' joint :: rest) =
      (prepend [.mark ':' true] (chunks fuel (.mark ':' joint :: rest)).1,
        (chunks fuel (.mark ':' joint :: rest)).2) := by
  refine chunks.eq_10 fuel _ _ nofun nofun nofun nofun nofun ?_ nofun
  rintro _ _ _ same
  rw [(List.cons.inj same).2] at call
  cases call

/-- What goes on a path goes on it when it is arranged, with a mark first. -/
theorem arranged_more (on : Reader.atMore s = true) (fuel : Nat) :
    ∃ c joint rest, ((chunks (fuel + 1) s).1.intersperse [.mark ',' false]).flatten = .mark c joint :: rest := by
  obtain ⟨joint,rest,rfl⟩ | ⟨joint,rest,rfl,call⟩ := Reader.eq_of_atMore on
  · rw [chunks.eq_7]
    exact ⟨_,_,_,flatten_prepend _ _⟩
  · rw [chunks_colon call]
    exact ⟨_,_,_,flatten_prepend _ _⟩

theorem arrange_eq_word_iff {text : List Char} (read : Path.read? text = some path)
    (lexed : Token.readAll text = some tokens) : arrange tokens = [.identifier name] ↔ tokens = [.identifier name] := by
  obtain ⟨_,s,lexed',start,taken⟩ := Path.read?_eq_some.mp read
  obtain rfl := Option.some.inj (lexed.symm.trans lexed')
  obtain ⟨word,rest,rfl,here⟩ := Reader.path_start taken
  obtain ⟨test,behind⟩ := Reader.optional_eq_some.mp start
  unfold arrange
  cases isGlobal : path.isGlobal with
  | false =>
    rw [isGlobal] at behind
    obtain rfl : tokens = .identifier word :: rest := behind
    rw [List.length_cons,chunks_word,flatten_prepend,List.singleton_append,List.cons.injEq,List.cons.injEq]
    refine and_congr_right fun _ => ?_
    rcases here with ⟨_,rfl⟩ | ⟨_,on⟩
    · exact iff_of_true rfl rfl
    · obtain ⟨_,_,_,arranged⟩ := arranged_more on rest.length
      rw [arranged]
      exact iff_of_false (List.cons_ne_nil _ _) (by rintro rfl; cases on)
  | true =>
    rw [isGlobal] at test behind
    have on : Reader.atMore tokens = true := by
      have call : Reader.atCallColons tokens = false := by
        simp only [if_true] at behind
        simp [Reader.atCallColons,behind,Reader.atOpening]
      simp [Reader.atMore,test,call]
    obtain ⟨_,_,_,arranged⟩ := arranged_more on tokens.length
    rw [arranged]
    refine iff_of_false (by simp) ?_
    rintro rfl
    cases test

/-! ### Spellings of a name -/

/-- Whether a derive names what a name names: without the blanks around it, it is a path of this name alone. -/
def Names (name derive : String) : Prop := Path.read? (Text.trim derive.toList) = some ⟨false,[.plain name]⟩

/-- What a derive names is what stands in the generated code. -/
theorem tokens?_eq_word_iff : tokens? derive = some [.identifier name] ↔ Names name derive := by
  unfold tokens? Names
  simp only [Option.bind_eq_bind,Option.bind_eq_some_iff,Option.pure_def,Option.some.injEq]
  constructor
  · rintro ⟨path,read,tokens,lexed,arranged⟩
    rw [read,(path_eq_plain_iff read lexed).mpr ((arrange_eq_word_iff read lexed).mp arranged)]
  · intro read
    obtain ⟨tokens,_,lexed,_⟩ := Path.read?_eq_some.mp read
    exact ⟨_,read,tokens,lexed,(arrange_eq_word_iff read lexed).mpr ((path_eq_plain_iff read lexed).mp rfl)⟩

theorem names_default : Names "Default" "Default" := tokens?_eq_word_iff.mp (by decide +kernel)

end DeriveList

end Target

namespace Message

variable {m : Message} {style : Style} {index : PackageIndex} {g : GeneratedModule}

namespace Emission

variable (e : Emission m style index)

/-- Whether the record of a message derives its default value. -/
def DerivesDefault : Prop := [Target.Token.identifier "Default"] ∈ e.derives

/-- Whether the default value of the record of a message is written out. -/
def WritesDefault : Prop := ∃ name values, Target.Item.defaults name values ∈ e.items

theorem derivesDefault_iff :
    e.DerivesDefault ↔ ∃ d ∈ style.derives, d ≠ "Default" ∧ Target.DeriveList.Names "Default" d := by
  constructor
  · intro member
    obtain ⟨d,asked,made⟩ := exists_of_mem_right e.derived member
    obtain ⟨asked,other⟩ := List.mem_filter.mp asked
    exact ⟨d,asked,by simpa using other,Target.DeriveList.tokens?_eq_word_iff.mp made⟩
  · rintro ⟨d,asked,other,names⟩
    have kept : d ∈ style.derives.filter (· != "Default") := List.mem_filter.mpr ⟨asked,by simpa using other⟩
    obtain ⟨tokens,member,made⟩ := exists_of_mem_right e.derived.flip kept
    obtain rfl := Option.some.inj (made.symm.trans (Target.DeriveList.tokens?_eq_word_iff.mpr names))
    exact member

theorem writesDefault_iff : e.WritesDefault ↔ "Default" ∈ style.derives := by
  constructor
  · rintro ⟨name,values,member⟩
    simp only [items,List.mem_cons,List.mem_append] at member
    rcases member with same | (default | constants) | enumeration
    · cases same
    · by_contra other
      simp [other] at default
    · split at constants
      · cases constants
      · cases List.mem_singleton.mp constants
    · obtain ⟨_,_,_,same,_⟩ := exists_of_mem_right e.enumerated enumeration
      cases same
  · intro asked
    exact ⟨Target.identifier m.name,e.values,by simp [items,asked]⟩

end Emission

/-- The default value is derived exactly if it is asked for in a text other than its plain name, and written out, with
    the default values of the members, exactly if it is asked for by its plain name. -/
theorem defaults_of_generate (made : m.generate style index = .ok g) :
    ∃ (e : Emission m style index) (texts : List String), List.Forall₂ Target.Item.IsText e.items texts ∧
      g.code = style.preamble ++ String.join texts ∧
      (e.DerivesDefault ↔ ∃ d ∈ style.derives, d ≠ "Default" ∧ Target.DeriveList.Names "Default" d) ∧
      (e.WritesDefault ↔ "Default" ∈ style.derives) ∧
      (¬ e.DerivesDefault ∧ (e.WritesDefault ↔ ∃ d ∈ style.derives, Target.DeriveList.Names "Default" d) ↔
        ∀ d ∈ style.derives, Target.DeriveList.Names "Default" d → d = "Default") := by
  obtain ⟨items,written,rfl⟩ := generate_eq_ok.mp made
  obtain ⟨e,rfl⟩ := emission_of_items written
  have some : e.items ≠ [] := List.cons_ne_nil _ _
  obtain ⟨texts,related,code⟩ := Target.itemsText_of_closed some e.isClosed
  refine ⟨e,texts,related,congrArg (style.preamble ++ ·) code,e.derivesDefault_iff,e.writesDefault_iff,?_⟩
  rw [e.derivesDefault_iff,e.writesDefault_iff]
  constructor
  · rintro ⟨underived,_⟩ d asked names
    by_contra other
    exact underived ⟨d,asked,other,names⟩
  · intro only
    refine ⟨?_,fun asked => ⟨_,asked,Target.DeriveList.names_default⟩,?_⟩
    · rintro ⟨d,asked,other,names⟩
      exact other (only d asked names)
    · rintro ⟨d,asked,names⟩
      exact only d asked names ▸ asked

/-- The default value of a member is kept where the default value of records is asked for by its plain name. -/
theorem defaults_of_plain_name :
    let m : Message := ⟨"test_msgs","Pair","",[⟨"x",.ofPrimitive .int32,.member (some (.single (.integer 5))),none,1⟩],[]⟩
    let c : Configuration :=
      ⟨some "test_msgs",⟨["Debug","Default"],none,[]⟩,false,some "out",some "msg",[],[]⟩
    let code := "#[derive(Debug)]\npub struct Pair \x7b\n    pub x: i32,\n\x7d\n" ++
      "impl ::core::default::Default for Pair \x7b\n    #[inline]\n    fn default() -> Self \x7b\n" ++
      "        Self \x7b x: 5 \x7d\n    \x7d\n\x7d\n"
    c.check = .ok ⟨"test_msgs","out"⟩ ∧ Message.read "test_msgs" "Pair" "int32 x 5\n" = .ok m ∧
      m.generate c.style (.empty "test_msgs") = .ok ⟨code,"Pair","pair"⟩ ∧
      ∃ e : Emission m c.style (.empty "test_msgs"), ¬ e.DerivesDefault ∧ e.WritesDefault := by
  intro m c code
  have checked : c.check = .ok ⟨"test_msgs","out"⟩ := by decide +kernel
  have read : Message.read "test_msgs" "Pair" "int32 x 5\n" = .ok m := by decide +kernel
  have made : m.generate c.style (.empty "test_msgs") = .ok ⟨code,"Pair","pair"⟩ := by decide +kernel
  obtain ⟨e,texts,related,_,_,written,whole⟩ := defaults_of_generate made
  have debug : ¬ Target.DeriveList.Names "Default" "Debug" := by
    intro names
    have other : Target.DeriveList.tokens? "Debug" ≠ some [.identifier "Default"] := by decide +kernel
    exact other (Target.DeriveList.tokens?_eq_word_iff.mpr names)
  have only : ∀ d ∈ c.style.derives, Target.DeriveList.Names "Default" d → d = "Default" := by
    intro d asked names
    rcases List.mem_cons.mp asked with rfl | later
    · exact (debug names).elim
    · exact List.mem_singleton.mp later
  exact ⟨checked,read,made,e,(whole.mpr only).1,written.mpr (by decide)⟩

/-- With a blank in front of its name the default value is derived, and the one of the member is lost. -/
theorem defaults_of_blank :
    let m : Message := ⟨"test_msgs","Pair","",[⟨"x",.ofPrimitive .int32,.member (some (.single (.integer 5))),none,1⟩],[]⟩
    let c : Configuration := ⟨some "test_msgs",⟨[" Default"],none,[]⟩,false,some "out",some "msg",[],[]⟩
    let code := "#[derive(Default)]\npub struct Pair \x7b\n    pub x: i32,\n\x7d\n"
    c.check = .ok ⟨"test_msgs","out"⟩ ∧ Message.read "test_msgs" "Pair" "int32 x 5\n" = .ok m ∧
      m.generate c.style (.empty "test_msgs") = .ok ⟨code,"Pair","pair"⟩ ∧
      Target.DeriveList.Names "Default" " Default" ∧
      ∀ e : Emission m c.style (.empty "test_msgs"), e.DerivesDefault ∧ ¬ e.WritesDefault := by
  intro m c code
  have checked : c.check = .ok ⟨"test_msgs","out"⟩ := by decide +kernel
  have read : Message.read "test_msgs" "Pair" "int32 x 5\n" = .ok m := by decide +kernel
  have made : m.generate c.style (.empty "test_msgs") = .ok ⟨code,"Pair","pair"⟩ := by decide +kernel
  have names : Target.DeriveList.Names "Default" " Default" :=
    Target.DeriveList.tokens?_eq_word_iff.mp (by decide +kernel)
  refine ⟨checked,read,made,names,fun e => ⟨?_,?_⟩⟩
  · exact e.derivesDefault_iff.mpr ⟨" Default",by decide,by decide,names⟩
  · rw [e.writesDefault_iff]
    decide

end Message

end MsgBindings
