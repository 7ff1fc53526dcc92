import MsgBindings.Proofs.FollowedText
import MsgBindings.Proofs.FollowedTokens
import MsgBindings.Proofs.References
import MsgBindings.Proofs.Resolution
import MsgBindings.Proofs.Results

/-!
Messages of other packages. What is registered for a package is read as a path when it is checked, and read again as
part of a type, with the name of a message behind it. The type is the path that goes on with the name exactly if the
text can go on (`joins_iff`): the end of a line may be the end of a comment that takes the name with it.
-/
namespace MsgBindings

namespace Target

variable {path : Path} {text name : String} {tokens : List Token}

/-! ### Names behind a path -/

/-- The text of a path with a name behind it. -/
def joinedText (text name : String) : String := s!"{text}::{name}"

theorem toList_joinedText (text name : String) :
    (joinedText text name).toList = text.toList ++ ':' :: ':' :: name.toList := by
  simp [joinedText,toString]

theorem trim_colon {s t : List Char} (solid : ∀ c ∈ t, Text.isBlank c = false) :
    Text.trim (s ++ ':' :: t) = (s ++ ':' :: t).dropWhile Text.isBlank := by
  have colon : Text.isBlank ':' = false := by decide
  have kept : Text.trimEnd t = t := by
    rw [Text.trimEnd_eq,List.rdropWhile_eq_self_iff]
    exact fun filled => ne_true_of_eq_false (solid _ (List.getLast_mem filled))
  rw [Text.trim_append_cons colon,kept]
  exact (Text.trimStart_append_cons colon).symm

/-- What is known of a name behind a path. -/
theorem solid_colon (word : Token.IsNameText name) : ∀ c ∈ ':' :: name.toList, Text.isBlank c = false ∧ c ≠ '/' := by
  rw [List.forall_mem_cons]
  refine ⟨by decide,fun c member => ?_⟩
  obtain ⟨solid,slash,_⟩ := solid_of_isNameText word c member
  exact ⟨solid,slash⟩

theorem lexes_joined {rest : List Char} {ts : List Token} (word : Token.IsNameText name) (parted : Token.Parted rest)
    (read : Token.Reads rest ts) :
    Token.Lexes (':' :: ':' :: (name.toList ++ rest)) (Token.colons ++ .identifier name :: ts) :=
  Token.reads_iff_lexes.mp (Token.reads_colons (Token.startsMark_name word) (Token.reads_name word parted read))

/-- Whether a text has the same tokens with a colon behind it, except that the last one may be a joint mark then. -/
structure Continues (text : String) (tokens longer : List Token) : Prop where
  closed (t : List Char) : dropComments false (text.toList ++ ':' :: t) =
    dropComments false text.toList ++ ':' :: dropComments false t
  lengthened : Token.Lengthened tokens longer
  lexes {e : List Char} {ts : List Token} : Token.Lexes (':' :: e) ts →
    Token.Lexes (dropComments false text.toList ++ ':' :: e) (longer ++ ts)

section

variable {longer : List Token} (continues : Continues text tokens longer) (word : Token.IsNameText name)
include continues word

theorem Continues.dropComments_joinedText (t : List Char) :
    dropComments false ((joinedText text name).toList ++ t) =
      (dropComments false text.toList ++ ':' :: ':' :: name.toList) ++ dropComments false t := by
  have plain : '/' ∉ ':' :: name.toList := fun member => (solid_colon word _ member).2 rfl
  have behind := dropComments_plain plain t
  rw [toList_joinedText,List.append_assoc,List.cons_append,continues.closed,behind]
  simp only [List.append_assoc,List.cons_append]

/-- The tokens of a text with a name behind it, without the blanks around. -/
theorem Continues.lexes_joinedText :
    Token.Lexes (Text.trim (dropComments false text.toList ++ ':' :: ':' :: name.toList))
      (longer ++ (Token.colons ++ [.identifier name])) := by
  have here := lexes_joined word (by simp [Token.Parted]) Token.reads_nil
  rw [List.append_nil] at here
  rw [trim_colon fun c member => (solid_colon word c member).1]
  exact (continues.lexes here).dropWhile_blank

end

/-- A colon that is not lost is a token more. -/
theorem readAll_colon_ne {s : List Char} {longer : List Token} (lengthened : Token.Lengthened tokens longer)
    (later : ∀ e us, Token.Lexes (':' :: e) us → Token.Lexes (s ++ ':' :: e) (longer ++ us)) :
    Token.readAll (s ++ [':']) ≠ some tokens := by
  have colon : Token.Lexes [':'] [.mark ':' false] :=
    Token.reads_iff_lexes.mp (Token.reads_mark (by decide) Token.reads_nil)
  rw [Token.readAll_of_lexes (later [] _ colon)]
  intro same
  have count := congrArg List.length (Option.some.inj same)
  rw [List.length_append,lengthened.length_eq] at count
  simp at count

/-- A colon behind a text that has tokens is one more, so that a name can follow, or it is lost, and the name with it. -/
theorem continues_or_lost (lexes : Token.Lexes (dropComments false text.toList) tokens) :
    (Token.readAll (dropComments false (text.toList ++ [':'])) ≠ some tokens ∧ ∃ longer, Continues text tokens longer) ∨
      Token.readAll (dropComments false (text.toList ++ [':'])) = some tokens ∧
        ∀ a b, Token.IsNameText a → Token.IsNameText b →
          TypeExpr.read? (joinedText text a).toList = TypeExpr.read? (joinedText text b).toList := by
  rcases dropComments_colon false text.toList with closed | opened
  · rcases lexes.colon with ⟨longer,lengthened,later⟩ | ⟨_,lost⟩
    · refine .inl ⟨?_,longer,closed,lengthened,later _ _⟩
      rw [closed,dropComments]
      exact readAll_colon_ne lengthened later
    · refine .inr ⟨?_,fun a b first second => ?_⟩
      · rw [closed,dropComments]
        exact Token.readAll_of_lexes (lost [] List.not_mem_nil)
      · have whole : ∀ n, Token.IsNameText n →
            Token.readAll (Text.trim (dropComments false (joinedText text n).toList)) = some tokens := by
          intro n word
          have solid := solid_colon word
          have line : '\n' ∉ ':' :: n.toList := fun member => absurd (solid _ member).1 (by decide)
          have behind := dropComments_plain (fun member => (solid _ member).2 rfl) []
          rw [List.append_nil,dropComments,List.append_nil] at behind
          rw [toList_joinedText,closed,behind,trim_colon fun c member => (solid c member).1]
          exact Token.readAll_of_lexes (lost _ line).dropWhile_blank
        simp only [TypeExpr.read?,Reader.readAll,whole a first,whole b second]
  · refine .inr ⟨?_,fun a b first second => ?_⟩
    · rw [opened,dropComments,List.append_nil]
      exact Token.readAll_of_lexes lexes
    · have left : ∀ n, Token.IsNameText n →
          dropComments false (joinedText text n).toList = dropComments false text.toList := by
        intro n word
        have plain : '/' ∉ ':' :: n.toList := fun member => (solid_colon word _ member).2 rfl
        rw [toList_joinedText,opened,dropComments_open plain,List.append_nil]
      rw [TypeExpr.read?,TypeExpr.read?,left a first,left b second]

/-! ### Paths that names can be joined to -/

/-- Whether a name can be joined to a path: a colon behind its text is a token, and the path begins neither with a mark
    of byte order nor with the word that paths but no types begin with. -/
structure Joins (text : String) (path : Path) : Prop where
  colon : Token.readAll (dropComments false (text.toList ++ [':'])) ≠
    Token.readAll (dropComments false text.toList)
  unmarked : ∀ c ∈ (dropComments false text.toList).head?, c.toNat ≠ 0xFEFF
  typed : path.isGlobal = false → path.segments.head? ≠ some (.plain "try")

/-- The type that is a path with a name joined to it. -/
def joinedType (path : Path) (name : String) : TypeExpr := .path path.isGlobal (path.segments ++ [.plain name])

/-- A mark that ends a path may be joined to what follows. -/
theorem followed_of_lengthened {longer more : List Token} {last : Token} (ends : Reader.EndsPath last)
    (suffix : [last] <:+ tokens) (lengthened : Token.Lengthened tokens longer) :
    Reader.Followed more tokens (longer ++ more) := by
  cases lengthened with
  | same => exact Reader.followed_append more tokens
  | joint front c =>
    obtain ⟨before,same⟩ := suffix
    obtain rfl : last = .mark c false := List.singleton_inj.mp (List.append_inj' same rfl).2
    obtain ⟨_,⟨⟩⟩ | ⟨_,⟨⟩⟩ := ends
    rw [List.append_assoc]
    exact (Reader.Followed.greater false true .done).append front

theorem Joins.readsAsElement (joins : Joins text path) (read : Path.read? (dropComments false text.toList) = some path)
    (word : Reader.IsPathName name) :
    ∃ left tokens, ReadsAsElement (joinedText text name) left tokens (joinedType path name) := by
  obtain ⟨tokens,s,lexed,start,taken⟩ := Path.read?_eq_some.mp read
  rcases continues_or_lost (Token.lexes_of_readAll lexed joins.unmarked) with ⟨_,longer,continues⟩ | ⟨lost,_⟩
  · obtain ⟨last,ends,suffix⟩ := Reader.path_suffix taken
    have front : [last] <:+ tokens := by
      obtain ⟨_,rfl⟩ := Reader.optional_eq_some.mp start
      split at suffix
      · exact suffix.trans (List.drop_suffix 2 tokens)
      · exact suffix
    have typed : ∀ {rest : List Token} {fuel : Nat}, Reader.Stops rest → 16 * (tokens.length + 1) + 3 ≤ fuel →
        Reader.AtPath (longer ++ (Token.colons ++ [.identifier name]) ++ rest) ∧
          Reader.type fuel true (longer ++ (Token.colons ++ [.identifier name]) ++ rest) =
            some (joinedType path name,rest) := by
      intro rest fuel stops enough
      have followed : Reader.Followed (Token.colons ++ .identifier name :: rest) tokens
          (longer ++ (Token.colons ++ .identifier name :: rest)) :=
        followed_of_lengthened ends front continues.lengthened
      rw [List.append_assoc,List.append_assoc]
      exact Reader.type_followed (stops.goesOn_name word.2) stops start taken joins.typed enough followed
    have whole := continues.lexes_joinedText word.1
    refine ⟨_,longer ++ (Token.colons ++ [.identifier name]),continues.dropComments_joinedText word.1,?_,
      Token.reads_iff_lexes.mpr whole,Token.unmarked_of_lexes whole,fun stops => (typed stops le_rfl).1,?_⟩
    · intro c s ts parting here
      have parted : Token.Parted (c :: s) := fun d first => Option.some.inj first ▸ parting
      rw [List.append_assoc,List.append_assoc,List.append_assoc]
      exact Token.reads_iff_lexes.mpr (continues.lexes (lexes_joined word.1 parted here))
    · intro rest fuel stops enough
      rw [List.length_append,continues.lengthened.length_eq] at enough
      exact (typed stops (by simp only [Token.colons,List.length_append,List.length_cons] at enough; omega)).2
  · exact absurd (lost.trans lexed.symm) joins.colon

/-- Only a path with a slash in its text can lose the colon behind it: all others go on with names, but for what types do
    not begin with. -/
theorem joins_of_plain (plain : '/' ∉ text.toList) (read : Path.read? text.toList = some path)
    (unmarked : ∀ c ∈ text.toList.head?, c.toNat ≠ 0xFEFF)
    (typed : path.isGlobal = false → path.segments.head? ≠ some (.plain "try")) : Joins text path := by
  have whole := dropComments_plain plain []
  rw [dropComments,List.append_nil] at whole
  obtain ⟨tokens,_,lexed,_⟩ := Path.read?_eq_some.mp read
  refine ⟨?_,by rwa [whole],typed⟩
  rw [dropComments_plain plain,whole,lexed,dropComments_cons (by decide),dropComments]
  rcases (Token.lexes_of_readAll lexed unmarked).colon with ⟨longer,lengthened,later⟩ | ⟨slash,_⟩
  · exact readAll_colon_ne lengthened later
  · exact absurd slash plain

theorem TypeExpr.read?_eq_some {chars : List Char} {type : TypeExpr} :
    TypeExpr.read? chars = some type ↔ ∃ tokens, Token.readAll (Text.trim (dropComments false chars)) = some tokens ∧
      Reader.type (16 * (tokens.length + 1)) true tokens = some (type,[]) := by
  unfold TypeExpr.read? Reader.readAll
  simp only [Option.bind_eq_bind,Option.bind_eq_some_iff,Prod.exists,List.isEmpty_iff,Option.ite_none_right_eq_some]
  grind

/-- A text is read as a path from its tokens. -/
theorem Path.read?_congr {s s' : List Char} (same : Token.readAll s = Token.readAll s') :
    Path.read? s = Path.read? s' := by
  rw [Path.read?,Path.read?,Reader.readAll,Reader.readAll,same]

/-- Within an array a mark of byte order is part of no type. -/
theorem unmarked_of_array {chars : List Char} {type : TypeExpr} (read : TypeExpr.read? ('[' :: chars) = some type) :
    ∀ c ∈ (dropComments false chars).head?, c.toNat ≠ 0xFEFF := by
  intro c first marked
  obtain ⟨rest,behind⟩ := List.head?_eq_some_iff.mp first
  obtain ⟨tokens,lexed,_⟩ := TypeExpr.read?_eq_some.mp read
  have solid : Text.isBlank c = false := by
    obtain rfl : c = '\uFEFF' := Char.toNat_inj.mp marked
    decide
  have opening := Text.trim_append_cons (s := []) (t := c :: rest) (by decide : Text.isBlank '[' = false)
  have inside := Text.trimEnd_append_cons (s := []) (t := rest) solid
  simp only [List.nil_append] at opening inside
  rw [dropComments_cons (by decide),behind,opening,inside] at lexed
  have whole : Token.Lexes ('[' :: c :: Text.trimEnd rest) tokens :=
    Token.lexes_of_readAll lexed fun d here => Option.some.inj here ▸ by decide
  cases whole with
  | done passes =>
    cases passes with
    | blank blank => cases blank
  | token passes first lexes =>
    cases passes with
    | token =>
      cases first
      exact Token.unmarked_of_lexes lexes c rfl marked
    | blank blank => cases blank

/-- Names can be joined to a path exactly if all arrays of messages behind it are read as those. -/
theorem joins_iff (read : Path.read? (dropComments false text.toList) = some path) :
    Joins text path ↔ ∀ name, isMessageName name = true → ∀ shape,
      TypeExpr.read? (arrayText (joinedText text (identifier name)) shape).toList =
        some (arrayType (joinedType path (identifier name)) shape) := by
  constructor
  · intro joins name named shape
    obtain ⟨_,_,element⟩ := joins.readsAsElement read (isPathName_identifier (NamePattern.isWord_of_accepts named))
    exact element.read?_arrayText shape
  · intro joined
    have named : isMessageName "A" = true ∧ isMessageName "B" = true := by decide +kernel
    have words : Token.IsNameText (identifier "A") ∧ Token.IsNameText (identifier "B") :=
      ⟨(isPathName_identifier (NamePattern.isWord_of_accepts named.1)).1,
        (isPathName_identifier (NamePattern.isWord_of_accepts named.2)).1⟩
    have single := joined "A" named.1 none
    have unmarked : ∀ c ∈ (dropComments false text.toList).head?, c.toNat ≠ 0xFEFF := by
      have array := joined "A" named.1 (some (.fixed 1))
      have chars : (arrayText (joinedText text (identifier "A")) (some (.fixed 1))).toList =
          '[' :: (text.toList ++ ':' :: ':' :: ((identifier "A").toList ++ "; 1]".toList)) := by
        simp [arrayText,joinedText,toString]
        rfl
      rw [chars] at array
      intro c first
      refine unmarked_of_array array c ?_
      rcases dropComments_colon false text.toList with closed | opened
      · rw [closed,List.head?_append,first]
        rfl
      · rw [opened,List.head?_append,first]
        rfl
    obtain ⟨tokens,s,lexed,start,taken⟩ := Path.read?_eq_some.mp read
    rcases continues_or_lost (Token.lexes_of_readAll lexed unmarked) with ⟨colon,longer,continues⟩ | ⟨_,same⟩
    · refine ⟨lexed ▸ colon,unmarked,fun plain head => ?_⟩
      obtain ⟨_,rfl⟩ := Reader.optional_eq_some.mp start
      rw [if_neg (ne_true_of_eq_false plain)] at taken
      obtain ⟨_,rfl⟩ := Reader.path_head taken head
      obtain ⟨_,rfl⟩ := continues.lengthened.of_identifier
      have left := continues.dropComments_joinedText words.1 []
      rw [List.append_nil,dropComments,List.append_nil] at left
      obtain ⟨_,lexed,taken⟩ := TypeExpr.read?_eq_some.mp single
      rw [arrayText,left,Token.readAll_of_lexes (continues.lexes_joinedText words.1)] at lexed
      cases lexed
      cases (Reader.type_try _ true _).symm.trans taken
    · have both := same _ _ words.1 words.2
      have other := joined "B" named.2 none
      rw [arrayText] at single other
      rw [single,other] at both
      exact absurd both (by simp [joinedType,arrayType,Segment.plain]; decide)

end Target

variable {c : Configuration} {destination : Destination} {package text : String}

/-- What a good configuration registers for other packages are paths. -/
theorem Configuration.isPath_of_check (checked : c.check = .ok destination) :
    ∀ entry ∈ c.externals, Configuration.isPath entry.2 = true := by
  unfold check at checked
  dsimp only at checked
  -- Each check that fails ends the run, so all of them hold at its end.
  split at checked
  · cases checked
  split at checked
  · obtain ⟨_,_,checked⟩ := bind_eq_ok.mp checked
    split at checked
    · cases checked
    obtain ⟨_,_,checked⟩ := bind_eq_ok.mp checked
    split at checked
    · cases checked
    split at checked
    · cases checked
    split at checked
    · cases checked
    · rename_i none
      simpa [List.find?_eq_none] using none
  · cases checked

namespace Batch

theorem find?_puts {entries filed : Catalog}
    (found : (entries.foldl (fun filed entry => Catalog.put entry.1 entry.2 filed) filed).find? package = some text) :
    (∃ entry ∈ entries, entry.2 = text) ∨ filed.find? package = some text := by
  induction entries generalizing filed with
  | nil => exact .inr found
  | cons entry entries ih =>
    rcases ih found with ⟨later,member,same⟩ | here
    · exact .inl ⟨later,List.mem_cons_of_mem _ member,same⟩
    · rw [Catalog.find?_put] at here
      split at here
      · exact .inl ⟨entry,List.mem_cons_self,Option.some.inj here⟩
      · exact .inr here

/-- For a package that a good configuration registers as a path which the comments between slash and star are no part
    of, all references to its messages are read as the path with their name behind it exactly if names can be joined to
    the path. -/
theorem externalTypes_of_check (messages : List Message) (checked : c.check = .ok destination)
    (foreign : package ≠ destination.package)
    (registered : (indexOf destination.package c.externals messages).externals.find? package = some text)
    (same : Target.Path.read? (Target.dropComments false text.toList) = Target.Path.read? text.toList) :
    ∃ path, Target.Path.read? text.toList = some path ∧
      (Target.Joins text path ↔ ∀ name, isMessageName name = true → ∀ shape, ∃ code,
        Target.typeText ⟨.message (some package) name,shape⟩
            ((indexOf destination.package c.externals messages).resolve (.message (some package) name)) = some code ∧
          Target.TypeExpr.read? code.toList =
            some (Target.arrayType (Target.joinedType path (Target.identifier name)) shape)) := by
  obtain ⟨own,externals,_⟩ := indexOf_eq destination.package c.externals messages
  have isPath : (Target.Path.read? text.toList).isSome = true := by
    have filed := registered
    rw [externals] at filed
    rcases find?_puts filed with ⟨entry,member,rfl⟩ | none
    · exact Configuration.isPath_of_check checked entry member
    · cases none
  obtain ⟨path,read⟩ := Option.isSome_iff_exists.mp isPath
  refine ⟨path,read,(Target.joins_iff (same.trans read)).trans ?_⟩
  refine forall_congr' fun name => imp_congr_right fun _ => forall_congr' fun shape => ?_
  have resolved : (indexOf destination.package c.externals messages).resolve (.message (some package) name) =
      some (Target.joinedText text (Target.identifier name)) := by
    rw [← own] at foreign
    simp only [PackageIndex.resolve,if_neg foreign,registered,Option.map_some]
    rfl
  rw [resolved]
  simp [Target.typeText]

/-- A path with blanks, a comment and arguments goes on with the names of messages. -/
theorem externalTypes_of_vectors :
    let text := ":: other_msgs /* points */ :: of<Vec<u8>>"
    let c : Configuration := ⟨some "test_msgs",.plain,false,some "out",some "msg",[],[("other_msgs",text)]⟩
    let m : Message :=
      ⟨"test_msgs","Line","",[⟨"p",⟨.message (some "other_msgs") "Point",some (.fixed 3)⟩,.member none,none,1⟩],[]⟩
    let index := indexOf "test_msgs" c.externals [m]
    c.check = .ok ⟨"test_msgs","out"⟩ ∧ Message.read "test_msgs" "Line" "other_msgs/Point[3] p\n" = .ok m ∧
      m.generate c.style index =
        .ok ⟨"pub struct Line \x7b\n    pub p: [::other_msgs::of<Vec<u8>>::Point; 3],\n\x7d\n","Line","line"⟩ ∧
      ∃ path, Target.Path.read? text.toList = some path ∧ ∀ name, isMessageName name = true → ∀ shape, ∃ code,
        Target.typeText ⟨.message (some "other_msgs") name,shape⟩ (index.resolve (.message (some "other_msgs") name)) =
            some code ∧
          Target.TypeExpr.read? code.toList =
            some (Target.arrayType (Target.joinedType path (Target.identifier name)) shape) := by
  intro text c m index
  have checked : c.check = .ok ⟨"test_msgs","out"⟩ := by decide +kernel
  have tokens : Target.Token.readAll (Target.dropComments false text.toList) = Target.Token.readAll text.toList := by
    decide +kernel
  obtain ⟨path,read,joins⟩ := externalTypes_of_check [m] checked (by decide : "other_msgs" ≠ "test_msgs")
    (by decide +kernel) (Target.Path.read?_congr tokens)
  have isGlobal : (Target.Path.read? text.toList).map (·.isGlobal) = some true := by decide +kernel
  rw [read,Option.map_some,Option.some.injEq] at isGlobal
  have first : (Target.dropComments false text.toList).head? = some ':' := by decide +kernel
  have goesOn : Target.Joins text path := by
    refine ⟨by decide +kernel,fun c here => ?_,fun plain => absurd isGlobal (ne_true_of_eq_false plain)⟩
    obtain rfl : ':' = c := Option.some.inj (first.symm.trans here)
    decide
  exact ⟨checked,by decide +kernel,by decide +kernel,path,read,joins.mp goesOn⟩

/-- Behind a comment that goes on to the end of its line a message is read as the path itself, and no array of messages
    is a type. -/
theorem externalTypes_of_line_comment :
    let text := "::other_msgs // points"
    let c : Configuration := ⟨some "test_msgs",.plain,false,some "out",some "msg",[],[("other_msgs",text)]⟩
    let m (shape : Option ArrayShape) : Message :=
      ⟨"test_msgs","Line","",[⟨"p",⟨.message (some "other_msgs") "Point",shape⟩,.member none,none,1⟩],[]⟩
    c.check = .ok ⟨"test_msgs","out"⟩ ∧ Message.read "test_msgs" "Line" "other_msgs/Point p\n" = .ok (m none) ∧
      (m none).generate c.style (indexOf "test_msgs" c.externals [m none]) =
        .ok ⟨"pub struct Line \x7b\n    pub p: ::other_msgs,\n\x7d\n","Line","line"⟩ ∧
      Message.read "test_msgs" "Line" "other_msgs/Point[] p\n" = .ok (m (some .unbounded)) ∧
      (m (some .unbounded)).generate c.style (indexOf "test_msgs" c.externals [m (some .unbounded)]) =
        .error .malformed := by
  decide +kernel

end Batch

end MsgBindings
