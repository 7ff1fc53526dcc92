import Mathlib.Order.Bounds.Basic
import MsgBindings.Proofs.VariantNames

/-!
The segments that variants do without. The search goes up while all names agree and then back until all of them go
on with a letter; where it ends is the greatest number of segments that can be dropped at all (`isGreatest_strip`).
A variant is spelled from the segments behind them (`variantNames_eq`).
-/
namespace MsgBindings

namespace Text

theorem cutBy_eq (p : Char → Bool) (s : List Char) : cutBy p s = s.splitOnP p := by
  induction s with
  | nil => rfl
  | cons c rest ih =>
    rw [cutBy,List.splitOnP_cons_eq_if_modifyHead,← ih]
    split
    · rfl
    · cases pieces : cutBy p rest with
      | nil => exact absurd pieces (cutBy_ne_nil p rest)
      | cons piece pieces => rfl

end Text

namespace Enumeration

theorem segments_eq (name : String) : segments name = name.toList.splitOn '_' := Text.cutBy_eq _ _

/-- Whether names can do without their first `k` segments: the names share them, and each name goes on behind them
    with a segment that begins with a letter. -/
structure CanDrop (names : List String) (k : Nat) : Prop where
  alike : ∀ n ∈ names, ∀ m ∈ names, (n.toList.splitOn '_').take k = (m.toList.splitOn '_').take k
  kept : ∀ n ∈ names, k < (n.toList.splitOn '_').length
  letter : ∀ n ∈ names, ∃ c rest, (n.toList.splitOn '_')[k]? = some (c :: rest) ∧ c.isAlpha = true

/-- A segment as part of a variant: its first character, and the others in lower case. An empty one gives nothing. -/
def segmentWord : List Char → List Char
  | [] => []
  | c :: rest => c :: rest.map Char.toLower

/-! ### Where the search ends -/

section

variable {names : List (List (List Char))}

/-- Every name keeps a segment behind those that can be dropped. -/
theorem le_droppable_iff (filled : names ≠ []) {k : Nat} : k ≤ droppable names ↔ ∀ s ∈ names, k ≤ s.length - 1 := by
  have lengths : names.map (fun s => s.length - 1) ≠ [] := by simpa using filled
  obtain ⟨least,is⟩ := Option.isSome_iff_exists.mp (List.isSome_min?_of_ne_nil lengths)
  rw [droppable,is,Option.getD_some,List.le_min?_iff is]
  simp

/-- The front of a list that satisfies a test is as long as the test goes on to hold. -/
theorem le_length_takeWhile {α : Type} (test : α → Bool) {l : List α} {k : Nat} :
    k ≤ (l.takeWhile test).length ↔ k ≤ l.length ∧ ∀ x ∈ l.take k, test x = true := by
  induction l generalizing k with
  | nil => simp
  | cons a l ih =>
    cases k with
    | zero => simp
    | succ k =>
      by_cases holds : test a = true
      · rw [List.takeWhile_cons_of_pos holds,List.take_succ_cons,List.forall_mem_cons,List.length_cons,List.length_cons,
          Nat.add_le_add_iff_right,Nat.add_le_add_iff_right,ih]
        simp [holds]
      · rw [List.takeWhile_cons_of_neg holds,List.take_succ_cons,List.forall_mem_cons]
        simp [holds]

theorem agreeAt_iff {i : Nat} : agreeAt names i = true ↔ ∀ s ∈ names, ∀ t ∈ names, s[i]? = t[i]? := by
  unfold agreeAt
  cases names with
  | nil => simp
  | cons first rest =>
    simp only [List.head?_cons,Option.bind_some,List.all_eq_true,beq_iff_eq]
    constructor
    · intro agree s inside t member
      rw [agree s inside,agree t member]
    · intro agree s inside
      exact agree s inside first List.mem_cons_self

/-- Going up, the search passes over all segments that the names share. -/
theorem le_shared_iff (filled : names ≠ []) {k : Nat} :
    k ≤ shared names ↔ (∀ s ∈ names, k ≤ s.length - 1) ∧ ∀ s ∈ names, ∀ t ∈ names, s.take k = t.take k := by
  rw [shared,le_length_takeWhile,List.length_range,le_droppable_iff filled]
  refine and_congr_right fun low => ?_
  have below : k ≤ droppable names := (le_droppable_iff filled).mpr low
  have inside : ∀ i, i ∈ (List.range (droppable names)).take k ↔ i < k := by
    intro i
    rw [List.take_range,List.mem_range,Nat.min_eq_left below]
  simp only [inside]
  constructor
  · intro agree s inside t member
    refine List.ext_getElem? fun i => ?_
    rw [List.getElem?_take,List.getElem?_take]
    split
    · rename_i below
      exact agreeAt_iff.mp (agree i below) s inside t member
    · rfl
  · intro same i below
    refine agreeAt_iff.mpr fun s inside t member => ?_
    have front := congrArg (fun front => front[i]?) (same s inside t member)
    simpa only [List.getElem?_take,if_pos below] using front

/-- Going back, it ends at the greatest number behind which all names go on with a letter. -/
theorem isGreatest_backOff (start : letterAt names 0 = true) (n : Nat) :
    IsGreatest {k | k ≤ n ∧ letterAt names k = true} (backOff names n) := by
  induction n with
  | zero => exact ⟨⟨le_rfl,start⟩,fun _ inside => inside.1⟩
  | succ n ih =>
    rw [backOff]
    split
    · rename_i letter
      exact ⟨⟨le_rfl,letter⟩,fun _ inside => inside.1⟩
    · rename_i other
      obtain ⟨⟨low,letter⟩,greatest⟩ := ih
      refine ⟨⟨by omega,letter⟩,?_⟩
      rintro k ⟨below,here⟩
      refine greatest ⟨?_,here⟩
      by_contra above
      obtain rfl : k = n + 1 := by omega
      exact other here

end

/-- The number of segments that are dropped is the greatest one that can be. -/
theorem isGreatest_strip {names : List String} (filled : names ≠ []) (named : ∀ n ∈ names, isConstantName n = true) :
    IsGreatest {k | CanDrop names k} (strip (names.map segments)) := by
  have pieces : names.map segments ≠ [] := by simpa using filled
  have start : letterAt (names.map segments) 0 = true := by
    refine letterAt_iff.mpr fun s inside => ?_
    obtain ⟨n,member,rfl⟩ := List.mem_map.mp inside
    obtain ⟨c,rest,more,first,upper⟩ := segments_cons (named n member)
    refine ⟨c,rest,by rw [first]; rfl,?_⟩
    rw [Text.isAlpha_eq,upper,Bool.true_or]
  have same : ∀ k, CanDrop names k ↔ k ≤ shared (names.map segments) ∧ letterAt (names.map segments) k = true := by
    intro k
    rw [le_shared_iff pieces,letterAt_iff]
    simp only [List.forall_mem_map,segments_eq]
    constructor
    · rintro ⟨alike,kept,letter⟩
      exact ⟨⟨fun n inside => Nat.le_sub_one_of_lt (kept n inside),alike⟩,letter⟩
    · rintro ⟨⟨_,alike⟩,letter⟩
      refine ⟨alike,fun n inside => ?_,letter⟩
      obtain ⟨_,_,here,_⟩ := letter n inside
      exact (List.getElem?_eq_some_iff.mp here).1
  simp only [same]
  exact isGreatest_backOff start _

/-! ### The names of variants -/

theorem capitalWord_eq {s : List Char} (capital : ∀ c ∈ s, Text.isCapital c = true) :
    Text.capitalWord s = segmentWord s := by
  cases s with
  | nil => rfl
  | cons c rest =>
    rw [List.forall_mem_cons] at capital
    exact Text.capitalWord_of_capitals capital.1 capital.2

/-- The variants of constants are named, one for each value and in order, by the segments behind the most that can be
    dropped from all names. -/
theorem variantNames_eq {e : Enumeration} (filled : e.values ≠ [])
    (named : ∀ v ∈ e.values, isConstantName v.name = true) :
    ∃ k, IsGreatest {k | CanDrop (e.values.map EnumValue.name) k} k ∧
      e.variantNames =
        e.values.map fun v => .ofList (((v.name.toList.splitOn '_').drop k).flatMap segmentWord) := by
  have names : e.values.map (fun v => segments v.name) = (e.values.map EnumValue.name).map segments := by simp
  have all : ∀ n ∈ e.values.map EnumValue.name, isConstantName n = true := by simpa using named
  refine ⟨_,isGreatest_strip (by simpa using filled) all,?_⟩
  unfold variantNames
  rw [names,List.map_map,List.map_map]
  refine List.map_congr_left fun v inside => ?_
  have capital := capital_of_mem_segments (named v inside)
  rw [Function.comp_apply,Function.comp_apply,variantName_eq (named v inside),← segments_eq]
  congr 1
  exact List.flatMap_congr fun s member => capitalWord_eq (capital s (List.mem_of_mem_drop member))

/-- Of three names that share two segments only the first is dropped, since one of them goes on with a digit. -/
theorem variantNames_of_modes :
    let e : Enumeration := ⟨"Mode",.uint8,
      [⟨"MODE_A_1",0,none⟩,⟨"MODE_A_B2",1,none⟩,⟨"MODE_A__CD_3E",2,none⟩],none,true⟩
    (e.values ≠ [] ∧ ∀ v ∈ e.values, isConstantName v.name = true) ∧
      e.variantNames = ["A1","AB2","ACd3e"] ∧
      ∃ k, IsGreatest {k | CanDrop (e.values.map EnumValue.name) k} k ∧
        e.variantNames =
          e.values.map fun v => .ofList (((v.name.toList.splitOn '_').drop k).flatMap segmentWord) := by
  intro e
  have filled : e.values ≠ [] := by decide
  have named : ∀ v ∈ e.values, isConstantName v.name = true := by decide +kernel
  exact ⟨⟨filled,named⟩,by decide +kernel,variantNames_eq filled named⟩

end Enumeration

end MsgBindings
