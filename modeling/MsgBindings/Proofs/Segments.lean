import MsgBindings.Grouping
import MsgBindings.Proofs.Cuts

/-!
The segments of the names of constants. The upper camel case of segments of capitals and digits is that of
each one (`upperCamelCase_join`). The first segment of a name begins with a capital, so its upper camel case is
a good name for an enumeration (`isMessageName_camel`).
-/
namespace MsgBindings

namespace Text

variable {c : Char} {s : List Char}

theorem isUpper_iff : c.isUpper = true ↔ 65 ≤ c.toNat ∧ c.toNat ≤ 90 := by
  delta Char.isUpper
  simp [UInt32.le_iff_toNat_le,← Char.toNat_val]

theorem isLower_iff : c.isLower = true ↔ 97 ≤ c.toNat ∧ c.toNat ≤ 122 := by
  delta Char.isLower
  simp [UInt32.le_iff_toNat_le,← Char.toNat_val]

theorem isDigit_iff : c.isDigit = true ↔ 48 ≤ c.toNat ∧ c.toNat ≤ 57 := by
  delta Char.isDigit
  simp [UInt32.le_iff_toNat_le,← Char.toNat_val]

theorem isAlpha_eq (c : Char) : c.isAlpha = (c.isUpper || c.isLower) := rfl

theorem isAlphanum_eq (c : Char) : c.isAlphanum = (c.isUpper || c.isLower || c.isDigit) := rfl

theorem isAlphanum_of_isAlpha (letter : c.isAlpha = true) : c.isAlphanum = true := by
  rw [isAlpha_eq] at letter
  rw [isAlphanum_eq,letter,Bool.true_or]

theorem ascii_of_isAlphanum (plain : c.isAlphanum = true) : c.toNat < 128 := by
  rw [isAlphanum_eq,Bool.or_eq_true,Bool.or_eq_true,isUpper_iff,isLower_iff,isDigit_iff] at plain
  omega

theorem isBlank_of_isAlphanum (plain : c.isAlphanum = true) : isBlank c = false := by
  rw [isAlphanum_eq,Bool.or_eq_true,Bool.or_eq_true,isUpper_iff,isLower_iff,isDigit_iff] at plain
  unfold isBlank
  simp only [Bool.or_eq_false_iff,Bool.and_eq_false_iff,decide_eq_false_iff_not,beq_eq_false_iff_ne]
  omega

theorem isAlphanumeric_of_isAlphanum (plain : c.isAlphanum = true) : isAlphanumeric c = true := by
  rw [isAlphanumeric,if_pos (ascii_of_isAlphanum plain),plain]

theorem ne_mark_of_isUpper (upper : c.isUpper = true) : c ≠ '_' := by
  rintro rfl
  simp at upper

theorem toLower_of_isUpper (upper : c.isUpper = true) : c.toLower.toNat = c.toNat + 32 := by
  have inside : c.val ≥ 'A'.val ∧ c.val ≤ 'Z'.val := by
    delta Char.isUpper at upper
    simpa using upper
  rw [isUpper_iff] at upper
  unfold Char.toLower
  rw [dif_pos inside]
  show (c.val + 32).toNat = c.val.toNat + 32
  have bound : c.val.toNat ≤ 90 := upper.2
  rw [UInt32.toNat_add,show (32 : UInt32).toNat = 32 from rfl]
  omega

theorem toLower_of_isDigit (digit : c.isDigit = true) : c.toLower = c := by
  rw [isDigit_iff] at digit
  unfold Char.toLower
  rw [dif_neg]
  rintro ⟨low,_⟩
  have low : 65 ≤ c.toNat := low
  omega

def isCapital (c : Char) : Bool := c.isUpper || c.isDigit

theorem isCapital_iff :
    isCapital c = true ↔ 65 ≤ c.toNat ∧ c.toNat ≤ 90 ∨ 48 ≤ c.toNat ∧ c.toNat ≤ 57 := by
  rw [isCapital,Bool.or_eq_true,isUpper_iff,isDigit_iff]

theorem isCapital_of_isUpper (upper : c.isUpper = true) : isCapital c = true := by
  simp [isCapital,upper]

theorem isAlphanum_of_isCapital (capital : isCapital c = true) : c.isAlphanum = true := by
  rw [isCapital,Bool.or_eq_true] at capital
  rcases capital with upper | digit
  · simp [isAlphanum_eq,upper]
  · simp [isAlphanum_eq,digit]

theorem ascii_of_isCapital (capital : isCapital c = true) : c.toNat < 128 :=
  ascii_of_isAlphanum (isAlphanum_of_isCapital capital)

theorem toUpper_of_isCapital (capital : isCapital c = true) : c.toUpper = c := by
  rw [isCapital_iff] at capital
  unfold Char.toUpper
  rw [dif_neg]
  rintro ⟨low,_⟩
  have low : 97 ≤ c.toNat := low
  omega

theorem isLowercase_of_isCapital (capital : isCapital c = true) : isLowercase c = false := by
  have ascii := ascii_of_isCapital capital
  rw [isCapital_iff] at capital
  rw [isLowercase,if_pos ascii,← Bool.not_eq_true,isLower_iff]
  omega

theorem isAlphanumeric_of_isCapital (capital : isCapital c = true) : isAlphanumeric c = true :=
  isAlphanumeric_of_isAlphanum (isAlphanum_of_isCapital capital)

theorem isAlphanum_toLower (capital : isCapital c = true) : c.toLower.isAlphanum = true := by
  rw [isCapital,Bool.or_eq_true] at capital
  rcases capital with upper | digit
  · have small : c.toLower.isLower = true := by
      have shifted := toLower_of_isUpper upper
      rw [isUpper_iff] at upper
      rw [isLower_iff]
      omega
    simp [isAlphanum_eq,small]
  · rw [toLower_of_isDigit digit]
    simp [isAlphanum_eq,digit]

/-- Capitals and digits go on with a word that has no small letter at its end. -/
theorem caseWordsFrom_of_capitals {before : WordCase} {word : List Char} (capital : ∀ c ∈ s, isCapital c = true)
    (up : before ≠ .lower) (some : s ≠ []) : caseWordsFrom before word s = [word ++ s] := by
  induction s generalizing before word with
  | nil => exact absurd rfl some
  | cons c rest ih =>
    cases rest with
    | nil => rfl
    | cons d rest =>
      simp only [List.mem_cons,forall_eq_or_imp] at capital
      obtain ⟨first,second,others⟩ := capital
      have stays : before.step c ≠ .lower := by
        rw [WordCase.step,isLowercase_of_isCapital first]
        simp only [Bool.false_eq_true,↓reduceIte]
        split
        · simp
        · exact up
      rw [caseWordsFrom,if_neg (by simp [stays]),if_neg (by simp [isLowercase_of_isCapital second])]
      rw [ih (by simpa using ⟨second,others⟩) stays (by simp)]
      simp

/-- The upper camel case of segments with underscores between them is that of each segment. -/
theorem upperCamelCase_join {segments : List (List Char)}
    (capital : ∀ s ∈ segments, ∀ c ∈ s, isCapital c = true) :
    upperCamelCase (join ['_'] segments) = segments.flatMap capitalWord := by
  cases segments with
  | nil => rfl
  | cons first rest =>
    have cut : cutBy (fun c => !isAlphanumeric c) (join ['_'] (first :: rest)) = first :: rest := by
      refine cutBy_join (by decide) (by simp) fun s member c inside => ?_
      simp [isAlphanumeric_of_isCapital (capital s member c inside)]
    -- An empty segment has no word, and its camel case is empty.
    have word : ∀ s ∈ first :: rest, (caseWordsFrom .none [] s).flatMap capitalWord = capitalWord s := by
      intro s member
      cases s with
      | nil => rfl
      | cons c s =>
        have single : caseWordsFrom .none [] (c :: s) = [c :: s] :=
          caseWordsFrom_of_capitals (capital _ member) nofun (by simp)
        simp [single]
    rw [upperCamelCase,caseWords,cut,List.flatMap_assoc]
    exact List.flatMap_congr word

/-- The upper camel case of capitals and digits is a single word. -/
theorem upperCamelCase_of_capitals (capital : ∀ c ∈ s, isCapital c = true) : upperCamelCase s = capitalWord s := by
  have single := @upperCamelCase_join [s] (by simpa using capital)
  simpa [join] using single

theorem lowerWord_of_ascii (ascii : ∀ d ∈ s, d.toNat < 128) : lowerWord s = s.map Char.toLower := by
  induction s with
  | nil => rfl
  | cons c rest ih =>
    rw [List.forall_mem_cons] at ascii
    have single : lowercase c = [c.toLower] := by rw [lowercase,if_pos ascii.1]
    cases rest with
    | nil =>
      have plain : ¬ c.toNat = 0x3A3 := by omega
      simp [lowerWord,plain,single]
    | cons d rest =>
      rw [lowerWord,ih ascii.2,single]
      · rfl
      · simp

theorem lowerWord_of_capitals (capital : ∀ c ∈ s, isCapital c = true) : lowerWord s = s.map Char.toLower :=
  lowerWord_of_ascii fun d member => ascii_of_isCapital (capital d member)

/-- A word of capitals and digits in camel case: the first character stays, the others become small. -/
theorem capitalWord_of_capitals (first : isCapital c = true) (capital : ∀ d ∈ s, isCapital d = true) :
    capitalWord (c :: s) = c :: s.map Char.toLower := by
  rw [capitalWord,toUpper_of_isCapital first,lowerWord_of_capitals capital]

theorem isAlphanum_of_mem_capitalWord (capital : ∀ c ∈ s, isCapital c = true) :
    ∀ d ∈ capitalWord s, d.isAlphanum = true := by
  cases s with
  | nil => exact nofun
  | cons c rest =>
    simp only [List.mem_cons,forall_eq_or_imp] at capital
    rw [capitalWord_of_capitals capital.1 capital.2]
    intro d member
    rcases List.mem_cons.mp member with rfl | member
    · exact isAlphanum_of_isCapital capital.1
    · obtain ⟨a,inside,rfl⟩ := List.mem_map.mp member
      exact isAlphanum_toLower (capital.2 a inside)

end Text

/-! ### The names of constants -/

/-- The first segment of a name: what is in front of its first underscore. -/
def firstSegment (name : String) : List Char := name.toList.takeWhile fun c => c != '_'

/-- What follows the first underscore of a name. -/
def remainder (name : String) : List Char := (name.toList.dropWhile fun c => c != '_').drop 1

/-- The characters of the name of a constant, but for its underscores, are capitals and digits, and
    the first one is a capital. -/
theorem isConstantName_iff {name : String} :
    isConstantName name = true ↔
      ∃ c rest, name.toList = c :: rest ∧ c.isUpper = true ∧ ∀ d ∈ rest, Text.isCapital d = true ∨ d = '_' := by
  unfold isConstantName NamePattern.accepts
  cases name.toList with
  | nil => simp
  | cons c rest => simp [NamePattern.starts,NamePattern.continues,Text.isCapital]

theorem firstSegment_of_constant {name : String} (named : isConstantName name = true) :
    ∃ c rest, firstSegment name = c :: rest ∧ c.isUpper = true ∧ ∀ d ∈ rest, Text.isCapital d = true := by
  obtain ⟨c,rest,split,upper,others⟩ := isConstantName_iff.mp named
  have solid : (c != '_') = true := bne_iff_ne.mpr (Text.ne_mark_of_isUpper upper)
  refine ⟨c,rest.takeWhile fun c => c != '_',?_,upper,?_⟩
  · simp [firstSegment,split,solid]
  · intro d member
    have kept := List.mem_takeWhile_imp (p := fun c => c != '_') member
    rcases others d ((List.takeWhile_sublist _).subset member) with capital | mark
    · exact capital
    · simp [mark] at kept

def camel (segment : List Char) : String := .ofList (Text.upperCamelCase segment)

/-- A run of constants makes a good name for an enumeration. -/
theorem isMessageName_camel {name : String} (named : isConstantName name = true) :
    isMessageName (camel (firstSegment name)) = true := by
  obtain ⟨c,rest,split,upper,capital⟩ := firstSegment_of_constant named
  have first := Text.isCapital_of_isUpper upper
  have all : ∀ d ∈ c :: rest, Text.isCapital d = true := by
    simpa [first] using capital
  rw [split,camel,Text.upperCamelCase_of_capitals all,Text.capitalWord_of_capitals first capital,
    isMessageName,NamePattern.accepts]
  simp only [String.toList_ofList,NamePattern.starts,upper,List.all_map,Bool.true_and,List.all_eq_true]
  intro d member
  simp [NamePattern.continues,Text.isAlphanum_toLower (capital d member)]

theorem segmentPrefix?_eq {name : String} (named : isConstantName name = true) :
    segmentPrefix? name = if remainder name = [] then none else some (.ofList (firstSegment name)) := by
  obtain ⟨c,rest,split,_⟩ := firstSegment_of_constant named
  have same : (fun c => !(c == '_')) = fun c : Char => c != '_' := rfl
  unfold segmentPrefix? remainder
  rw [Text.splitFirst_eq,same]
  change name.toList.takeWhile (fun c => c != '_') = c :: rest at split
  cases name.toList.dropWhile fun c => c != '_' with
  | nil => rfl
  | cons mark after => cases after <;> simp [firstSegment,split]

end MsgBindings
