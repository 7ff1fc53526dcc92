import MsgBindings.Proofs.Lexing

/-!
Texts with a colon behind them. No token goes on with a colon, so the tokens of a text stay where one follows, unless
the text ends inside of a comment that goes on to the end of its line (`Lexes.colon`).
-/
namespace MsgBindings.Target.Token

variable {s rest e : List Char}

/-! ### Characters that a colon is none of -/

theorem takeWhile_colon {p : Char → Bool} (other : p ':' = false) (s e : List Char) :
    (s ++ ':' :: e).takeWhile p = s.takeWhile p := by
  induction s with
  | nil => exact List.takeWhile_cons_of_neg (by simp [other])
  | cons c s ih => simp only [List.cons_append,List.takeWhile_cons,ih]

theorem dropWhile_colon {p : Char → Bool} (other : p ':' = false) (s e : List Char) :
    (s ++ ':' :: e).dropWhile p = s.dropWhile p ++ ':' :: e := by
  induction s with
  | nil => exact List.dropWhile_cons_of_neg (by simp [other])
  | cons c s ih =>
    simp only [List.cons_append,List.dropWhile_cons,ih]
    split <;> rfl

theorem any_head_colon {p : Char → Bool} (other : p ':' = false) (s e : List Char) :
    (s ++ ':' :: e).head?.any p = s.head?.any p := by
  cases s with
  | nil => exact other
  | cons c s => rfl

theorem isPrefixOf_colon {front : List Char} (other : ':' ∉ front) (s e : List Char) :
    front.isPrefixOf (s ++ ':' :: e) = front.isPrefixOf s := by
  induction front generalizing s with
  | nil => simp
  | cons c front ih =>
    rw [List.mem_cons,not_or] at other
    cases s with
    | nil => simp [List.isPrefixOf,Ne.symm other.1]
    | cons d s => simp [List.isPrefixOf,ih other.2]

/-! ### Names and numbers -/

theorem name?_colon (s e : List Char) : name? (s ++ ':' :: e) = (name? s).map fun p => (p.1,p.2 ++ ':' :: e) := by
  have continues : Text.continuesIdentifier ':' = false := by decide
  cases s with
  | nil => rfl
  | cons c s =>
    rw [List.cons_append,name?,name?,takeWhile_colon continues,dropWhile_colon continues]
    split <;> rfl

theorem identifier?_colon (s e : List Char) :
    identifier? (s ++ ':' :: e) = (identifier? s).map fun p => (p.1,p.2 ++ ':' :: e) := by
  fun_cases identifier? s with
  | case1 rest =>
    rw [List.cons_append,List.cons_append,identifier?,name?_colon]
    cases name? rest with
    | none => rfl
    | some p =>
      obtain ⟨name,after⟩ := p
      simp only [Option.map_some,Option.bind_some]
      split <;> rfl
  | case2 s other =>
    rw [identifier?.eq_2,name?_colon]
    rintro rest same
    rcases s with _ | ⟨c,_ | ⟨d,s⟩⟩
    · cases same
    · cases same
    · simp only [List.cons_append,List.cons.injEq] at same
      exact other s (by rw [same.1,same.2.1])

theorem skipSuffix_colon (s e : List Char) : skipSuffix (s ++ ':' :: e) = skipSuffix s ++ ':' :: e := by
  rw [skipSuffix,skipSuffix,name?_colon]
  cases name? s <;> rfl

theorem endNumber_colon (s e : List Char) : endNumber (s ++ ':' :: e) = (endNumber s).map (· ++ ':' :: e) := by
  have continues : Text.continuesIdentifier ':' = false := by decide
  simp only [endNumber,skipSuffix_colon,any_head_colon continues]
  split <;> rfl

theorem skipExponent_colon (s e : List Char) :
    skipExponent (s ++ ':' :: e) = (skipExponent s).map (· ++ ':' :: e) := by
  have number : isNumberChar ':' = false := by decide
  have digits : ∀ t : List Char, (if ((t ++ ':' :: e).takeWhile isNumberChar).any Char.isDigit then
      some ((t ++ ':' :: e).dropWhile isNumberChar) else none) =
        (if (t.takeWhile isNumberChar).any Char.isDigit then some (t.dropWhile isNumberChar) else none).map
          (· ++ ':' :: e) := by
    intro t
    rw [takeWhile_colon number,dropWhile_colon number]
    split <;> rfl
  unfold skipExponent
  split
  · rename_i rest same
    rcases s with _ | ⟨c,s⟩
    · cases same
    · obtain ⟨rfl,rfl⟩ := List.cons.inj same
      exact digits s
  · rename_i rest same
    rcases s with _ | ⟨c,s⟩
    · cases same
    · obtain ⟨rfl,rfl⟩ := List.cons.inj same
      exact digits s
  · rename_i plus minus
    split
    · exact absurd rfl (plus _)
    · exact absurd rfl (minus _)
    · exact digits s

theorem skipFloat_colon (s e : List Char) : skipFloat (s ++ ':' :: e) = (skipFloat s).map (· ++ ':' :: e) := by
  have number : isNumberChar ':' = false := by decide
  have behind := dropWhile_colon number s e
  have first : ∀ rest : List Char, ((rest ++ ':' :: e).head?.any fun c => c == '.' || Text.startsIdentifier c) =
      rest.head?.any fun c => c == '.' || Text.startsIdentifier c := fun rest => any_head_colon (by decide) rest e
  fun_cases skipFloat s with
  | case1 rest point ends =>
    rw [point,List.cons_append] at behind
    simp only [skipFloat,behind,first,if_pos ends]
    rfl
  | case2 rest point goesOn c after more exponent =>
    have digits := dropWhile_colon number rest e
    have last : (skipExponent (after ++ ':' :: e)).getD (c :: (after ++ ':' :: e)) =
        (skipExponent after).getD (c :: after) ++ ':' :: e := by
      rw [skipExponent_colon]
      cases skipExponent after <;> rfl
    rw [point,List.cons_append] at behind
    rw [more,List.cons_append] at digits
    simp only [skipFloat,behind,first,if_neg goesOn,digits,if_pos exponent,last,endNumber_colon]
  | case3 rest point goesOn c after more noExponent =>
    have digits := dropWhile_colon number rest e
    rw [point,List.cons_append] at behind
    rw [more,List.cons_append] at digits
    simp only [skipFloat,behind,first,if_neg goesOn,digits,if_neg noExponent]
    exact endNumber_colon (c :: after) e
  | case4 rest point goesOn more =>
    have digits := dropWhile_colon number rest e
    rw [point,List.cons_append] at behind
    rw [more,List.nil_append] at digits
    simp only [skipFloat,behind,first,if_neg goesOn,digits]
    exact endNumber_colon [] e
  | case5 c rest noPoint more exponent =>
    rw [more,List.cons_append] at behind
    have next : (skipExponent (rest ++ ':' :: e)).bind endNumber =
        ((skipExponent rest).bind endNumber).map (· ++ ':' :: e) := by
      rw [skipExponent_colon]
      cases skipExponent rest with
      | none => rfl
      | some after => exact endNumber_colon after e
    simp only [skipFloat,behind,if_pos exponent,next]
  | case6 c rest noPoint more noExponent =>
    rw [more,List.cons_append] at behind
    simp only [skipFloat,behind,if_neg noExponent]
    rfl
  | case7 more =>
    rw [more,List.nil_append] at behind
    simp only [skipFloat,behind]
    rfl

theorem skipDigits_colon {base : Nat} (below : digitBelow? base ':' = none) (s e : List Char) :
    skipDigits base (s ++ ':' :: e) = (skipDigits base s).map (· ++ ':' :: e) := by
  have other : (fun c : Char => c.isDigit || c == '_' || (digitBelow? base c).isSome) ':' = false := by simp [below]
  have front : (s ++ ':' :: e).drop (s.takeWhile fun c => c.isDigit || c == '_' || (digitBelow? base c).isSome).length =
      s.drop (s.takeWhile fun c => c.isDigit || c == '_' || (digitBelow? base c).isSome).length ++ ':' :: e :=
    List.drop_append_of_le_length (List.takeWhile_prefix _).length_le
  unfold skipDigits
  rw [takeWhile_colon other]
  simp only [front]
  split
  · rfl
  · split
    · rfl
    · split <;> rfl

theorem skipInteger_colon (s e : List Char) : skipInteger (s ++ ':' :: e) = (skipInteger s).map (· ++ ':' :: e) := by
  have whole : ∀ {base : Nat} (t : List Char), digitBelow? base ':' = none →
      (skipDigits base (t ++ ':' :: e)).bind endNumber = ((skipDigits base t).bind endNumber).map (· ++ ':' :: e) := by
    intro base t below
    rw [skipDigits_colon below]
    cases skipDigits base t with
    | none => rfl
    | some rest => exact endNumber_colon rest e
  fun_cases skipInteger s with
  | case1 rest => exact whole rest (by decide)
  | case2 rest => exact whole rest (by decide)
  | case3 rest => exact whole rest (by decide)
  | case4 s hex octal binary =>
    -- A mark of another base would be there without the colon as well.
    have unmarked : ∀ mark ≠ ':', (∀ t, s ≠ '0' :: mark :: t) → ∀ t, s ++ ':' :: e ≠ '0' :: mark :: t := by
      intro mark other none t same
      rcases s with _ | ⟨c,_ | ⟨d,s⟩⟩
      · exact absurd (List.cons.inj same).1 (by decide)
      · exact other (List.cons.inj (List.cons.inj same).2).1.symm
      · simp only [List.cons_append,List.cons.injEq] at same
        exact none s (by rw [same.1,same.2.1])
    rw [skipInteger.eq_4 _ (unmarked 'x' (by decide) hex) (unmarked 'o' (by decide) octal)
      (unmarked 'b' (by decide) binary)]
    exact whole s (by decide)

/-! ### Quoted literals -/

/-- Two characters in front, a colon among them, are not told apart from what stands without it. -/
theorem cons_cons_ne_colon {c d : Char} (other : d ≠ ':') (none : ∀ t, s ≠ c :: d :: t) (filled : s ≠ []) (t : List Char) :
    s ++ ':' :: e ≠ c :: d :: t := by
  intro same
  rcases s with _ | ⟨c',_ | ⟨d',s⟩⟩
  · exact filled rfl
  · exact other (List.cons.inj (List.cons.inj same).2).1.symm
  · simp only [List.cons_append,List.cons.injEq] at same
    exact none s (by rw [same.1,same.2.1])

theorem skipCharacter_colon {quote : Char} (made : skipCharacter quote s = some rest) (e : List Char) :
    skipCharacter quote (s ++ ':' :: e) = some (rest ++ ':' :: e) := by
  revert made
  fun_cases skipCharacter quote s with
  | case1 a b after digits =>
    rintro ⟨⟩
    simp only [List.cons_append,skipCharacter,if_pos digits]
  | case3 text digits after close value valid =>
    rintro ⟨⟩
    have other : (fun c : Char => (digitBelow? 16 c).isSome || c == '_') ':' = false := by decide
    have same : (text ++ ':' :: e).takeWhile (fun c => (digitBelow? 16 c).isSome || c == '_') = digits :=
      takeWhile_colon other text e
    have behind : (text ++ ':' :: e).drop digits.length = '\x7d' :: (rest ++ ':' :: e) := by
      rw [List.drop_append_of_le_length (List.takeWhile_prefix _).length_le,close,List.cons_append]
    simp only [List.cons_append,skipCharacter,same,behind]
    exact if_pos valid
  | case6 c after hex unicode escaped =>
    rintro ⟨⟩
    rw [List.cons_append,List.cons_append,skipCharacter.eq_3 _ _ _ ?_ ?_,if_pos escaped]
    · rintro a b t rfl
      cases escaped
    · rintro t rfl
      cases escaped
  | case10 c after hex unicode escape alone other =>
    rintro ⟨⟩
    have plain : c ≠ '\\' := by
      intro mark
      cases rest with
      | nil => exact alone mark rfl
      | cons d rest => exact escape d rest mark rfl
    rw [List.cons_append,skipCharacter.eq_5,if_neg other]
    · exact fun _ _ _ mark => absurd mark plain
    · exact fun _ mark => absurd mark plain
    · exact fun _ _ mark => absurd mark plain
    · exact fun mark => absurd mark plain
  | _ => rintro ⟨⟩

theorem skipQuoted_colon {fuel fuel' : Nat} (enough : fuel ≤ fuel') (made : skipQuoted fuel s = some rest)
    (e : List Char) : skipQuoted fuel' (s ++ ':' :: e) = some (rest ++ ':' :: e) := by
  induction fuel generalizing s fuel' with
  | zero => cases made
  | succ fuel ih =>
    obtain ⟨fuel',rfl⟩ : ∃ n, fuel' = n + 1 := ⟨fuel' - 1,by omega⟩
    have enough : fuel ≤ fuel' := by omega
    rw [skipQuoted_eq_some]
    rcases skipQuoted_eq_some.mp made with rfl | ⟨t,rfl,made⟩ | ⟨quote,newline,after,first,made⟩
    · exact .inl rfl
    · refine .inr (.inl ⟨t ++ ':' :: e,rfl,?_⟩)
      rw [dropWhile_colon (by decide)]
      exact ih enough made
    · have filled : s ≠ [] := by
        rintro rfl
        cases first
      refine .inr (.inr ⟨?_,cons_cons_ne_colon (by decide) newline filled,_,skipCharacter_colon first e,ih enough made⟩)
      intro t same
      obtain ⟨c,t',rfl⟩ := List.exists_cons_of_ne_nil filled
      exact quote t' (by rw [(List.cons.inj same).1])

theorem skipQuotedCharacter_colon (made : skipQuotedCharacter s = some rest) (e : List Char) :
    skipQuotedCharacter (s ++ ':' :: e) = some (rest ++ ':' :: e) := by
  unfold skipQuotedCharacter at made ⊢
  cases s with
  | nil => cases made
  | cons c s =>
    rw [List.cons_append,List.head?_cons] at *
    split at made
    · rename_i mark
      cases made
      rw [if_pos mark]
      rfl
    · rename_i other
      rw [if_neg other,← List.cons_append,skipCharacter_colon made]

theorem skipCharLiteral_colon (made : skipCharLiteral s = some rest) (e : List Char) :
    skipCharLiteral (s ++ ':' :: e) = some (rest ++ ':' :: e) := by
  obtain ⟨t,after,rfl,character,rfl⟩ := skipCharLiteral_eq_some.mp made
  exact skipCharLiteral_eq_some.mpr ⟨_,_,rfl,skipQuotedCharacter_colon character e,(skipSuffix_colon after e).symm⟩

theorem starts_of_identifier? {p : List Char × List Char} (made : identifier? s = some p) :
    ∃ c t, s = c :: t ∧ Text.startsIdentifier c = true := by
  revert made
  fun_cases identifier? s with
  | case1 t => exact fun _ => ⟨'r',_,rfl,by decide⟩
  | case2 s =>
    intro made
    cases s with
    | nil => cases made
    | cons c t =>
      rw [name?] at made
      split at made
      · exact ⟨c,t,rfl,‹_›⟩
      · cases made

/-- Where a name follows the mark of a lifetime, a colon makes it no literal. -/
theorem skipCharLiteral_lifetime_colon {p : List Char × List Char} (named : identifier? s = some p)
    (noLiteral : skipCharLiteral ('\'' :: s) = none) (e : List Char) :
    skipCharLiteral ('\'' :: (s ++ ':' :: e)) = none := by
  obtain ⟨c,t,rfl,starts⟩ := starts_of_identifier? named
  have other : ∀ d ∈ ['\'','\\','\x00'], Text.startsIdentifier d = false := by decide
  have apart : c ∉ ['\'','\\','\x00'] := fun member => by simp [other c member] at starts
  simp only [List.mem_cons,List.not_mem_nil,or_false,not_or] at apart
  have character : ∀ t, skipQuotedCharacter (c :: t) = some t := by
    intro t
    rw [skipQuotedCharacter,List.head?_cons,if_neg (by simp [apart]),skipCharacter.eq_5,if_neg apart.2.2]
    all_goals simp [apart]
  rw [Option.eq_none_iff_forall_ne_some] at noLiteral ⊢
  intro rest made
  obtain ⟨_,after,same,here,rfl⟩ := skipCharLiteral_eq_some.mp made
  obtain rfl := (List.cons.inj same).2
  rw [List.cons_append,character,Option.some.injEq] at here
  cases t with
  | nil => cases here
  | cons d t =>
    obtain ⟨rfl,_⟩ := List.cons.inj here
    exact noLiteral _ (skipCharLiteral_eq_some.mpr ⟨_,t,rfl,character _,rfl⟩)

/-! ### Tokens -/

theorem EndsLiteral.colon {number : Bool} (ends : EndsLiteral s number rest) (e : List Char) :
    EndsLiteral (s ++ ':' :: e) number (rest ++ ':' :: e) := by
  cases ends with
  | @quoted s after here =>
    rw [← skipSuffix_colon]
    exact .quoted (skipQuoted_colon (by simp) here e)
  | character here => exact .character (skipCharLiteral_colon here e)
  | @number c s rest digit here =>
    refine .number digit ((congrArg₂ Option.or (skipFloat_colon (c :: s) e) (skipInteger_colon (c :: s) e)).trans ?_)
    rw [← Option.map_or,here]
    rfl

theorem literal?_colon {t : Token} (made : literal? s = some (t,rest)) (e : List Char) :
    literal? (s ++ ':' :: e) = some (t,rest ++ ':' :: e) := by
  obtain ⟨number,rfl,ends⟩ := literal?_eq_some.mp made
  refine literal?_eq_some.mpr ⟨number,?_,ends.colon e⟩
  rw [List.length_append,List.length_append,Nat.add_sub_add_right,List.take_append_of_le_length (Nat.sub_le _ _)]

theorem lifetime?_colon {t : Token} (made : lifetime? s = some (t,rest)) (e : List Char) :
    lifetime? (s ++ ':' :: e) = some (t,rest ++ ':' :: e) := by
  obtain ⟨r,name,rfl,named,rfl,plain⟩ := lifetime?_eq_some.mp made
  refine lifetime?_eq_some.mpr ⟨r ++ ':' :: e,name,rfl,by rw [identifier?_colon,named]; rfl,rfl,?_⟩
  rw [isPrefixOf_colon (by decide)]
  cases rest with
  | nil => simp
  | cons c rest => exact plain

theorem startsMark_colon (c : Char) (s e : List Char) : startsMark (c :: (s ++ ':' :: e)) = startsMark (c :: s) := by
  rw [startsMark_cons,startsMark_cons,any_head_colon (by decide)]

theorem startsPrefixedLiteral_colon (s e : List Char) :
    startsPrefixedLiteral (s ++ ':' :: e) = startsPrefixedLiteral s := by
  have plain : ∀ start ∈ ["r\"","r#\"","r##","b\"","b'","br\"","br#","c\"","cr\"","cr#"], ':' ∉ start.toList := by
    decide
  unfold startsPrefixedLiteral
  rw [Bool.eq_iff_iff,List.any_eq_true,List.any_eq_true]
  refine exists_congr fun start => and_congr_right fun member => ?_
  rw [isPrefixOf_colon (plain start member)]

theorem isMark_facts {c : Char} (mark : isMark c = true) : c ≠ '"' ∧ c.isDigit = false := by
  have each : ∀ m ∈ "~!@#$%^&*-=+|;:,<.>/?'".toList, m ≠ '"' ∧ m.isDigit = false := by decide
  exact each c (by simpa [isMark] using mark)

theorem startsIdentifier_facts {c : Char} (starts : Text.startsIdentifier c = true) :
    c ≠ '"' ∧ c ≠ '\'' ∧ c.isDigit = false := by
  have ascii : c.toNat < 128 → c.isAlpha = true ∨ c = '_' := by
    intro below
    rw [Text.startsIdentifier,if_pos below] at starts
    simpa using starts
  refine ⟨?_,?_,?_⟩
  · rintro rfl
    cases starts
  · rintro rfl
    cases starts
  · by_contra digit
    rw [Bool.not_eq_false] at digit
    have range := Text.isDigit_iff.mp digit
    rcases ascii (by omega) with letter | rfl
    · rw [Text.isDigit_of_isAlpha letter] at digit
      cases digit
    · cases digit

/-- Whether a token is one with something else, or nothing, behind it: a mark may get another one at once behind it. -/
inductive Extends : Token → Token → Prop
  | same (t : Token) : Extends t t
  | joint (c : Char) : Extends (.mark c false) (.mark c true)

/-- The first token of a text stays where a colon follows the text. Only if the text is one mark the colon stands right
    behind it. -/
theorem first?_colon {t : Token} (made : first? s = some (t,rest)) :
    ∃ t', Extends t t' ∧ (rest ≠ [] → t' = t) ∧ ∀ e, first? (s ++ ':' :: e) = some (t',rest ++ ':' :: e) := by
  cases s with
  | nil => cases made
  | cons c s =>
    cases bracket : bracket? c with
    | some token =>
      rw [first?,bracket] at made
      cases made
      exact ⟨t,.same t,fun _ => rfl,fun e => by rw [List.cons_append,first?,bracket]⟩
    | none =>
      cases literal : literal? (c :: s) with
      | some found =>
        rw [first?,bracket,literal] at made
        cases made
        refine ⟨t,.same t,fun _ => rfl,fun e => ?_⟩
        have same := literal?_colon literal e
        rw [List.cons_append] at same ⊢
        rw [first?,bracket,same]
      | none =>
        rw [first?_other bracket literal] at made
        split at made
        · rename_i tick
          subst tick
          obtain ⟨r,name,same,named,rfl,_⟩ := lifetime?_eq_some.mp made
          obtain rfl := (List.cons.inj same).2
          refine ⟨_,.same _,fun _ => rfl,fun e => ?_⟩
          have noLiteral : literal? ('\'' :: (s ++ ':' :: e)) = none := by
            have unquoted : skipCharLiteral ('\'' :: s) = none := by simpa [literal?] using literal
            simp [literal?,skipCharLiteral_lifetime_colon named unquoted e]
          rw [List.cons_append,first?_other bracket noLiteral,if_pos rfl]
          exact lifetime?_colon made e
        rename_i tick
        split at made
        · rename_i mark
          cases made
          have marked := mark
          rw [startsMark_cons,Bool.and_eq_true] at marked
          obtain ⟨quote,digit⟩ := isMark_facts marked.1
          have here : ∀ e, first? (c :: (rest ++ ':' :: e)) =
              some (.mark c (startsMark (rest ++ ':' :: e)),rest ++ ':' :: e) := by
            intro e
            rw [first?_other bracket (literal?_eq_none quote tick digit _),if_neg tick,startsMark_colon,if_pos mark]
          cases rest with
          | nil => exact ⟨_,.joint c,fun filled => absurd rfl filled,here⟩
          | cons d rest =>
            refine ⟨_,.same _,fun _ => rfl,fun e => (here e).trans ?_⟩
            rw [List.cons_append,startsMark_colon]
        rename_i mark
        split at made
        · cases made
        rename_i unprefixed
        obtain ⟨⟨name,after⟩,named,made⟩ := Option.map_eq_some_iff.mp made
        cases made
        obtain ⟨_,_,same,starts⟩ := starts_of_identifier? named
        obtain ⟨rfl,rfl⟩ := List.cons.inj same
        obtain ⟨quote,_,digit⟩ := startsIdentifier_facts starts
        refine ⟨_,.same _,fun _ => rfl,fun e => ?_⟩
        rw [List.cons_append,first?_other bracket (literal?_eq_none quote tick digit _),if_neg tick,startsMark_colon,
          if_neg mark,← List.cons_append,startsPrefixedLiteral_colon,if_neg unprefixed,identifier?_colon,named]
        rfl

/-! ### Between tokens -/

theorem isLineDoc_cons (c : Char) (s : List Char) :
    isLineDoc (c :: s) = (c == '/' && !s.head?.any (· == '/') || c == '!') := by
  by_cases slash : c = '/'
  · subst slash
    rcases s with _ | ⟨d,s⟩
    · rfl
    · by_cases line : d = '/'
      · subst line
        rfl
      · simp [isLineDoc,line]
  · by_cases bang : c = '!'
    · subst bang
      rfl
    · simp [isLineDoc,slash,bang]

theorem isLineDoc_colon (s e : List Char) : isLineDoc (s ++ ':' :: e) = isLineDoc s := by
  cases s with
  | nil => simp [isLineDoc]
  | cons c s => rw [List.cons_append,isLineDoc_cons,isLineDoc_cons,any_head_colon (by decide)]

theorem isBlockDoc_cons (c : Char) (s : List Char) :
    isBlockDoc (c :: s) = (c == '*' && !(s.head?.any fun d => d == '*' || d == '/') || c == '!') := by
  by_cases star : c = '*'
  · subst star
    rcases s with _ | ⟨d,s⟩
    · rfl
    · by_cases star : d = '*'
      · subst star
        rfl
      · by_cases close : d = '/'
        · subst close
          rfl
        · simp [isBlockDoc,star,close]
  · by_cases bang : c = '!'
    · subst bang
      rfl
    · simp [isBlockDoc,star,bang]

theorem isBlockDoc_colon (s e : List Char) : isBlockDoc (s ++ ':' :: e) = isBlockDoc s := by
  cases s with
  | nil => simp [isBlockDoc]
  | cons c s => rw [List.cons_append,isBlockDoc_cons,isBlockDoc_cons,any_head_colon (by decide)]

theorem skipComment_append {depth : Nat} (made : skipComment depth s = some rest) (t : List Char) :
    skipComment depth (s ++ t) = some (rest ++ t) := by
  fun_induction skipComment depth s with
  | case1 s =>
    cases made
    rw [skipComment]
  | case2 => cases made
  | case3 depth s ih => exact ih made
  | case4 depth s ih => exact ih made
  | case5 depth c s opening closing ih =>
    obtain ⟨d,s,rfl⟩ : ∃ d s', s = d :: s' := by
      refine List.exists_cons_of_ne_nil ?_
      rintro rfl
      cases made
    have other : ∀ d' s', (d :: s) ++ t = d' :: s' → d = d' := fun d' s' same => (List.cons.inj same).1
    rw [List.cons_append,skipComment.eq_5]
    · exact ih made
    · exact fun s' slash star => opening s slash (by rw [other '*' s' star])
    · exact fun s' star slash => closing s star (by rw [other '/' s' slash])

/-- What parts tokens is passed over where a colon follows, up to the text behind it or up to the colon. It is only passed
    over with the colon if it is a comment that the end of the line ends. -/
theorem Passes.colon {r : List Char} (passes : Passes s r) :
    (∀ e, Passes (s ++ ':' :: e) (r ++ ':' :: e)) ∨
      r = [] ∧ '/' ∈ s ∧ ∀ e, '\n' ∉ e → Passes (s ++ ':' :: e) [] := by
  induction passes with
  | done => exact .inl fun e => .token (by simp [BeginsComment]) (by decide)
  | @token c rest other solid =>
    refine .inl fun e => .token ?_ solid
    rintro ⟨slash,d,first,kind⟩
    cases rest with
    | nil =>
      obtain rfl := Option.some.inj first
      simp at kind
    | cons d' rest => exact other ⟨slash,d,first,kind⟩
  | blank blank _ ih =>
    exact ih.imp (fun goesOn e => .blank blank (goesOn e))
      (.imp_right <| .imp (List.mem_cons_of_mem _) fun open_ e plain => .blank blank (open_ e plain))
  | @line rest r plain passes ih =>
    have behind : ∀ {e r'}, Passes (if rest.dropWhile (· != '\n') = [] then e.dropWhile (· != '\n')
        else rest.dropWhile (· != '\n') ++ ':' :: e) r' → Passes ('/' :: '/' :: rest ++ ':' :: e) r' := by
      intro e r' passes
      refine .line ((isLineDoc_colon rest e).trans plain) ?_
      rw [List.append_eq,List.dropWhile_append]
      simpa using passes
    by_cases ends : rest.dropWhile (· != '\n') = []
    · rw [ends] at passes
      cases passes
      refine .inr ⟨rfl,List.mem_cons_self,fun e line => behind ?_⟩
      have all : e.dropWhile (· != '\n') = [] := by
        rw [List.dropWhile_eq_nil_iff]
        rintro c member
        simpa using fun same : c = '\n' => line (same ▸ member)
      rw [if_pos ends,all]
      exact .done
    · refine ih.imp (fun goesOn e => behind ?_)
        (.imp_right <| .imp (fun _ => List.mem_cons_self) fun open_ e line => behind ?_)
      · rw [if_neg ends]
        exact goesOn e
      · rw [if_neg ends]
        exact open_ e line
  | block plain closed _ ih =>
    have plain' := fun e => (isBlockDoc_colon _ e).trans plain
    have closed' := fun e => skipComment_append closed (':' :: e)
    exact ih.imp (fun goesOn e => .block (plain' e) (closed' e) (goesOn e))
      (.imp_right <| .imp (fun _ => List.mem_cons_self) fun open_ e line => .block (plain' e) (closed' e) (open_ e line))

/-! ### All tokens -/

/-- Whether tokens are given ones where a colon follows, which may follow the last mark at once. -/
inductive Lengthened : List Token → List Token → Prop
  | same (ts : List Token) : Lengthened ts ts
  | joint (front : List Token) (c : Char) : Lengthened (front ++ [.mark c false]) (front ++ [.mark c true])

theorem Lengthened.cons {ts ts' : List Token} (t : Token) (lengthened : Lengthened ts ts') :
    Lengthened (t :: ts) (t :: ts') := by
  cases lengthened with
  | same ts => exact .same _
  | joint front c => exact .joint (t :: front) c

theorem Lengthened.length_eq {ts ts' : List Token} (lengthened : Lengthened ts ts') : ts'.length = ts.length := by
  cases lengthened with
  | same => rfl
  | joint front c => simp only [List.length_append,List.length_singleton]

theorem Lengthened.of_identifier {name : String} {ts ts' : List Token}
    (lengthened : Lengthened (.identifier name :: ts) ts') : ∃ us, ts' = .identifier name :: us := by
  generalize whole : Token.identifier name :: ts = front at lengthened
  cases lengthened with
  | same => exact ⟨ts,whole.symm⟩
  | joint front c =>
    cases front with
    | nil => cases whole
    | cons t front =>
      obtain ⟨rfl,_⟩ := List.cons.inj whole
      exact ⟨_,rfl⟩

theorem Passes.lexes {ts : List Token} (passes : Passes s (':' :: e)) (lexes : Lexes (':' :: e) ts) : Lexes s ts := by
  have same : ∀ {r}, Passes (':' :: e) r → r = ':' :: e := by
    rintro r (_ | _ | ⟨blank,_⟩ | _ | _)
    · rfl
    · cases blank
  cases lexes with
  | done nothing => cases same nothing
  | token here first later => exact .token passes (same here ▸ first) later

/-- The tokens of a text are read where a colon follows, with those of what follows behind them or, inside of a comment
    that the end of the line ends, with nothing behind them. -/
theorem Lexes.colon {ts : List Token} (lexes : Lexes s ts) :
    (∃ ts', Lengthened ts ts' ∧ ∀ e us, Lexes (':' :: e) us → Lexes (s ++ ':' :: e) (ts' ++ us)) ∨
      '/' ∈ s ∧ ∀ e, '\n' ∉ e → Lexes (s ++ ':' :: e) ts := by
  induction lexes with
  | done passes =>
    rcases passes.colon with goesOn | ⟨_,slash,open_⟩
    · exact .inl ⟨[],.same [],fun e us lexes => (goesOn e).lexes lexes⟩
    · exact .inr ⟨slash,fun e line => .done (open_ e line)⟩
  | @token s r rest t ts passes first lexes ih =>
    rcases passes.colon with goesOn | ⟨rfl,_⟩
    · obtain ⟨t',extends_,same,first'⟩ := first?_colon first
      cases rest with
      | nil =>
        obtain rfl : ts = [] := by
          cases lexes with
          | done => rfl
          | token passes first =>
            cases passes
            cases first
        have lengthened : Lengthened [t] [t'] := by
          cases extends_ with
          | same => exact .same [t]
          | joint c => exact .joint [] c
        exact .inl ⟨[t'],lengthened,fun e us read => .token (goesOn e) (first' e) read⟩
      | cons d rest =>
        obtain rfl := same (List.cons_ne_nil _ _)
        rcases ih with ⟨ts',lengthened,later⟩ | ⟨slash,open_⟩
        · exact .inl ⟨t' :: ts',lengthened.cons t',fun e us read => .token (goesOn e) (first' e) (later e us read)⟩
        · have behind := ((suffix_of_first? first).trans (List.tail_suffix r)).trans passes.suffix
          exact .inr ⟨behind.mem slash,fun e line => .token (goesOn e) (first' e) (open_ e line)⟩
    · cases first

end MsgBindings.Target.Token
