import OrderFlow.Core.Json

/-!
# Writing a record and reading it back

An object of integers and strings, as the writers of this format lay it out:
they differ in the space they put around the delimiters only.
-/

namespace OrderFlow.Json

inductive Scalar where
  | int (value : ℤ)
  | string (text : String)
  deriving DecidableEq

def Scalar.toValue : Scalar → Value
  | .int value => .int value
  | .string text => .string (.ofString text)

/-- The space around the delimiters. -/
structure Style where
  beforeColon : List Char
  afterColon : List Char
  afterComma : List Char
  beforeColon_space : beforeColon.all isSpace
  afterColon_space : afterColon.all isSpace
  afterComma_space : afterComma.all isSpace

/-! ## Writing -/

def renderInt (value : ℤ) : List Char :=
  if value < 0 then '-' :: Nat.toDigits 10 value.natAbs
  else Nat.toDigits 10 value.natAbs

def shortEscape? : ℕ → Option Char
  | 0x08 => some 'b'
  | 0x09 => some 't'
  | 0x0A => some 'n'
  | 0x0C => some 'f'
  | 0x0D => some 'r'
  | _ => none

/-- A control character, by its short name or by its number. -/
def escapeControl (code : ℕ) : List Char :=
  match shortEscape? code with
  | some name => ['\\', name]
  | none => ['\\', 'u', '0', '0', (code / 16).digitChar, (code % 16).digitChar]

def escapeChar (c : Char) : List Char :=
  if c = '"' ∨ c = '\\' then ['\\', c]
  else if c.toNat < 0x20 then escapeControl c.toNat
  else [c]

def renderString (text : String) : List Char :=
  '"' :: text.toList.flatMap escapeChar ++ ['"']

def Scalar.render : Scalar → List Char
  | .int value => renderInt value
  | .string text => renderString text

def renderMember (style : Style) (member : String × Scalar) : List Char :=
  renderString member.1 ++
    (style.beforeColon ++ ':' :: (style.afterColon ++ member.2.render))

/-- The members behind the first one, each with its comma. -/
def renderTail (style : Style) (members : List (String × Scalar)) :
    List Char :=
  members.flatMap fun member =>
    ',' :: (style.afterComma ++ renderMember style member)

def renderRecord (style : Style) : List (String × Scalar) → List Char
  | [] => ['{', '}']
  | member :: members =>
      '{' :: (renderMember style member ++ (renderTail style members ++ ['}']))

/-- The object that the record stands for. -/
def recordValue (members : List (String × Scalar)) : Value :=
  .object (members.map fun member =>
    (.ofString member.1, member.2.toValue))

/-! ## Integers -/

/-- What can follow a number without becoming a part of it. -/
def Delimits (rest : List Char) : Prop :=
  ∀ c ∈ rest.head?, c.isDigit = false ∧ c ≠ '.' ∧ c ≠ 'e' ∧ c ≠ 'E'

/-- The integer is not too long to be read. -/
def Scalar.Short : Scalar → Prop
  | .int value => value.natAbs < 10 ^ maxStrDigits
  | .string _ => True

section Integers

variable {rest : List Char}

theorem digits_of_delimits {written : List Char}
    (hdigits : ∀ c ∈ written, c.isDigit = true) (hrest : Delimits rest) :
    digits (written ++ rest) = (written, rest) := by
  have htake : rest.takeWhile Char.isDigit = [] ∧
      rest.dropWhile Char.isDigit = rest := by
    cases rest with
    | nil => exact ⟨rfl, rfl⟩
    | cons c rest =>
        have hc := (hrest c rfl).1
        exact ⟨List.takeWhile_cons_of_neg (by simp [hc]),
          List.dropWhile_cons_of_neg (by simp [hc])⟩
  rw [digits, List.takeWhile_append_of_pos hdigits,
    List.dropWhile_append_of_pos hdigits, htake.1, htake.2, List.append_nil]

theorem isDigit_of_mem_toDigits (number : ℕ) :
    ∀ c ∈ Nat.toDigits 10 number, c.isDigit = true :=
  fun _ hc => Nat.isDigit_of_mem_toDigits (by decide) (by decide) hc

theorem exists_digit (number : ℕ) : ∃ digit more,
    Nat.toDigits 10 number = digit :: more ∧ digit.isDigit = true := by
  obtain ⟨digit, more, hdigits⟩ :=
    List.exists_cons_of_ne_nil (@Nat.toDigits_ne_nil number 10)
  exact ⟨digit, more, hdigits,
    isDigit_of_mem_toDigits number digit (by simp [hdigits])⟩

/-- A number is not written with a leading zero. -/
theorem head?_toDigits_ne {number : ℕ} (hpos : 0 < number) :
    (Nat.toDigits 10 number).head? ≠ some '0' := by
  induction number using Nat.strong_induction_on with
  | _ number ih =>
      rw [Nat.toDigits_eq_if (by decide)]
      split_ifs with hsmall
      · have hdigit : ∀ digit < 10, 0 < digit →
            [Nat.digitChar digit].head? ≠ some '0' := by decide
        exact hdigit number hsmall hpos
      · rw [List.head?_append_of_ne_nil _ Nat.toDigits_ne_nil]
        exact ih (number / 10) (by omega) (by omega)

theorem readWhole_toDigits (number : ℕ) (hrest : Delimits rest) :
    readWhole (Nat.toDigits 10 number ++ rest) =
      (Nat.toDigits 10 number, rest) := by
  rcases number.eq_zero_or_pos with rfl | hpos
  · rfl
  · have hhead := head?_toDigits_ne hpos
    have hdigits := digits_of_delimits (isDigit_of_mem_toDigits number) hrest
    rw [readWhole.eq_def]
    split
    · rename_i after htext
      rw [← List.head?_append_of_ne_nil _ Nat.toDigits_ne_nil, htext] at hhead
      exact absurd rfl hhead
    · exact hdigits

theorem readFraction_of_delimits (hrest : Delimits rest) :
    readFraction rest = ([], rest) := by
  rw [readFraction.eq_def]
  split
  · exact absurd rfl (hrest '.' rfl).2.1
  · rfl

theorem readExponent_of_delimits (hrest : Delimits rest) :
    readExponent rest = (none, rest) := by
  cases rest with
  | nil => rfl
  | cons c rest =>
      have hc := (hrest c rfl).2.2
      rw [readExponent, if_neg (by simp [hc])]

/-- A sign is only there when the number is negative. -/
theorem head?_renderInt (value : ℤ) :
    (renderInt value ++ rest).head? = some '-' ↔ value < 0 := by
  rw [renderInt]
  split_ifs with hneg
  · simp [hneg]
  · rw [List.head?_append_of_ne_nil _ Nat.toDigits_ne_nil]
    refine iff_of_false (fun hhead => ?_) hneg
    have hdigit := isDigit_of_mem_toDigits _ _ (List.mem_of_mem_head? hhead)
    exact absurd hdigit (by decide)

theorem readLiteral_renderInt (value : ℤ) (hrest : Delimits rest) :
    readLiteral (renderInt value ++ rest) =
      some (⟨decide (value < 0), Nat.toDigits 10 value.natAbs, [], none⟩,
        rest) := by
  have hstart : (if value < 0 then (renderInt value ++ rest).tail
      else renderInt value ++ rest) = Nat.toDigits 10 value.natAbs ++ rest := by
    rw [renderInt]
    split_ifs <;> rfl
  simp only [readLiteral, head?_renderInt, hstart,
    readWhole_toDigits value.natAbs hrest, readFraction_of_delimits hrest,
    readExponent_of_delimits hrest, Nat.toDigits_ne_nil, if_false]

theorem signed_natAbs (value : ℤ) :
    signed (decide (value < 0)) value.natAbs = value := by
  rw [signed]
  split_ifs with hneg
  · simp only [decide_eq_true_eq] at hneg
    omega
  · simp only [decide_eq_true_eq] at hneg
    omega

/-- An integer can be told from what follows it. -/
theorem renderInt_append_inj {first second : ℤ} {firstRest secondRest : List Char}
    (hfirst : Delimits firstRest) (hsecond : Delimits secondRest)
    (hsame : renderInt first ++ firstRest = renderInt second ++ secondRest) :
    first = second ∧ firstRest = secondRest := by
  have hread := readLiteral_renderInt first hfirst
  rw [hsame, readLiteral_renderInt second hsecond] at hread
  simp only [Option.some.injEq, Prod.mk.injEq, Literal.mk.injEq, and_true]
    at hread
  obtain ⟨⟨hnegative, hdigits⟩, hrest⟩ := hread
  have habs : first.natAbs = second.natAbs := by
    rw [← @Nat.ofDigitChars_ten_toDigits first.natAbs, ← hdigits,
      Nat.ofDigitChars_ten_toDigits]
  refine ⟨?_, hrest.symm⟩
  rw [← signed_natAbs first, ← signed_natAbs second, habs, hnegative]

theorem readNumber_renderInt {value : ℤ}
    (hshort : value.natAbs < 10 ^ maxStrDigits) (hrest : Delimits rest) :
    readNumber (renderInt value ++ rest) = .ok (.int value, rest) := by
  have hlength : (Nat.toDigits 10 value.natAbs).length ≤ maxStrDigits :=
    (Nat.length_toDigits_le_iff (by decide) (by decide)).mpr hshort
  have hdigits : ofDigits (Nat.toDigits 10 value.natAbs) = value.natAbs :=
    Nat.ofDigitChars_ten_toDigits
  rw [readNumber, readLiteral_renderInt value hrest]
  simp only [Literal.toValue, and_self, if_true, if_pos hlength, hdigits,
    signed_natAbs]
  rfl

end Integers

/-! ## Strings -/

section Strings

variable {rest : List Char}

theorem hexNumber?_control : ∀ code < 0x20,
    hexNumber? ['0', '0', (code / 16).digitChar, (code % 16).digitChar] =
      some code := by
  decide

theorem escape?_shortEscape? : ∀ code < 0x20, ∀ name ∈ shortEscape? code,
    escape? name = some code ∧ name ≠ 'u' := by
  -- as a test of the one name, not of all characters
  have hall : ∀ code < 0x20, (shortEscape? code).all
      (fun name => escape? name = some code ∧ name ≠ 'u') = true := by
    decide
  intro code hcode name hname
  have hname' := hall code hcode
  rw [hname] at hname'
  simpa using hname'

/-- The reader takes an escape for the character it was written for. -/
theorem scanString_escapeChar (c : Char) {units : Text} {left : List Char}
    (hread : scanString rest = .ok (units, left)) :
    scanString (escapeChar c ++ rest) = .ok (c.toNat :: units, left) := by
  rw [escapeChar]
  split_ifs with hspecial hcontrol
  · rcases hspecial with rfl | rfl <;> simp [scanString, escape?, hread]
  · rw [escapeControl]
    split
    · rename_i name hname
      obtain ⟨hescape, hname_ne⟩ := escape?_shortEscape? _ hcontrol name hname
      simp [scanString, hescape, hread, hname_ne]
    · simp [scanString, hexNumber?_control _ hcontrol, hread]
  · rw [not_or] at hspecial
    simp [scanString, hspecial, hcontrol, hread]

theorem scanString_escaped (text : List Char) :
    scanString (text.flatMap escapeChar ++ '"' :: rest) =
      .ok (text.map Char.toNat, rest) := by
  induction text with
  | nil => rfl
  | cons c text ih =>
      rw [List.flatMap_cons, List.append_assoc]
      exact scanString_escapeChar c ih

/-- A character is not a surrogate. -/
theorem not_isHighSurrogate (c : Char) : ¬ IsHighSurrogate c.toNat := by
  rintro ⟨hlow, hhigh⟩
  have hvalid : c.toNat < 0xD800 ∨ 0xDFFF < c.toNat ∧ c.toNat < 0x110000 :=
    c.valid
  omega

theorem joinSurrogates_ofString (text : List Char) :
    joinSurrogates (text.map Char.toNat) = text.map Char.toNat := by
  induction text with
  | nil => rfl
  | cons c text ih =>
      cases text with
      | nil => rfl
      | cons d text =>
          rw [List.map_cons, List.map_cons, joinSurrogates,
            if_neg fun hpair => not_isHighSurrogate c hpair.1]
          exact congrArg _ ih

theorem readText_renderString (text : String) :
    readText (text.toList.flatMap escapeChar ++ '"' :: rest) =
      .ok (.ofString text, rest) := by
  rw [readText, scanString_escaped]
  exact congrArg (fun units => Except.ok (units, rest))
    (joinSurrogates_ofString text.toList)

end Strings

/-! ## Records -/

theorem skipSpace_append {space rest : List Char}
    (hspace : space.all isSpace) : skipSpace (space ++ rest) = skipSpace rest := by
  rw [skipSpace, List.dropWhile_append_of_pos (List.all_eq_true.mp hspace)]
  rfl

section Records

variable {style : Style} {limit : ℕ} {rest : List Char}

/-- An integer starts like no constant and no bracket. -/
theorem scanOnce_renderInt (nested : Option (Reader Value)) (value : ℤ) :
    scanOnce nested (renderInt value ++ rest) =
      readNumber (renderInt value ++ rest) := by
  obtain ⟨digit, more, hdigits, hdigit⟩ := exists_digit value.natAbs
  have hne : ∀ c : Char, c.isDigit = false → digit ≠ c := by
    rintro c hc rfl
    exact absurd (hdigit.symm.trans hc) (by decide)
  rw [renderInt, hdigits]
  split_ifs
  · have hconstant : readConstant? ('-' :: digit :: (more ++ rest)) = none := by
      simp [readConstant?, constants, List.dropPrefix?, hne 'I' (by decide)]
    simp [scanOnce, hconstant]
  · have hconstant : readConstant? (digit :: (more ++ rest)) = none := by
      simp [readConstant?, constants, List.dropPrefix?, hne 'n' (by decide),
        hne 't' (by decide), hne 'f' (by decide), hne 'N' (by decide),
        hne 'I' (by decide), hne '-' (by decide)]
    simp [scanOnce, hconstant, hne '"' (by decide), hne '\x7b' (by decide),
      hne '[' (by decide)]

theorem readValue_render {scalar : Scalar} (hshort : scalar.Short)
    (hrest : Delimits rest) :
    readValue limit (scalar.render ++ rest) = .ok (scalar.toValue, rest) := by
  have hscan : ∀ nested, scanOnce nested (scalar.render ++ rest) =
      .ok (scalar.toValue, rest) := by
    intro nested
    cases scalar with
    | int value =>
        exact (scanOnce_renderInt nested value).trans
          (readNumber_renderInt hshort hrest)
    | string text =>
        have htext : (Scalar.string text).render ++ rest =
            '"' :: (text.toList.flatMap escapeChar ++ '"' :: rest) := by
          simp [Scalar.render, renderString]
        rw [htext, scanOnce, readText_renderString]
        rfl
  cases limit with
  | zero => exact hscan none
  | succ limit => exact hscan _

theorem delimits_cons {c : Char} {rest : List Char}
    (hc : c = ',' ∨ c = '}') : Delimits (c :: rest) := by
  intro head hhead
  cases hhead
  rcases hc with rfl | rfl <;> decide

/-- What a member begins with is no space. -/
theorem skipSpace_renderMember (member : String × Scalar) :
    skipSpace (renderMember style member ++ rest) =
      renderMember style member ++ rest := by
  rw [renderMember, renderString]
  exact List.dropWhile_cons_of_neg (by decide)

theorem isSpace_of_isDigit {c : Char} (hc : c.isDigit = true) :
    isSpace c = false := by
  by_contra hspace
  simp only [isSpace, Bool.not_eq_false, Bool.or_eq_true,
    decide_eq_true_eq] at hspace
  rcases hspace with ((rfl | rfl) | rfl) | rfl <;> exact absurd hc (by decide)

theorem skipSpace_render (scalar : Scalar) :
    skipSpace (scalar.render ++ rest) = scalar.render ++ rest := by
  cases scalar with
  | string text => exact List.dropWhile_cons_of_neg (by decide)
  | int value =>
      obtain ⟨digit, more, hdigits⟩ := exists_digit value.natAbs
      rw [Scalar.render, renderInt, hdigits.1]
      split_ifs
      · exact List.dropWhile_cons_of_neg (by decide)
      · exact List.dropWhile_cons_of_neg (by
          rw [isSpace_of_isDigit hdigits.2]
          decide)

theorem readMember_renderMember {member : String × Scalar}
    (hshort : member.2.Short) (hrest : Delimits rest) :
    readMember (readValue limit) (renderMember style member ++ rest) =
      .ok ((.ofString member.1, member.2.toValue), rest) := by
  have htext : renderMember style member ++ rest =
      '"' :: (member.1.toList.flatMap escapeChar ++ '"' ::
        (style.beforeColon ++ ':' ::
          (style.afterColon ++ (member.2.render ++ rest)))) := by
    simp [renderMember, renderString]
  have hcolon : skipSpace (style.beforeColon ++ ':' ::
      (style.afterColon ++ (member.2.render ++ rest))) =
        ':' :: (style.afterColon ++ (member.2.render ++ rest)) :=
    (skipSpace_append style.beforeColon_space).trans rfl
  have hvalue : skipSpace (style.afterColon ++ (member.2.render ++ rest)) =
      member.2.render ++ rest :=
    (skipSpace_append style.afterColon_space).trans (skipSpace_render _)
  rw [htext, readMember, readText_renderString]
  simp only [hcolon, hvalue, readValue_render hshort hrest]
  rfl

/-- The loop reads the members that are still to come. -/
theorem readItems_renderTail {members : List (String × Scalar)}
    (hshort : ∀ member ∈ members, member.2.Short)
    {first : String × Scalar} (hfirst : first.2.Short) {rounds : ℕ}
    (hrounds : members.length < rounds) (done : List (Text × Value)) :
    readItems (readMember (readValue limit)) '}' rounds done
        (renderMember style first ++ (renderTail style members ++ '}' :: rest)) =
      .ok (done ++ (first :: members).map (fun member =>
        (Text.ofString member.1, member.2.toValue)), rest) := by
  induction members generalizing first done rounds with
  | nil =>
      cases rounds with
      | zero => omega
      | succ rounds =>
          have hread := @readMember_renderMember style limit ('}' :: rest)
            first hfirst (delimits_cons (.inr rfl))
          have hclose : skipSpace ('}' :: rest) = '}' :: rest := rfl
          rw [renderTail, List.flatMap_nil, List.nil_append, readItems, hread]
          simp [hclose]
  | cons member members ih =>
      cases rounds with
      | zero => omega
      | succ rounds =>
          have hread := @readMember_renderMember style limit
            (',' :: (style.afterComma ++ (renderMember style member ++
              (renderTail style members ++ '}' :: rest))))
            first hfirst (delimits_cons (.inl rfl))
          have htext : renderTail style (member :: members) ++ '}' :: rest =
              ',' :: (style.afterComma ++ (renderMember style member ++
                (renderTail style members ++ '}' :: rest))) := by
            simp [renderTail]
          have hcomma : ∀ text, skipSpace (',' :: text) = ',' :: text :=
            fun _ => List.dropWhile_cons_of_neg (by decide)
          rw [htext, readItems, hread]
          simp only [hcomma, skipSpace_append style.afterComma_space,
            skipSpace_renderMember]
          rw [List.forall_mem_cons] at hshort
          have hless : members.length < rounds := by simpa using hrounds
          have hrest := ih hshort.2 hshort.1 hless
            (done ++ [(.ofString first.1, first.2.toValue)])
          simpa using hrest

theorem members_lt_length (first : String × Scalar)
    (members : List (String × Scalar)) :
    members.length < (renderMember style first ++
      (renderTail style members ++ '}' :: rest)).length := by
  have htail : members.length ≤ (renderTail style members).length := by
    induction members with
    | nil => exact Nat.zero_le _
    | cons member members ih =>
        rw [renderTail, List.flatMap_cons] at *
        simp only [List.length_append, List.length_cons] at *
        omega
  simp only [List.length_append, List.length_cons]
  omega

theorem readSequence_renderRecord {first : String × Scalar}
    {members : List (String × Scalar)}
    (hshort : ∀ member ∈ first :: members, member.2.Short) :
    readSequence (readMember (readValue limit)) '}'
        (renderMember style first ++ (renderTail style members ++ '}' :: rest)) =
      .ok ((first :: members).map fun member =>
        (.ofString member.1, member.2.toValue), rest) := by
  rw [List.forall_mem_cons] at hshort
  have hopen : (renderMember style first ++
      (renderTail style members ++ '}' :: rest)).head? ≠ some '}' := by
    rw [renderMember, renderString]
    exact fun hhead => absurd (Option.some.inj hhead) (by decide)
  rw [readSequence, skipSpace_renderMember, if_neg hopen]
  exact readItems_renderTail hshort.2 hshort.1 (members_lt_length first members)
    []

end Records

/-- What was written is read back, whatever the space between the tokens. -/
theorem loads_renderRecord (style : Style) (limit : ℕ)
    {members : List (String × Scalar)}
    (hshort : ∀ member ∈ members, member.2.Short) :
    loads (limit + 1) (renderRecord style members) =
      .ok (recordValue members) := by
  cases members with
  | nil => rfl
  | cons first members =>
      have hbrace : skipSpace (renderRecord style (first :: members)) =
          renderRecord style (first :: members) :=
        List.dropWhile_cons_of_neg (by decide)
      rw [loads, hbrace, renderRecord, readValue, scanOnce, readObject,
        readSequence_renderRecord hshort]
      rfl

/-! ## One line -/

section Lines

theorem newline_not_mem_escapeChar (c : Char) : '\n' ∉ escapeChar c := by
  have hcontrol : ∀ code < 0x20, '\n' ∉ escapeControl code := by decide
  rw [escapeChar]
  split_ifs with hspecial hsmall
  · rcases hspecial with rfl | rfl <;> decide
  · exact hcontrol _ hsmall
  · rw [List.mem_singleton]
    rintro rfl
    exact hsmall (by decide)

theorem newline_not_mem_renderString (text : String) :
    '\n' ∉ renderString text := by
  simp [renderString, newline_not_mem_escapeChar]

theorem newline_not_mem_render (scalar : Scalar) : '\n' ∉ scalar.render := by
  have hdigits : ∀ number : ℕ, '\n' ∉ Nat.toDigits 10 number := fun number hmem =>
    absurd (isDigit_of_mem_toDigits number _ hmem) (by decide)
  cases scalar with
  | int value =>
      rw [Scalar.render, renderInt]
      split_ifs <;> simp [hdigits]
  | string text => exact newline_not_mem_renderString text

/-- A record whose style breaks no line is written on one. -/
theorem newline_not_mem_renderRecord {style : Style}
    (hstyle : '\n' ∉ style.beforeColon ++ style.afterColon ++ style.afterComma)
    (members : List (String × Scalar)) :
    '\n' ∉ renderRecord style members := by
  simp only [List.mem_append, not_or] at hstyle
  have hmember : ∀ member, '\n' ∉ renderMember style member := by
    intro member
    simp [renderMember, newline_not_mem_renderString, newline_not_mem_render,
      hstyle]
  cases members with
  | nil => simp [renderRecord]
  | cons first members => simp [renderRecord, renderTail, hmember, hstyle]

end Lines

end OrderFlow.Json
