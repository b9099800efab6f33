import OrderFlow.Core.Binary64
import OrderFlow.Core.Regroup
import Mathlib.Data.Nat.Digits.Defs

/-!
# JSON texts as Python reads them

`json.loads`: a recursive descent over the text.  It takes more than the
standard has, `NaN` and the infinities, a repeated key, lone surrogates, and
it fails in two ways: a `ValueError` (`JSONDecodeError` is one) for a text that
is not JSON or an integer of too many digits, and a `RecursionError` for values
nested deeper than the interpreter has room for.
-/

namespace OrderFlow.Json

/-- The code points of a Python string, which can be surrogates. -/
abbrev Text := List ℕ

def Text.ofString (text : String) : Text := text.toList.map Char.toNat

inductive Value where
  | null
  | bool (value : Bool)
  | int (value : ℤ)
  | float (value : Binary64)
  | string (text : Text)
  | array (items : List Value)
  /-- the pairs in the order of the text -/
  | object (members : List (Text × Value))

/-- What a `dict` of these pairs has under a key: the last one counts. -/
def lookup? (members : List (Text × Value)) (key : Text) : Option Value :=
  (members.reverse.find? fun member => member.1 = key).map Prod.snd

theorem lookup?_of_mem {members : List (Text × Value)}
    (hkeys : (members.map Prod.fst).Nodup) {key : Text} {value : Value}
    (hmember : (key, value) ∈ members) : lookup? members key = some value := by
  have hreverse : (members.reverse.map Prod.fst).Nodup := by
    rw [List.map_reverse, List.nodup_reverse]
    exact hkeys
  rw [lookup?, find?_of_nodup_keys hreverse (List.mem_reverse.mpr hmember)]
  rfl

inductive Error where
  | valueError
  | recursionError
  deriving DecidableEq

/-- A reader consumes some first characters. -/
abbrev Reader (α : Type) := List Char → Except Error (α × List Char)

def isSpace (c : Char) : Bool :=
  c = ' ' || c = '\t' || c = '\n' || c = '\r'

def skipSpace (text : List Char) : List Char := text.dropWhile isSpace

/-! ## Strings -/

def hexDigit? (c : Char) : Option ℕ :=
  if c.isDigit then some (c.toNat - '0'.toNat)
  else if 'a' ≤ c ∧ c ≤ 'f' then some (c.toNat - 'a'.toNat + 10)
  else if 'A' ≤ c ∧ c ≤ 'F' then some (c.toNat - 'A'.toNat + 10)
  else none

def hexNumber? (digits : List Char) : Option ℕ :=
  digits.foldlM (fun value c => (hexDigit? c).map (16 * value + ·)) 0

/-- The characters that stand for themselves or a control character after a
backslash. -/
def escape? : Char → Option ℕ
  | '"' => some 0x22
  | '\\' => some 0x5C
  | '/' => some 0x2F
  | 'b' => some 0x08
  | 'f' => some 0x0C
  | 'n' => some 0x0A
  | 'r' => some 0x0D
  | 't' => some 0x09
  | _ => none

/-- `scanstring`, from behind the opening quote on and with surrogates still
apart. -/
def scanString : Reader Text
  | [] => .error .valueError
  | '"' :: rest => .ok ([], rest)
  | '\\' :: 'u' :: a :: b :: c :: d :: rest =>
      match hexNumber? [a, b, c, d], scanString rest with
      | some unit, .ok (units, rest) => .ok (unit :: units, rest)
      | _, _ => .error .valueError
  | '\\' :: c :: rest =>
      match escape? c, scanString rest with
      | some unit, .ok (units, rest) => .ok (unit :: units, rest)
      | _, _ => .error .valueError
  | c :: rest =>
      if c.toNat < 0x20 then .error .valueError
      else match scanString rest with
        | .ok (units, rest) => .ok (c.toNat :: units, rest)
        | .error error => .error error

def IsHighSurrogate (unit : ℕ) : Prop := 0xD800 ≤ unit ∧ unit ≤ 0xDBFF

def IsLowSurrogate (unit : ℕ) : Prop := 0xDC00 ≤ unit ∧ unit ≤ 0xDFFF

instance (unit : ℕ) : Decidable (IsHighSurrogate unit) :=
  inferInstanceAs (Decidable (_ ∧ _))

instance (unit : ℕ) : Decidable (IsLowSurrogate unit) :=
  inferInstanceAs (Decidable (_ ∧ _))

/-- Only escapes are surrogates, and two of them can make one character. -/
def joinSurrogates : List ℕ → Text
  | high :: low :: units =>
      if IsHighSurrogate high ∧ IsLowSurrogate low then
        (0x10000 + (high - 0xD800) * 0x400 + (low - 0xDC00)) ::
          joinSurrogates units
      else high :: joinSurrogates (low :: units)
  | units => units

def readText (rest : List Char) : Except Error (Text × List Char) :=
  (scanString rest).map fun (units, rest) => (joinSurrogates units, rest)

/-! ## Numbers -/

def digits (text : List Char) : List Char × List Char :=
  (text.takeWhile Char.isDigit, text.dropWhile Char.isDigit)

structure Literal where
  negative : Bool
  whole : List Char
  fraction : List Char
  exponent : Option ℤ
  deriving DecidableEq

/-- The digits after a point; a point without one is not part of the number. -/
def readFraction : List Char → List Char × List Char
  | '.' :: rest =>
      if (digits rest).1 = [] then ([], '.' :: rest) else digits rest
  | text => ([], text)

def ofDigits (digits : List Char) : ℕ := Nat.ofDigitChars 10 digits 0

/-- The sign of an exponent. -/
def readSign : List Char → Bool × List Char
  | '+' :: rest => (false, rest)
  | '-' :: rest => (true, rest)
  | text => (false, text)

def signed (negative : Bool) (value : ℕ) : ℤ :=
  if negative then -value else value

def readExponent (text : List Char) : Option ℤ × List Char :=
  match text with
  | [] => (none, [])
  | c :: rest =>
      let read := digits (readSign rest).2
      if (c = 'e' ∨ c = 'E') ∧ read.1 ≠ [] then
        (some (signed (readSign rest).1 (ofDigits read.1)), read.2)
      else (none, text)

/-- The digits before the point: no further digit follows a zero. -/
def readWhole : List Char → List Char × List Char
  | '0' :: rest => (['0'], rest)
  | text => digits text

/-- `_match_number`. -/
def readLiteral (text : List Char) : Option (Literal × List Char) :=
  let negative := text.head? = some '-'
  let whole := readWhole (if negative then text.tail else text)
  let fraction := readFraction whole.2
  let exponent := readExponent fraction.2
  if whole.1 = [] then none
  else some (⟨negative, whole.1, fraction.1, exponent.1⟩, exponent.2)

/-- `sys.get_int_max_str_digits()`. -/
def maxStrDigits : ℕ := 4300

/-- The number that the digits and the exponent of a literal write down. -/
def Literal.value (literal : Literal) : ℚ :=
  signed literal.negative (ofDigits (literal.whole ++ literal.fraction)) *
    10 ^ (literal.exponent.getD 0 - literal.fraction.length)

/-- A literal with a fraction or an exponent is a float. -/
def Literal.toValue (literal : Literal) : Except Error Value :=
  if literal.fraction = [] ∧ literal.exponent = none then
    if literal.whole.length ≤ maxStrDigits then
      .ok (.int (signed literal.negative (ofDigits literal.whole)))
    else .error .valueError
  else .ok (.float (.round literal.value))

def readNumber (text : List Char) : Except Error (Value × List Char) :=
  match readLiteral text with
  | none => .error .valueError
  | some (literal, rest) => literal.toValue.map (·, rest)

/-! ## Values -/

def constants : List (List Char × Value) :=
  [("null".toList, .null), ("true".toList, .bool true),
    ("false".toList, .bool false), ("NaN".toList, .float .nan),
    ("Infinity".toList, .float (.infinite false)),
    ("-Infinity".toList, .float (.infinite true))]

def readConstant? (text : List Char) : Option (Value × List Char) :=
  constants.findSome? fun (word, value) =>
    (text.dropPrefix? word).map (value, ·)

/-- What stands between a bracket and the next `close`, separated by commas;
every round of the loop reads one item. -/
def readItems {α : Type} (read : Reader α) (close : Char) :
    ℕ → List α → Reader (List α)
  | 0, _, _ => .error .valueError
  | rounds + 1, items, text =>
      match read text with
      | .error error => .error error
      | .ok (item, rest) =>
          match skipSpace rest with
          | [] => .error .valueError
          | c :: rest =>
              if c = close then .ok (items ++ [item], rest)
              else if c = ',' then
                readItems read close rounds (items ++ [item]) (skipSpace rest)
              else .error .valueError

def readSequence {α : Type} (read : Reader α) (close : Char)
    (text : List Char) : Except Error (List α × List Char) :=
  let text := skipSpace text
  if text.head? = some close then .ok ([], text.tail)
  else readItems read close text.length [] text

/-- A key in quotes and its value. -/
def readMember (read : Reader Value) : Reader (Text × Value)
  | '"' :: text =>
      match readText text with
      | .error error => .error error
      | .ok (key, rest) =>
          match skipSpace rest with
          | ':' :: rest =>
              (read (skipSpace rest)).map fun (value, rest) =>
                ((key, value), rest)
          | _ => .error .valueError
  | _ => .error .valueError

/-- `_parse_array`. -/
def readArray (read : Reader Value) (text : List Char) :
    Except Error (Value × List Char) :=
  (readSequence read ']' text).map fun (items, rest) => (.array items, rest)

/-- `_parse_object`. -/
def readObject (read : Reader Value) (text : List Char) :
    Except Error (Value × List Char) :=
  (readSequence (readMember read) '}' text).map fun (members, rest) =>
    (.object members, rest)

/-- `scan_once`; `nested` reads the values inside, unless there is no room for
another level. -/
def scanOnce (nested : Option (Reader Value)) : Reader Value
  | '"' :: rest =>
      (readText rest).map fun (text, rest) => (.string text, rest)
  | '{' :: rest =>
      match nested with
      | none => .error .recursionError
      | some read => readObject read rest
  | '[' :: rest =>
      match nested with
      | none => .error .recursionError
      | some read => readArray read rest
  | text =>
      match readConstant? text with
      | some read => .ok read
      | none => readNumber text

/-- A value of at most `limit` levels of brackets. -/
def readValue : ℕ → Reader Value
  | 0 => scanOnce none
  | limit + 1 => scanOnce (some (readValue limit))

/-- `json.loads`, with room for `limit` levels. -/
def loads (limit : ℕ) (text : List Char) : Except Error Value :=
  match readValue limit (skipSpace text) with
  | .error error => .error error
  | .ok (value, rest) =>
      if skipSpace rest = [] then .ok value else .error .valueError

/-! ## A reader moves forward -/

/-- What is left is a proper suffix. -/
def Consumes {α : Type} (read : Reader α) : Prop :=
  ∀ text value rest, read text = .ok (value, rest) →
    rest <:+ text ∧ rest.length < text.length

theorem skipSpace_suffix (text : List Char) : skipSpace text <:+ text :=
  List.dropWhile_suffix _

theorem digits_suffix (text : List Char) : (digits text).2 <:+ text :=
  List.dropWhile_suffix _

/-- A suffix of what is left behind the first character. -/
theorem shorter_of_suffix {text rest : List Char} {c : Char}
    (hsuffix : rest <:+ text) :
    rest <:+ c :: text ∧ rest.length < (c :: text).length :=
  ⟨hsuffix.trans (List.suffix_cons c text),
    Nat.lt_succ_of_le hsuffix.length_le⟩

theorem shorter_trans {text middle rest : List Char}
    (hrest : rest <:+ middle ∧ rest.length < middle.length)
    (hmiddle : middle <:+ text) :
    rest <:+ text ∧ rest.length < text.length :=
  ⟨hrest.1.trans hmiddle, hrest.2.trans_le hmiddle.length_le⟩

theorem scanString_consumes : Consumes scanString := by
  intro text
  fun_induction scanString text with
  | case1 => intro units rest hread; cases hread
  | case2 rest =>
      intro units left hread
      cases hread
      exact shorter_of_suffix List.suffix_rfl
  | case3 a b c d rest unit units left hscan hunit ih =>
      intro units left hread
      cases hread
      have hescape : rest <:+ 'u' :: a :: b :: c :: d :: rest :=
        ⟨['u', a, b, c, d], rfl⟩
      exact shorter_of_suffix ((ih _ _ hscan).1.trans hescape)
  | case4 => intro units left hread; cases hread
  | case5 c rest hescape unit units left hscan hunit ih =>
      intro units left hread
      cases hread
      exact shorter_of_suffix ((ih _ _ hscan).1.trans (List.suffix_cons c rest))
  | case6 => intro units left hread; cases hread
  | case7 => intro units left hread; cases hread
  | case8 c rest hquote hunicode hescape hcontrol units left hscan ih =>
      intro units left hread
      cases hread
      exact shorter_of_suffix (ih _ _ hscan).1
  | case9 => intro units left hread; cases hread

theorem Consumes.map {α β : Type} {read : Reader α} (hread : Consumes read)
    (f : α → β) :
    Consumes fun text => (read text).map fun (value, rest) => (f value, rest) := by
  intro text value rest hok
  dsimp only at hok
  cases hvalue : read text with
  | error error =>
      rw [hvalue] at hok
      cases hok
  | ok found =>
      rw [hvalue] at hok
      cases hok
      exact hread _ _ _ hvalue

theorem readText_consumes : Consumes readText :=
  scanString_consumes.map joinSurrogates

theorem readFraction_suffix (text : List Char) :
    (readFraction text).2 <:+ text := by
  rw [readFraction.eq_def]
  split
  · split_ifs
    · exact List.suffix_rfl
    · exact (digits_suffix _).trans (List.suffix_cons _ _)
  · exact List.suffix_rfl

theorem readSign_suffix (text : List Char) : (readSign text).2 <:+ text := by
  rw [readSign.eq_def]
  split
  · exact List.suffix_cons _ _
  · exact List.suffix_cons _ _
  · exact List.suffix_rfl

theorem readExponent_suffix (text : List Char) :
    (readExponent text).2 <:+ text := by
  cases text with
  | nil => exact List.suffix_rfl
  | cons c rest =>
      rw [readExponent]
      split_ifs
      · exact (digits_suffix _).trans
          ((readSign_suffix rest).trans (List.suffix_cons c rest))
      · exact List.suffix_rfl

theorem digits_append (text : List Char) :
    (digits text).1 ++ (digits text).2 = text :=
  List.takeWhile_append_dropWhile

theorem readWhole_append (text : List Char) :
    (readWhole text).1 ++ (readWhole text).2 = text := by
  rw [readWhole.eq_def]
  split
  · rfl
  · exact digits_append _

theorem readLiteral_consumes {text rest : List Char} {literal : Literal}
    (hread : readLiteral text = some (literal, rest)) :
    rest <:+ text ∧ rest.length < text.length := by
  rw [readLiteral] at hread
  generalize hstart : (if text.head? = some '-' then text.tail else text) =
    start at hread
  have hstart_suffix : start <:+ text := by
    rw [← hstart]
    split_ifs
    · exact List.tail_suffix text
    · exact List.suffix_rfl
  split_ifs at hread with hempty
  cases hread
  have hwhole := readWhole_append start
  have hrest := (readExponent_suffix (readFraction (readWhole start).2).2).trans
    (readFraction_suffix (readWhole start).2)
  have hshorter : (readExponent (readFraction (readWhole start).2).2).2.length <
      start.length := by
    have hlength := congrArg List.length hwhole
    rw [List.length_append] at hlength
    have hpos := List.length_pos_iff.mpr hempty
    have hle := hrest.length_le
    omega
  exact shorter_trans ⟨hrest.trans ⟨_, hwhole⟩, hshorter⟩ hstart_suffix

theorem readNumber_consumes : Consumes readNumber := by
  intro text value rest hread
  rw [readNumber] at hread
  split at hread
  · cases hread
  · rename_i literal left hliteral
    cases hvalue : literal.toValue with
    | error error =>
        rw [hvalue] at hread
        cases hread
    | ok value =>
        rw [hvalue] at hread
        cases hread
        exact readLiteral_consumes hliteral

theorem readConstant?_consumes {text rest : List Char} {value : Value}
    (hread : readConstant? text = some (value, rest)) :
    rest <:+ text ∧ rest.length < text.length := by
  obtain ⟨⟨word, constant⟩, hmem, hword⟩ := List.exists_of_findSome?_eq_some hread
  obtain ⟨left, hleft, hsame⟩ := Option.map_eq_some_iff.mp hword
  cases hsame
  obtain ⟨found, rfl, hfound⟩ := List.dropPrefix?_eq_some_iff.mp hleft
  have hword_ne : ∀ member ∈ constants, member.1 ≠ [] := by
    intro member hmember
    simp only [constants, List.mem_cons, List.not_mem_nil, or_false] at hmember
    rcases hmember with rfl | rfl | rfl | rfl | rfl | rfl <;> simp
  have hfound_pos : 0 < found.length := by
    rw [eq_of_beq hfound]
    exact List.length_pos_iff.mpr (hword_ne _ hmem)
  refine ⟨List.suffix_append _ _, ?_⟩
  rw [List.length_append]
  omega

/-- What is left behind a delimiter. -/
theorem shorter_of_skipSpace {text rest : List Char} {c : Char}
    (hskip : skipSpace text = c :: rest) :
    rest <:+ text ∧ rest.length < text.length := by
  have hsuffix := skipSpace_suffix text
  rw [hskip] at hsuffix
  exact shorter_trans (shorter_of_suffix List.suffix_rfl) hsuffix

section Sequence

variable {α : Type} {read : Reader α} {close : Char}

theorem readItems_consumes (hread : Consumes read) (rounds : ℕ)
    (items : List α) : Consumes (readItems read close rounds items) := by
  induction rounds generalizing items with
  | zero => intro text found rest hok; cases hok
  | succ rounds ih =>
      intro text found rest hok
      rw [readItems] at hok
      split at hok
      · cases hok
      · rename_i item left hitem
        have hleft := (hread _ _ _ hitem).1
        split at hok
        · cases hok
        · rename_i c after hdelimiter
          have hafter := (shorter_of_skipSpace hdelimiter)
          split_ifs at hok
          · cases hok
            exact shorter_trans hafter hleft
          · exact shorter_trans (ih _ _ _ _ hok)
              ((skipSpace_suffix after).trans (hafter.1.trans hleft))

theorem readSequence_consumes (hread : Consumes read) :
    Consumes (readSequence read close) := by
  intro text found rest hok
  rw [readSequence] at hok
  split_ifs at hok with hclose
  · cases hok
    exact shorter_of_skipSpace (List.eq_cons_of_mem_head? hclose)
  · exact shorter_trans (readItems_consumes hread _ _ _ _ _ hok)
      (skipSpace_suffix text)

/-- The loop of `readSequence` never runs out of rounds: more of them change
nothing. -/
theorem readItems_rounds (hread : Consumes read)
    (hend : read [] = .error .valueError) {rounds more : ℕ}
    {items : List α} {text : List Char} (hrounds : text.length ≤ rounds)
    (hmore : text.length ≤ more) :
    readItems read close rounds items text =
      readItems read close more items text := by
  induction rounds generalizing more items text with
  | zero =>
      have hnil : text = [] := List.length_eq_zero_iff.mp (by omega)
      cases more with
      | zero => rfl
      | succ more => rw [readItems, readItems, hnil, hend]
  | succ rounds ih =>
      cases more with
      | zero =>
          have hnil : text = [] := List.length_eq_zero_iff.mp (by omega)
          rw [readItems, readItems, hnil, hend]
      | succ more =>
          rw [readItems, readItems]
          split
          · rfl
          · rename_i item left hitem
            have hleft := (hread _ _ _ hitem).2
            split
            · rfl
            · rename_i c after hdelimiter
              have hafter := (shorter_of_skipSpace hdelimiter).2
              have hspace := (skipSpace_suffix after).length_le
              rw [ih (by omega) (by omega : _ ≤ more)]

end Sequence

section Nested

variable {read : Reader Value}

theorem readMember_consumes (hread : Consumes read) :
    Consumes (readMember read) := by
  intro text member rest hok
  rw [readMember.eq_def] at hok
  split at hok
  · rename_i quoted
    split at hok
    · cases hok
    · rename_i key left hkey
      have hleft := (readText_consumes _ _ _ hkey).1
      split at hok
      · rename_i after hcolon
        cases hvalue : read (skipSpace after) with
        | error error =>
            rw [hvalue] at hok
            cases hok
        | ok value =>
            rw [hvalue] at hok
            cases hok
            exact shorter_trans (hread _ _ _ hvalue)
              ((skipSpace_suffix after).trans
                ((shorter_of_skipSpace hcolon).1.trans
                  (hleft.trans (List.suffix_cons '"' quoted))))
      · cases hok
  · cases hok

theorem scanOnce_consumes {nested : Option (Reader Value)}
    (hnested : ∀ read ∈ nested, Consumes read) :
    Consumes (scanOnce nested) := by
  intro text value rest hok
  rw [scanOnce.eq_def] at hok
  split at hok
  · exact shorter_of_suffix ((readText_consumes.map _) _ _ _ hok).1
  · split at hok
    · cases hok
    · have hmember := readMember_consumes (hnested _ rfl)
      exact shorter_of_suffix
        (((readSequence_consumes hmember).map _) _ _ _ hok).1
  · split at hok
    · cases hok
    · exact shorter_of_suffix
        (((readSequence_consumes (hnested _ rfl)).map _) _ _ _ hok).1
  · split at hok
    · rename_i found hfound
      cases hok
      exact readConstant?_consumes hfound
    · exact readNumber_consumes _ _ _ hok

end Nested

theorem readValue_consumes (limit : ℕ) : Consumes (readValue limit) := by
  induction limit with
  | zero => exact scanOnce_consumes (by simp)
  | succ limit ih =>
      refine scanOnce_consumes fun read hread => ?_
      cases hread
      exact ih

/-! ## Room for the nesting -/

/-- Brackets that open a level. -/
def brackets (text : List Char) : ℕ :=
  text.countP fun c => c = '{' || c = '['

/-- The reader gives up for lack of room somewhere in the text. -/
def RunsDeep {α : Type} (read : Reader α) (text : List Char) : Prop :=
  ∃ start, start <:+ text ∧ read start = .error .recursionError

theorem RunsDeep.suffix {α : Type} {read : Reader α} {text start : List Char}
    (hdeep : RunsDeep read start) (hsuffix : start <:+ text) :
    RunsDeep read text := by
  obtain ⟨inner, hinner, hread⟩ := hdeep
  exact ⟨inner, hinner.trans hsuffix, hread⟩

theorem error_of_map {α β : Type} {result : Except Error α} {f : α → β}
    {error : Error} (hmap : result.map f = .error error) :
    result = .error error := by
  cases result with
  | error found => exact congrArg _ (Except.error.inj hmap)
  | ok value => cases hmap

theorem scanString_error {text : List Char} {error : Error}
    (hread : scanString text = .error error) : error = .valueError := by
  revert hread
  fun_induction scanString text with
  | case9 c rest hquote hunicode hescape hcontrol failed hscan ih =>
      intro hread
      cases hread
      exact ih hscan
  | _ => simp_all

theorem readText_error {text : List Char} {error : Error}
    (hread : readText text = .error error) : error = .valueError :=
  scanString_error (error_of_map hread)

theorem readNumber_error {text : List Char} {error : Error}
    (hread : readNumber text = .error error) : error = .valueError := by
  rw [readNumber] at hread
  split at hread
  · cases hread
    rfl
  · have hvalue := error_of_map hread
    rw [Literal.toValue] at hvalue
    split_ifs at hvalue
    cases hvalue
    rfl

theorem readItems_deep {α : Type} {read : Reader α} {close : Char}
    (hread : Consumes read) {rounds : ℕ} {items : List α} {text : List Char}
    (hdeep : readItems read close rounds items text = .error .recursionError) :
    RunsDeep read text := by
  induction rounds generalizing items text with
  | zero => cases hdeep
  | succ rounds ih =>
      rw [readItems] at hdeep
      split at hdeep
      · rename_i error hitem
        cases hdeep
        exact ⟨text, List.suffix_rfl, hitem⟩
      · rename_i item left hitem
        split at hdeep
        · cases hdeep
        · rename_i c after hdelimiter
          split_ifs at hdeep
          · exact (ih hdeep).suffix ((skipSpace_suffix after).trans
              ((shorter_of_skipSpace hdelimiter).1.trans
                (hread _ _ _ hitem).1))
          · cases hdeep

theorem readSequence_deep {α : Type} {read : Reader α} {close : Char}
    (hread : Consumes read) {text : List Char}
    (hdeep : readSequence read close text = .error .recursionError) :
    RunsDeep read text := by
  rw [readSequence] at hdeep
  split_ifs at hdeep
  exact (readItems_deep hread hdeep).suffix (skipSpace_suffix text)

theorem readMember_deep {read : Reader Value} {text : List Char}
    (hdeep : readMember read text = .error .recursionError) :
    RunsDeep read text := by
  rw [readMember.eq_def] at hdeep
  split at hdeep
  · rename_i quoted
    split at hdeep
    · rename_i error hkey
      cases hdeep
      cases readText_error hkey
    · rename_i key left hkey
      split at hdeep
      · rename_i after hcolon
        exact ⟨_, (skipSpace_suffix after).trans
          ((shorter_of_skipSpace hcolon).1.trans
            ((readText_consumes _ _ _ hkey).1.trans
              (List.suffix_cons '"' quoted))), error_of_map hdeep⟩
      · cases hdeep
  · cases hdeep

/-- Without room for a level only a bracket can fail so, and with room only a
value behind one. -/
theorem scanOnce_deep {nested : Option (Reader Value)}
    (hnested : ∀ read ∈ nested, Consumes read) {text : List Char}
    (hdeep : scanOnce nested text = .error .recursionError) :
    ∃ c rest, text = c :: rest ∧ (c = '{' ∨ c = '[') ∧
      ∀ read ∈ nested, RunsDeep read rest := by
  rw [scanOnce.eq_def] at hdeep
  split at hdeep
  · cases readText_error (error_of_map hdeep)
  · rename_i rest
    refine ⟨'{', rest, rfl, .inl rfl, fun read hread => ?_⟩
    cases hread
    obtain ⟨start, hstart, hmember⟩ := readSequence_deep
      (readMember_consumes (hnested _ rfl)) (error_of_map hdeep)
    exact (readMember_deep hmember).suffix hstart
  · rename_i rest
    refine ⟨'[', rest, rfl, .inr rfl, fun read hread => ?_⟩
    cases hread
    exact readSequence_deep (hnested _ rfl) (error_of_map hdeep)
  · split at hdeep
    · cases hdeep
    · cases readNumber_error hdeep

theorem limit_lt_brackets {limit : ℕ} {text : List Char}
    (hdeep : readValue limit text = .error .recursionError) :
    limit < brackets text := by
  induction limit generalizing text with
  | zero =>
      obtain ⟨c, rest, rfl, hbracket, _⟩ := scanOnce_deep (by simp) hdeep
      rw [brackets, List.countP_cons_of_pos (by simpa using hbracket)]
      omega
  | succ limit ih =>
      have hconsumes : ∀ read ∈ some (readValue limit), Consumes read := by
        simpa using readValue_consumes limit
      obtain ⟨c, rest, rfl, hbracket, hinner⟩ := scanOnce_deep hconsumes hdeep
      obtain ⟨start, hstart, hread⟩ := hinner _ rfl
      have hlt := ih hread
      have hle : brackets start ≤ brackets rest := hstart.sublist.countP_le
      rw [brackets, List.countP_cons_of_pos (by simpa using hbracket)]
      rw [brackets] at hle hlt
      exact Nat.succ_lt_succ (hlt.trans_le hle)

/-- A text with no more brackets than there is room for is read or is not
JSON. -/
theorem loads_ne_recursionError {limit : ℕ} {text : List Char}
    (hroom : brackets text ≤ limit) :
    loads limit text ≠ .error .recursionError := by
  intro hdeep
  rw [loads] at hdeep
  split at hdeep
  · rename_i error hread
    cases hdeep
    have hlt := limit_lt_brackets hread
    have hle : brackets (skipSpace text) ≤ brackets text :=
      (skipSpace_suffix text).sublist.countP_le
    omega
  · split_ifs at hdeep
    cases hdeep

end OrderFlow.Json
