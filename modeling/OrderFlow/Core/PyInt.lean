import OrderFlow.Core.Json
import Mathlib.Data.List.DropRight

/-!
# `int()` of what `json.loads` returns

Every kind of value converts, truncates or raises in its own way, and a string
is read by a grammar of its own: other scripts' digits and spaces count, and
single underscores may separate digits.
-/

namespace OrderFlow.Python

open OrderFlow.Json

inductive Exception where
  | valueError
  | keyError
  | typeError
  | overflowError
  | recursionError
  deriving DecidableEq

/-! ## Strings -/

/-- The white space outside ASCII. -/
def unicodeSpaces : List ℕ :=
  [0x85, 0xA0, 0x1680, 0x2000, 0x2001, 0x2002, 0x2003, 0x2004, 0x2005, 0x2006,
    0x2007, 0x2008, 0x2009, 0x200A, 0x2028, 0x2029, 0x202F, 0x205F, 0x3000]

/-- The zeros of the decimal digits outside ASCII (Unicode 15.0). -/
def decimalZeros : List ℕ :=
  [0x660, 0x6F0, 0x7C0, 0x966, 0x9E6, 0xA66, 0xAE6, 0xB66, 0xBE6, 0xC66, 0xCE6,
    0xD66, 0xDE6, 0xE50, 0xED0, 0xF20, 0x1040, 0x1090, 0x17E0, 0x1810, 0x1946,
    0x19D0, 0x1A80, 0x1A90, 0x1B50, 0x1BB0, 0x1C40, 0x1C50, 0xA620, 0xA8D0,
    0xA900, 0xA9D0, 0xA9F0, 0xAA50, 0xABF0, 0xFF10, 0x104A0, 0x10D30, 0x11066,
    0x110F0, 0x11136, 0x111D0, 0x112F0, 0x11450, 0x114D0, 0x11650, 0x116C0,
    0x11730, 0x118E0, 0x11950, 0x11C50, 0x11D50, 0x11DA0, 0x11F50, 0x16A60,
    0x16AC0, 0x16B50, 0x1D7CE, 0x1D7D8, 0x1D7E2, 0x1D7EC, 0x1D7F6, 0x1E140,
    0x1E2F0, 0x1E4F0, 0x1E950, 0x1FBF0]

/-- `_PyUnicode_TransformDecimalAndSpaceToASCII` at one code point. -/
def ascii? (code : ℕ) : Option Char :=
  if code < 0x7F then some (Char.ofNat code)
  else if code ∈ unicodeSpaces then some ' '
  else (decimalZeros.find? fun first => first ≤ code && code ≤ first + 9).map
    fun first => (code - first).digitChar

def isAsciiSpace (c : Char) : Bool := c = ' ' || ('\t' ≤ c && c ≤ '\r')

def strip (text : List Char) : List Char :=
  (text.dropWhile isAsciiSpace).rdropWhile isAsciiSpace

/-- Groups of digits with one underscore between two of them. -/
def groups? (text : List Char) : Option (List Char) :=
  let groups := text.splitOn '_'
  if groups.all fun group => group ≠ [] && group.all Char.isDigit then
    some groups.flatten
  else none

/-- `PyLong_FromUnicodeObject`, in base 10. -/
def intOfText? (text : Text) : Option ℤ := do
  let chars ← text.mapM ascii?
  let sign := readSign (strip chars)
  let written ← groups? sign.2
  if written.length ≤ maxStrDigits then
    some (signed sign.1 (ofDigits written))
  else none

/-! ## Values -/

def truncate (value : ℚ) : ℤ := if value < 0 then ⌈value⌉ else ⌊value⌋

/-- `int(value)`. -/
def intOf : Value → Except Exception ℤ
  | .bool value => .ok (if value then 1 else 0)
  | .int value => .ok value
  | .float (.finite value) => .ok (truncate value)
  | .float (.infinite _) => .error .overflowError
  | .float .nan => .error .valueError
  | .string text =>
      match intOfText? text with
      | some value => .ok value
      | none => .error .valueError
  | .null => .error .typeError
  | .array _ => .error .typeError
  | .object _ => .error .typeError

/-- A conversion raises a `ValueError`, a `TypeError`, or an `OverflowError`
for an infinite float. -/
theorem intOf_error {value : Value} {exception : Exception}
    (herror : intOf value = .error exception) :
    exception = .valueError ∨ exception = .typeError ∨
      exception = .overflowError ∧
        ∃ negative, value = .float (.infinite negative) := by
  rw [intOf.eq_def] at herror
  split at herror
  case h_6 =>
    split at herror
    · cases herror
    · cases herror
      exact .inl rfl
  all_goals cases herror
  · rename_i negative
    exact .inr (.inr ⟨rfl, negative, rfl⟩)
  · exact .inl rfl
  · exact .inr (.inl rfl)
  · exact .inr (.inl rfl)
  · exact .inr (.inl rfl)

example : intOfText? (.ofString " -1_0\n") = some (-10) := by decide +kernel

end OrderFlow.Python
