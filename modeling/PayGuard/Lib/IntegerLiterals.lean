import Mathlib.Data.List.Basic
import Mathlib.Data.List.TakeWhile

/-
  Integers as Python's `int` reads them from a string.

  White space around the literal is dropped, a sign may come
  first, and digits of any script may be grouped by single
  underscores.  A literal of too many digits is refused like
  a malformed one.

  Key definitions include:
    * `IntegerLiteral.digitValue`
    * `IntegerLiteral.isSpace`
    * `IntegerLiteral.parse`

  Key theorems include:
    * `IntegerLiteral.notMem_of_parse`
-/

------------------------------------------------------------
-- Characters
------------------------------------------------------------

namespace IntegerLiteral

/- The zero of every script with decimal digits. -/
def zeros : List Nat :=
  [0x30, 0x660, 0x6f0, 0x7c0, 0x966, 0x9e6, 0xa66, 0xae6,
    0xb66, 0xbe6, 0xc66, 0xce6, 0xd66, 0xde6, 0xe50, 0xed0,
    0xf20, 0x1040, 0x1090, 0x17e0, 0x1810, 0x1946, 0x19d0,
    0x1a80, 0x1a90, 0x1b50, 0x1bb0, 0x1c40, 0x1c50, 0xa620,
    0xa8d0, 0xa900, 0xa9d0, 0xa9f0, 0xaa50, 0xabf0, 0xff10,
    0x104a0, 0x10d30, 0x11066, 0x110f0, 0x11136, 0x111d0,
    0x112f0, 0x11450, 0x114d0, 0x11650, 0x116c0, 0x11730,
    0x118e0, 0x11950, 0x11c50, 0x11d50, 0x11da0, 0x11f50,
    0x16a60, 0x16ac0, 0x16b50, 0x1d7ce, 0x1d7d8, 0x1d7e2,
    0x1d7ec, 0x1d7f6, 0x1e140, 0x1e2f0, 0x1e4f0, 0x1e950,
    0x1fbf0]

def digitValue (char : Char) : Option Nat :=
  (zeros.find? (fun start =>
    start ≤ char.toNat && char.toNat < start + 10)).map
      (fun start => char.toNat - start)

/- The separators 28 to 31 do not count as space here. -/
def isSpace (char : Char) : Bool :=
  (9 ≤ char.toNat && char.toNat ≤ 13) ||
    char.toNat = 0x20 ||
    char.toNat = 0x85 ||
    char.toNat = 0xa0 ||
    char.toNat = 0x1680 ||
    (0x2000 ≤ char.toNat && char.toNat ≤ 0x200a) ||
    char.toNat = 0x2028 ||
    char.toNat = 0x2029 ||
    char.toNat = 0x202f ||
    char.toNat = 0x205f ||
    char.toNat = 0x3000

def strip (chars : List Char) : List Char :=
  ((chars.dropWhile isSpace).reverse.dropWhile
    isSpace).reverse

------------------------------------------------------------
-- Literals
------------------------------------------------------------

/- Digits after the first, an underscore between any two. -/
def moreDigits : List Char → Option (List Nat)
| [] => some []
| '_' :: char :: chars => do
    let value ← digitValue char
    let values ← moreDigits chars
    some (value :: values)
| char :: chars => do
    let value ← digitValue char
    let values ← moreDigits chars
    some (value :: values)

def digits : List Char → Option (List Nat)
| [] => none
| char :: chars => do
    let value ← digitValue char
    let values ← moreDigits chars
    some (value :: values)

/- `sys.int_info.default_max_str_digits`. -/
def maxDigits : Nat := 4300

def magnitude (chars : List Char) : Option Nat := do
  let values ← digits chars
  if values.length ≤ maxDigits then
    some (values.foldl
      (fun number value => number * 10 + value) 0)
  else
    none

/- `int(text)`; nothing stands for a `ValueError`. -/
def parse (text : String) : Option Int :=
  match strip text.toList with
  | '+' :: chars => (magnitude chars).map (fun n => (n : Int))
  | '-' :: chars =>
      (magnitude chars).map (fun n => -(n : Int))
  | chars => (magnitude chars).map (fun n => (n : Int))

example : parse " +1_000 " = some 1000 := by decide

example : parse "1__000" = none := by decide

------------------------------------------------------------
-- Characters Of A Literal
------------------------------------------------------------

/- A character that no literal contains. -/
structure Foreign (char : Char) : Prop where
  space : isSpace char = false
  digit : digitValue char = none
  plus : char ≠ '+'
  minus : char ≠ '-'
  underscore : char ≠ '_'

variable {char : Char}
variable {chars : List Char}

/- A digit group goes on with a digit and digits. -/
theorem ne_of_digits
    {next : Char}
    (hForeign : Foreign char)
    (hDigits : (digits (next :: chars)).isSome) :
    char ≠ next ∧ (moreDigits chars).isSome := by
  cases hValue : digitValue next with
  | none => simp [digits, hValue] at hDigits
  | some value =>
      constructor
      · rintro rfl
        rw [hForeign.digit] at hValue
        cases hValue
      · cases hRest : moreDigits chars with
        | none => simp [digits, hValue, hRest] at hDigits
        | some values => rfl

theorem notMem_of_moreDigits
    (hForeign : Foreign char)
    (hDigits : (moreDigits chars).isSome) :
    char ∉ chars := by
  induction chars using moreDigits.induct with
  | case1 => exact List.not_mem_nil
  | case2 next rest ih =>
      rcases ne_of_digits hForeign hDigits with
        ⟨hNext, hRest⟩
      simp only [List.mem_cons, not_or]
      exact ⟨hForeign.underscore, hNext, ih hRest⟩
  | case3 next rest hOther ih =>
      rw [moreDigits.eq_3 _ _ hOther] at hDigits
      rcases ne_of_digits hForeign hDigits with
        ⟨hNext, hRest⟩
      simp only [List.mem_cons, not_or]
      exact ⟨hNext, ih hRest⟩

theorem notMem_of_magnitude
    (hForeign : Foreign char)
    (hMagnitude : (magnitude chars).isSome) :
    char ∉ chars := by
  cases chars with
  | nil => exact List.not_mem_nil
  | cons next rest =>
      have hDigits : (digits (next :: rest)).isSome := by
        cases hDigits : digits (next :: rest) with
        | none => simp [magnitude, hDigits] at hMagnitude
        | some values => rfl
      rcases ne_of_digits hForeign hDigits with
        ⟨hNext, hRest⟩
      simp only [List.mem_cons, not_or]
      exact ⟨hNext, notMem_of_moreDigits hForeign hRest⟩

/- Only white space is stripped. -/
theorem mem_dropWhile_isSpace
    (hSpace : isSpace char = false)
    (hMem : char ∈ chars) :
    char ∈ chars.dropWhile isSpace := by
  rw [← List.takeWhile_append_dropWhile (p := isSpace)
    (l := chars), List.mem_append] at hMem
  rcases hMem with hTaken | hKept
  · have hSpaces := List.mem_takeWhile_imp hTaken
    rw [hSpace] at hSpaces
    cases hSpaces
  · exact hKept

theorem mem_strip
    (hSpace : isSpace char = false)
    (hMem : char ∈ chars) :
    char ∈ strip chars := by
  unfold strip
  rw [List.mem_reverse]
  apply mem_dropWhile_isSpace hSpace
  rw [List.mem_reverse]
  exact mem_dropWhile_isSpace hSpace hMem

/- What `int` accepts has no foreign character. -/
theorem notMem_of_parse
    {text : String}
    (hForeign : Foreign char)
    (hParse : (parse text).isSome) :
    char ∉ text.toList := by
  intro hMem
  have hStripped := mem_strip hForeign.space hMem
  unfold parse at hParse
  split at hParse
  · next chars hSign =>
      rw [hSign, List.mem_cons] at hStripped
      rcases hStripped with hPlus | hRest
      · exact hForeign.plus hPlus
      · refine notMem_of_magnitude hForeign ?_ hRest
        cases hNumber : magnitude chars with
        | none => simp [hNumber] at hParse
        | some number => rfl
  · next chars hSign =>
      rw [hSign, List.mem_cons] at hStripped
      rcases hStripped with hMinus | hRest
      · exact hForeign.minus hMinus
      · refine notMem_of_magnitude hForeign ?_ hRest
        cases hNumber : magnitude chars with
        | none => simp [hNumber] at hParse
        | some number => rfl
  · refine notMem_of_magnitude hForeign ?_ hStripped
    cases hNumber : magnitude (strip text.toList) with
    | none => simp [hNumber] at hParse
    | some number => rfl

end IntegerLiteral
