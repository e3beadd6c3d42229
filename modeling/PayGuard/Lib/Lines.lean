import Mathlib.Data.List.Basic

/-
  Texts on lines of their own.

  A separator that does not occur in the first of two parts
  marks where it ends, whatever the second part contains.
  The bytes of an ASCII text are its characters, so a text
  of one line has no newline byte.

  Key definitions include:
    * `Lines.OneLine`

  Key theorems include:
    * `Lines.append_cons_inj`
    * `Lines.newline_notMem_bytes`
-/

------------------------------------------------------------
-- Separators
------------------------------------------------------------

namespace Lines

variable {A : Type}
variable {separator : A}
variable {first first' rest rest' : List A}

/- The first separator is where the first part ends. -/
theorem append_cons_inj
    (hFirst : separator ∉ first)
    (hFirst' : separator ∉ first') :
    first ++ separator :: rest = first' ++ separator :: rest' ↔
      first = first' ∧ rest = rest' := by
  constructor
  · induction first generalizing first' with
    | nil =>
        intro hSame
        cases first' with
        | nil => simpa using hSame
        | cons head first' =>
            rw [List.nil_append, List.cons_append,
              List.cons.injEq] at hSame
            exact absurd (hSame.1 ▸ List.mem_cons_self)
              hFirst'
    | cons head first ih =>
        intro hSame
        cases first' with
        | nil =>
            rw [List.nil_append, List.cons_append,
              List.cons.injEq] at hSame
            exact absurd (hSame.1 ▸ List.mem_cons_self)
              hFirst
        | cons head' first' =>
            rw [List.cons_append, List.cons_append,
              List.cons.injEq] at hSame
            rw [List.mem_cons, not_or] at hFirst hFirst'
            rcases ih hFirst.2 hFirst'.2 hSame.2 with
              ⟨hRest, hTail⟩
            exact ⟨by rw [hSame.1, hRest], hTail⟩
  · rintro ⟨rfl, rfl⟩
    rfl

end Lines

------------------------------------------------------------
-- Bytes
------------------------------------------------------------

namespace Lines

/- The text is ASCII and has no line break. -/
def OneLine (text : String) : Prop :=
  ∀ char ∈ text.toList, char.toNat < 128 ∧ char ≠ '\n'

instance
    (text : String) :
    Decidable (OneLine text) :=
  List.decidableBAll
    (fun char : Char =>
      char.toNat < 128 ∧ char ≠ '\n')
    text.toList

variable {text other : String}

theorem OneLine.append
    (hText : OneLine text)
    (hOther : OneLine other) :
    OneLine (text ++ other) := by
  intro char hChar
  rw [String.toList_append, List.mem_append] at hChar
  rcases hChar with hChar | hChar
  · exact hText char hChar
  · exact hOther char hChar

/- A number is written on one line. -/
theorem oneLine_toString
    (number : Nat) :
    OneLine (toString number) := by
  intro char hChar
  have hDigits :
      (toString number).toList = Nat.toDigits 10 number := by
    simp [toString, Nat.repr]
  rw [hDigits] at hChar
  have hDigit :=
    Nat.isDigit_of_mem_toDigits (by decide) (by decide) hChar
  have hBounds :
      '0'.val ≤ char.val ∧ char.val ≤ '9'.val := by
    unfold Char.isDigit at hDigit
    simpa using hDigit
  constructor
  · have hLe : char.toNat ≤ '9'.toNat := hBounds.2
    exact Nat.lt_of_le_of_lt hLe (by decide)
  · rintro rfl
    exact absurd hBounds.1 (by decide)

theorem bytes_eq_flatMap :
    text.toUTF8.data.toList =
      text.toList.flatMap String.utf8EncodeChar := by
  rw [String.toUTF8_eq_toByteArray,
    ← String.ofList_toList (s := text),
    String.toByteArray_ofList, String.toList_ofList]
  exact List.toList_data_toByteArray

/- Only an ASCII character is encoded with a byte below 128. -/
theorem toNat_of_mem_utf8EncodeChar
    {char : Char}
    {byte : UInt8}
    (hByte : byte ∈ String.utf8EncodeChar char)
    (hAscii : byte.toNat < 128) :
    char.toNat = byte.toNat := by
  have hCode : char.toNat = char.val.toNat := rfl
  unfold String.utf8EncodeChar at hByte
  simp only at hByte
  split at hByte
  · rw [List.mem_singleton] at hByte
    subst hByte
    rw [UInt8.toNat_ofNat']
    omega
  · exfalso
    split at hByte
    · simp only [List.mem_cons, List.not_mem_nil,
        or_false] at hByte
      rcases hByte with rfl | rfl <;>
        rw [UInt8.toNat_ofNat'] at hAscii <;>
        omega
    · split at hByte
      · simp only [List.mem_cons, List.not_mem_nil,
          or_false] at hByte
        rcases hByte with rfl | rfl | rfl <;>
          rw [UInt8.toNat_ofNat'] at hAscii <;>
          omega
      · simp only [List.mem_cons, List.not_mem_nil,
          or_false] at hByte
        rcases hByte with rfl | rfl | rfl | rfl <;>
          rw [UInt8.toNat_ofNat'] at hAscii <;>
          omega

/- A text without an ASCII character has not its byte. -/
theorem ascii_notMem_bytes
    (separator : Char)
    (hAscii : separator.toNat < 128)
    (hText : separator ∉ text.toList) :
    UInt8.ofNat separator.toNat ∉
      text.toUTF8.data.toList := by
  rw [bytes_eq_flatMap, List.mem_flatMap]
  rintro ⟨char, hChar, hByte⟩
  have hNat :
      (UInt8.ofNat separator.toNat).toNat =
        separator.toNat := by
    rw [UInt8.toNat_ofNat']
    omega
  have hSame : char.toNat = separator.toNat := by
    rw [toNat_of_mem_utf8EncodeChar hByte (by omega), hNat]
  exact hText (Char.toNat_inj.mp hSame ▸ hChar)

theorem newline_notMem_bytes
    (hText : OneLine text) :
    (10 : UInt8) ∉ text.toUTF8.data.toList :=
  ascii_notMem_bytes '\n' (by decide)
    (fun hMem => (hText '\n' hMem).2 rfl)

/- Texts with equal bytes are equal. -/
theorem bytes_inj :
    text.toUTF8.data.toList = other.toUTF8.data.toList ↔
      text = other := by
  rw [← String.toByteArray_inj]
  constructor
  · intro hSame
    exact ByteArray.ext (Array.toList_inj.mp hSame)
  · intro hSame
    rw [String.toUTF8_eq_toByteArray, hSame,
      String.toUTF8_eq_toByteArray]

end Lines
