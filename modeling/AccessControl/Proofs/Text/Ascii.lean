import AccessControl.Text.Escape

namespace AccessControl.Text

def hexDigitValue (digit : Char) : Nat :=
  if digit.toNat < 'a'.toNat then digit.toNat - '0'.toNat
  else digit.toNat - 'a'.toNat + 10

def hexValue (digits : List Char) : Nat :=
  digits.foldl (fun value digit => value * 16 + hexDigitValue digit) 0

theorem hexDigitValue_hexDigit (digit : Nat) :
    hexDigitValue (hexDigit digit) = digit % 16 := by
  have table : ∀ low < 16, hexDigitValue (hexDigit low) = low := by decide
  have reduced : hexDigit digit = hexDigit (digit % 16) := by simp [hexDigit]
  rw [reduced]
  exact table _ (Nat.mod_lt _ (by omega))

theorem hexDigits_four (number : Nat) :
    hexDigits 4 number =
      [hexDigit (number / 16 / 16 / 16), hexDigit (number / 16 / 16),
        hexDigit (number / 16), hexDigit number] := rfl

theorem hexValue_hexDigits_four (number : Nat) (bound : number < 0x10000) :
    hexValue [hexDigit (number / 16 / 16 / 16), hexDigit (number / 16 / 16),
      hexDigit (number / 16), hexDigit number] = number := by
  simp only [hexValue, List.foldl_cons, List.foldl_nil, hexDigitValue_hexDigit]
  omega

def named? : Char → Option Char
  | '"' => some '"'
  | '\\' => some '\\'
  | 'n' => some '\n'
  | 'r' => some '\r'
  | 't' => some '\t'
  | 'b' => some '\x08'
  | 'f' => some '\x0c'
  | _ => none

/-- The first character of an escaped text, and the rest of the text. A quote
that is not escaped is the end of the text. -/
def readCharacter? : List Char → Option (Char × List Char)
  | '\\' :: 'u' :: a :: b :: c :: d :: rest =>
      let unit := hexValue [a, b, c, d]
      if 0xd800 ≤ unit ∧ unit < 0xdc00 then
        match rest with
        | '\\' :: 'u' :: e :: f :: g :: h :: rest =>
            some (Char.ofNat (0x10000 + (unit - 0xd800) * 0x400
              + (hexValue [e, f, g, h] - 0xdc00)), rest)
        | _ => none
      else some (Char.ofNat unit, rest)
  | '\\' :: mark :: rest => (named? mark).map (·, rest)
  | '"' :: _ => none
  | character :: rest => some (character, rest)
  | [] => none

theorem readCharacter?_plain {character : Char} (rest : List Char)
    (noQuote : character ≠ '"') (noEscape : character ≠ '\\') :
    readCharacter? (character :: rest) = some (character, rest) := by
  unfold readCharacter?
  split <;> simp_all

theorem toNat_not_surrogate (character : Char) :
    ¬ (0xd800 ≤ character.toNat ∧ character.toNat < 0xe000) := by
  have valid := character.valid
  simp only [UInt32.isValidChar, Nat.isValidChar] at valid
  simp only [Char.toNat]
  omega

theorem toNat_lt (character : Char) : character.toNat < 0x110000 := by
  have valid := character.valid
  simp only [UInt32.isValidChar, Nat.isValidChar] at valid
  simp only [Char.toNat]
  omega

theorem readCharacter?_unitEscapes (character : Char) (rest : List Char) :
    readCharacter? (unitEscapes character.toNat ++ rest) =
      some (character, rest) := by
  have noSurrogate := toNat_not_surrogate character
  have bound := toNat_lt character
  unfold unitEscapes
  split
  case isTrue short =>
    have unit := hexValue_hexDigits_four _ short
    have single : ¬ (0xd800 ≤ character.toNat ∧ character.toNat < 0xdc00) := by
      omega
    simp only [hexDigits_four, List.cons_append, List.nil_append,
      readCharacter?, unit, if_neg single, Char.ofNat_toNat]
  case isFalse long =>
    let offset := character.toNat - 0x10000
    have offsetBound : offset < 0x100000 := by omega
    have high := hexValue_hexDigits_four (0xd800 + offset / 0x400) (by omega)
    have low := hexValue_hexDigits_four (0xdc00 + offset % 0x400) (by omega)
    have paired : 0xd800 ≤ 0xd800 + offset / 0x400 ∧
        0xd800 + offset / 0x400 < 0xdc00 := by omega
    have code : 0x10000 + (0xd800 + offset / 0x400 - 0xd800) * 0x400
        + (0xdc00 + offset % 0x400 - 0xdc00) = character.toNat := by
      have joined := Nat.div_add_mod offset 0x400
      omega
    change readCharacter? (['\\', 'u'] ++ hexDigits 4 (0xd800 + offset / 0x400)
      ++ ['\\', 'u'] ++ hexDigits 4 (0xdc00 + offset % 0x400) ++ rest) = _
    simp only [hexDigits_four, List.cons_append, List.nil_append,
      readCharacter?, high, low, if_pos paired, code, Char.ofNat_toNat]

theorem readCharacter?_asciiCharacter (character : Char) (rest : List Char) :
    readCharacter? (asciiCharacter character ++ rest) = some (character, rest) := by
  unfold asciiCharacter
  split
  case h_8 noQuote noEscape _ _ _ _ _ =>
    split
    · exact readCharacter?_plain rest noQuote noEscape
    · exact readCharacter?_unitEscapes character rest
  all_goals rfl

/-- Where the escaped texts before two quotes agree, so do the texts. -/
theorem flatMap_asciiCharacter_inj {left right after behind : List Char}
    (agree : left.flatMap asciiCharacter ++ '"' :: after =
      right.flatMap asciiCharacter ++ '"' :: behind) :
    left = right ∧ after = behind := by
  induction left generalizing right with
  | nil =>
      cases right with
      | nil => simpa using agree
      | cons character rest =>
          have read := congrArg readCharacter? agree
          rw [List.flatMap_cons, List.append_assoc,
            readCharacter?_asciiCharacter] at read
          simp [readCharacter?] at read
  | cons character rest ih =>
      cases right with
      | nil =>
          have read := congrArg readCharacter? agree
          rw [List.flatMap_cons, List.append_assoc,
            readCharacter?_asciiCharacter] at read
          simp [readCharacter?] at read
      | cons other others =>
          have read := congrArg readCharacter? agree
          simp only [List.flatMap_cons, List.append_assoc,
            readCharacter?_asciiCharacter, Option.some.injEq, Prod.mk.injEq]
            at read
          obtain ⟨same, remaining⟩ := ih read.2
          exact ⟨by rw [read.1, same], remaining⟩

/-- A quoted text tells its text, whatever stands behind it. -/
theorem ascii_append_inj {left right : String} {after behind : List Char}
    (agree : ascii left ++ after = ascii right ++ behind) :
    left = right ∧ after = behind := by
  simp only [ascii, List.cons_append, List.append_assoc, List.cons.injEq,
    true_and, List.nil_append] at agree
  obtain ⟨same, remaining⟩ := flatMap_asciiCharacter_inj agree
  exact ⟨String.toList_inj.mp same, remaining⟩

end AccessControl.Text
