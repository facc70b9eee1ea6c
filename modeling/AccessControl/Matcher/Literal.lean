import AccessControl.Number.Decimal
import AccessControl.Text.Blank
import AccessControl.Text.Escape
import AccessControl.Text.Word

namespace AccessControl.Matcher

def digitValue? (base : Nat) (character : Char) : Option Nat :=
  let value :=
    if Text.isAsciiDigit character then character.toNat - '0'.toNat
    else if 'a' ≤ character ∧ character ≤ 'f' then character.toNat - 'a'.toNat + 10
    else if 'A' ≤ character ∧ character ≤ 'F' then character.toNat - 'A'.toNat + 10
    else base
  if value < base then some value else none

def isDigitOf (base : Nat) (character : Char) : Bool :=
  (digitValue? base character).isSome

def valueOf (base : Nat) (digits : List Char) : Nat :=
  digits.foldl
    (fun value digit => value * base + (digitValue? base digit).getD 0) 0

def hexEscape? (width : Nat) (text : List Char) : Option (Nat × List Char) :=
  let digits := text.take width
  if digits.length = width ∧ digits.all (isDigitOf 16) then
    some (valueOf 16 digits, text.drop width)
  else none

def octalDigits (text : List Char) : List Char :=
  (text.take 3).takeWhile (isDigitOf 8)

/-- A code point as a character. Half of a pair has none of its own, and another
stands for it. -/
def scalar (code : Nat) : Char :=
  if 0xd800 ≤ code ∧ code < 0xe000 then '\ufffd' else Char.ofNat code

def simpleEscape? : Char → Option Char
  | '\\' => some '\\'
  | '\'' => some '\''
  | '"' => some '"'
  | 'a' => some '\x07'
  | 'b' => some '\x08'
  | 'f' => some '\x0c'
  | 'n' => some '\n'
  | 'r' => some '\r'
  | 't' => some '\t'
  | 'v' => some '\x0b'
  | _ => none

def codeEscapeWidth? : Char → Option Nat
  | 'x' => some 2
  | 'u' => some 4
  | 'U' => some 8
  | _ => none

/-- The next code point of a text body with escapes, nothing for a hidden line
break; `none` for a broken escape. The names that characters have are not known. -/
def nextCode? : List Char → Option (List Nat × List Char)
  | [] => some ([], [])
  | '\\' :: '\n' :: rest => some ([], rest)
  | '\\' :: letter :: rest =>
      match simpleEscape? letter with
      | some character => some ([character.toNat], rest)
      | none =>
          if isDigitOf 8 letter then
            let digits := octalDigits (letter :: rest)
            some ([valueOf 8 digits], rest.drop (digits.length - 1))
          else if letter = 'N' then none
          else match codeEscapeWidth? letter with
            | none => some (['\\'.toNat, letter.toNat], rest)
            | some width =>
                match hexEscape? width rest with
                | some (code, rest) => if code < 0x110000 then some ([code], rest) else none
                | none => none
  | character :: rest => some ([character.toNat], rest)

def nextByte? : List Char → Option (List Nat × List Char)
  | [] => some ([], [])
  | '\\' :: '\n' :: rest => some ([], rest)
  | '\\' :: letter :: rest =>
      match simpleEscape? letter with
      | some character => some ([character.toNat], rest)
      | none =>
          if isDigitOf 8 letter then
            let digits := octalDigits (letter :: rest)
            some ([valueOf 8 digits % 256], rest.drop (digits.length - 1))
          else if letter = 'x' then
            (hexEscape? 2 rest).map fun (code, rest) => ([code], rest)
          else some (['\\'.toNat, letter.toNat], rest)
  | character :: rest => some ([character.toNat], rest)

/-- Repeats a step that takes at least one character, as often as there may be
characters. -/
def gather (next : List Char → Option (List α × List Char)) :
    Nat → List Char → Option (List α)
  | _, [] => some []
  | 0, _ :: _ => none
  | fuel + 1, text =>
      match next text with
      | none => none
      | some (found, rest) => (gather next fuel rest).map (found ++ ·)

def unescapeCodes (body : List Char) : Option (List Nat) :=
  gather nextCode? body.length body

def unescape (body : List Char) : Option (List Char) :=
  (unescapeCodes body).map (·.map scalar)

def unescapeBytes (body : List Char) : Option (List Nat) :=
  gather nextByte? body.length body

inductive Numeral
  | int (value : Nat)
  | float (value : Binary64)
  | imaginary (value : Binary64)
deriving DecidableEq, Repr

def continuesWord (character : Char) : Bool :=
  Text.isAsciiWord character || 128 ≤ character.toNat

/-- The words that may stand right behind a numeral. -/
def numeralFollowers : List (List Char) :=
  ["and", "else", "for", "if", "in", "is", "or", "not"].map String.toList

def mayFollowNumeral (rest : List Char) : Bool :=
  numeralFollowers.any (·.isPrefixOf rest) || !rest.head?.any continuesWord

/-- Digits of a base with single underscores between them; `none` if an
underscore has no digit behind it. -/
def digitsOf? (base : Nat) : List Char → Option (List Char × List Char)
  | [] => some ([], [])
  | '_' :: rest =>
      if rest.head?.any (isDigitOf base) then digitsOf? base rest else none
  | character :: rest =>
      if isDigitOf base character then
        (digitsOf? base rest).map fun (digits, rest) => (character :: digits, rest)
      else some ([], character :: rest)

def basedNumeral? (base : Nat) (text : List Char) :
    Option (Numeral × List Char) :=
  match digitsOf? base text with
  | some (digits, rest) =>
      if digits.isEmpty || rest.head?.any Text.isAsciiDigit
          || !mayFollowNumeral rest then none
      else some (.int (valueOf base digits), rest)
  | none => none

structure Exponent where
  value : Int
  given : Bool

def exponent? (text : List Char) : Option (Exponent × List Char) :=
  match text with
  | mark :: rest =>
      if mark = 'e' ∨ mark = 'E' then
        match rest with
        | '+' :: rest => signed 1 rest
        | '-' :: rest => signed (-1) rest
        | rest =>
            if rest.head?.any Text.isAsciiDigit then signed 1 rest
            else some (⟨0, false⟩, text)
      else some (⟨0, false⟩, text)
  | [] => some (⟨0, false⟩, text)
where
  signed (sign : Int) (rest : List Char) : Option (Exponent × List Char) :=
    if rest.head?.any Text.isAsciiDigit then
      (digitsOf? 10 rest).map fun (digits, rest) =>
        (⟨sign * decimalValue digits, true⟩, rest)
    else none

def fraction? (text : List Char) : Option (Option (List Char) × List Char) :=
  match text with
  | '.' :: rest =>
      if rest.head?.any Text.isAsciiDigit then
        (digitsOf? 10 rest).map fun (digits, rest) => (some digits, rest)
      else some (some [], rest)
  | rest => some (none, rest)

def decimalNumeral? (text : List Char) : Option (Numeral × List Char) := do
  let (whole, rest) ← if text.head?.any Text.isAsciiDigit then digitsOf? 10 text
    else some ([], text)
  let (fraction, rest) ← fraction? rest
  let (exponent, rest) ← exponent? rest
  let double := Binary64.ofParts false whole (fraction.getD []) exponent.value
  match rest with
  | 'j' :: rest | 'J' :: rest =>
      if mayFollowNumeral rest then some (.imaginary double, rest) else none
  | rest =>
      if !mayFollowNumeral rest then none
      else if fraction.isSome ∨ exponent.given then some (.float double, rest)
      else if decimalLimit < whole.length ∧ whole.any (· != '0') then none
      else if whole.head? = some '0' ∧ whole.any (· != '0') then none
      else some (.int (decimalValue whole), rest)

def numeral? (text : List Char) : Option (Numeral × List Char) :=
  match text with
  | '0' :: mark :: rest =>
      if mark = 'x' ∨ mark = 'X' then basedNumeral? 16 rest
      else if mark = 'o' ∨ mark = 'O' then basedNumeral? 8 rest
      else if mark = 'b' ∨ mark = 'B' then basedNumeral? 2 rest
      else decimalNumeral? text
  | _ => decimalNumeral? text

end AccessControl.Matcher
