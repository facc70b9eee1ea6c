import AccessControl.Text.Printable

namespace AccessControl.Text

def hexDigit (digit : Nat) : Char :=
  (Nat.toDigits 16 (digit % 16)).headD '0'

def hexDigits : Nat → Nat → List Char
  | 0, _ => []
  | width + 1, number =>
      hexDigits width (number / 16) ++ [hexDigit number]

/-- An escape by code point, with two, four or eight digits. -/
def escapeCode (code : Nat) : List Char :=
  if code < 0x100 then ['\\', 'x'] ++ hexDigits 2 code
  else if code < 0x10000 then ['\\', 'u'] ++ hexDigits 4 code
  else ['\\', 'U'] ++ hexDigits 8 code

private def quotedCharacter (quote character : Char) : List Char :=
  if character = quote ∨ character = '\\' then ['\\', character]
  else if character = '\n' then ['\\', 'n']
  else if character = '\r' then ['\\', 'r']
  else if character = '\t' then ['\\', 't']
  else if isPrintable character then [character]
  else escapeCode character.toNat

/-- The quote that needs no escape, the single one if either would do. -/
def quoteFor (text : List Char) : Char :=
  if text.contains '\'' && !text.contains '"' then '"' else '\''

def quoted (text : String) : String :=
  let characters := text.toList
  let quote := quoteFor characters
  String.ofList (quote :: characters.flatMap (quotedCharacter quote) ++ [quote])

private def quotedByte (quote : Char) (byte : Nat) : List Char :=
  let character := Char.ofNat byte
  if character = quote ∨ character = '\\' then ['\\', character]
  else if character = '\n' then ['\\', 'n']
  else if character = '\r' then ['\\', 'r']
  else if character = '\t' then ['\\', 't']
  else if 32 ≤ byte ∧ byte < 127 then [character]
  else ['\\', 'x'] ++ hexDigits 2 byte

/-- A quoted run of bytes; the mark in front tells it from a text. -/
def quotedBytes (bytes : List Nat) : String :=
  let quote := quoteFor (bytes.map Char.ofNat)
  String.ofList ('b' :: quote :: bytes.flatMap (quotedByte quote) ++ [quote])

/-- The escape of a code point by one unit of sixteen bits, or by two. -/
def unitEscapes (code : Nat) : List Char :=
  if code < 0x10000 then ['\\', 'u'] ++ hexDigits 4 code
  else
    let offset := code - 0x10000
    ['\\', 'u'] ++ hexDigits 4 (0xd800 + offset / 0x400)
      ++ ['\\', 'u'] ++ hexDigits 4 (0xdc00 + offset % 0x400)

def asciiCharacter (character : Char) : List Char :=
  match character with
  | '"' => ['\\', '"']
  | '\\' => ['\\', '\\']
  | '\n' => ['\\', 'n']
  | '\r' => ['\\', 'r']
  | '\t' => ['\\', 't']
  | '\x08' => ['\\', 'b']
  | '\x0c' => ['\\', 'f']
  | character =>
      if ' ' ≤ character ∧ character ≤ '~' then [character]
      else unitEscapes character.toNat

/-- A text between double quotes, in printable ASCII only. -/
def ascii (text : String) : List Char :=
  '"' :: text.toList.flatMap asciiCharacter ++ ['"']

end AccessControl.Text
