import AccessControl.Json.Basic

namespace AccessControl.Json

/-! Reading of documents. A reading gives what stands in front and the rest of
the text, or nothing where the text is no document. -/

def isBlank (character : Char) : Bool :=
  character == ' ' || character == '\n' || character == '\t'
    || character == '\r'

def skipBlanks (text : List Char) : List Char :=
  text.dropWhile isBlank

def hexDigit? (character : Char) : Option Nat :=
  if '0' ≤ character && character ≤ '9' then
    some (character.toNat - '0'.toNat)
  else if 'a' ≤ character && character ≤ 'f' then
    some (character.toNat - 'a'.toNat + 10)
  else if 'A' ≤ character && character ≤ 'F' then
    some (character.toNat - 'A'.toNat + 10)
  else none

def hexUnit? (first second third fourth : Char) : Option Nat := do
  return (((← hexDigit? first) * 16 + (← hexDigit? second)) * 16
    + (← hexDigit? third)) * 16 + (← hexDigit? fourth)

/-- The code point of a unit of sixteen bits, together with the next one where
they form a pair. -/
def pairCode (high low : Nat) : Nat :=
  0x10000 + (high - 0xd800) * 0x400 + (low - 0xdc00)

def escaped? : Char → Option Char
  | 'n' => some '\n'
  | 't' => some '\t'
  | 'r' => some '\r'
  | 'b' => some '\x08'
  | 'f' => some '\x0c'
  | '"' => some '"'
  | '\\' => some '\\'
  | '/' => some '/'
  | _ => none

/-- Reads a text up to its closing quote; what was read so far is held in
reverse. -/
def readText (done : List Char) : List Char → Option (String × List Char)
  | '"' :: rest => some (String.ofList done.reverse, rest)
  | '\\' :: 'u' :: a :: b :: c :: d :: rest => do
      let unit ← hexUnit? a b c d
      if 0xd800 ≤ unit && unit < 0xdc00 then
        match rest with
        | '\\' :: 'u' :: e :: f :: g :: h :: rest =>
            let low ← hexUnit? e f g h
            readText (Char.ofNat (pairCode unit low) :: done) rest
        | _ => none
      else readText (Char.ofNat unit :: done) rest
  | '\\' :: mark :: rest => do readText ((← escaped? mark) :: done) rest
  | character :: rest => readText (character :: done) rest
  | [] => none

def isNumberPart (character : Char) : Bool :=
  ('0' ≤ character && character ≤ '9') || character == '-' || character == '+'
    || character == '.' || character == 'e' || character == 'E'

/-- The numbers that no digits spell. -/
def numberNames : List String :=
  ["NaN", "Infinity", "-Infinity"]

def readNumber (text : List Char) : Option (Json × List Char) :=
  match numberNames.find? fun name => name.toList.isPrefixOf text with
  | some name => some (.number name, text.drop name.length)
  | none =>
      match text.takeWhile isNumberPart with
      | [] => none
      | digits => some (.number (String.ofList digits), text.dropWhile isNumberPart)

mutual
/-- Every step inwards or onwards uses up one unit of the fuel. -/
def readValue : Nat → List Char → Option (Json × List Char)
  | 0, _ => none
  | fuel + 1, input =>
      match skipBlanks input with
      | '"' :: rest => (readText [] rest).map fun read => (.text read.1, read.2)
      | '[' :: rest =>
          match skipBlanks rest with
          | ']' :: rest => some (.array [], rest)
          | rest => readItems fuel [] rest
      | '\x7b' :: rest =>
          match skipBlanks rest with
          | '\x7d' :: rest => some (.object [], rest)
          | rest => readMembers fuel [] rest
      | 't' :: 'r' :: 'u' :: 'e' :: rest => some (.bool true, rest)
      | 'f' :: 'a' :: 'l' :: 's' :: 'e' :: rest => some (.bool false, rest)
      | 'n' :: 'u' :: 'l' :: 'l' :: rest => some (.null, rest)
      | rest => readNumber rest

def readItems : Nat → List Json → List Char → Option (Json × List Char)
  | 0, _, _ => none
  | fuel + 1, done, input =>
      match readValue fuel input with
      | none => none
      | some (item, rest) =>
          match skipBlanks rest with
          | ',' :: rest => readItems fuel (item :: done) rest
          | ']' :: rest => some (.array (item :: done).reverse, rest)
          | _ => none

/-- A key that is given again takes the later value. -/
def readMembers : Nat → Entries String Json → List Char →
    Option (Json × List Char)
  | 0, _, _ => none
  | fuel + 1, done, input =>
      match skipBlanks input with
      | '"' :: rest =>
          match readText [] rest with
          | none => none
          | some (key, rest) =>
              match skipBlanks rest with
              | ':' :: rest =>
                  match readValue fuel rest with
                  | none => none
                  | some (value, rest) =>
                      let members := Entries.put key value done
                      match skipBlanks rest with
                      | ',' :: rest => readMembers fuel members rest
                      | '\x7d' :: rest => some (.object members, rest)
                      | _ => none
              | _ => none
      | _ => none
end

def ofString? (text : String) : Option Json :=
  let characters := text.toList
  match readValue (2 * characters.length + 1) characters with
  | some (json, rest) => if (skipBlanks rest).isEmpty then some json else none
  | none => none

end AccessControl.Json
