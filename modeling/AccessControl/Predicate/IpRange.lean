import AccessControl.Text.Decimal
import AccessControl.Text.Split

namespace AccessControl

inductive IpFamily
  | four
  | six
deriving DecidableEq, Repr

def IpFamily.bits : IpFamily → Nat
  | .four => 32
  | .six => 128

structure IpAddress where
  family : IpFamily
  number : Nat
deriving DecidableEq, Repr

structure IpRange where
  base : IpAddress
  length : Nat
deriving DecidableEq, Repr

def IpAddress.leading (address : IpAddress) (length : Nat) : Nat :=
  address.number / Nat.pow 2 (address.family.bits - length)

def IpRange.has (range : IpRange) (address : IpAddress) : Bool :=
  address.family == range.base.family
    && address.leading range.length == range.base.leading range.length

namespace IpAddress

def decimal (digits : List Char) : Nat :=
  digits.foldl (fun value digit => value * 10 + (digit.toNat - '0'.toNat)) 0

def isDecimalText (text : List Char) : Bool :=
  !text.isEmpty && text.all Text.isAsciiDigit

def octet? (text : List Char) : Option Nat :=
  if isDecimalText text && text.length ≤ 3
      && (text == ['0'] || text.head? != some '0') && decimal text ≤ 255 then
    some (decimal text)
  else none

def four? (text : List Char) : Option Nat :=
  let parts := Text.splitAt '.' text
  if parts.length = 4 then
    (parts.mapM octet?).map (·.foldl (fun value octet => value * 256 + octet) 0)
  else none

def hexDigit? (character : Char) : Option Nat :=
  if Text.isAsciiDigit character then some (character.toNat - '0'.toNat)
  else if 'a' ≤ character ∧ character ≤ 'f' then
    some (character.toNat - 'a'.toNat + 10)
  else if 'A' ≤ character ∧ character ≤ 'F' then
    some (character.toNat - 'A'.toNat + 10)
  else none

def group? (text : List Char) : Option Nat :=
  if text.isEmpty ∨ 4 < text.length then none
  else
    (text.mapM hexDigit?).map
      (·.foldl (fun value digit => value * 16 + digit) 0)

def part? (text : List Char) : Option (Option Nat) :=
  if text.isEmpty then some none else (group? text).map some

/-- The groups of an address; its last part may be written as four decimal
numbers, which make two groups. -/
def groups? : List (List Char) → Option (List (Option Nat))
  | [] => some []
  | [last] =>
      if last.contains '.' then
        (four? last).map fun number =>
          [some (number / 0x10000), some (number % 0x10000)]
      else (part? last).map fun group => [group]
  | part :: parts =>
      match part? part, groups? parts with
      | some group, some groups => some (group :: groups)
      | _, _ => none

def ofGroups (groups : List Nat) : Nat :=
  groups.foldl (fun value group => value * 0x10000 + group) 0

def side? (groups : List (Option Nat)) : Option (List Nat) :=
  if groups = [none] then some [] else groups.mapM id

def six? (text : List Char) : Option Nat := do
  let groups ← groups? (Text.splitAt ':' text)
  let inner := (groups.drop 1).dropLast
  match inner.count none with
  | 0 =>
      let numbers ← groups.mapM id
      if numbers.length = 8 then some (ofGroups numbers) else none
  | 1 =>
      let place := inner.idxOf none + 1
      let high ← side? (groups.take place)
      let low ← side? (groups.drop (place + 1))
      if high.length + low.length < 8 then
        let missing := 8 - (high.length + low.length)
        some (ofGroups (high ++ List.replicate missing 0 ++ low))
      else none
  | _ => none

/-- An address without its zone, which stands behind a percent sign. -/
def withoutZone? (text : List Char) : Option (List Char) :=
  match Text.splitAt '%' text with
  | [address] => some address
  | [address, zone] => if zone.isEmpty then none else some address
  | _ => none

def ofText? (text : List Char) : Option IpAddress :=
  match four? text with
  | some number => some ⟨.four, number⟩
  | none =>
      if text.contains '/' then none
      else (withoutZone? text).bind six? |>.map fun number => ⟨.six, number⟩

end IpAddress

namespace IpRange

open IpAddress in
def lengthOfNumber? (family : IpFamily) (text : List Char) : Option Nat :=
  if isDecimalText text ∧ decimal text ≤ family.bits then some (decimal text)
  else none

def lengthOfMask? (family : IpFamily) (mask : Nat) : Option Nat :=
  (List.range (family.bits + 1)).find? fun length =>
    mask = Nat.pow 2 family.bits - Nat.pow 2 (family.bits - length)

/-- The length that a mask gives, which may mark the bits that count or those
that do not. -/
def lengthOfMaskText? (text : List Char) : Option Nat := do
  let mask ← IpAddress.four? text
  (lengthOfMask? .four mask).orElse fun _ =>
    lengthOfMask? .four (Nat.pow 2 IpFamily.four.bits - 1 - mask)

def length? (family : IpFamily) (text : List Char) : Option Nat :=
  (lengthOfNumber? family text).orElse fun _ =>
    match family with
    | .four => lengthOfMaskText? text
    | .six => none

def ofText? (text : List Char) : Option IpRange :=
  match Text.splitAt '/' text with
  | [whole] =>
      (IpAddress.ofText? whole).map fun base => ⟨base, base.family.bits⟩
  | [address, mask] => do
      let base ← IpAddress.ofText? address
      let length ← length? base.family mask
      return ⟨base, length⟩
  | _ => none

end IpRange

end AccessControl
