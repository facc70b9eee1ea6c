import AccessControl.Text.Composite
import AccessControl.Text.Mark
import AccessControl.Text.Variant

namespace AccessControl.Text

/-! Normal forms of names: variants of characters are replaced, and composites
are used wherever there are any. Names are the same if their normal forms
are. -/

def hangulParts? (code : Nat) : Option (List Nat) :=
  if 0xac00 ≤ code && code ≤ 0xd7a3 then
    let index := code - 0xac00
    let tail := index % 28
    some ([0x1100 + index / 588, 0x1161 + index % 588 / 28]
      ++ if tail = 0 then [] else [0x11a7 + tail])
  else none

def hangul? (first second : Nat) : Option Nat :=
  if 0x1100 ≤ first && first ≤ 0x1112 && 0x1161 ≤ second && second ≤ 0x1175 then
    some (0xac00 + ((first - 0x1100) * 21 + (second - 0x1161)) * 28)
  else if 0xac00 ≤ first && first ≤ 0xd7a3 && (first - 0xac00) % 28 = 0
      && 0x11a8 ≤ second && second ≤ 0x11c2 then
    some (first + (second - 0x11a7))
  else none

/-- The parts of a character, taken apart so many times at most. -/
def decomposed : Nat → Nat → List Nat
  | 0, code => [code]
  | depth + 1, code =>
      match variant? code, hangulParts? code, parts? code with
      | some codes, _, _ => codes
      | none, some codes, _ => codes
      | none, none, some (base, mark) => decomposed depth base ++ [mark]
      | none, none, none => [code]

/-- No composite is made of more composites than this. -/
def decompositionDepth : Nat := 4

/-- Puts a mark before the marks of higher classes that end a run of codes,
which is held in reverse. -/
def settle (code : Nat) : List Nat → List Nat
  | [] => [code]
  | last :: before =>
      if markClass code ≠ 0 && markClass code < markClass last then
        last :: settle code before
      else code :: last :: before

def ordered (codes : List Nat) : List Nat :=
  (codes.foldl (fun done code => settle code done) []).reverse

/-- A character that may still take marks, the marks after it that it did not
take, in reverse, and the class of the last of them. -/
structure Composing where
  done : List Nat
  base : Nat
  marks : List Nat
  last : Nat

namespace Composing

def codes (composing : Composing) : List Nat :=
  composing.marks ++ composing.base :: composing.done

/-- A mark that follows one of its own or of a higher class is not taken. -/
def step (composing : Composing) (code : Nat) : Composing :=
  let rank := markClass code
  let blocked := !composing.marks.isEmpty && rank ≤ composing.last
  let joined? :=
    if blocked then none
    else (composite? composing.base code).orElse fun _ =>
      hangul? composing.base code
  match joined? with
  | some joined => { composing with base := joined }
  | none =>
      if rank = 0 then
        { done := composing.codes, base := code, marks := [], last := 0 }
      else { composing with marks := code :: composing.marks, last := rank }

end Composing

/-- Marks in front of the first character are left as they are. -/
def composed (codes : List Nat) : List Nat :=
  let marks := codes.takeWhile fun code => markClass code ≠ 0
  match codes.drop marks.length with
  | [] => marks
  | base :: rest =>
      let start : Composing :=
        { done := marks.reverse, base, marks := [], last := 0 }
      (rest.foldl Composing.step start).codes.reverse

def normalCodes (codes : List Nat) : List Nat :=
  composed (ordered (codes.flatMap (decomposed decompositionDepth)))

/-- The normal form of a name. A name of plain letters, digits and underscores
is its own normal form. -/
def normalName (name : String) : String :=
  let characters := name.toList
  if characters.all fun character => character.toNat < 0x80 then name
  else
    String.ofList ((normalCodes (characters.map Char.toNat)).map Char.ofNat)

end AccessControl.Text
