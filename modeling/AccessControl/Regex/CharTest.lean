import AccessControl.Text.Blank
import AccessControl.Text.Case
import AccessControl.Text.Decimal
import AccessControl.Text.Word

namespace AccessControl.Regex

/-- How far letters of different case count as one. -/
inductive Folding
  | exact
  | ascii
  | full
deriving DecidableEq, Repr

def Folding.lower : Folding → Nat → Nat
  | .exact, code => code
  | .ascii, code => Text.asciiLowerCode code
  | .full, code => Text.lowerCode code

def Folding.isCased : Folding → Nat → Bool
  | .exact, _ => false
  | .ascii, code => Text.isAsciiCased code
  | .full, code => Text.isCased code

def Folding.anyCased (first last : Nat) : Folding → Bool
  | .exact => false
  | .ascii => (first ≤ 0x5a && 0x41 ≤ last) || (first ≤ 0x7a && 0x61 ≤ last)
  | .full => Text.anyCased first last

def Folding.sources : Folding → Nat → List Nat
  | .exact, code => [code]
  | .ascii, code =>
      if 0x61 ≤ code ∧ code ≤ 0x7a then [code, code - 32]
      else if 0x41 ≤ code ∧ code ≤ 0x5a then []
      else [code]
  | .full, code => (Text.lowerVariants code).flatMap Text.lowerSources

def Folding.variants : Folding → Nat → List Nat
  | .exact, code => [code]
  | .ascii, code => [Text.asciiLowerCode code]
  | .full, code => Text.lowerVariants (Text.lowerCode code)

inductive ClassName
  | digit
  | space
  | word
deriving DecidableEq, Repr

/-- A named class, its complement if negated, of ASCII or of all characters. -/
structure CharClass where
  name : ClassName
  negated : Bool
  ascii : Bool
deriving DecidableEq, Repr

def isAsciiSpace (character : Char) : Bool :=
  character == ' ' || ('\t' ≤ character && character ≤ '\x0d')

def CharClass.holds (charClass : CharClass) (code : Nat) : Bool :=
  let character := Char.ofNat code
  let member := match charClass.name, charClass.ascii with
    | .digit, true => Text.isAsciiDigit character
    | .digit, false => Text.isDecimal character
    | .space, true => isAsciiSpace character
    | .space, false => Text.isBlank character
    | .word, true => Text.isAsciiWord character
    | .word, false => Text.isWord character
  member != charClass.negated

inductive Member
  | single (code : Nat)
  | range (first last : Nat)
  | named (charClass : CharClass)
deriving DecidableEq, Repr

/-- The last code of the plane on which case is folded in advance. -/
def basicPlane : Nat := 0xffff

def Member.folds (folding : Folding) : Member → Bool
  | .single code =>
      folding.isCased code || basicPlane < folding.lower code
  | .range first last =>
      basicPlane < last || folding.anyCased first last
  | .named _ => false

def Member.takes (code : Nat) : Member → Bool
  | .single own => own == code
  | .range first last => first ≤ code && code ≤ last
  | .named charClass => charClass.holds code

def Member.takesFolded (folding : Folding) (code : Nat) : Member → Bool
  | .single own =>
      if basicPlane < folding.lower own then own == code
      else (folding.variants own).contains code
  | .range first last =>
      ((folding.sources code).any fun source =>
        first ≤ source && source ≤ min last basicPlane) ||
      (basicPlane < last &&
        ((first ≤ code && code ≤ last)
          || (first ≤ Text.upperCode code && Text.upperCode code ≤ last)))
  | .named charClass => charClass.holds code

inductive CharTest
  | any
  | anyButBreak
  | literal (folding : Folding) (negated : Bool) (code : Nat)
  | oneOf (folding : Folding) (negated : Bool) (members : List Member)
deriving DecidableEq, Repr

def CharTest.holds (test : CharTest) (character : Char) : Bool :=
  let code := character.toNat
  match test with
  | .any => true
  | .anyButBreak => character != '\n'
  | .literal folding negated own =>
      let member :=
        if folding.isCased own then
          (folding.variants own).contains (folding.lower code)
        else own == code
      member != negated
  | .oneOf folding negated members =>
      let member :=
        if members.any (·.folds folding) then
          members.any (·.takesFolded folding (folding.lower code))
        else members.any (·.takes code)
      member != negated

end AccessControl.Regex
