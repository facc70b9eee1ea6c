import AccessControl.Matcher.Evaluation
import AccessControl.Predicate.Glob
import AccessControl.Predicate.IpRange
import AccessControl.Predicate.KeyPath

namespace AccessControl

inductive Predicate
  | keyMatch
  | keyMatch2
  | keyMatch3
  | regexMatch
  | ipMatch
  | globMatch
deriving DecidableEq, Repr

namespace Predicate

def all : List Predicate :=
  [.keyMatch, .keyMatch2, .keyMatch3, .regexMatch, .ipMatch, .globMatch]

def name : Predicate → String
  | .keyMatch => "keyMatch"
  | .keyMatch2 => "keyMatch2"
  | .keyMatch3 => "keyMatch3"
  | .regexMatch => "regexMatch"
  | .ipMatch => "ipMatch"
  | .globMatch => "globMatch"

def ofName? (name : String) : Option Predicate :=
  all.find? fun predicate => predicate.name == name

private def inRange (address range : String) : Answer Bool :=
  match IpAddress.ofText? address.toList, IpRange.ofText? range.toList with
  | none, _ => .error (.eval (.malformedAddress address))
  | some _, none => .error (.eval (.malformedRange range))
  | some address, some range => .ok (range.has address)

def holds (predicate : Predicate) (text pattern : String) : Answer Bool :=
  match predicate with
  | .keyMatch => .ok (KeyPath.matchesStem text.toList pattern.toList)
  | .keyMatch2 => KeyPath.fits .colon text pattern
  | .keyMatch3 => KeyPath.fits .braces text pattern
  | .regexMatch => do
      let regex ← regexOf pattern
      return regex.foundIn text.toList
  | .ipMatch => inRange text pattern
  | .globMatch => .ok (AccessControl.globMatch text pattern)

def function (predicate : Predicate) : Matcher.Function
  | [.text text, .text pattern] => return .bool (← predicate.holds text pattern)
  | [.text _, other] =>
      .error (.eval (.notTextArgument predicate.name other.typeName))
  | [other, _] =>
      .error (.eval (.notTextArgument predicate.name other.typeName))
  | _ => .error (.trap .argumentCount)

def function? (name : String) : Option Matcher.Function :=
  (ofName? name).map function

end Predicate

end AccessControl
