import AccessControl.Fault
import AccessControl.Text.Blank
import AccessControl.Text.Decimal
import AccessControl.Text.Word

namespace AccessControl

inductive Outcome
  | allow
  | deny
  | indeterminate
deriving DecidableEq, Repr

inductive EffectRule
  | allowOverride
  | denyOverride
  | allowAndDeny
  | priority
deriving DecidableEq, Repr

namespace EffectRule

def all : List EffectRule :=
  [.allowOverride, .denyOverride, .allowAndDeny, .priority]

def text : EffectRule → String
  | .allowOverride => "some(where (p.eft == allow))"
  | .denyOverride => "!some(where (p.eft == deny))"
  | .allowAndDeny =>
      "some(where (p.eft == allow)) && !some(where (p.eft == deny))"
  | .priority => "priority(p.eft) || deny"

/-! Reading. White space is ignored, and so is the number of a policy token
that stands as a word of its own. -/

def effectField : List Char := ['.', 'e', 'f', 't']

/-- The rest after a numbered policy field at the start of the text; `joined`
tells whether the character before the text is part of a word. -/
def afterNumberedField? (joined : Bool) (text : List Char) :
    Option (List Char) :=
  match joined, text with
  | false, 'p' :: rest =>
      let digits := rest.takeWhile Text.isDecimal
      let after := rest.drop digits.length
      let next := after.drop effectField.length
      if digits.isEmpty || !effectField.isPrefixOf after
          || next.head?.any Text.isWord then none
      else some next
  | _, _ => none

theorem afterNumberedField?_length {joined : Bool} {text rest : List Char}
    (found : afterNumberedField? joined text = some rest) :
    rest.length < text.length := by
  unfold afterNumberedField? at found
  split at found
  · simp only [Option.ite_none_left_eq_some, Option.some.injEq] at found
    rw [← found.2]
    simp only [List.length_drop, List.length_cons]
    omega
  · simp at found

def unnumbered (joined : Bool) (text : List Char) : List Char :=
  match text with
  | [] => []
  | first :: rest =>
      match _found : afterNumberedField? joined (first :: rest) with
      | some after => 'p' :: effectField ++ unnumbered true after
      | none => first :: unnumbered (Text.isWord first) rest
termination_by text.length
decreasing_by
  · exact afterNumberedField?_length _found
  · simp

def canonical (text : String) : List Char :=
  (unnumbered false text.toList).filter fun character => !Text.isBlank character

def ofText? (text : String) : Option EffectRule :=
  all.find? fun rule => canonical rule.text == canonical text

/-- The rule of an effect expression; a missing expression stands for none. -/
def resolve (expression : Option String) : Except ModelFault EffectRule :=
  match ofText? (expression.getD "") with
  | some rule => .ok rule
  | none =>
      .error (.unsupportedEffect
        (match expression with
          | some text => .text text
          | none => .null))

end EffectRule

structure EffectStream where
  rule : EffectRule
  capacity : Int
  done : Bool
  result : Bool
  index : Nat
  explain : List Nat
deriving DecidableEq, Repr

namespace EffectStream

def start (rule : EffectRule) (capacity : Int) : EffectStream :=
  { rule
    capacity
    done := capacity == 0
    result := rule == .denyOverride
    index := 0
    explain := [] }

def decide (stream : EffectStream) (result done : Bool) : EffectStream :=
  { stream with result, done, explain := [stream.index] }

def weigh (stream : EffectStream) : Outcome → EffectStream
  | .allow => match stream.rule with
      | .allowOverride => stream.decide true true
      | .denyOverride => stream
      | .allowAndDeny =>
          if stream.result then stream else stream.decide true false
      | .priority => stream.decide true true
  | .deny => match stream.rule with
      | .allowOverride => stream
      | .denyOverride => stream.decide false true
      | .allowAndDeny => stream.decide false true
      | .priority => stream.decide false true
  | .indeterminate => stream

/-- Takes the next outcome; a finished stream takes none. -/
def push (stream : EffectStream) (outcome : Outcome) : EffectStream :=
  if stream.done then stream
  else
    let weighed := stream.weigh outcome
    { weighed with
      index := stream.index + 1
      done := weighed.done || stream.capacity ≤ (stream.index + 1 : Nat) }

def pushUntilDone (stream : EffectStream) : List Outcome → EffectStream
  | [] => stream
  | outcome :: outcomes =>
      let next := stream.push outcome
      if next.done then next else next.pushUntilDone outcomes

end EffectStream

def EffectRule.combine (rule : EffectRule) (outcomes : List Outcome) : Bool :=
  ((EffectStream.start rule outcomes.length).pushUntilDone outcomes).result

end AccessControl
