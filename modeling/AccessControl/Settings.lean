import AccessControl.Entries
import AccessControl.Text.Blank
import AccessControl.Text.Case
import AccessControl.Text.Integer
import AccessControl.Value

namespace AccessControl

structure Settings where
  logLevel : String
  enabled : Bool
  levels : Nat
  buildRoleLinks : Bool
  cacheEnabled : Bool
  cacheLimit : Option Nat
  autoSave : Bool
  notifyWatcher : Bool
  uniquePolicies : Bool
deriving DecidableEq, Repr

namespace Settings

def standard : Settings :=
  { logLevel := "info"
    enabled := true
    levels := 10
    buildRoleLinks := true
    cacheEnabled := false
    cacheLimit := none
    autoSave := true
    notifyWatcher := true
    uniquePolicies := true }

private def lowered (text : String) : String :=
  text.map fun character => Char.ofNat (Text.lowerCode character.toNat)

private def asciiLowered (text : String) : String :=
  text.map fun character => Char.ofNat (Text.asciiLowerCode character.toNat)

def readTruth? (text : String) : Option Bool :=
  let word := asciiLowered text
  if ["1", "true", "t", "yes", "y", "on"].contains word then some true
  else if ["0", "false", "f", "no", "n", "off"].contains word then some false
  else none

private def truthOfInt? (number : Int) : Option Bool :=
  if number = 0 then some false else if number = 1 then some true else none

def flag? : Value → Option Bool
  | .bool value => some value
  | .int number => truthOfInt? number
  | .float number => number.toInt?.bind truthOfInt?
  | .text text => readTruth? text
  | _ => none

/-- A decimal text may end in a point with zeros. -/
private def withoutFraction (text : List Char) : List Char :=
  let whole := text.takeWhile (· != '.')
  if (text.drop (whole.length + 1)).all (· == '0') then whole else text

private def asciiInteger? (text : List Char) : Option Int :=
  if text.all fun character => character.toNat < 128 then Text.integer? text
  else none

private def floatBound : Int := Nat.pow 2 63

def integer? : Value → Option Int
  | .bool value => some (if value then 1 else 0)
  | .int number => some number
  | .float number =>
      match number.toInt? with
      | some whole =>
          if -floatBound < whole ∧ whole < floatBound then some whole else none
      | none => none
  | .text text => asciiInteger? (withoutFraction (Text.trim text.toList))
  | _ => none

def level? (value : Value) : Option Nat :=
  match integer? value with
  | some number => if number < 0 then none else some number.toNat
  | none => none

/-- A limit of at least one, or none at all. -/
def limit? : Value → Option (Option Nat)
  | .null => some none
  | value =>
      match integer? value with
      | some number => if number < 1 then none else some (some number.toNat)
      | none => none

def variablePrefix : String := "enforcer_"

/-- The value of a setting in the environment. Upper and lower case count as
the same, and the last variable of a name counts. -/
def fromEnvironment? (environment : List (String × String)) (name : String) :
    Option String :=
  (environment.reverse.map fun entry => (lowered entry.1, entry.2)).lookup
    (variablePrefix ++ name)

/-- A given value comes before the environment. -/
def source? (environment : List (String × String))
    (given : List (String × Value)) (name : String) : Option Value :=
  (given.lookup name).orElse fun _ => (fromEnvironment? environment name).map .text

/-- The value that is read, the usual one if there is none to read, or the name
of the setting that cannot be read. -/
def setting (source? : String → Option Value) (name : String) (usual : α)
    (read : Value → Option α) : Except String α :=
  match source? name with
  | none => .ok usual
  | some value =>
      match read value with
      | some result => .ok result
      | none => .error name

private def refusal? : Except String α → Option String
  | .ok _ => none
  | .error name => some name

def read (environment : List (String × String)) (given : List (String × Value)) :
    Except (List String) Settings :=
  let source? := source? environment given
  let logLevel := setting source? "log_level" standard.logLevel Value.text?
  let enabled := setting source? "enabled" standard.enabled flag?
  let levels := setting source? "max_hierarchy_level" standard.levels level?
  let buildRoleLinks :=
    setting source? "auto_build_role_links" standard.buildRoleLinks flag?
  let cacheEnabled := setting source? "cache_enabled" standard.cacheEnabled flag?
  let cacheLimit := setting source? "cache_max_size" standard.cacheLimit limit?
  let autoSave := setting source? "auto_save" standard.autoSave flag?
  let notifyWatcher :=
    setting source? "auto_notify_watcher" standard.notifyWatcher flag?
  let uniquePolicies :=
    setting source? "unique_policies" standard.uniquePolicies flag?
  let settings : Except String Settings := do
    return {
      logLevel := ← logLevel
      enabled := ← enabled
      levels := ← levels
      buildRoleLinks := ← buildRoleLinks
      cacheEnabled := ← cacheEnabled
      cacheLimit := ← cacheLimit
      autoSave := ← autoSave
      notifyWatcher := ← notifyWatcher
      uniquePolicies := ← uniquePolicies }
  settings.mapError fun _ =>
    [refusal? buildRoleLinks, refusal? notifyWatcher, refusal? autoSave,
      refusal? cacheEnabled, refusal? cacheLimit, refusal? enabled,
      refusal? logLevel, refusal? levels, refusal? uniquePolicies].filterMap id

end Settings

end AccessControl
