namespace AccessControl

structure EnforceContext where
  request : String
  policy : String
  effect : String
  matcher : String
deriving DecidableEq, Repr

namespace EnforceContext

def ofSuffix (suffix : String) : EnforceContext :=
  ⟨"r" ++ suffix, "p" ++ suffix, "e" ++ suffix, "m" ++ suffix⟩

def standard : EnforceContext := ofSuffix ""

def key (context : EnforceContext) : String :=
  "|".intercalate
    [context.request, context.policy, context.effect, context.matcher]

end EnforceContext

end AccessControl
