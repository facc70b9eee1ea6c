namespace AccessControl.Samples

abbrev Definition := List (String × String)

private def firstAllow : String := "some(where (p.eft == allow))"

private def roleMatcher : String :=
  "g(r.sub, p.sub) && r.obj == p.obj && r.act == p.act"

def aclModel : Definition :=
  [("r", "sub, obj, act"), ("p", "sub, obj, act"), ("e", firstAllow),
    ("m", "r.sub == p.sub && r.obj == p.obj && r.act == p.act")]

def rbacModel : Definition :=
  [("r", "sub, obj, act"), ("p", "sub, obj, act"), ("g", "_, _"),
    ("e", firstAllow), ("m", roleMatcher)]

def patternModel : Definition :=
  [("r", "sub, obj, act"), ("p", "sub, obj, act"), ("g", "_, _"),
    ("e", firstAllow),
    ("m", "g(r.sub, p.sub) && globMatch(r.obj, p.obj) && regexMatch(r.act, p.act)")]

def domainModel : Definition :=
  [("r", "sub, dom, obj, act"), ("p", "sub, dom, obj, act"), ("g", "_, _, _"),
    ("e", firstAllow),
    ("m", "g(r.sub, p.sub, r.dom) && r.dom == p.dom && r.obj == p.obj && r.act == p.act")]

def denyModel : Definition :=
  [("r", "sub, obj, act"), ("p", "sub, obj, act, eft"), ("g", "_, _"),
    ("e", "some(where (p.eft == allow)) && !some(where (p.eft == deny))"),
    ("m", roleMatcher)]

def priorityModel : Definition :=
  [("r", "sub, obj, act"), ("p", "sub, obj, act, eft"), ("g", "_, _"),
    ("e", "priority(p.eft) || deny"), ("m", roleMatcher)]

def abacModel : Definition :=
  [("r", "sub, obj, act"), ("p", "sub_rule, obj, act"), ("e", firstAllow),
    ("m", "r.sub.age >= 18 && r.obj == p.obj && r.act == p.act")]

def rbacPolicies : List (String × List String) :=
  [("p", ["admin", "/reports", "read"]), ("p", ["admin", "/reports", "write"]),
    ("p", ["analyst", "/reports", "read"]), ("p", ["bob", "/profile", "read"]),
    ("g", ["alice", "admin"]), ("g", ["carol", "analyst"])]

end AccessControl.Samples
