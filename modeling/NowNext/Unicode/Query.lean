import NowNext.Unicode.Category
import NowNext.Unicode.Script
import NowNext.Unicode.Property
import NowNext.Unicode.Age
import NowNext.Unicode.Break

set_option autoImplicit false

namespace NowNext.Unicode

inductive Named where
  | ranges (ranges : Ranges)
  | union (parts : List Ranges)
  | complement (parts : List Ranges)

def plainName (name : String) : String :=
  let chars := name.toList
  let isPrefixed := (chars.take 2).map Char.toLower == ['i', 's']
  let kept := ((if isPrefixed then chars.drop 2 else chars).filter fun c =>
    c.toNat < 0x80 && c != ' ' && c != '_' && c != '-').map Char.toLower
  String.ofList (if isPrefixed && kept == ['c'] then ['i', 's', 'c'] else kept)

def categoryGroups : List (List String × List String) := [
  (["lc", "casedletter"], ["lu", "ll", "lt"]),
  (["l", "letter"], ["lu", "ll", "lt", "lm", "lo"]),
  (["m", "mark", "combiningmark"], ["mn", "mc", "me"]),
  (["n", "number"], ["nd", "nl", "no"]),
  (["p", "punctuation", "punct"], ["pc", "pd", "ps", "pe", "pi", "pf", "po"]),
  (["s", "symbol"], ["sm", "sc", "sk", "so"]),
  (["z", "separator"], ["zs", "zl", "zp"])]

def assigned : List Ranges := categories.map NamedSet.ranges

def notOther : List Ranges :=
  (categories.filter fun set => !(["cc", "cf", "co"].any set.names.contains)).map NamedSet.ranges

def category? (name : String) : Option Named :=
  if name == "any" then some (.complement [])
  else if name == "assigned" then some (.union assigned)
  else if name == "ascii" then some (.ranges [(0, 0x7F)])
  else if ["cn", "unassigned"].contains name then some (.complement assigned)
  else if ["c", "other"].contains name then some (.complement notOther)
  else match NamedSet.find? categories name with
    | some set => some (.ranges set.ranges)
    | none => (categoryGroups.find? fun group => group.1.contains name).map fun group =>
        .union (group.2.filterMap fun part => (NamedSet.find? categories part).map (·.ranges))

def script? (name : String) : Option Named :=
  (NamedSet.find? scripts name).map fun set => .ranges set.ranges

def without (holes : Ranges) : Ranges → Ranges
  | [] => []
  | (first, last) :: ranges =>
      let inside := holes.filter fun hole => first ≤ hole.1 && hole.2 ≤ last
      let (rest, next) := inside.foldl (fun (done, next) hole =>
        (if next < hole.1 then (next, hole.1 - 1) :: done else done, hole.2 + 1)) ([], first)
      rest.reverse ++ (if next ≤ last then [(next, last)] else []) ++ without holes ranges

def scriptUse? (name : String) : Option Named := do
  let set ← NamedSet.find? scripts name
  let (here, elsewhere) := sharedScripts.partition fun shared => shared.names.any set.names.contains
  let holes := (elsewhere.flatMap (·.ranges)).mergeSort fun a b => a.1 ≤ b.1
  some (.union (without holes set.ranges :: here.map (·.ranges)))

def property? (name : String) : Option Named :=
  (NamedSet.find? properties name).map fun set => .ranges set.ranges

def age? (name : String) : Option Named :=
  let older := ages.takeWhile fun age => !age.names.contains name
  if older.length < ages.length then
    some (.union ((ages.take (older.length + 1)).map (·.ranges)))
  else none

-- Names that are a category or script although they also abbreviate a property.
def neverProperties : List String := ["cf", "sc", "lc"]

def named? (name : String) : Option Named :=
  let name := plainName name
  let found := if neverProperties.contains name then none else property? name
  (found.orElse fun _ => category? name).orElse fun _ => script? name

def valued? (property value : String) : Option Named :=
  let property := plainName property
  let value := plainName value
  if ["gc", "generalcategory"].contains property then category? value
  else if ["sc", "script"].contains property then script? value
  else if ["scx", "scriptextensions"].contains property then scriptUse? value
  else if property == "age" then age? value
  else if ["gcb", "graphemeclusterbreak"].contains property then
    (NamedSet.find? graphemeBreaks value).map fun set => .ranges set.ranges
  else if ["wb", "wordbreak"].contains property then
    (NamedSet.find? wordBreaks value).map fun set => .ranges set.ranges
  else if ["sb", "sentencebreak"].contains property then
    (NamedSet.find? sentenceBreaks value).map fun set => .ranges set.ranges
  else none

end NowNext.Unicode
