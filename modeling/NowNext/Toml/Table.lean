import NowNext.Toml.Value

/-!
Tables under construction. What may still be added to a table depends on how it came about: by its own
header, on the way to another one, or by a key with dots.
-/

set_option autoImplicit false

namespace NowNext.Toml

inductive Item where
  | value (value : Toml)
  -- An implicit table has no header of its own; a dotted one stems from keys with dots.
  | table (implicit dotted : Bool) (entries : List (String × Item))
  | tables (latest : List (String × Item)) (earlier : List (List (String × Item)))

abbrev Entries := List (String × Item)

namespace Entries

def replace (key : String) (item : Item) : Entries → Entries
  | [] => []
  | entry :: entries =>
      if entry.1 = key then (key, item) :: entries else entry :: replace key item entries

def remove (key : String) (entries : Entries) : Entries := entries.filter fun entry => entry.1 ≠ key

-- Changes the table at the end of a path, and makes the tables on the way that are missing. Keys with
-- dots lead through tables only that stem from such keys or from longer headers.
def edit (dotted : Bool) (change : Bool → Entries → Option Entries) :
    List String → Bool → Entries → Option Entries
  | [], isDotted, entries => change isDotted entries
  | key :: path, _, entries =>
      match entries.lookup key with
      | none =>
          (edit dotted change path dotted []).map fun inner =>
            entries ++ [(key, .table true dotted inner)]
      | some (.value _) => none
      | some (.table implicit isDotted inner) =>
          if dotted && !implicit then none
          else (edit dotted change path isDotted inner).map fun inner =>
            entries.replace key (.table implicit isDotted inner)
      | some (.tables latest earlier) =>
          (edit dotted change path false latest).map fun latest =>
            entries.replace key (.tables latest earlier)

def set (path : List String) (key : String) (value : Toml) (entries : Entries) : Option Entries :=
  edit (!path.isEmpty) (fun isDotted entries =>
    if isDotted = path.isEmpty || (entries.lookup key).isSome then none
    else some (entries ++ [(key, .value value)])) path false entries

mutual

def itemValue : Item → Toml
  | .value value => value
  | .table _ _ entries => .table (values entries)
  | .tables latest earlier => .list ((.table (values latest) :: tableValues earlier).reverse)

def values : List (String × Item) → List (String × Toml)
  | [] => []
  | (key, item) :: entries => (key, itemValue item) :: values entries

def tableValues : List (List (String × Item)) → List Toml
  | [] => []
  | entries :: tables => .table (values entries) :: tableValues tables

end

end Entries

structure Document where
  root : Entries := []
  path : List String := []
  isMember : Bool := false
  opened : Entries := []

namespace Document

def place (isMember : Bool) (key : String) (opened : Entries) (_ : Bool) (parent : Entries) :
    Option Entries :=
  match parent.lookup key, isMember with
  | none, true => some (parent ++ [(key, .tables opened [])])
  | some (.tables latest earlier), true =>
      some (parent.replace key (.tables opened (latest :: earlier)))
  | none, false => some (parent ++ [(key, .table false false opened)])
  | some (.table true _ _), false => some (parent.replace key (.table false false opened))
  | _, _ => none

def finish (document : Document) : Option Entries :=
  match document.path.getLast? with
  | none => some document.opened
  | some key =>
      Entries.edit false (place document.isMember key document.opened) document.path.dropLast false
        document.root

def found? (key : String) (parent : Entries) : Option Entries :=
  match parent.lookup key with
  | none => some []
  | some (.table true false entries) => some entries
  | some _ => none

def parent? : List String → Entries → Option Entries
  | [], entries => some entries
  | key :: path, entries =>
      match entries.lookup key with
      | none => some []
      | some (.value _) => none
      | some (.table _ _ inner) => parent? path inner
      | some (.tables latest _) => parent? path latest

def openTable (path : List String) (document : Document) : Option Document := do
  let root ← document.finish
  let key ← path.getLast?
  let opened ← found? key (← parent? path.dropLast root)
  let root ← Entries.edit false (fun _ parent => some (parent.remove key)) path.dropLast false root
  some { root, path, opened }

def openMember (path : List String) (document : Document) : Option Document := do
  let root ← document.finish
  let key ← path.getLast?
  match (← parent? path.dropLast root).lookup key with
  | none | some (.tables ..) => some { root, path, isMember := true }
  | some _ => none

def setKey (path : List String) (key : String) (value : Toml) (document : Document) :
    Option Document :=
  (document.opened.set path key value).map fun opened => { document with opened }

end Document

end NowNext.Toml
