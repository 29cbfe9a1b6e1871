set_option autoImplicit false

namespace NowNext

inductive Toml where
  | text (value : String)
  | integer (value : Int)
  | float
  | bool (value : Bool)
  | moment
  | list (items : List Toml)
  | table (entries : List (String × Toml))

namespace Toml

def fields? (names : List String) : Toml → Option (String → Option Toml)
  | table entries => some fun name => entries.lookup name
  | list items => some fun name => items[names.idxOf name]?
  | moment => some fun _ => none
  | _ => none

def textOf? : Toml → Option String
  | text value => some value
  | _ => none

def integerOf? : Toml → Option Int
  | integer value => some value
  | _ => none

def naturalOf? : Toml → Option Nat
  | integer (.ofNat value) => some value
  | _ => none

def optional? {α : Type} (read? : Toml → Option α) : Option Toml → Option (Option α)
  | some value => (read? value).map some
  | none => some none

end Toml

end NowNext
