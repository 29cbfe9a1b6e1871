set_option autoImplicit false

namespace NowNext

-- A value that was read or is to be written. A text is `none` when its escapes spell half of a
-- surrogate pair, which is allowed where the value is not used.
inductive Json where
  | null
  | bool (value : Bool)
  | number
  | text (value : Option String)
  | list (items : List Json)
  | object (members : List (Option String × Json))

namespace Json

def ofText (value : String) : Json := .text (some value)

def ofTextOption : Option String → Json
  | some value => .ofText value
  | none => .null

def ofMembers (members : List (String × Json)) : Json :=
  .object (members.map fun member => (some member.1, member.2))

end Json

end NowNext
