import NowNext.Event.Basic
import NowNext.Json.Value
import NowNext.Time.Reader

set_option autoImplicit false

namespace NowNext.Event

def optionalMember (name : String) : Option String → List (String × Json)
  | some value => [(name, .ofText value)]
  | none => []

def toJson (event : Event) : Json :=
  .ofMembers ([("title", .ofText event.title), ("start", .ofText (event.start.text .compact)),
    ("end", .ofText (event.finish.text .compact))] ++
    optionalMember "description" event.description ++ optionalMember "location" event.location ++
    optionalMember "comment" event.comment ++ optionalMember "contact" event.contact)

def memberNames : List String :=
  ["title", "start", "end", "description", "location", "comment", "contact"]

def textOf? : Json → Option String
  | .text value => value
  | _ => none

def instantOf? (value : Json) : Option Instant := (textOf? value).bind Instant.ofText?

def optionalOf? : Option Json → Option (Option String)
  | none | some .null => some none
  | some (.text (some value)) => some (some value)
  | some _ => none

def ofValues? (value? : String → Option Json) : Option Event := do
  let title ← (value? "title").bind textOf?
  let start ← (value? "start").bind instantOf?
  let finish ← (value? "end").bind instantOf?
  let description ← optionalOf? (value? "description")
  let location ← optionalOf? (value? "location")
  let comment ← optionalOf? (value? "comment")
  let contact ← optionalOf? (value? "contact")
  some ⟨title, start, finish, description, location, comment, contact⟩

def ofJson? : Json → Option Event
  | .object members =>
      let keys := members.map (·.1)
      if keys.all Option.isSome && memberNames.all fun name => keys.count (some name) ≤ 1 then
        ofValues? fun name => (members.find? fun member => member.1 == some name).map (·.2)
      else none
  | .list items =>
      if items.length ≤ memberNames.length then
        ofValues? fun name => items[memberNames.idxOf name]?
      else none
  | _ => none

def listOfJson? : Json → Option (List Event)
  | .list items => items.mapM ofJson?
  | _ => none

end NowNext.Event
