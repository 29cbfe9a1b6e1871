import NowNext.Event.Written
import NowNext.Files.Disk
import NowNext.Json.Reader
import NowNext.Text.Quoted
import NowNext.Toml.Reader

set_option autoImplicit false

namespace NowNext

namespace Event

def ofTomlField : Toml → Json
  | .text value => .ofText value
  | _ => .number

-- Values past the last member of a list have no meaning.
def ofToml? (value : Toml) : Option Event := do
  let field? ← value.fields? memberNames
  ofValues? fun name => (field? name).map ofTomlField

def listOfToml? (entries : List (String × Toml)) : Option (List Event) :=
  match entries.lookup "event" with
  | none => some []
  | some (.list items) => items.mapM ofToml?
  | some _ => none

end Event

namespace EventsFile

inductive Format where
  | toml
  | json
deriving DecidableEq

inductive LoadFault where
  | unreadable (path : String) (cause : ReadFault)
  | unsupported (path : String)
  | toml
  | json
  | invalidEvent (index : Nat) (title : String) (cause : EventFault)
deriving DecidableEq

namespace LoadFault

def message : LoadFault → String
  | unreadable path _ => "unable to read calendar file " ++ Quoted.quote path
  | unsupported path => "unsupported calendar file format " ++ Quoted.quote path
  | toml => "failed to parse TOML calendar"
  | json => "failed to parse JSON calendar"
  | invalidEvent index title _ =>
      "event #" ++ String.ofList (digits index) ++ " (" ++ Quoted.quote title ++ ") is invalid"

def explanation : LoadFault → String
  | unreadable path cause => message (unreadable path cause) ++ ": " ++ cause.message
  | invalidEvent index title cause =>
      message (invalidEvent index title cause) ++ ": " ++ cause.message
  | fault => fault.message

end LoadFault

namespace Format

def ofPath (path : String) : Except LoadFault Format :=
  match (Path.extension? path).map (·.map Char.toLower) with
  | some ['t', 'o', 'm', 'l'] => .ok .toml
  | some ['j', 's', 'o', 'n'] => .ok .json
  | _ => .error (.unsupported path)

end Format

def read (format : Format) (content : String) : Except LoadFault (List Event) :=
  match format with
  | .toml => ((Toml.ofString? content).bind Event.listOfToml?).elim (.error .toml) .ok
  | .json => ((Json.ofString? content).bind Event.listOfJson?).elim (.error .json) .ok

def firstInvalid? (index : Nat) : List Event → Option LoadFault
  | [] => none
  | event :: events =>
      match event.check with
      | .error cause => some (.invalidEvent index event.title cause)
      | .ok _ => firstInvalid? (index + 1) events

def parse (format : Format) (content : String) : Except LoadFault (List Event) := do
  let events ← read format content
  (firstInvalid? 0 events).elim (.ok events) .error

def load (disk : Disk) (path : String) : Except LoadFault (List Event) := do
  let format ← Format.ofPath path
  let content ← (disk.read path).mapError (.unreadable path)
  parse format content

end EventsFile

end NowNext
