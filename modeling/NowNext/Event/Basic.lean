import NowNext.Time.Written

set_option autoImplicit false

namespace NowNext

inductive EventFault where
  | endBeforeStart (start finish : Instant)
deriving DecidableEq

def EventFault.message : EventFault → String
  | .endBeforeStart start finish =>
      "event ends at " ++ finish.shown ++ " before it starts at " ++ start.shown

inductive Field where
  | summary
  | description
  | comment
  | contact
  | location
deriving DecidableEq

namespace Field

def all : List Field := [.summary, .description, .comment, .contact, .location]

def name : Field → String
  | .summary => "SUMMARY"
  | .description => "DESCRIPTION"
  | .comment => "COMMENT"
  | .contact => "CONTACT"
  | .location => "LOCATION"

def ofName? (name : String) : Option Field := all.find? fun field => field.name == name

end Field

structure Event where
  title : String
  start : Instant
  finish : Instant
  description : Option String := none
  location : Option String := none
  comment : Option String := none
  contact : Option String := none
deriving DecidableEq

namespace Event

def check (event : Event) : Except EventFault Unit :=
  if event.finish < event.start then .error (.endBeforeStart event.start event.finish) else .ok ()

def contains (event : Event) (t : Instant) : Bool := event.start ≤ t && t < event.finish

def startsAfter (event : Event) (t : Instant) : Bool := t < event.start

def text? (event : Event) : Field → Option String
  | .summary => some event.title
  | .description => event.description
  | .comment => event.comment
  | .contact => event.contact
  | .location => event.location

def text (event : Event) (field : Field) : String := (event.text? field).getD ""

end Event

structure EventDraft where
  title : Option String := none
  start : Option Instant := none
  finish : Option Instant := none
  description : Option String := none
  location : Option String := none
  comment : Option String := none
  contact : Option String := none

namespace EventDraft

def event (draft : EventDraft) (now : Instant) : Event :=
  let start := draft.start.getD now
  ⟨draft.title.getD "", start, draft.finish.getD start, draft.description, draft.location,
    draft.comment, draft.contact⟩

def build (draft : EventDraft) (now : Instant) : Except EventFault Event :=
  let event := draft.event now
  event.check.map fun _ => event

end EventDraft

end NowNext
