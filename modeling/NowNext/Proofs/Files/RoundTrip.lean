import Mathlib.Data.List.Nodup
import NowNext.Proofs.Files.Validation
import NowNext.Proofs.Json.Printed
import NowNext.Proofs.Time.Written

set_option autoImplicit false

namespace NowNext

namespace Json

theorem members_sound (members : List (String × Json)) (each : ∀ member ∈ members, member.2.Sound) :
    (ofMembers members).Sound := by
  change SoundMembers (members.map fun member => (some member.1, member.2))
  induction members with
  | nil => exact trivial
  | cons member rest ih =>
      rw [List.forall_mem_cons] at each
      exact ⟨rfl, each.1, ih each.2⟩

theorem items_sound (items : List Json) (each : ∀ item ∈ items, item.Sound) : (Json.list items).Sound := by
  change SoundItems items
  induction items with
  | nil => exact trivial
  | cons item rest ih =>
      rw [List.forall_mem_cons] at each
      exact ⟨each.1, ih each.2⟩

theorem members_find (members : List (String × Json)) (name : String) :
    (((members.map fun member => (some member.1, member.2)).find? fun member => member.1 == some name).map (·.2)) =
      members.lookup name := by
  induction members with
  | nil => rfl
  | cons member rest ih =>
      obtain ⟨other, value⟩ := member
      rw [List.map_cons, List.find?_cons, List.lookup_cons]
      by_cases same : other = name
      · simp [same]
      · rw [beq_false_of_ne (Ne.symm same), beq_false_of_ne (by simpa using same)]
        exact ih

end Json

namespace Event

theorem optional_keys (name : String) (value : Option String) :
    ((optionalMember name value).map (·.1)).Sublist [name] := by
  cases value with
  | none => exact List.nil_sublist _
  | some value => exact List.Sublist.refl _

theorem optional_lookup (name key : String) (value : Option String) :
    (optionalMember name value).lookup key = if key = name then value.map Json.ofText else none := by
  cases value with
  | none => simp [optionalMember]
  | some value =>
      rw [optionalMember, List.lookup_cons]
      by_cases same : key = name
      · rw [if_pos same, same, beq_self_eq_true]
        rfl
      · rw [if_neg same, beq_false_of_ne same]
        rfl

def members (event : Event) : List (String × Json) :=
  [("title", .ofText event.title), ("start", .ofText (event.start.text .compact)),
    ("end", .ofText (event.finish.text .compact))] ++
    optionalMember "description" event.description ++ optionalMember "location" event.location ++
    optionalMember "comment" event.comment ++ optionalMember "contact" event.contact

theorem members_keys (event : Event) : (event.members.map (·.1)).Sublist memberNames := by
  simp only [members, List.map_append]
  exact ((((List.Sublist.refl ["title", "start", "end"]).append (optional_keys _ _)).append
    (optional_keys _ _)).append (optional_keys _ _)).append (optional_keys _ _)

theorem optional_sound (name : String) (value : Option String) :
    ∀ member ∈ optionalMember name value, member.2.Sound := by
  cases value with
  | none => exact List.forall_mem_nil _
  | some value => exact List.forall_mem_singleton.mpr rfl

theorem json_sound (event : Event) : event.toJson.Sound := by
  refine Json.members_sound event.members ?_
  simp only [members, List.forall_mem_append, List.forall_mem_cons]
  exact ⟨⟨⟨⟨⟨rfl, rfl, rfl, List.forall_mem_nil _⟩, optional_sound _ _⟩, optional_sound _ _⟩, optional_sound _ _⟩,
    optional_sound _ _⟩

theorem optional_read (value : Option String) : optionalOf? (value.map Json.ofText) = some value := by
  cases value <;> rfl

theorem instant_read (t : Instant) : instantOf? (.ofText (t.text .compact)) = some t := by
  rw [instantOf?, Json.ofText, textOf?, Option.bind_some, Instant.read_written]

theorem text_read (value : String) : textOf? (.ofText value) = some value := rfl

theorem names_differ : memberNames.Nodup := by simp [memberNames]

theorem keys_once (event : Event) (name : String) : ((event.members.map (·.1)).map some).count (some name) ≤ 1 := by
  have different := event.members_keys.nodup names_differ
  exact List.nodup_iff_count.mp (different.map fun _ _ same => Option.some.inj same) _

theorem members_lookup (event : Event) :
    event.members.lookup "title" = some (.ofText event.title) ∧
    event.members.lookup "start" = some (.ofText (event.start.text .compact)) ∧
    event.members.lookup "end" = some (.ofText (event.finish.text .compact)) ∧
    event.members.lookup "description" = event.description.map .ofText ∧
    event.members.lookup "location" = event.location.map .ofText ∧
    event.members.lookup "comment" = event.comment.map .ofText ∧
    event.members.lookup "contact" = event.contact.map .ofText := by
  simp [members, List.lookup_append, optional_lookup, List.lookup_cons]

theorem read_json (event : Event) : ofJson? event.toJson = some event := by
  have keys : (event.members.map fun member => (some member.1, member.2)).map (·.1) =
      (event.members.map (·.1)).map some := by
    rw [List.map_map, List.map_map]
    rfl
  have present : ((event.members.map (·.1)).map some).all Option.isSome = true := by simp
  have once : (memberNames.all fun name => ((event.members.map (·.1)).map some).count (some name) ≤ 1) = true :=
    List.all_eq_true.mpr fun name _ => decide_eq_true (event.keys_once name)
  have shape : event.toJson = .object (event.members.map fun member => (some member.1, member.2)) := rfl
  obtain ⟨title, start, finish, description, location, comment, contact⟩ := event.members_lookup
  rw [shape, ofJson?]
  simp only [keys, present, once, Bool.and_self, if_true, Json.members_find]
  simp only [ofValues?, title, start, finish, description, location, comment, contact, Option.bind_eq_bind,
    Option.bind_some, text_read, instant_read, optional_read]

theorem read_list (events : List Event) : listOfJson? (.list (events.map toJson)) = some events := by
  change (events.map toJson).mapM ofJson? = some events
  induction events with
  | nil => rfl
  | cons event rest ih =>
      rw [List.map_cons, List.mapM_cons, read_json, ih]
      rfl

end Event

namespace EventsFile

theorem read_written (events : List Event) :
    read .json (Json.toString (.list (events.map Event.toJson))) = .ok events := by
  have sound : (Json.list (events.map Event.toJson)).Sound := by
    refine Json.items_sound _ fun item member => ?_
    obtain ⟨event, _, rfl⟩ := List.mem_map.mp member
    exact event.json_sound
  rw [read, Json.read_printed _ sound, Option.bind_some, Event.read_list]
  rfl

theorem written_events_parse (events : List Event) :
    let parsed := parse .json (Json.toString (.list (events.map Event.toJson)))
    if ∀ event ∈ events, event.start ≤ event.finish then parsed = .ok events
    else ∃ before event after, events = before ++ event :: after ∧
      (∀ other ∈ before, other.start ≤ other.finish) ∧ event.finish < event.start ∧
      parsed = .error (.invalidEvent before.length event.title (.endBeforeStart event.start event.finish)) := by
  intro parsed
  have written := read_written events
  split
  · rename_i valid
    exact parse_all_valid .json _ events written valid
  · rename_i invalid
    rcases valid_or_backward events with valid | ⟨event, before, after, split, backward, sound⟩
    · exact absurd valid invalid
    · refine ⟨before, event, after, split, sound, backward, ?_⟩
      exact parse_first_backward .json _ before after event (split ▸ written) backward sound

end EventsFile

end NowNext
