import Mathlib.Data.List.Forall2
import NowNext.Proofs.Files.Validation

set_option autoImplicit false

namespace NowNext

theorem text_of_bytes (bytes : ByteArray) (content : String) :
    String.fromUTF8? bytes = some content ↔ bytes = content.toByteArray := by
  unfold String.fromUTF8?
  by_cases valid : bytes.IsValidUTF8
  · rw [dif_pos valid, Option.some_inj]
    constructor
    · rintro rfl
      rfl
    · rintro rfl
      rfl
  · rw [dif_neg valid]
    refine iff_of_false (nomatch ·) ?_
    rintro rfl
    exact valid content.isValidUTF8

theorem DiskEntry.read_iff (entry : DiskEntry) (path content : String) :
    entry.read path = .ok content ↔ Path.asksDirectory path = false ∧ entry = .file content.toByteArray := by
  cases entry with
  | directory | broken => simp [read]
  | file bytes =>
      rw [read, DiskEntry.file.injEq, ← text_of_bytes]
      cases Path.asksDirectory path with
      | true => simp
      | false => cases String.fromUTF8? bytes <;> simp

namespace Disk

structure HasText (disk : Disk) (path content : String) : Prop where
  possible : '\x00' ∉ path.toList
  named : path ≠ ""
  isFile : Path.asksDirectory path = false
  stored : disk.find? path = some (.file content.toByteArray)

theorem read_iff (disk : Disk) (path content : String) : disk.read path = .ok content ↔ disk.HasText path content := by
  by_cases impossible : '\x00' ∈ path.toList
  · exact iff_of_false (by simp [read, impossible]) fun text => text.possible impossible
  by_cases nameless : path = ""
  · exact iff_of_false (by simp [read, nameless]) fun text => text.named nameless
  cases found : disk.find? path with
  | none =>
      refine iff_of_false (by simp [read, impossible, nameless, found]) fun text => ?_
      cases found.symm.trans text.stored
  | some entry =>
      have opened : disk.read path = entry.read path := by simp [read, impossible, nameless, found]
      rw [opened, entry.read_iff]
      constructor
      · rintro ⟨isFile, rfl⟩
        exact ⟨impossible, nameless, isFile, found⟩
      · intro text
        exact ⟨text.isFile, Option.some.inj (found.symm.trans text.stored)⟩

end Disk

namespace Path

theorem ending_run (stem ending : List Char) (dotless : '.' ∉ ending) :
    (stem ++ '.' :: ending).reverse.takeWhile (· ≠ '.') = ending.reverse := by
  rw [List.reverse_append, List.reverse_cons, List.append_assoc, List.takeWhile_append_of_pos]
  · simp
  · intro c member
    refine decide_eq_true ?_
    rintro rfl
    exact dotless (List.mem_reverse.mp member)

theorem extension_split (stem ending : List Char) (dotless : '.' ∉ ending) : extensionOf? (stem ++ '.' :: ending) =
    if stem = [] ∨ stem ++ '.' :: ending = ['.', '.'] then none else some ending := by
  unfold extensionOf?
  by_cases dots : stem ++ '.' :: ending = ['.', '.']
  · simp [dots]
  · rw [ending_run stem ending dotless, if_neg (by simpa using dots)]
    cases stem with
    | nil => simp
    | cons c stem =>
        have shorter : ending.reverse.length + 1 < (c :: stem ++ '.' :: ending).length := by
          simp only [List.length_reverse, List.length_append, List.length_cons]
          omega
        rw [if_neg (not_or.mpr ⟨List.cons_ne_nil c stem, dots⟩)]
        exact (if_pos shorter).trans (congrArg some ending.reverse_reverse)

theorem extension_iff (name ending : List Char) : extensionOf? name = some ending ↔
    name ≠ ['.', '.'] ∧ '.' ∉ ending ∧ ∃ stem, stem ≠ [] ∧ name = stem ++ '.' :: ending := by
  constructor
  · intro found
    by_cases dotted : '.' ∈ name.reverse
    · obtain ⟨back, front, split, dotless⟩ := List.eq_append_cons_of_mem dotted
      have named : name = front.reverse ++ '.' :: back.reverse := by
        rw [← List.reverse_reverse name, split]
        simp
      have backwards : '.' ∉ back.reverse := fun member => dotless (List.mem_reverse.mp member)
      rw [named, extension_split _ _ backwards] at found
      split at found
      · cases found
      · rename_i proper
        cases found
        rw [named]
        exact ⟨fun dots => proper (.inr dots), backwards, _, fun none => proper (.inl none), rfl⟩
    · have whole : name.reverse.takeWhile (· ≠ '.') = name.reverse := by
        rw [List.takeWhile_eq_self_iff]
        intro c member
        refine decide_eq_true ?_
        rintro rfl
        exact dotted member
      simp only [extensionOf?, whole, List.length_reverse] at found
      split at found
      · cases found
      · rw [if_neg (Nat.not_lt.mpr (Nat.le_succ _))] at found
        cases found
  · rintro ⟨proper, dotless, stem, nonempty, rfl⟩
    rw [extension_split stem ending dotless, if_neg (not_or.mpr ⟨nonempty, proper⟩)]

end Path

namespace Event

inductive Optional : Option Json → Option String → Prop where
  | missing : Optional none none
  | null : Optional (some .null) none
  | text (value : String) : Optional (some (.ofText value)) (some value)

structure Described (value? : String → Option Json) (event : Event) : Prop where
  title : value? "title" = some (.ofText event.title)
  start : ∃ written, value? "start" = some (.ofText written) ∧ Instant.ofText? written = some event.start
  finish : ∃ written, value? "end" = some (.ofText written) ∧ Instant.ofText? written = some event.finish
  description : Optional (value? "description") event.description
  location : Optional (value? "location") event.location
  comment : Optional (value? "comment") event.comment
  contact : Optional (value? "contact") event.contact

theorem text_of_iff (value : Json) (text : String) : textOf? value = some text ↔ value = .ofText text := by
  cases value <;> simp [textOf?, Json.ofText]

theorem optional_of_iff (value : Option Json) (text : Option String) :
    optionalOf? value = some text ↔ Optional value text := by
  constructor
  · intro read
    unfold optionalOf? at read
    split at read
    · cases read
      exact .missing
    · cases read
      exact .null
    · cases read
      exact .text _
    · cases read
  · rintro (_ | _ | _) <;> rfl

theorem of_values_iff (value? : String → Option Json) (event : Event) :
    ofValues? value? = some event ↔ Described value? event := by
  simp only [ofValues?, instantOf?, Option.bind_eq_bind, Option.bind_eq_some_iff, text_of_iff, optional_of_iff]
  constructor
  · rintro ⟨title, ⟨_, titled, rfl⟩, start, ⟨_, started, written, rfl, begins⟩, finish, ⟨_, finished, end_, rfl, ends⟩,
      description, described, location, located, comment, commented, contact, contacted, same⟩
    cases same
    exact ⟨titled, ⟨written, started, begins⟩, ⟨end_, finished, ends⟩, described, located, commented, contacted⟩
  · rintro ⟨titled, ⟨written, started, begins⟩, ⟨end_, finished, ends⟩, described, located, commented, contacted⟩
    exact ⟨_, ⟨_, titled, rfl⟩, _, ⟨_, started, written, rfl, begins⟩, _, ⟨_, finished, end_, rfl, ends⟩,
      _, described, _, located, _, commented, _, contacted, rfl⟩

inductive OfJson : Json → Event → Prop where
  | object (members : List (Option String × Json)) (event : Event)
      (named : ∀ member ∈ members, member.1.isSome = true)
      (once : ∀ name ∈ memberNames, (members.map (·.1)).count (some name) ≤ 1)
      (described : Described (fun name => (members.find? fun member => member.1 == some name).map (·.2)) event) :
      OfJson (.object members) event
  | list (items : List Json) (event : Event) (short : items.length ≤ memberNames.length)
      (described : Described (fun name => items[memberNames.idxOf name]?) event) : OfJson (.list items) event

inductive OfToml : Toml → Event → Prop where
  | table (entries : List (String × Toml)) (event : Event)
      (described : Described (fun name => (entries.lookup name).map ofTomlField) event) : OfToml (.table entries) event
  | list (items : List Toml) (event : Event)
      (described : Described (fun name => (items[memberNames.idxOf name]?).map ofTomlField) event) :
      OfToml (.list items) event

theorem of_json_iff (value : Json) (event : Event) : ofJson? value = some event ↔ OfJson value event := by
  constructor
  · intro read
    cases value with
    | null | bool | number | text => cases read
    | object members =>
        simp only [ofJson?] at read
        split at read
        · rename_i allowed
          simp only [Bool.and_eq_true, List.all_eq_true, List.mem_map, decide_eq_true_eq] at allowed
          refine .object members event (fun member inside => allowed.1 _ ⟨member, inside, rfl⟩) allowed.2 ?_
          exact (of_values_iff _ event).mp read
        · cases read
    | list items =>
        simp only [ofJson?] at read
        split at read
        · rename_i short
          exact .list items event short ((of_values_iff _ event).mp read)
        · cases read
  · rintro (⟨members, _, named, once, described⟩ | ⟨items, _, short, described⟩)
    · have texts : (members.map (·.1)).all Option.isSome = true := by
        rw [List.all_map, List.all_eq_true]
        exact named
      have single : (memberNames.all fun name => (members.map (·.1)).count (some name) ≤ 1) = true :=
        List.all_eq_true.mpr fun name known => decide_eq_true (once name known)
      simp only [ofJson?, texts, single, Bool.and_self, if_true]
      exact (of_values_iff _ event).mpr described
    · rw [ofJson?, if_pos short]
      exact (of_values_iff _ event).mpr described

theorem of_toml_iff (value : Toml) (event : Event) : ofToml? value = some event ↔ OfToml value event := by
  constructor
  · intro read
    cases value with
    | text | integer | float | bool => cases read
    | moment => cases read
    | list items => exact .list items event ((of_values_iff _ event).mp read)
    | table entries => exact .table entries event ((of_values_iff _ event).mp read)
  · rintro (⟨entries, _, described⟩ | ⟨items, _, described⟩)
    · exact (of_values_iff _ event).mpr described
    · exact (of_values_iff _ event).mpr described

end Event

theorem map_options_iff {α β : Type} (read? : α → Option β) (items : List α) (values : List β) :
    items.mapM read? = some values ↔ List.Forall₂ (fun item value => read? item = some value) items values := by
  induction items generalizing values with
  | nil => cases values <;> simp
  | cons item rest ih =>
      simp only [List.mapM_cons, Option.bind_eq_bind, Option.bind_eq_some_iff, ih]
      constructor
      · rintro ⟨value, first, others, read, same⟩
        cases same
        exact .cons first read
      · rintro (_ | ⟨first, read⟩)
        exact ⟨_, first, _, read, rfl⟩

namespace EventsFile

def Format.ending : Format → List Char
  | .toml => ['t', 'o', 'm', 'l']
  | .json => ['j', 's', 'o', 'n']

def Format.malformed : Format → LoadFault
  | .toml => .toml
  | .json => .json

def Format.Names (format : Format) (path : String) : Prop :=
  ∃ stem ending, (Path.names path).getLast? = some (stem ++ '.' :: ending) ∧ stem ≠ [] ∧
    ending.map Char.toLower = format.ending

def Format.Lists : Format → String → List Event → Prop
  | .toml, content, events => ∃ entries, Toml.ofString? content = some entries ∧
      (entries.lookup "event" = none ∧ events = [] ∨
        ∃ items, entries.lookup "event" = some (.list items) ∧ List.Forall₂ Event.OfToml items events)
  | .json, content, events => ∃ items, Json.ofString? content = some (.list items) ∧
      List.Forall₂ Event.OfJson items events

theorem of_path_iff (path : String) (format : Format) : Format.ofPath path = .ok format ↔ format.Names path := by
  constructor
  · intro known
    obtain ⟨ending, extension, same⟩ : ∃ ending, Path.extension? path = some ending ∧
        ending.map Char.toLower = format.ending := by
      unfold Format.ofPath at known
      split at known
      · cases known
        rename_i found
        exact Option.map_eq_some_iff.mp found
      · cases known
        rename_i found
        exact Option.map_eq_some_iff.mp found
      · cases known
    obtain ⟨name, last, found⟩ := Option.bind_eq_some_iff.mp extension
    obtain ⟨_, _, stem, nonempty, rfl⟩ := (Path.extension_iff name ending).mp found
    exact ⟨stem, ending, last, nonempty, same⟩
  · rintro ⟨stem, ending, last, nonempty, same⟩
    have dotless : '.' ∉ ending := by
      intro member
      have inside : '.' ∈ format.ending := same ▸ List.mem_map_of_mem (f := Char.toLower) member
      cases format <;> simp [Format.ending] at inside
    have length : ending.length = 4 := by
      rw [← List.length_map Char.toLower, same]
      cases format <;> rfl
    have proper : stem ++ '.' :: ending ≠ ['.', '.'] := by
      intro dots
      have short := congrArg List.length dots
      simp only [List.length_append, List.length_cons, List.length_nil] at short
      omega
    have extension : Path.extension? path = some ending := by
      rw [Path.extension?, last, Option.bind_some]
      exact (Path.extension_iff _ _).mpr ⟨proper, dotless, stem, nonempty, rfl⟩
    rw [Format.ofPath, extension, Option.map_some, same]
    cases format <;> rfl

theorem of_path_unsupported (path : String) (unnamed : ∀ format : Format, ¬format.Names path) :
    Format.ofPath path = .error (.unsupported path) := by
  cases known : Format.ofPath path with
  | ok format => exact absurd ((of_path_iff path format).mp known) (unnamed format)
  | error fault =>
      unfold Format.ofPath at known
      split at known <;> cases known
      rfl

theorem read_found (format : Format) (content : String) : ∃ found : Option (List Event),
    read format content = found.elim (.error format.malformed) .ok ∧
      ∀ events, found = some events ↔ format.Lists content events := by
  cases format with
  | toml =>
      refine ⟨_, rfl, fun events => ?_⟩
      rw [Option.bind_eq_some_iff]
      refine exists_congr fun entries => and_congr_right fun _ => ?_
      unfold Event.listOfToml?
      split
      · rename_i missing
        simp [missing, eq_comm]
      · rename_i items found
        simp [found, map_options_iff, Event.of_toml_iff]
      · rename_i value other found
        rw [found]
        refine iff_of_false (nomatch ·) ?_
        rintro (⟨missing, _⟩ | ⟨items, same, _⟩)
        · cases missing
        · exact other items (Option.some.inj same)
  | json =>
      refine ⟨_, rfl, fun events => ?_⟩
      rw [Option.bind_eq_some_iff]
      constructor
      · rintro ⟨value, written, read⟩
        cases value with
        | null | bool | number | text | object => cases read
        | list items => exact ⟨items, written, by simpa only [Event.of_json_iff] using (map_options_iff _ _ _).mp read⟩
      · rintro ⟨items, written, lists⟩
        exact ⟨_, written, (map_options_iff _ _ _).mpr (by simpa only [Event.of_json_iff] using lists)⟩

theorem read_iff (format : Format) (content : String) (events : List Event) :
    read format content = .ok events ↔ format.Lists content events := by
  obtain ⟨found, read, exactly⟩ := read_found format content
  rw [read, ← exactly]
  cases found <;> simp

theorem read_shapeless {format : Format} {content : String} (shapeless : ∀ events, ¬format.Lists content events) :
    read format content = .error format.malformed := by
  obtain ⟨found, read, exactly⟩ := read_found format content
  cases found with
  | none => exact read
  | some events => exact absurd ((exactly events).mp rfl) (shapeless events)

-- What the file at a path gives: its events in the order of writing, or why there are none.
inductive Gives (disk : Disk) (path : String) : Except LoadFault (List Event) → Prop where
  | events (format : Format) (content : String) (events : List Event) (named : format.Names path)
      (text : disk.HasText path content) (lists : format.Lists content events)
      (valid : ∀ event ∈ events, event.start ≤ event.finish) : Gives disk path (.ok events)
  | unsupported (unnamed : ∀ format : Format, ¬format.Names path) : Gives disk path (.error (.unsupported path))
  | unreadable (format : Format) (cause : ReadFault) (named : format.Names path)
      (textless : ∀ content, ¬disk.HasText path content) (why : disk.read path = .error cause) :
      Gives disk path (.error (.unreadable path cause))
  | malformed (format : Format) (content : String) (named : format.Names path) (text : disk.HasText path content)
      (shapeless : ∀ events, ¬format.Lists content events) : Gives disk path (.error format.malformed)
  | invalid (format : Format) (content : String) (before : List Event) (event : Event) (after : List Event)
      (named : format.Names path) (text : disk.HasText path content)
      (lists : format.Lists content (before ++ event :: after))
      (valid : ∀ other ∈ before, other.start ≤ other.finish) (backward : event.finish < event.start) :
      Gives disk path (.error (.invalidEvent before.length event.title (.endBeforeStart event.start event.finish)))

variable {disk : Disk} {path content : String} {format : Format}

theorem load_text (named : format.Names path) (text : disk.HasText path content) :
    load disk path = parse format content := by
  rw [load, (of_path_iff path format).mpr named, (disk.read_iff path content).mpr text]
  rfl

theorem load_unreadable (named : format.Names path) (cause : ReadFault) (why : disk.read path = .error cause) :
    load disk path = .error (.unreadable path cause) := by
  rw [load, (of_path_iff path format).mpr named, why]
  rfl

theorem load_unsupported (unnamed : ∀ format : Format, ¬format.Names path) :
    load disk path = .error (.unsupported path) := by
  rw [load, of_path_unsupported path unnamed]
  rfl

theorem parse_shapeless (shapeless : ∀ events, ¬format.Lists content events) :
    parse format content = .error format.malformed := by
  rw [parse, read_shapeless shapeless]
  rfl

theorem parse_gives (named : format.Names path) (text : disk.HasText path content) :
    Gives disk path (parse format content) := by
  by_cases shapeless : ∀ events, ¬format.Lists content events
  · rw [parse_shapeless shapeless]
    exact .malformed format content named text shapeless
  · obtain ⟨events, lists⟩ := not_forall_not.mp shapeless
    rcases valid_or_backward events with valid | ⟨event, before, after, rfl, backward, sound⟩
    · rw [parse_all_valid format content events ((read_iff _ _ _).mpr lists) valid]
      exact .events format content events named text lists valid
    · rw [parse_first_backward format content before after event ((read_iff _ _ _).mpr lists) backward sound]
      exact .invalid format content before event after named text lists sound backward

theorem load_gives (disk : Disk) (path : String) : Gives disk path (load disk path) := by
  by_cases unnamed : ∀ format : Format, ¬format.Names path
  · rw [load_unsupported unnamed]
    exact .unsupported unnamed
  · obtain ⟨format, named⟩ := not_forall_not.mp unnamed
    cases found : disk.read path with
    | error cause =>
        rw [load_unreadable named cause found]
        refine .unreadable format cause named (fun content text => ?_) found
        cases found.symm.trans ((disk.read_iff path content).mpr text)
    | ok content =>
        have text := (disk.read_iff path content).mp found
        rw [load_text named text]
        exact parse_gives named text

theorem load_iff (disk : Disk) (path : String) (result : Except LoadFault (List Event)) :
    load disk path = result ↔ Gives disk path result := by
  constructor
  · rintro rfl
    exact load_gives disk path
  · intro gives
    cases gives with
    | events format content events named text lists valid =>
        rw [load_text named text]
        exact parse_all_valid format content events ((read_iff _ _ _).mpr lists) valid
    | unsupported unnamed => exact load_unsupported unnamed
    | unreadable format cause named textless why => exact load_unreadable named cause why
    | malformed format content named text shapeless =>
        rw [load_text named text]
        exact parse_shapeless shapeless
    | invalid format content before event after named text lists valid backward =>
        rw [load_text named text]
        exact parse_first_backward format content before after event ((read_iff _ _ _).mpr lists) backward valid

example : load [] "events.toml" = .error (.unreadable "events.toml" .notFound) ∧
    load [] "events.txt" = .error (.unsupported "events.txt") := by
  decide

theorem load_agenda (disk : Disk) (path : String) (events : List Event) (loaded : load disk path = .ok events) :
    ∃ agenda, Agenda.of? events = .ok agenda := by
  cases (load_iff disk path _).mp loaded with
  | events format content events named text lists valid =>
      exact Agenda.valid_agenda events fun event member => event.check_valid.mpr (valid event member)

end EventsFile

end NowNext
