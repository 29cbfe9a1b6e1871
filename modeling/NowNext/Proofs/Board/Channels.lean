import NowNext.Board.Channel

set_option autoImplicit false

namespace NowNext

theorem Channel.mem_all (channel : Channel) : channel ∈ Channel.all := by
  cases channel <;> decide

namespace Board

def shown (event : Option Event) (reading : Event → Reading) : Reading := (event.map reading).getD .undefined

def reading (board : Board) : Channel → Reading
  | .presence => .switch board.isPresent
  | .currentTitle => shown board.current (.text ·.title)
  | .currentStart => shown board.current (.instant ·.start)
  | .currentFinish => shown board.current (.instant ·.finish)
  | .currentDescription => shown board.current (.ofText? ·.description)
  | .currentLocation => shown board.current (.ofText? ·.location)
  | .currentComment => shown board.current (.ofText? ·.comment)
  | .currentContact => shown board.current (.ofText? ·.contact)
  | .nextTitle => shown board.next (.text ·.title)
  | .nextStart => shown board.next (.instant ·.start)
  | .nextFinish => shown board.next (.instant ·.finish)
  | .nextDescription => shown board.next (.ofText? ·.description)
  | .nextLocation => shown board.next (.ofText? ·.location)
  | .nextComment => shown board.next (.ofText? ·.comment)
  | .nextContact => shown board.next (.ofText? ·.contact)

theorem readings_channels (board : Board) :
    board.readings = Channel.all.map fun channel => (channel, board.reading channel) := by
  obtain ⟨current, next⟩ := board
  cases current <;> cases next <;> rfl

theorem readings_keys (board : Board) : board.readings.map (·.1) = Channel.all := by
  rw [readings_channels, List.map_map]
  exact List.map_id' Channel.all

end Board

def Reading.text? : Reading → Option (Option String)
  | .text value => some (some value)
  | .undefined => some none
  | .switch _ | .instant _ => none

theorem Reading.text_iff (reading : Reading) (value : Option String) :
    reading.text? = some value ↔ reading = .ofText? value := by
  cases reading <;> cases value <;> simp [text?, ofText?]

def Event.ofReadings? : List Reading → Option (Option Event)
  | [.text title, .instant start, .instant finish, description, location, comment, contact] => do
      some (some ⟨title, start, finish, ← description.text?, ← location.text?, ← comment.text?, ← contact.text?⟩)
  | [.undefined, .undefined, .undefined, .undefined, .undefined, .undefined, .undefined] => some none
  | _ => none

theorem EventChannels.undefined_values (channels : EventChannels) :
    (channels.readings none).map (·.2) = List.replicate 7 .undefined := by
  rw [readings, List.map_map]
  exact List.map_const'.trans (by rw [Vector.length_toList])

theorem Event.of_readings_iff (channels : EventChannels) (values : List Reading) (event : Option Event) :
    ofReadings? values = some event ↔ values = (channels.readings event).map (·.2) := by
  constructor
  · intro collected
    unfold ofReadings? at collected
    split at collected
    · rename_i title start finish description location comment contact
      simp only [Option.bind_eq_bind, Option.bind_eq_some_iff, Reading.text_iff] at collected
      obtain ⟨_, rfl, _, rfl, _, rfl, _, rfl, same⟩ := collected
      cases same
      rfl
    · cases collected
      exact channels.undefined_values.symm
    · cases collected
  · rintro rfl
    cases event with
    | none =>
        rw [channels.undefined_values]
        rfl
    | some event => simp [EventChannels.readings, ofReadings?, (Reading.text_iff _ _).mpr rfl]

namespace Board

def ofValues? : List Reading → Option Board
  | .switch isPresent :: values => do
      let current ← Event.ofReadings? (values.take 7)
      let next ← Event.ofReadings? (values.drop 7)
      if current.isSome = isPresent then some ⟨current, next⟩ else none
  | _ => none

def ofReadings? (readings : List (Channel × Reading)) : Option Board :=
  if readings.map (·.1) = Channel.all then ofValues? (readings.map (·.2)) else none

theorem readings_values (board : Board) : board.readings.map (·.2) = .switch board.isPresent ::
    ((Channel.current.readings board.current).map (·.2) ++ (Channel.next.readings board.next).map (·.2)) := by
  simp [readings]

theorem event_values_length (channels : EventChannels) (event : Option Event) :
    ((channels.readings event).map (·.2)).length = 7 := by
  cases event <;> simp [EventChannels.readings]

theorem of_values_iff (values : List Reading) (board : Board) :
    ofValues? values = some board ↔ values = board.readings.map (·.2) := by
  rw [readings_values]
  constructor
  · intro collected
    unfold ofValues? at collected
    split at collected
    · rename_i isPresent values
      obtain ⟨current, first, collected⟩ := Option.bind_eq_some_iff.mp collected
      obtain ⟨next, second, collected⟩ := Option.bind_eq_some_iff.mp collected
      rw [Event.of_readings_iff Channel.current] at first
      rw [Event.of_readings_iff Channel.next] at second
      by_cases present : current.isSome = isPresent
      · rw [if_pos present] at collected
        cases collected
        rw [← first, ← second, List.take_append_drop, ← present]
        rfl
      · rw [if_neg present] at collected
        cases collected
    · cases collected
  · rintro rfl
    have first := (Event.of_readings_iff Channel.current _ board.current).mpr rfl
    have second := (Event.of_readings_iff Channel.next _ board.next).mpr rfl
    simp only [ofValues?, List.take_left' (event_values_length _ _), List.drop_left' (event_values_length _ _),
      first, second, Option.bind_eq_bind, Option.bind_some, isPresent, if_true]

theorem of_readings_iff (readings : List (Channel × Reading)) (board : Board) :
    ofReadings? readings = some board ↔ readings = board.readings := by
  unfold ofReadings?
  constructor
  · intro collected
    by_cases channels : readings.map (·.1) = Channel.all
    · rw [if_pos channels, of_values_iff] at collected
      have same : readings.unzip = board.readings.unzip := by
        rw [List.unzip_eq_map, List.unzip_eq_map, channels, collected, board.readings_keys]
      rw [← List.zip_unzip readings, same, List.zip_unzip]
    · rw [if_neg channels] at collected
      cases collected
  · rintro rfl
    rw [if_pos board.readings_keys, of_values_iff]

theorem readings_lose_nothing (board : Board) :
    board.readings.map (·.1) = Channel.all ∧ Channel.all.Nodup ∧ (∀ channel, channel ∈ Channel.all) ∧
    (∀ channel reading, (channel, reading) ∈ board.readings ↔ reading = board.reading channel) ∧
    (∀ readings, ofReadings? readings = some board ↔ readings = board.readings) ∧
    ∀ other : Board, other.readings = board.readings ↔ other = board := by
  refine ⟨board.readings_keys, by decide, Channel.mem_all, ?_, fun readings => of_readings_iff readings board, ?_⟩
  · intro channel reading
    simp [readings_channels, Channel.mem_all, eq_comm]
  · intro other
    rw [← of_readings_iff, (of_readings_iff _ other).mpr rfl, Option.some_inj]

end Board

end NowNext
