import NowNext.Proofs.Json.Texts

set_option autoImplicit false

namespace NowNext.Json

mutual

def Sound : Json → Prop
  | .null | .bool _ | .number => True
  | .text value => value.isSome = true
  | .list items => SoundItems items
  | .object members => SoundMembers members

def SoundItems : List Json → Prop
  | [] => True
  | item :: items => item.Sound ∧ SoundItems items

def SoundMembers : List (Option String × Json) → Prop
  | [] => True
  | (key, value) :: members => key.isSome = true ∧ value.Sound ∧ SoundMembers members

end

def EndsNumber (rest : List Char) : Prop := ∀ c tail, rest = c :: tail → c ≠ '.' ∧ c ≠ 'e' ∧ c ≠ 'E'

theorem ends_number_cons (c : Char) (tail : List Char) (other : c ≠ '.' ∧ c ≠ 'e' ∧ c ≠ 'E') :
    EndsNumber (c :: tail) := by
  intro d rest same
  cases same
  exact other

-- The bound on the depth is twice the length, as a value in a list takes two steps.
def Reads (value : Json) : Prop :=
  ∀ depth rest, 2 * value.print.length ≤ depth → EndsNumber rest →
    readValue? depth (value.print ++ rest) = some (value, rest)

def ReadsItems (items : List Json) : Prop :=
  ∀ depth rest, 2 * (separate (printItems items)).length + 1 ≤ depth → items ≠ [] →
    readItems? depth (separate (printItems items) ++ ']' :: rest) = some (items, rest)

def ReadsMembers (members : List (Option String × Json)) : Prop :=
  ∀ depth rest, 2 * (separate (printMembers members)).length + 1 ≤ depth → members ≠ [] →
    readMembers? depth (separate (printMembers members) ++ '}' :: rest) = some (members, rest)

theorem skip_space_cons (c : Char) (rest : List Char) (dark : isSpace c = false) :
    skipSpace (c :: rest) = c :: rest := List.dropWhile_cons_of_neg (by simp [dark])

theorem print_head (value : Json) : ∃ c tail, value.print = c :: tail ∧ isSpace c = false ∧ c ≠ ']' := by
  cases value with
  | null => exact ⟨'n', _, by rw [print], rfl, by decide⟩
  | bool value =>
      cases value with
      | true => exact ⟨'t', _, by rw [print], rfl, by decide⟩
      | false => exact ⟨'f', _, by rw [print], rfl, by decide⟩
  | number => exact ⟨'0', _, by rw [print], rfl, by decide⟩
  | text value => exact ⟨'"', _, by rw [print, printText]; rfl, rfl, by decide⟩
  | list items => exact ⟨'[', _, by rw [print]; rfl, rfl, by decide⟩
  | object members => exact ⟨'{', _, by rw [print]; rfl, rfl, by decide⟩

theorem skip_number (rest : List Char) (ends : EndsNumber rest) : skipNumber? ('0' :: rest) = some rest := by
  have decimals : skipDecimals? rest = some rest := by
    unfold skipDecimals?
    split
    · exact absurd rfl (ends '.' _ rfl).1
    · rfl
  have exponent : skipExponent? rest = some rest := by
    unfold skipExponent?
    split
    case h_7 => rfl
    case h_1 | h_2 | h_5 => exact absurd rfl (ends 'e' _ rfl).2.1
    all_goals exact absurd rfl (ends 'E' _ rfl).2.2
  change ((skipDecimals? rest).bind skipExponent?) = some rest
  rw [decimals]
  exact exponent

theorem deep_enough (value : Json) (depth : Nat) (deep : 2 * value.print.length ≤ depth) : ∃ n, depth = n + 1 := by
  obtain ⟨c, tail, shown, _⟩ := print_head value
  rw [shown, List.length_cons] at deep
  exact Nat.exists_eq_add_of_lt (by omega : 0 < depth) |>.imp fun n same => by omega

theorem number_reads : Reads .number := by
  intro depth rest deep ends
  obtain ⟨depth, rfl⟩ := deep_enough _ depth deep
  rw [print, readValue?]
  change (skipNumber? ('0' :: rest)).map _ = _
  rw [skip_number rest ends]
  rfl

theorem text_reads (value : String) : Reads (.text (some value)) := by
  intro depth rest deep _
  obtain ⟨depth, rfl⟩ := deep_enough _ depth deep
  rw [print, readValue?]
  change (readText? (value.toList.flatMap escape ++ ['"'] ++ rest)).map _ = _
  rw [List.append_assoc, List.singleton_append, read_text]
  rfl

theorem separate_head (c : Char) (tail : List Char) (others : List (List Char)) :
    ∃ more, separate ((c :: tail) :: others) = c :: more := by
  cases others with
  | nil => exact ⟨tail, rfl⟩
  | cons other others => exact ⟨_, rfl⟩

theorem separate_more (item other : List Char) (others : List (List Char)) :
    separate (item :: other :: others) = item ++ ',' :: separate (other :: others) := rfl

theorem read_list (depth : Nat) (c : Char) (tail : List Char) (dark : isSpace c = false) (more : c ≠ ']') :
    readValue? (depth + 1) ('[' :: c :: tail) =
      (readItems? depth (c :: tail)).map fun found => (.list found.1, found.2) := by
  have bracket : skipSpace ('[' :: c :: tail) = '[' :: c :: tail := skip_space_cons '[' _ rfl
  rw [readValue?, bracket]
  simp only [skip_space_cons c tail dark]
  split
  · rename_i same
    exact absurd (List.cons.inj same).1 more
  · rfl

theorem read_object (depth : Nat) (tail : List Char) : readValue? (depth + 1) ('{' :: '"' :: tail) =
    (readMembers? depth ('"' :: tail)).map fun found => (.object found.1, found.2) := by
  rw [readValue?]
  rfl

theorem list_reads (items : List Json) (each : ReadsItems items) : Reads (.list items) := by
  intro depth rest deep _
  obtain ⟨depth, rfl⟩ := deep_enough _ depth deep
  rw [print] at deep
  rw [print, List.append_assoc, List.singleton_append, List.cons_append]
  cases items with
  | nil =>
      rw [readValue?]
      rfl
  | cons item items =>
      obtain ⟨c, tail, shown, dark, more⟩ := print_head item
      obtain ⟨rear, split⟩ := separate_head c tail (printItems items)
      have found := each depth rest (by simp at deep; omega) (by simp)
      rw [printItems, shown, split, List.cons_append] at found ⊢
      rw [read_list depth c _ dark more, found]
      rfl

theorem object_reads (members : List (Option String × Json)) (each : ReadsMembers members) :
    Reads (.object members) := by
  intro depth rest deep _
  obtain ⟨depth, rfl⟩ := deep_enough _ depth deep
  rw [print] at deep
  rw [print, List.append_assoc, List.singleton_append, List.cons_append]
  cases members with
  | nil =>
      rw [readValue?]
      rfl
  | cons member members =>
      obtain ⟨key, value⟩ := member
      obtain ⟨rear, split⟩ := separate_head '"'
        ((key.getD "").toList.flatMap escape ++ ['"'] ++ ':' :: value.print) (printMembers members)
      have found := each depth rest (by simp at deep; omega) (by simp)
      have shown : printText (key.getD "") ++ ':' :: value.print =
          '"' :: ((key.getD "").toList.flatMap escape ++ ['"'] ++ ':' :: value.print) := rfl
      rw [printMembers, shown, split, List.cons_append] at found ⊢
      rw [read_object, found]
      rfl

theorem items_read (item : Json) (items : List Json) (first : Reads item) (others : ReadsItems items) :
    ReadsItems (item :: items) := by
  intro depth rest deep _
  cases depth with
  | zero => cases deep
  | succ depth =>
      cases items with
      | nil =>
          rw [printItems, printItems, separate] at deep ⊢
          rw [readItems?, first depth _ (by omega) (ends_number_cons ']' rest (by decide))]
          rfl
      | cons other items =>
          have next := others depth rest
          rw [printItems, printItems, separate_more, List.length_append, List.length_cons] at deep
          rw [printItems] at next
          rw [printItems, printItems, separate_more, List.append_assoc, List.cons_append, readItems?,
            first depth _ (by omega) (ends_number_cons ',' _ (by decide))]
          change (readItems? depth (separate (other.print :: printItems items) ++ ']' :: rest)).map _ = _
          rw [next (by omega) (by simp)]
          rfl

theorem print_member (key : String) (value : Json) (rest : List Char) :
    printText key ++ ':' :: value.print ++ rest =
      '"' :: (key.toList.flatMap escape ++ '"' :: ':' :: (value.print ++ rest)) := by
  simp [printText]

theorem members_read (key : String) (value : Json) (members : List (Option String × Json)) (first : Reads value)
    (others : ReadsMembers members) : ReadsMembers ((some key, value) :: members) := by
  intro depth rest deep _
  cases depth with
  | zero => cases deep
  | succ depth =>
      have read (tail : List Char) : readText? (key.toList.flatMap escape ++ '"' :: tail) = some (some key, tail) :=
        read_text key tail
      cases members with
      | nil =>
          rw [printMembers, printMembers, separate, Option.getD_some] at deep ⊢
          rw [List.length_append, List.length_cons] at deep
          rw [print_member, readMembers?]
          change (readText? _).bind _ = _
          rw [read]
          change (readValue? depth _).bind _ = _
          rw [first depth _ (by omega) (ends_number_cons '}' rest (by decide))]
          rfl
      | cons other members =>
          obtain ⟨name, item⟩ := other
          have next := others depth rest
          rw [printMembers, printMembers, separate_more, Option.getD_some, List.length_append, List.length_append,
            List.length_cons, List.length_cons] at deep
          rw [printMembers] at next
          rw [printMembers, printMembers, separate_more, Option.getD_some, List.append_assoc, List.cons_append,
            print_member, readMembers?]
          change (readText? _).bind _ = _
          rw [read]
          change (readValue? depth _).bind _ = _
          rw [first depth _ (by omega) (ends_number_cons ',' _ (by decide))]
          change (readMembers? depth _).map _ = _
          rw [next (by omega) (by simp)]
          rfl

theorem name_reads (value : Json) (name : List Char) (shown : value.print = name)
    (read : ∀ depth rest, readValue? (depth + 1) (name ++ rest) = some (value, rest)) : Reads value := by
  intro depth rest deep _
  obtain ⟨depth, rfl⟩ := deep_enough _ depth deep
  rw [shown]
  exact read depth rest

theorem sound_reads (value : Json) (sound : value.Sound) : Reads value := by
  refine (print.mutual_induct (fun value => value.Sound → Reads value)
    (fun members => SoundMembers members → ReadsMembers members) (fun items => SoundItems items → ReadsItems items)
    ?null ?true ?false ?number ?text ?list ?object ?noItem ?item ?noMember ?member).1 value sound
  case null => exact fun _ => name_reads .null _ (by rw [print]) fun depth rest => by rw [readValue?]; rfl
  case true => exact fun _ => name_reads (.bool true) _ (by rw [print]) fun depth rest => by rw [readValue?]; rfl
  case false => exact fun _ => name_reads (.bool false) _ (by rw [print]) fun depth rest => by rw [readValue?]; rfl
  case number => exact fun _ => number_reads
  case text =>
    intro value sound
    rw [Sound] at sound
    obtain ⟨shown, rfl⟩ := Option.isSome_iff_exists.mp sound
    exact text_reads shown
  case list =>
    intro items ih sound
    rw [Sound] at sound
    exact list_reads items (ih sound)
  case object =>
    intro members ih sound
    rw [Sound] at sound
    exact object_reads members (ih sound)
  case noItem => exact fun _ _ _ _ none => absurd rfl none
  case item =>
    intro item items first others sound
    rw [SoundItems] at sound
    exact items_read item items (first sound.1) (others sound.2)
  case noMember => exact fun _ _ _ _ none => absurd rfl none
  case member =>
    intro key value members first others sound
    rw [SoundMembers] at sound
    obtain ⟨name, rfl⟩ := Option.isSome_iff_exists.mp sound.1
    exact members_read name value members (first sound.2.1) (others sound.2.2)

theorem read_printed (value : Json) (sound : value.Sound) : ofString? value.toString = some value := by
  have found := sound_reads value sound (2 * value.print.length + 2) [] (by omega) (fun _ _ same => by cases same)
  rw [List.append_nil] at found
  rw [ofString?, toString, String.toList_ofList]
  simp only [Option.bind_eq_bind]
  rw [found]
  rfl

end NowNext.Json
