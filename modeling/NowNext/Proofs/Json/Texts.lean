import NowNext.Json.Printer
import NowNext.Json.Reader

set_option autoImplicit false

namespace NowNext

theorem char_of_number (c : Char) : charOf? c.toNat = some c := by
  have valid : c.toNat.isValidChar := c.valid
  rw [charOf?, if_pos valid, Char.ofNat_toNat]

namespace Json

def Spells (printed : List Char) (c : Char) : Prop :=
  ∃ unit, (∀ rest, readUnits? (printed ++ rest) = (readUnits? rest).map fun found => (unit :: found.1, found.2)) ∧
    ∀ units, join? (unit :: units) = (join? units).map (c :: ·)

theorem join_char (c : Char) (units : List Unit16) : join? (.char c :: units) = (join? units).map (c :: ·) := by
  rw [join?]

theorem join_unit (c : Char) (low : c.toNat < 0xD800) (units : List Unit16) :
    join? (.unit c.toNat :: units) = (join? units).map (c :: ·) := by
  have single (rest : List Unit16) : (do
      let d ← charOf? c.toNat
      (join? rest).map (d :: ·)) = (join? rest).map (c :: ·) := by
    rw [char_of_number]
    rfl
  cases units with
  | nil => exact single []
  | cons unit rest =>
      cases unit with
      | char d => exact single (.char d :: rest)
      | unit second =>
          rw [join?, if_neg fun pair => Nat.not_le_of_lt low pair.1]
          exact single (.unit second :: rest)

theorem short_spells (e c : Char) (plain : plainEscape? e = some c) : Spells ['\\', e] c := by
  refine ⟨.char c, fun rest => ?_, join_char c⟩
  have short : e ≠ 'u' := by
    intro same
    rw [same] at plain
    cases plain
  change readUnits? ('\\' :: e :: rest) = _
  rw [readUnits?.eq_4 e rest fun _ _ _ _ _ same _ => short same, plain]
  cases readUnits? rest <;> rfl

theorem control_spells (c : Char) (control : c.toNat < 0x20) :
    Spells ['\\', 'u', '0', '0', Nat.digitChar (c.toNat / 16), Nat.digitChar (c.toNat % 16)] c := by
  have number : ∀ n < 0x20, ofHex? ['0', '0', Nat.digitChar (n / 16), Nat.digitChar (n % 16)] = some n := by decide
  refine ⟨.unit c.toNat, fun rest => ?_, join_unit c (by omega)⟩
  change readUnits? ('\\' :: 'u' :: '0' :: '0' :: Nat.digitChar (c.toNat / 16) :: Nat.digitChar (c.toNat % 16) ::
    rest) = _
  rw [readUnits?.eq_3, number c.toNat control]
  cases readUnits? rest <;> rfl

theorem plain_spells (c : Char) (quote : c ≠ '"') (escape : c ≠ '\\') (graphic : ¬ c.toNat < 0x20) :
    Spells [c] c := by
  refine ⟨.char c, fun rest => ?_, join_char c⟩
  change readUnits? (c :: rest) = _
  rw [readUnits?.eq_5 c rest quote (fun _ _ _ _ _ same _ => escape same) fun _ _ same _ => escape same, if_neg graphic]
  cases readUnits? rest <;> rfl

theorem escape_spells (c : Char) : Spells (escape c) c := by
  have short (e d : Char) (plain : plainEscape? e = some d) (same : c = d) : Spells ['\\', e] c :=
    short_spells e c (by rw [plain, same])
  unfold escape
  split
  · exact short '"' _ rfl ‹_›
  split
  · exact short '\\' _ rfl ‹_›
  split
  · exact short 'b' _ rfl ‹_›
  split
  · exact short 'f' _ rfl ‹_›
  split
  · exact short 'n' _ rfl ‹_›
  split
  · exact short 'r' _ rfl ‹_›
  split
  · exact short 't' _ rfl ‹_›
  split
  · exact control_spells c ‹_›
  · exact plain_spells c ‹_› ‹_› ‹_›

theorem read_units (value rest : List Char) : ∃ units,
    readUnits? (value.flatMap escape ++ '"' :: rest) = some (units, rest) ∧ join? units = some value := by
  induction value with
  | nil => exact ⟨[], rfl, rfl⟩
  | cons c value ih =>
      obtain ⟨units, read, joined⟩ := ih
      obtain ⟨unit, spelled, join⟩ := escape_spells c
      refine ⟨unit :: units, ?_, ?_⟩
      · rw [List.flatMap_cons, List.append_assoc, spelled, read]
        rfl
      · rw [join, joined]
        rfl

theorem read_text (value : String) (rest : List Char) :
    readText? (value.toList.flatMap escape ++ '"' :: rest) = some (some value, rest) := by
  obtain ⟨units, read, joined⟩ := read_units value.toList rest
  simp only [readText?, read, joined, Option.bind_eq_bind, Option.bind_some, Option.map_some, String.ofList_toList]

end Json

end NowNext
