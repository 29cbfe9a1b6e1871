import Mathlib.Order.Bounds.Basic
import NowNext.Relay.Basic

set_option autoImplicit false

namespace NowNext.Relay

theorem slots_for_least (capacity : Nat) :
    IsLeast {slots : Nat | slots.isPowerOfTwo ∧ capacity ≤ slots} (slotsFor capacity) := by
  unfold slotsFor
  split
  · rename_i small
    refine ⟨⟨⟨0, rfl⟩, small⟩, ?_⟩
    rintro slots ⟨⟨exponent, rfl⟩, _⟩
    exact Nat.one_le_two_pow
  · rename_i large
    have above : capacity - 1 < Nat.pow 2 ((capacity - 1).log2 + 1) := Nat.lt_log2_self
    refine ⟨⟨⟨_, rfl⟩, by omega⟩, ?_⟩
    rintro slots ⟨⟨exponent, rfl⟩, enough⟩
    have shorter : (capacity - 1).log2 < exponent := (Nat.log2_lt (by omega)).mpr (by omega)
    exact Nat.pow_le_pow_right Nat.two_pos shorter

variable {relay : Relay}

theorem keep_slot (relay : Relay) (update : Update) (place : Fin relay.slots) :
    (relay.keep update).ring[place] =
      if relay.place relay.next = place then some ⟨relay.next, update⟩ else relay.ring[place] := by
  simp only [Fin.ext_iff]
  exact Vector.getElem_set (relay.place relay.next).isLt place.isLt

theorem kept_keep (relay : Relay) (update : Update) (number : Nat) : (relay.keep update).kept? number =
    if number = relay.next then some update
    else if number % relay.slots = relay.next % relay.slots then none
    else relay.kept? number := by
  have slot := relay.keep_slot update (relay.place number)
  have shares : relay.place relay.next = relay.place number ↔ number % relay.slots = relay.next % relay.slots := by
    rw [Fin.ext_iff]
    exact eq_comm
  simp only [shares] at slot
  change ((relay.keep update).ring[relay.place number].filter _).map Kept.update = _
  rw [slot]
  by_cases own : number = relay.next
  · simp [own]
  · by_cases shared : number % relay.slots = relay.next % relay.slots
    · simp [own, Ne.symm own, shared]
    · simp only [own, shared, if_false]
      rfl

structure Holds (relay : Relay) (log : List Update) : Prop where
  next : relay.next = log.length
  kept : ∀ number, relay.kept? number = if log.length ≤ number + relay.slots then log[number]? else none

theorem fresh_holds (capacity : Nat) : (ofCapacity capacity).Holds [] := by
  refine ⟨rfl, fun number => ?_⟩
  have vacant : (ofCapacity capacity).ring[(ofCapacity capacity).place number] = none :=
    Vector.getElem_replicate _
  simp [kept?, vacant]

theorem round_apart (slots earlier later : Nat) (order : earlier < later) (shared : earlier % slots = later % slots) :
    earlier + slots ≤ later := by
  have apart : slots ∣ later - earlier := Nat.dvd_of_mod_eq_zero (Nat.sub_mod_eq_zero_of_mod_eq shared.symm)
  have round : slots ≤ later - earlier := Nat.le_of_dvd (by omega) apart
  omega

theorem keep_holds {log : List Update} (holds : relay.Holds log) (update : Update) :
    (relay.keep update).Holds (log ++ [update]) := by
  have next := holds.next
  refine ⟨?_, fun number => ?_⟩
  · change relay.next + 1 = _
    rw [next, List.length_append, List.length_singleton]
  · change _ = if (log ++ [update]).length ≤ number + relay.slots then _ else none
    have positive := relay.slots_pos
    rw [kept_keep, holds.kept, next, List.length_append, List.length_singleton]
    by_cases own : number = log.length
    · rw [if_pos own, own, if_pos (by omega), List.getElem?_concat_length]
    · rw [if_neg own]
      rcases Nat.lt_or_gt_of_ne own with before | beyond
      · rw [List.getElem?_append_left before]
        by_cases shared : number % relay.slots = log.length % relay.slots
        · have apart := round_apart relay.slots number log.length before shared
          rw [if_pos shared, if_neg (by omega)]
        · rw [if_neg shared]
          -- The update that goes from the window now is the one that shares the slot.
          have other : number + relay.slots ≠ log.length := by
            rintro same
            rw [← same, Nat.add_mod_right] at shared
            exact shared rfl
          by_cases inside : log.length ≤ number + relay.slots
          · rw [if_pos inside, if_pos (by omega)]
          · rw [if_neg inside, if_neg (by omega)]
      · have missing : (log ++ [update])[number]? = none := by
          rw [List.getElem?_eq_none_iff, List.length_append, List.length_singleton]
          omega
        have absent : log[number]? = none := List.getElem?_eq_none_iff.mpr (by omega)
        simp only [missing, absent, ite_self]

end NowNext.Relay
