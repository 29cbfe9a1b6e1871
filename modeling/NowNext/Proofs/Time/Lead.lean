import NowNext.Proofs.Time.Reference

set_option autoImplicit false

namespace NowNext.LeadTime

theorem apply_le (shorter longer : LeadTime) (earlier later : Instant) (plainEarlier : earlier.isLeap = false)
    (plainLater : later.isLeap = false) (leads : shorter.seconds ≤ longer.seconds) (clocks : earlier ≤ later) :
    shorter.apply earlier ≤ longer.apply later := by
  have counts := (Instant.le_iff_count earlier later plainEarlier plainLater).mp clocks
  obtain ⟨plainFrom, countFrom⟩ := shorter.apply_plain earlier plainEarlier
  obtain ⟨plainTo, countTo⟩ := longer.apply_plain later plainLater
  rw [Instant.le_iff_count _ _ plainFrom plainTo, countFrom, countTo]
  omega

theorem lead_saturates (lead : LeadTime) (clock : Instant) (plain : clock.isLeap = false) :
    let sum := clock.count + lead.seconds * nanosPerSecond
    (lead.apply clock).isLeap = false ∧
    (Instant.first.count ≤ sum ∧ sum ≤ Instant.last.count → (lead.apply clock).count = sum) ∧
    (Instant.last.count < sum → lead.apply clock = Instant.last) ∧
    (sum < Instant.first.count → lead.apply clock = Instant.first) ∧
    (∀ later : Instant, later.isLeap = false → clock ≤ later → lead.apply clock ≤ lead.apply later) ∧
    ∀ longer : LeadTime, lead.seconds ≤ longer.seconds → lead.apply clock ≤ longer.apply clock := by
  intro sum
  have ends : Instant.first.count ≤ Instant.last.count := by decide
  obtain ⟨plainApplied, counted⟩ := lead.apply_plain clock plain
  change _ = max Instant.first.count (min Instant.last.count sum) at counted
  refine ⟨plainApplied, ?_, ?_, ?_, ?_, ?_⟩
  · rintro ⟨lower, upper⟩
    rw [counted]
    omega
  · intro above
    exact Instant.eq_of_count _ _ plainApplied rfl (by omega)
  · intro below
    exact Instant.eq_of_count _ _ plainApplied rfl (by omega)
  · intro later plainLater clocks
    exact apply_le lead lead clock later plain plainLater (Int.le_refl _) clocks
  · intro longer leads
    exact apply_le lead longer clock clock plain plain leads (le_refl clock)

-- From the first instant to the last one there are 16544868105599 seconds and a fraction. A lead that is
-- one second longer is still a span, the longest lead is not.
theorem lead_saturates_at_bounds :
    Instant.first.isLeap = false ∧ Instant.last.isLeap = false ∧
      (apply ⟨16544868105599⟩ Instant.first).count = Instant.last.count - 999999999 ∧
      (span? ⟨16544868105600⟩).isSome = true ∧ apply ⟨16544868105600⟩ Instant.first = Instant.last ∧
      (span? ⟨9223372036854775807⟩).isSome = false ∧ apply ⟨9223372036854775807⟩ Instant.first = Instant.last ∧
      apply ⟨-9223372036854775808⟩ Instant.last = Instant.first := by
  obtain ⟨_, exact, _⟩ := lead_saturates ⟨16544868105599⟩ Instant.first rfl
  obtain ⟨_, _, above, _⟩ := lead_saturates ⟨16544868105600⟩ Instant.first rfl
  obtain ⟨_, _, beyond, _⟩ := lead_saturates ⟨9223372036854775807⟩ Instant.first rfl
  obtain ⟨_, _, _, below, _⟩ := lead_saturates ⟨-9223372036854775808⟩ Instant.last rfl
  exact ⟨rfl, rfl, exact (by decide), rfl, above (by decide), rfl, beyond (by decide), below (by decide)⟩

end NowNext.LeadTime
