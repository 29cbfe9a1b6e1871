import NowNext.Keeper.Run
import NowNext.Proofs.Time.Order

set_option autoImplicit false

namespace NowNext

namespace Instant

theorem first_count : first.count = -8334601228800000000000 := rfl

theorem last_count : last.count = 8210266876799999999999 := rfl

theorem plain_nanos (t : Instant) (plain : t.isLeap = false) : t.nanos < 1000000000 :=
  Nat.lt_of_not_le (of_decide_eq_false plain)

theorem lt_iff_count (a b : Instant) (plainA : a.isLeap = false) (plainB : b.isLeap = false) :
    a < b ↔ a.count < b.count := by
  have nanosA := plain_nanos a plainA
  have nanosB := plain_nanos b plainB
  change a.rank < b.rank ↔ _
  simp only [rank, count, nanosPerSecond]
  omega

theorem le_iff_count (a b : Instant) (plainA : a.isLeap = false) (plainB : b.isLeap = false) :
    a ≤ b ↔ a.count ≤ b.count := by
  rw [← not_lt, lt_iff_count b a plainB plainA, Int.not_lt]

theorem eq_of_count (a b : Instant) (plainA : a.isLeap = false) (plainB : b.isLeap = false)
    (same : a.count = b.count) : a = b :=
  le_antisymm ((le_iff_count a b plainA plainB).mpr (Int.le_of_eq same))
    ((le_iff_count b a plainB plainA).mpr (Int.le_of_eq same.symm))

theorem count_bounds (t : Instant) (plain : t.isLeap = false) :
    first.count ≤ t.count ∧ t.count ≤ last.count := by
  have nanos := plain_nanos t plain
  have lower := t.seconds_ge
  have upper := t.seconds_le
  simp only [firstSecond, lastSecond] at lower upper
  rw [first_count, last_count]
  simp only [count, nanosPerSecond]
  omega

theorem of_count_inside (n : Int) (lower : first.count ≤ n) (upper : n ≤ last.count) :
    ∃ t, ofCount? n = some t ∧ t.isLeap = false ∧ t.count = n := by
  rw [first_count] at lower
  rw [last_count] at upper
  have inside : firstSecond ≤ n / (nanosPerSecond : Nat) ∧ n / (nanosPerSecond : Nat) ≤ lastSecond ∧
      (n % (nanosPerSecond : Nat)).toNat < 2 * nanosPerSecond ∧
      (nanosPerSecond ≤ (n % (nanosPerSecond : Nat)).toNat → n / (nanosPerSecond : Nat) % 60 = 59) := by
    simp only [firstSecond, lastSecond, nanosPerSecond]
    omega
  refine ⟨⟨_, _, inside.1, inside.2.1, inside.2.2.1, inside.2.2.2⟩, ?_, ?_, ?_⟩
  · rw [ofCount?, of?, dif_pos inside]
  · apply decide_eq_false
    simp only [nanosPerSecond]
    omega
  · simp only [count, nanosPerSecond]
    omega

theorem of_count_outside (n : Int) (outside : n < first.count ∨ last.count < n) : ofCount? n = none := by
  rw [first_count, last_count] at outside
  rw [ofCount?, of?, dif_neg]
  simp only [firstSecond, lastSecond, nanosPerSecond]
  omega

theorem of_count_some (n : Int) (t : Instant) (found : ofCount? n = some t) :
    (first.count ≤ n ∧ n ≤ last.count) ∧ t.isLeap = false ∧ t.count = n := by
  by_cases inside : first.count ≤ n ∧ n ≤ last.count
  · obtain ⟨other, again, plain, counted⟩ := of_count_inside n inside.1 inside.2
    cases Option.some.inj (found.symm.trans again)
    exact ⟨inside, plain, counted⟩
  · rw [of_count_outside n (by omega)] at found
    cases found

theorem of_count_none (n : Int) (missing : ofCount? n = none) : last.count < n ∨ n < first.count := by
  by_cases inside : first.count ≤ n ∧ n ≤ last.count
  · obtain ⟨t, found, _⟩ := of_count_inside n inside.1 inside.2
    rw [found] at missing
    cases missing
  · omega

theorem plus_plain (t : Instant) (plain : t.isLeap = false) (delta : Int) :
    t.plus? delta = ofCount? (t.count + delta) := by
  simp [plus?, plain]

theorem minus_plain (a b : Instant) (plainA : a.isLeap = false) (plainB : b.isLeap = false) :
    a.minus b = a.count - b.count := by
  simp [minus, plainA, plainB]

theorem wait_plain (now target : Instant) (plainNow : now.isLeap = false) (plainTarget : target.isLeap = false) :
    (now.wait target : Int) = max 0 (target.count - now.count) := by
  rw [wait, minus_plain target now plainTarget plainNow]
  omega

theorem plus_millis_plain (t : Instant) (plain : t.isLeap = false) (millis : Nat) :
    (t.plusMillis millis).isLeap = false ∧
      (t.plusMillis millis).count = min last.count (t.count + millis * 1000000) := by
  have bounds := count_bounds t plain
  have nanos : ((millis * nanosPerMilli : Nat) : Int) = millis * 1000000 := by
    simp only [nanosPerMilli]
    omega
  rw [plusMillis, plus_plain t plain, nanos]
  by_cases inside : t.count + millis * 1000000 ≤ last.count
  · obtain ⟨later, found, plainLater, counted⟩ :=
      of_count_inside (t.count + millis * 1000000) (by omega) inside
    rw [found]
    exact ⟨plainLater, by simp only [Option.getD_some]; omega⟩
  · rw [of_count_outside _ (.inr (by omega))]
    exact ⟨rfl, by simp only [Option.getD_none]; omega⟩

end Instant

namespace LeadTime

theorem span_some (lead : LeadTime) (delta : Int) (short : lead.span? = some delta) :
    delta = lead.seconds * 1000000000 := by
  unfold span? at short
  by_cases bounded : (lead.seconds * 1000).natAbs ≤ longestMillis
  · rw [if_pos bounded] at short
    exact (Option.some.inj short).symm
  · rw [if_neg bounded] at short
    cases short

-- All instants are much closer to each other than the longest span.
theorem span_none (lead : LeadTime) (long : lead.span? = none) :
    Instant.last.count - Instant.first.count < lead.seconds * 1000000000 ∨
      lead.seconds * 1000000000 < Instant.first.count - Instant.last.count := by
  have beyond : ¬(lead.seconds * 1000).natAbs ≤ longestMillis := by
    intro bounded
    simp [span?, bounded] at long
  simp only [longestMillis] at beyond
  rw [Instant.first_count, Instant.last_count]
  omega

theorem apply_plain (lead : LeadTime) (clock : Instant) (plain : clock.isLeap = false) :
    (lead.apply clock).isLeap = false ∧
      (lead.apply clock).count = max Instant.first.count
        (min Instant.last.count (clock.count + lead.seconds * 1000000000)) := by
  have bounds := Instant.count_bounds clock plain
  have ends : Instant.first.count ≤ Instant.last.count := by decide
  cases reached : lead.span?.bind clock.plus? with
  | some shifted =>
      obtain ⟨delta, short, moved⟩ := Option.bind_eq_some_iff.mp reached
      rw [Instant.plus_plain clock plain, lead.span_some delta short] at moved
      obtain ⟨inside, plainShifted, counted⟩ := Instant.of_count_some _ _ moved
      rw [apply, reached]
      exact ⟨plainShifted, by simp only [Option.getD_some]; omega⟩
  | none =>
      have outside : Instant.last.count < clock.count + lead.seconds * 1000000000 ∨
          clock.count + lead.seconds * 1000000000 < Instant.first.count := by
        cases short : lead.span? with
        | none =>
            have long := lead.span_none short
            omega
        | some delta =>
            rw [short, Option.bind_some, Instant.plus_plain clock plain, lead.span_some delta short] at reached
            exact Instant.of_count_none _ reached
      rw [apply, reached]
      -- Only the sign tells which bound was passed.
      by_cases ahead : 0 ≤ lead.seconds
      · rw [if_pos ahead]
        exact ⟨rfl, by simp only [Option.getD_none]; omega⟩
      · rw [if_neg ahead]
        exact ⟨rfl, by simp only [Option.getD_none]; omega⟩

end LeadTime

namespace Stage

def referenceAt (stage : Stage) (elapsed : Nat) : Instant :=
  stage.settings.lead.apply (stage.opening.plusMillis elapsed)

def isExact (stage : Stage) (elapsed : Nat) : Bool :=
  ((stage.opening.plus? (elapsed * nanosPerMilli : Nat)).bind fun wall =>
    wall.plus? (stage.settings.lead.seconds * nanosPerSecond)).isSome

variable {stage : Stage}

theorem reference_plain (plain : stage.opening.isLeap = false) (elapsed : Nat) :
    (stage.referenceAt elapsed).isLeap = false :=
  (LeadTime.apply_plain _ _ (Instant.plus_millis_plain _ plain elapsed).1).1

theorem reference_count (plain : stage.opening.isLeap = false) (elapsed : Nat) :
    (stage.referenceAt elapsed).count = max Instant.first.count (min Instant.last.count
      (min Instant.last.count (stage.opening.count + elapsed * 1000000) +
        stage.settings.lead.seconds * 1000000000)) := by
  obtain ⟨plainWall, wall⟩ := Instant.plus_millis_plain stage.opening plain elapsed
  rw [referenceAt, (LeadTime.apply_plain _ _ plainWall).2, wall]

theorem reference_moves (plain : stage.opening.isLeap = false) (earlier later : Nat) (order : earlier ≤ later) :
    (stage.referenceAt earlier).count ≤ (stage.referenceAt later).count ∧
      (stage.referenceAt later).count ≤
        (stage.referenceAt earlier).count + (later - earlier) * 1000000 := by
  rw [reference_count plain earlier, reference_count plain later]
  omega

theorem exact_iff (plain : stage.opening.isLeap = false) (elapsed : Nat) : stage.isExact elapsed = true ↔
    stage.opening.count + elapsed * 1000000 ≤ Instant.last.count ∧
      Instant.first.count ≤ stage.opening.count + elapsed * 1000000 + stage.settings.lead.seconds * 1000000000 ∧
      stage.opening.count + elapsed * 1000000 + stage.settings.lead.seconds * 1000000000 ≤
        Instant.last.count := by
  have bounds := Instant.count_bounds stage.opening plain
  have nanos : ((elapsed * nanosPerMilli : Nat) : Int) = elapsed * 1000000 := by
    simp only [nanosPerMilli]
    omega
  have seconds : ((nanosPerSecond : Nat) : Int) = 1000000000 := rfl
  rw [isExact, Instant.plus_plain _ plain, nanos, seconds]
  constructor
  · intro exactly
    obtain ⟨reference, reached⟩ := Option.isSome_iff_exists.mp exactly
    obtain ⟨wall, opened, shifted⟩ := Option.bind_eq_some_iff.mp reached
    obtain ⟨wallBounds, plainWall, wallCount⟩ := Instant.of_count_some _ _ opened
    rw [Instant.plus_plain _ plainWall, wallCount] at shifted
    exact ⟨wallBounds.2, (Instant.of_count_some _ _ shifted).1⟩
  · rintro ⟨wallBound, lower, upper⟩
    obtain ⟨wall, opened, plainWall, wallCount⟩ := Instant.of_count_inside _ (by omega) wallBound
    rw [opened, Option.bind_some, Instant.plus_plain _ plainWall, wallCount]
    obtain ⟨reference, shifted, _⟩ := Instant.of_count_inside _ lower upper
    rw [shifted]
    rfl

theorem reference_exact (plain : stage.opening.isLeap = false) (elapsed : Nat)
    (exactly : stage.isExact elapsed = true) :
    (stage.referenceAt elapsed).count =
      stage.opening.count + elapsed * 1000000 + stage.settings.lead.seconds * 1000000000 := by
  have bounds := (exact_iff plain elapsed).mp exactly
  rw [reference_count plain elapsed]
  omega

theorem exact_between (plain : stage.opening.isLeap = false) (later : Nat) (opens : stage.isExact 0 = true)
    (ends : stage.isExact later = true) (now : Nat) (order : now ≤ later) : stage.isExact now = true := by
  rw [exact_iff plain] at opens ends ⊢
  omega

end Stage

end NowNext
