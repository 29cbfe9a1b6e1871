import NowNext.Proofs.Text.Digits
import NowNext.Proofs.Time.Days
import NowNext.Time.Reader
import NowNext.Time.Written

set_option autoImplicit false

namespace NowNext

theorem digit_not_blank (c : Char) (digit : isDigit c = true) : isBlank c = false := by
  have none : ∀ n < 58, 48 ≤ n → (blankRanges.any fun range => range.1 ≤ n && n ≤ range.2) = false := by decide
  simp only [isDigit, Bool.and_eq_true, decide_eq_true_eq] at digit
  exact none c.toNat (Nat.lt_succ_of_le digit.2) digit.1

theorem skip_blanks_cons (c : Char) (rest : List Char) (dark : isBlank c = false) :
    skipBlanks (c :: rest) = c :: rest := List.dropWhile_cons_of_neg (by simp [dark])

theorem padded_head (width n : Nat) : ∃ c tail, padded width n = c :: tail ∧ isDigit c = true := by
  obtain ⟨c, tail, shown⟩ := List.exists_cons_of_ne_nil (padded_ne_nil width n)
  exact ⟨c, tail, shown, padded_all width n c (by rw [shown]; exact List.mem_cons_self)⟩

theorem skip_blanks_padded (width n : Nat) (rest : List Char) :
    skipBlanks (padded width n ++ rest) = padded width n ++ rest := by
  obtain ⟨c, tail, shown, digit⟩ := padded_head width n
  rw [shown, List.cons_append]
  exact skip_blanks_cons c _ (digit_not_blank c digit)

theorem Date.valid_short (date : Date) (valid : date.valid = true) : date.month < 100 ∧ date.day < 100 := by
  simp only [Date.valid, Bool.and_eq_true, decide_eq_true_eq] at valid
  obtain ⟨⟨⟨_, months⟩, _⟩, days⟩ := valid
  have most : Date.daysIn date.year date.month ≤ 31 := by
    unfold Date.daysIn
    split
    · split <;> decide
    all_goals decide
  omega

namespace Instant

theorem read_padded (n : Nat) (short : n < 100) (rest : List Char) :
    readShort? (padded 2 n ++ rest) = some (n, rest) := by
  have run := take_digits_run 2 (padded 2 n) rest (padded_ne_nil 2 n) (padded_all 2 n)
    (.inl (padded_length 2 n (by decide) short))
  rw [readShort?, skip_blanks_padded, run]
  change some (ofDigits (padded 2 n), rest) = _
  rw [of_digits_padded]

theorem read_signed (year : Nat) (rest : List Char) (ends : EndsDigits rest) :
    takeDigits? (padded 4 year ++ rest).length (padded 4 year ++ rest) = some (padded 4 year, rest) :=
  take_digits_run _ _ rest (padded_ne_nil 4 year) (padded_all 4 year) (.inr ⟨by simp, ends⟩)

theorem read_year (year : Int) (rest : List Char) (ends : EndsDigits rest) :
    readYear? (yearText year ++ rest) = some (year, rest) := by
  unfold yearText
  by_cases short : 0 ≤ year ∧ year ≤ 9999
  · have run := take_digits_run 4 (padded 4 year.toNat) rest (padded_ne_nil 4 _) (padded_all 4 _)
      (.inl (padded_length 4 _ (by decide) (by omega)))
    have value := of_digits_padded 4 year.toNat
    obtain ⟨c, tail, shown, digit⟩ := padded_head 4 year.toNat
    rw [if_pos short, readYear?, skip_blanks_padded]
    rw [shown] at run value ⊢
    split
    · rename_i same
      cases same
      cases digit
    · rename_i same
      cases same
      cases digit
    · change (takeDigits? 4 (c :: tail ++ rest)).bind _ = _
      rw [run]
      change some ((ofDigits (c :: tail) : Int), rest) = _
      rw [value, Int.toNat_of_nonneg short.1]
  · have run := read_signed year.natAbs rest ends
    have value := of_digits_padded 4 year.natAbs
    rw [if_neg short, List.cons_append]
    by_cases negative : year < 0
    · rw [if_pos negative]
      change (takeDigits? (padded 4 year.natAbs ++ rest).length (padded 4 year.natAbs ++ rest)).bind _ = _
      rw [run]
      change some (-(ofDigits (padded 4 year.natAbs) : Int), rest) = _
      rw [value, Int.ofNat_natAbs_of_nonpos (Int.le_of_lt negative), Int.neg_neg]
    · rw [if_neg negative]
      change (takeDigits? (padded 4 year.natAbs ++ rest).length (padded 4 year.natAbs ++ rest)).bind _ = _
      rw [run]
      change some ((ofDigits (padded 4 year.natAbs) : Int), rest) = _
      rw [value, Int.natAbs_of_nonneg (Int.not_lt.mp negative)]

theorem read_mark (mark : Char) (dark : isBlank mark = false) (rest : List Char) :
    readMark? mark (mark :: rest) = some rest := by
  rw [readMark?, skip_blanks_cons mark rest dark]
  exact if_pos rfl

theorem read_date (date : Date) (valid : date.valid = true) (rest : List Char) :
    readDate? (yearText date.year ++ '-' :: (padded 2 date.month ++ '-' :: (padded 2 date.day ++ rest))) =
      some (date, rest) := by
  have short := Date.valid_short date valid
  simp only [readDate?, read_year _ _ (ends_digits_cons '-' _ rfl), Option.bind_eq_bind, Option.bind_some,
    read_mark '-' rfl, read_padded _ short.1, read_padded _ short.2, valid, if_true]

theorem drop_digits (rest : List Char) (ends : EndsDigits rest) : rest.dropWhile isDigit = rest := by
  cases rest with
  | nil => rfl
  | cons c tail => exact List.dropWhile_cons_of_neg (by simp [ends c tail rfl])

theorem read_decimals (width value : Nat) (some : 0 < width) (short : width ≤ 9) (fits : value < 10 ^ width)
    (rest : List Char) (ends : EndsDigits rest) :
    readFraction? ('.' :: (padded width value ++ rest)) = .some (value * 10 ^ (9 - width), rest) := by
  have length := padded_length width value some fits
  have run := take_digits_run 9 (padded width value) rest (padded_ne_nil width value) (padded_all width value)
    (.inr ⟨length.symm ▸ short, ends⟩)
  change (takeDigits? 9 (padded width value ++ rest)).bind _ = _
  rw [run]
  change Option.some (ofDigits (padded width value) * 10 ^ (9 - (padded width value).length),
    rest.dropWhile isDigit) = _
  rw [length, of_digits_padded, drop_digits rest ends]

theorem read_fraction (nanos : Nat) (proper : nanos < nanosPerSecond) (rest : List Char) (ends : EndsDigits rest)
    (bare : ∀ tail, rest ≠ '.' :: tail) : readFraction? (fractionText nanos ++ rest) = some (nanos, rest) := by
  unfold nanosPerSecond at proper
  unfold fractionText
  by_cases whole : nanos = 0
  · rw [if_pos whole, whole, List.nil_append]
    unfold readFraction?
    split
    · exact absurd rfl (bare _)
    · rfl
  · rw [if_neg whole]
    by_cases millis : nanos % 1000000 = 0
    · rw [if_pos millis, List.cons_append, read_decimals 3 _ (by decide) (by decide) (by omega) rest ends]
      simp only [Option.some.injEq, Prod.mk.injEq, and_true]
      omega
    · rw [if_neg millis]
      by_cases micros : nanos % 1000 = 0
      · rw [if_pos micros, List.cons_append, read_decimals 6 _ (by decide) (by decide) (by omega) rest ends]
        simp only [Option.some.injEq, Prod.mk.injEq, and_true]
        omega
      · rw [if_neg micros, List.cons_append, read_decimals 9 _ (by decide) (by decide) (by omega) rest ends]
        simp

theorem read_time (hour minute second nanos : Nat) (hours : hour < 24) (minutes : minute < 60) (seconds : second ≤ 60)
    (proper : nanos < nanosPerSecond) (rest : List Char) (ends : EndsDigits rest)
    (bare : ∀ tail, rest ≠ '.' :: tail) :
    readTime? (padded 2 hour ++ ':' :: (padded 2 minute ++ ':' :: (padded 2 second ++ (fractionText nanos ++ rest)))) =
      some (hour * 3600 + minute * 60 + second - second / 60, nanos + second / 60 * nanosPerSecond, rest) := by
  have inside : (hour < 24 && minute < 60 && second ≤ 60) = true := by simp [hours, minutes, seconds]
  have shortHour : hour < 100 := by omega
  have shortMinute : minute < 100 := by omega
  have shortSecond : second < 100 := by omega
  simp only [readTime?, read_padded _ shortHour, read_padded _ shortMinute, read_padded _ shortSecond,
    read_mark ':' rfl, read_fraction nanos proper rest ends bare, Option.bind_eq_bind, Option.bind_some, inside,
    if_true]

theorem written_compact (t : Instant) : t.written .compact =
    yearText t.date.year ++ '-' :: (padded 2 t.date.month ++ '-' :: (padded 2 t.date.day ++ 'T' ::
      (padded 2 (t.secondOfDay.toNat / 3600) ++ ':' :: (padded 2 (t.secondOfDay.toNat / 60 % 60) ++ ':' ::
        (padded 2 (t.secondOfDay.toNat % 60 + if t.isLeap then 1 else 0) ++
          (fractionText (t.nanos - (if t.isLeap then 1 else 0) * nanosPerSecond) ++ ['Z'])))))) := by
  simp [written, InstantForm.compact]

theorem date_valid (t : Instant) : t.date.valid = true := by
  have first := t.seconds_ge
  have last := t.seconds_le
  unfold firstSecond at first
  unfold lastSecond at last
  refine Date.of_days_valid _ ?_ ?_
  · change -96465292 ≤ t.seconds / 86400
    omega
  · change t.seconds / 86400 ≤ 95026236
    omega

theorem of_parts (t : Instant) : of? t.seconds t.nanos = some t :=
  dif_pos ⟨t.seconds_ge, t.seconds_le, t.nanos_lt, t.leap_last⟩

theorem second_parts (t : Instant) (leap : Nat) (same : leap = if t.isLeap then 1 else 0) :
    t.secondOfDay.toNat % 60 + leap ≤ 60 ∧ (t.secondOfDay.toNat % 60 + leap) / 60 = leap ∧
      t.nanos - leap * nanosPerSecond < nanosPerSecond ∧
      t.nanos - leap * nanosPerSecond + leap * nanosPerSecond = t.nanos := by
  have small := t.nanos_lt
  have last := t.leap_last
  simp only [isLeap, decide_eq_true_eq] at same
  unfold secondOfDay secondsPerDay
  unfold nanosPerSecond at *
  by_cases extra : 1000000000 ≤ t.nanos
  · have minute := last extra
    rw [if_pos extra] at same
    omega
  · rw [if_neg extra] at same
    omega

theorem seconds_parts (t : Instant) (leap : Nat) : t.date.toDays * (secondsPerDay : Nat) +
    ((t.secondOfDay.toNat / 3600 * 3600 + t.secondOfDay.toNat / 60 % 60 * 60 +
      (t.secondOfDay.toNat % 60 + leap) - leap : Nat) : Int) - 0 = t.seconds := by
  have days : t.date.toDays = t.seconds / (secondsPerDay : Nat) := Date.to_days_of_days _
  rw [days]
  unfold secondOfDay secondsPerDay
  omega

theorem read_written (t : Instant) : ofText? (t.text .compact) = some t := by
  have hours : t.secondOfDay.toNat / 3600 < 24 := by
    unfold secondOfDay secondsPerDay
    omega
  have minutes : t.secondOfDay.toNat / 60 % 60 < 60 := Nat.mod_lt _ (by decide)
  obtain ⟨seconds, carry, proper, nanos⟩ := second_parts t _ rfl
  have time := read_time _ _ _ _ hours minutes seconds proper ['Z'] (ends_digits_cons 'Z' [] rfl) (by simp)
  rw [carry, nanos] at time
  have zone : readZone? (skipBlanks ['Z']) = some (0, []) := rfl
  rw [ofText?, text, String.toList_ofList, written_compact, read?, read_date _ t.date_valid]
  simp only [Option.bind_eq_bind, Option.bind_some, time, zone]
  refine (if_pos rfl).trans ?_
  rw [seconds_parts t, of_parts]

end Instant

end NowNext
