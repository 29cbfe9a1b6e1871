import NowNext.Pattern.Search

set_option autoImplicit false

namespace NowNext.Pattern

variable {text : List Char}

theorem places_from_bit (test : Nat → Bool) (i count j : Nat) :
    (placesFrom test i count).testBit j = true ↔ (i ≤ j ∧ j < i + count) ∧ test j = true := by
  induction count generalizing i with
  | zero =>
      change (0 : Nat).testBit j = true ↔ _
      rw [Nat.zero_testBit]
      exact iff_of_false Bool.false_ne_true fun found => by omega
  | succ count ih =>
      change ((if test i then 2 ^ i else 0) ||| placesFrom test (i + 1) count).testBit j = true ↔ _
      rw [Nat.testBit_or, Bool.or_eq_true, ih]
      by_cases here : j = i
      · subst here
        cases test j <;> simp [Nat.testBit_two_pow_self]
      · have elsewhere : (if test i then 2 ^ i else 0).testBit j = false := by
          cases test i with
          | false => exact Nat.zero_testBit j
          | true => exact Nat.testBit_two_pow_of_ne (Ne.symm here)
        rw [elsewhere]
        simp only [Bool.false_eq_true, false_or]
        exact and_congr_left fun _ => by omega

theorem char_places_bit (cls : CharClass) (i : Nat) :
    (charPlaces text cls).testBit i = true ↔ ∃ c, text[i]? = some c ∧ cls.contains c = true := by
  rw [charPlaces, places_from_bit, Option.any_eq_true]
  constructor
  · rintro ⟨_, found⟩
    exact found
  · rintro ⟨c, at_place, member⟩
    have inside := (List.getElem?_eq_some_iff.mp at_place).1
    exact ⟨by omega, c, at_place, member⟩

theorem look_places_bit (condition : Look) (i : Nat) : (lookPlaces text condition).testBit i = true ↔
    i ≤ text.length ∧ condition.holds (before? text i) text[i]? = true := by
  rw [lookPlaces, places_from_bit]
  constructor
  · rintro ⟨_, holds⟩
    exact ⟨by omega, holds⟩
  · rintro ⟨inside, holds⟩
    exact ⟨by omega, holds⟩

theorem matches_inside {p : Pattern} {i j : Nat} (matched : Matches text p i j) : i ≤ j ∧ j ≤ text.length := by
  induction matched with
  | empty inside | look inside | timesNone inside => exact ⟨Nat.le_refl _, inside⟩
  | chars at_place =>
      have inside := (List.getElem?_eq_some_iff.mp at_place).1
      omega
  | seq _ _ left right => exact ⟨Nat.le_trans left.1 right.1, right.2⟩
  | altLeft _ left => exact left
  | altRight _ right => exact right
  | timesMore _ _ _ once rest => exact ⟨Nat.le_trans once.1 rest.1, rest.2⟩
  | group _ inner => exact inner

inductive Walk (text : List Char) (p : Pattern) : Nat → Nat → Nat → Prop where
  | stay {i : Nat} (inside : i ≤ text.length) : Walk text p 0 i i
  | move {count i j k : Nat} (once : Matches text p i j) (rest : Walk text p count j k) :
      Walk text p (count + 1) i k

theorem walk_inside {p : Pattern} {count i j : Nat} (walk : Walk text p count i j) : i ≤ j ∧ j ≤ text.length := by
  induction walk with
  | stay inside => exact ⟨Nat.le_refl _, inside⟩
  | move once _ rest => exact ⟨Nat.le_trans (matches_inside once).1 rest.1, rest.2⟩

theorem walk_append {p : Pattern} {first second i j k : Nat} (left : Walk text p first i j)
    (right : Walk text p second j k) : Walk text p (first + second) i k := by
  induction left with
  | stay => rwa [Nat.zero_add]
  | move once _ ih =>
      rw [Nat.add_right_comm]
      exact .move once (ih right)

theorem walk_split {p : Pattern} {first second i k : Nat} (walk : Walk text p (first + second) i k) :
    ∃ j, Walk text p first i j ∧ Walk text p second j k := by
  induction first generalizing i with
  | zero =>
      rw [Nat.zero_add] at walk
      have bounds := walk_inside walk
      exact ⟨i, .stay (Nat.le_trans bounds.1 bounds.2), walk⟩
  | succ first ih =>
      rw [Nat.add_right_comm] at walk
      cases walk with
      | move once rest =>
          obtain ⟨j, left, right⟩ := ih rest
          exact ⟨j, .move once left, right⟩

-- Matches of nothing can be left out, so the length of the text bounds how many are needed.
theorem walk_shortened {p : Pattern} {count i j : Nat} (walk : Walk text p count i j) :
    ∃ fewer, fewer ≤ j - i ∧ Walk text p fewer i j := by
  induction walk with
  | stay inside => exact ⟨0, Nat.zero_le _, .stay inside⟩
  | move once rest ih =>
      rename_i i j k
      obtain ⟨fewer, bound, short⟩ := ih
      have onwards := (matches_inside once).1
      by_cases same : i = j
      · subst same
        exact ⟨fewer, bound, short⟩
      · have further := (walk_inside rest).1
        exact ⟨fewer + 1, by omega, .move once short⟩

theorem times_iff_walk {p : Pattern} {least : Nat} {most : Option Nat} {i j : Nat} :
    Matches text (.times p least most) i j ↔
      ∃ count, least ≤ count ∧ (∀ limit, most = some limit → count ≤ limit) ∧ Walk text p count i j := by
  constructor
  · intro matched
    generalize shape : Pattern.times p least most = whole at matched
    induction matched generalizing least most with
    | empty | chars | look | seq | altLeft | altRight | group => cases shape
    | timesNone inside =>
        cases shape
        exact ⟨0, Nat.le_refl _, fun limit _ => Nat.zero_le limit, .stay inside⟩
    | timesMore more once _ _ rest =>
        cases shape
        obtain ⟨count, enough, few, walk⟩ := rest rfl
        refine ⟨count + 1, by omega, ?_, .move once walk⟩
        intro limit bounded
        have fewer := few (limit - 1) (by simp [bounded])
        have positive : limit ≠ 0 := by
          intro zero
          rw [bounded, zero] at more
          exact more rfl
        omega
  · rintro ⟨count, enough, few, walk⟩
    induction walk generalizing least most with
    | stay inside =>
        cases Nat.le_zero.mp enough
        exact .timesNone inside
    | move once _ ih =>
        refine .timesMore ?_ once (ih (by omega) ?_)
        · intro none
          have := few 0 none
          omega
        · intro limit bounded
          obtain ⟨whole, same, rfl⟩ := Option.map_eq_some_iff.mp bounded
          have := few whole same
          omega

def Inside (text : List Char) (places : Nat) : Prop := ∀ i, places.testBit i = true → i ≤ text.length

def Follows (text : List Char) (p : Pattern) (step : Nat → Nat) : Prop := ∀ places, Inside text places → ∀ j,
  (step places).testBit j = true ↔ ∃ i, places.testBit i = true ∧ Matches text p i j

theorem follows_inside {p : Pattern} {step : Nat → Nat} (follows : Follows text p step) (places : Nat)
    (inside : Inside text places) : Inside text (step places) := by
  intro j reached
  obtain ⟨i, _, matched⟩ := (follows places inside j).mp reached
  exact (matches_inside matched).2

theorem fixed_walk {p : Pattern} {step : Nat → Nat} (follows : Follows text p step) (places : Nat)
    (inside : Inside text places) (fixed : step places = places) (count j : Nat) :
    places.testBit j = true ↔ ∃ i, places.testBit i = true ∧ Walk text p count i j := by
  induction count with
  | zero =>
      constructor
      · intro here
        exact ⟨j, here, .stay (inside j here)⟩
      · rintro ⟨i, here, walk⟩
        cases walk with
        | stay => exact here
  | succ count ih =>
      rw [ih]
      constructor
      · rintro ⟨m, here, walk⟩
        rw [← fixed, follows places inside] at here
        obtain ⟨i, start, once⟩ := here
        exact ⟨i, start, .move once walk⟩
      · rintro ⟨i, start, walk⟩
        cases walk with
        | move once rest =>
            refine ⟨_, ?_, rest⟩
            rw [← fixed, follows places inside]
            exact ⟨i, start, once⟩

theorem iterate_walk {p : Pattern} {step : Nat → Nat} (follows : Follows text p step) (count places : Nat)
    (inside : Inside text places) (j : Nat) : (iterate step count places).testBit j = true ↔
      ∃ i, places.testBit i = true ∧ Walk text p count i j := by
  induction count generalizing places with
  | zero =>
      constructor
      · intro here
        exact ⟨j, here, .stay (inside j here)⟩
      · rintro ⟨i, here, walk⟩
        cases walk with
        | stay => exact here
  | succ count ih =>
      rw [iterate]
      by_cases fixed : step places = places
      · rw [if_pos fixed]
        exact fixed_walk follows places inside fixed (count + 1) j
      · rw [if_neg fixed, ih _ (follows_inside follows places inside)]
        constructor
        · rintro ⟨m, reached, walk⟩
          obtain ⟨i, start, once⟩ := (follows places inside m).mp reached
          exact ⟨i, start, .move once walk⟩
        · rintro ⟨i, start, walk⟩
          cases walk with
          | move once rest => exact ⟨_, (follows places inside _).mpr ⟨i, start, once⟩, rest⟩

theorem grown_bit {p : Pattern} {step : Nat → Nat} (follows : Follows text p step) (places : Nat)
    (inside : Inside text places) (i : Nat) : (places ||| step places).testBit i = true ↔
      places.testBit i = true ∨ ∃ h, places.testBit h = true ∧ Matches text p h i := by
  rw [Nat.testBit_or, Bool.or_eq_true, follows places inside]

theorem full_walk {p : Pattern} {step : Nat → Nat} (follows : Follows text p step) (places : Nat)
    (inside : Inside text places) (full : places ||| step places = places) {count i j : Nat}
    (here : places.testBit i = true) (walk : Walk text p count i j) : places.testBit j = true := by
  induction walk with
  | stay => exact here
  | move once _ onwards =>
      refine onwards ?_
      rw [← full, grown_bit follows places inside]
      exact .inr ⟨_, here, once⟩

theorem reach_walk {p : Pattern} {step : Nat → Nat} (follows : Follows text p step) (limit places : Nat)
    (inside : Inside text places) (j : Nat) : (reach step limit places).testBit j = true ↔
      ∃ i count, places.testBit i = true ∧ count ≤ limit ∧ Walk text p count i j := by
  induction limit generalizing places with
  | zero =>
      constructor
      · intro here
        exact ⟨j, 0, here, Nat.le_refl _, .stay (inside j here)⟩
      · rintro ⟨i, count, here, none, walk⟩
        cases Nat.le_zero.mp none
        cases walk with
        | stay => exact here
  | succ limit ih =>
      have grown := grown_bit follows places inside
      have next : Inside text (places ||| step places) := by
        intro i reached
        rcases (grown i).mp reached with here | ⟨h, _, once⟩
        · exact inside i here
        · exact (matches_inside once).2
      rw [reach]
      by_cases full : places ||| step places = places
      · rw [if_pos full]
        constructor
        · intro here
          exact ⟨j, 0, here, Nat.zero_le _, .stay (inside j here)⟩
        · rintro ⟨i, count, here, _, walk⟩
          exact full_walk follows places inside full here walk
      · rw [if_neg full, ih _ next]
        constructor
        · rintro ⟨i, count, reached, few, walk⟩
          rcases (grown i).mp reached with here | ⟨h, here, once⟩
          · exact ⟨i, count, here, Nat.le_succ_of_le few, walk⟩
          · exact ⟨h, count + 1, here, Nat.succ_le_succ few, .move once walk⟩
        · rintro ⟨i, count, here, few, walk⟩
          cases walk with
          | stay within => exact ⟨j, 0, (grown j).mpr (.inl here), Nat.zero_le _, .stay within⟩
          | move once rest => exact ⟨_, _, (grown _).mpr (.inr ⟨i, here, once⟩), Nat.le_of_succ_le_succ few, rest⟩

theorem times_follows {p : Pattern} (follows : Follows text p (ends text p)) (least : Nat) (most : Option Nat) :
    Follows text (.times p least most) (ends text (.times p least most)) := by
  intro places inside j
  have start (m : Nat) := iterate_walk follows least places inside m
  have within : Inside text (iterate (ends text p) least places) := by
    intro m reached
    obtain ⟨i, _, walk⟩ := (start m).mp reached
    exact (walk_inside walk).2
  simp only [times_iff_walk]
  cases most with
  | none =>
      change (reach (ends text p) (text.length + 1) _).testBit j = true ↔ _
      rw [reach_walk follows _ _ within]
      constructor
      · rintro ⟨m, count, reached, _, rest⟩
        obtain ⟨i, here, walk⟩ := (start m).mp reached
        exact ⟨i, here, least + count, Nat.le_add_right _ _, by simp, walk_append walk rest⟩
      · rintro ⟨i, here, count, enough, _, walk⟩
        obtain ⟨more, rfl⟩ := Nat.exists_eq_add_of_le enough
        obtain ⟨m, first, rest⟩ := walk_split walk
        obtain ⟨fewer, few, short⟩ := walk_shortened rest
        have bound := walk_inside rest
        exact ⟨m, fewer, (start m).mpr ⟨i, here, first⟩, by omega, short⟩
  | some most =>
      change (if most < least then 0 else reach (ends text p) (most - least) _).testBit j = true ↔ _
      by_cases impossible : most < least
      · rw [if_pos impossible, Nat.zero_testBit]
        refine iff_of_false Bool.false_ne_true ?_
        rintro ⟨_, _, count, enough, few, _⟩
        have := few most rfl
        omega
      · rw [if_neg impossible, reach_walk follows _ _ within]
        constructor
        · rintro ⟨m, count, reached, few, rest⟩
          obtain ⟨i, here, walk⟩ := (start m).mp reached
          refine ⟨i, here, least + count, Nat.le_add_right _ _, ?_, walk_append walk rest⟩
          intro limit same
          cases same
          omega
        · rintro ⟨i, here, count, enough, few, walk⟩
          obtain ⟨more, rfl⟩ := Nat.exists_eq_add_of_le enough
          obtain ⟨m, first, rest⟩ := walk_split walk
          have bound := few most rfl
          exact ⟨m, more, (start m).mpr ⟨i, here, first⟩, by omega, rest⟩

theorem ends_follows (p : Pattern) : Follows text p (ends text p) := by
  induction p with
  | empty =>
      intro places inside j
      constructor
      · intro here
        exact ⟨j, here, .empty (inside j here)⟩
      · rintro ⟨i, here, matched⟩
        cases matched
        exact here
  | chars cls =>
      intro places inside j
      change ((places &&& charPlaces text cls) <<< 1).testBit j = true ↔ _
      rw [Nat.testBit_shiftLeft, Bool.and_eq_true, Nat.testBit_and, Bool.and_eq_true, char_places_bit,
        decide_eq_true_eq]
      constructor
      · rintro ⟨after, here, c, at_place, member⟩
        have matched := Matches.chars at_place member
        rw [Nat.sub_add_cancel after] at matched
        exact ⟨j - 1, here, matched⟩
      · rintro ⟨i, here, matched⟩
        cases matched with
        | chars at_place member => exact ⟨Nat.le_add_left _ _, here, _, at_place, member⟩
  | look condition =>
      intro places inside j
      change (places &&& lookPlaces text condition).testBit j = true ↔ _
      rw [Nat.testBit_and, Bool.and_eq_true, look_places_bit]
      constructor
      · rintro ⟨here, inside, holds⟩
        exact ⟨j, here, .look inside holds⟩
      · rintro ⟨i, here, matched⟩
        cases matched with
        | look inside holds => exact ⟨here, inside, holds⟩
  | seq a b first second =>
      intro places inside j
      change (ends text b (ends text a places)).testBit j = true ↔ _
      rw [second _ (follows_inside first places inside)]
      constructor
      · rintro ⟨m, reached, right⟩
        obtain ⟨i, here, left⟩ := (first places inside m).mp reached
        exact ⟨i, here, .seq left right⟩
      · rintro ⟨i, here, matched⟩
        cases matched with
        | seq left right => exact ⟨_, (first places inside _).mpr ⟨i, here, left⟩, right⟩
  | alt a b first second =>
      intro places inside j
      change (ends text a places ||| ends text b places).testBit j = true ↔ _
      rw [Nat.testBit_or, Bool.or_eq_true, first places inside, second places inside]
      constructor
      · rintro (⟨i, here, left⟩ | ⟨i, here, right⟩)
        · exact ⟨i, here, .altLeft left⟩
        · exact ⟨i, here, .altRight right⟩
      · rintro ⟨i, here, matched⟩
        cases matched with
        | altLeft left => exact .inl ⟨i, here, left⟩
        | altRight right => exact .inr ⟨i, here, right⟩
  | times p least most follows => exact times_follows follows least most
  | group captures p follows =>
      intro places inside j
      rw [ends, follows places inside]
      constructor
      · rintro ⟨i, here, inner⟩
        exact ⟨i, here, .group inner⟩
      · rintro ⟨i, here, matched⟩
        cases matched with
        | group inner => exact ⟨i, here, inner⟩

theorem all_places_bit (i : Nat) : (allPlaces text).testBit i = true ↔ i ≤ text.length := by
  change (2 ^ (text.length + 1) - 1).testBit i = true ↔ _
  rw [Nat.testBit_two_pow_sub_one, decide_eq_true_eq, Nat.lt_succ_iff]

theorem search_exact (p : Pattern) (text : List Char) : p.isIn text = true ↔ ∃ i j, Matches text p i j := by
  have follows : Follows text p (ends text p) := ends_follows p
  have inside (i : Nat) : (allPlaces text).testBit i = true → i ≤ text.length := (all_places_bit i).mp
  rw [isIn, bne_iff_ne]
  constructor
  · intro some
    obtain ⟨j, reached⟩ := Nat.exists_testBit_of_ne_zero some
    obtain ⟨i, _, matched⟩ := (follows (allPlaces text) inside j).mp reached
    exact ⟨i, j, matched⟩
  · rintro ⟨i, j, matched⟩ none
    have bounds := matches_inside matched
    have reached := (follows (allPlaces text) inside j).mpr ⟨i, (all_places_bit i).mpr (Nat.le_trans bounds.1 bounds.2), matched⟩
    rw [none, Nat.zero_testBit] at reached
    cases reached

end NowNext.Pattern
