import Mathlib.Data.List.Forall2
import Mathlib.Data.List.Induction
import NowNext.Proofs.Board.Boundary
import NowNext.Proofs.Filter.Expression
import NowNext.Proofs.Pattern.Search

set_option autoImplicit false

namespace NowNext

def StandsIn (value text : List Char) : Prop :=
  ∃ before part after, text = before ++ part ++ after ∧
    List.Forall₂ (fun c d => Unicode.fold c = Unicode.fold d) part value ∧
    (before = [] ∨ ∃ front c, before = front ++ [c] ∧ Unicode.isWord c = false) ∧
    (after = [] ∨ ∃ c rest, after = c :: rest ∧ Unicode.isWord c = false)

namespace Pattern

theorem non_word_contains (c : Char) : CharClass.nonWord.contains c = true ↔ Unicode.isWord c = false := by
  change (!Unicode.isWord c) = true ↔ _
  rw [Bool.not_eq_true']

theorem chars_iff {text : List Char} {cls : CharClass} {i j : Nat} : Matches text (.chars cls) i j ↔
    j = i + 1 ∧ ∃ c, text[i]? = some c ∧ cls.contains c = true := by
  constructor
  · intro matched
    cases matched with
    | chars at_place member => exact ⟨rfl, _, at_place, member⟩
  · rintro ⟨rfl, c, at_place, member⟩
    exact .chars at_place member

theorem head_matches (before after : List Char) (cls : CharClass) (j : Nat) :
    Matches (before ++ after) (.chars cls) before.length j ↔
      ∃ c rest, after = c :: rest ∧ j = before.length + 1 ∧ cls.contains c = true := by
  rw [chars_iff, List.getElem?_append_right (Nat.le_refl _), Nat.sub_self]
  cases after with
  | nil => simp
  | cons c rest => simp

theorem left_edge_matches (before after : List Char) : (∃ i, Matches (before ++ after) leftEdge i before.length) ↔
    before = [] ∨ ∃ front c, before = front ++ [c] ∧ Unicode.isWord c = false := by
  cases before using List.reverseRecOn with
  | nil => exact iff_of_true ⟨0, .altLeft (.look (Nat.zero_le _) rfl)⟩ (.inl rfl)
  | append_singleton front c =>
      have here : (front ++ [c] ++ after)[front.length]? = some c := by simp
      constructor
      · rintro ⟨i, matched⟩
        refine .inr ⟨front, c, rfl, ?_⟩
        cases matched with
        | altLeft left =>
            cases left with
            | look inside start => simp [Look.holds, before?] at start
        | altRight right =>
            obtain ⟨place, d, at_place, member⟩ := chars_iff.mp right
            have same : front.length = i := by simpa using place
            rw [← same, here] at at_place
            cases at_place
            exact (non_word_contains c).mp member
      · rintro (none | ⟨other, d, same, free⟩)
        · simp at none
        · obtain ⟨rfl, rfl⟩ := List.append_singleton_inj.mp same
          exact ⟨front.length, .altRight (chars_iff.mpr ⟨by simp, c, here, (non_word_contains c).mpr free⟩)⟩

theorem right_edge_matches (before after : List Char) : (∃ j, Matches (before ++ after) rightEdge before.length j) ↔
    after = [] ∨ ∃ c rest, after = c :: rest ∧ Unicode.isWord c = false := by
  constructor
  · rintro ⟨j, matched⟩
    cases matched with
    | altLeft left =>
        obtain ⟨c, rest, same, _, member⟩ := (head_matches before after .nonWord j).mp left
        exact .inr ⟨c, rest, same, (non_word_contains c).mp member⟩
    | altRight right =>
        cases right with
        | look inside ends =>
            refine .inl ?_
            simpa [Look.holds] using ends
  · rintro (rfl | ⟨c, rest, same, free⟩)
    · exact ⟨_, .altRight (.look (by simp) (by simp [Look.holds]))⟩
    · have member := (non_word_contains c).mpr free
      exact ⟨_, .altLeft ((head_matches before after .nonWord _).mpr ⟨c, rest, same, rfl, member⟩)⟩

theorem caseless_contains (d c : Char) :
    (CharClass.caseless d).contains c = true ↔ Unicode.fold c = Unicode.fold d := by
  change (Unicode.fold d == Unicode.fold c) = true ↔ _
  rw [beq_iff_eq, eq_comm]

theorem caseless_matches (value before after : List Char) (j : Nat) :
    Matches (before ++ after) (caseless value) before.length j ↔
      ∃ part rest, after = part ++ rest ∧ j = before.length + part.length ∧
        List.Forall₂ (fun c d => Unicode.fold c = Unicode.fold d) part value := by
  induction value using caseless.induct generalizing before after j with
  | case1 =>
      rw [caseless]
      constructor
      · intro matched
        cases matched
        exact ⟨[], after, rfl, rfl, .nil⟩
      · rintro ⟨part, rest, rfl, rfl, same⟩
        cases same
        exact .empty (by simp)
  | case2 d =>
      rw [caseless, head_matches]
      constructor
      · rintro ⟨c, rest, rfl, rfl, member⟩
        exact ⟨[c], rest, rfl, rfl, .cons ((caseless_contains d c).mp member) .nil⟩
      · rintro ⟨part, rest, rfl, rfl, same⟩
        cases same with
        | cons same others =>
            cases others
            exact ⟨_, rest, rfl, rfl, (caseless_contains _ _).mpr same⟩
  | case3 d value more ih =>
      -- The rest of the value is looked for behind the character that matches its first one.
      have onwards (c : Char) (rest : List Char) : Matches (before ++ c :: rest) (caseless value) (before.length + 1) j ↔
          ∃ part last, rest = part ++ last ∧ j = before.length + 1 + part.length ∧
            List.Forall₂ (fun c d => Unicode.fold c = Unicode.fold d) part value := by
        have next := ih (before ++ [c]) rest j
        rwa [List.append_assoc, List.singleton_append, List.length_append, List.length_singleton] at next
      rw [caseless.eq_3 d value more]
      constructor
      · intro matched
        cases matched with
        | seq left right =>
            obtain ⟨c, rest, rfl, rfl, member⟩ := (head_matches before after _ _).mp left
            obtain ⟨part, last, rfl, rfl, same⟩ := (onwards c rest).mp right
            refine ⟨c :: part, last, rfl, ?_, .cons ((caseless_contains d c).mp member) same⟩
            rw [List.length_cons, Nat.add_assoc, Nat.add_comm 1]
      · rintro ⟨part, last, rfl, rfl, same⟩
        cases same with
        | cons first same =>
            rename_i c part
            refine .seq ((head_matches before _ _ _).mpr ⟨c, part ++ last, rfl, rfl, (caseless_contains d c).mpr first⟩)
              ((onwards c (part ++ last)).mpr ⟨part, last, rfl, ?_, same⟩)
            rw [List.length_cons, Nat.add_assoc, Nat.add_comm 1]

theorem words_exact (value text : List Char) : (words value).isIn text = true ↔ StandsIn value text := by
  rw [search_exact]
  constructor
  · rintro ⟨i, l, matched⟩
    cases matched with
    | seq left rest =>
        cases rest with
        | seq middle right =>
            rename_i j k
            have inside := (matches_inside left).2
            obtain ⟨before, after, rfl, rfl⟩ : ∃ before after, text = before ++ after ∧ before.length = j :=
              ⟨text.take j, text.drop j, (List.take_append_drop j text).symm, List.length_take_of_le inside⟩
            obtain ⟨part, after, rfl, rfl, same⟩ := (caseless_matches value before _ k).mp middle
            have starts := (left_edge_matches before _).mp ⟨i, left⟩
            rw [← List.append_assoc, ← List.length_append] at right
            have ends := (right_edge_matches (before ++ part) after).mp ⟨l, right⟩
            exact ⟨before, part, after, (List.append_assoc _ _ _).symm, same, starts, ends⟩
  · rintro ⟨before, part, after, rfl, same, starts, ends⟩
    obtain ⟨l, right⟩ := (right_edge_matches (before ++ part) after).mpr ends
    rw [List.append_assoc, List.length_append] at right
    rw [List.append_assoc]
    obtain ⟨i, left⟩ := (left_edge_matches before (part ++ after)).mpr starts
    exact ⟨i, l, .seq left (.seq ((caseless_matches value before _ _).mpr ⟨part, after, rfl, rfl, same⟩) right)⟩

end Pattern

namespace Filter

-- Whatever the value is, and whatever its characters mean in expressions: it is found as the expression that
-- is put together from it is.
theorem words_accept (field : Field) (value : String) (fits : (Pattern.words value.toList).fits = true) :
    ∃ filter expression pattern, of? field .words value = .ok filter ∧
      Expr.ofString? (String.ofList (Expr.ofWords value.toList)) = some expression ∧
      expression.pattern? { caseless := true } = some (pattern, { caseless := true }) ∧ pattern.fits = true ∧
      ∀ event, filter.accepts event = pattern.isIn (event.text field).toList ∧
        (filter.accepts event = true ↔ StandsIn value.toList (event.text field).toList) := by
  obtain ⟨expression, pattern, read, meant, room, same⟩ := Pattern.words_as_expression value.toList
  refine ⟨⟨field, .words, value, .words value.toList⟩, expression, pattern, ?_, read, meant, room.trans fits,
    fun event => ⟨(same _).symm, Pattern.words_exact _ _⟩⟩
  simp [of?, Comparison.pattern?, fits]

theorem words_accept_in_title : (Pattern.words ['C', '+']).fits = true ∧
    ∃ filter, of? .summary .words "C+" = .ok filter ∧
      filter.accepts { Board.work with title := "no c, c+!" } = true := by
  have fits : (Pattern.words ['C', '+']).fits = true := by
    refine Pattern.words_fit _ ?_
    have letter : (CharClass.caseless 'C').toRanges = CharClass.merge [(67, 67), (99, 99)] := by
      have cases : Unicode.orbit 'C'.toNat = [99, 67] := by decide +kernel
      rw [CharClass.toRanges, cases, CharClass.normalize]
      simp [List.mergeSort, List.MergeSort.Internal.splitInTwo]
    have sign : (CharClass.caseless '+').toRanges = CharClass.merge [(43, 43)] := by
      have cases : Unicode.orbit '+'.toNat = [43] := by decide +kernel
      rw [CharClass.toRanges, cases, CharClass.normalize]
      simp
    rw [List.map_cons, List.map_cons, List.map_nil, Pattern.classOutline, Pattern.classOutline, letter, sign]
    decide +kernel
  obtain ⟨filter, _, _, made, _, _, _, exactly⟩ := words_accept .summary "C+" fits
  refine ⟨fits, filter, made, (exactly _).2.mpr ⟨['n', 'o', ' ', 'c', ',', ' '], ['c', '+'], ['!'], rfl, ?_, ?_, ?_⟩⟩
  · exact .cons (by decide +kernel) (.cons (by decide +kernel) .nil)
  · exact .inr ⟨['n', 'o', ' ', 'c', ','], ' ', rfl, by decide +kernel⟩
  · exact .inr ⟨'!', [], rfl, by decide +kernel⟩

end Filter

end NowNext
