import NowNext.Filter.Basic
import NowNext.Proofs.Pattern.Room

/-!
Whole words as a regular expression: the value with everything escaped that means something in expressions,
between two groups that look for an end of the text or a character in no word. Read without regard to case,
it finds what the pattern of whole words finds, and its program takes the same room.
-/

set_option autoImplicit false

namespace NowNext

namespace Expr

def escaped (value : List Char) : List Char :=
  value.flatMap fun c => if Reader.isMeta c then ['\\', c] else [c]

def leftGroup : List Char := ['(', '?', ':', '^', '|', '\\', 'W', ')']

def rightGroup : List Char := ['(', '?', ':', '\\', 'W', '|', '$', ')']

def ofWords (value : List Char) : List Char := leftGroup ++ (escaped value ++ rightGroup)

def leftEdge : Expr := .group false {} (.alternation [.assertion .lineStart, .atom (.letter .word true)])

def rightEdge : Expr := .group false {} (.alternation [.atom (.letter .word true), .assertion .lineEnd])

def literals (value : List Char) : List Expr := value.map fun c => .literal ⟨c, false⟩

namespace Reader

theorem read_left (fuel : Nat) (parts done : List Expr) (rest : List Char) :
    branches (fuel + 6) parts done { text := leftGroup ++ rest } =
      branches (fuel + 5) (leftEdge :: parts) done { text := rest } := by
  rw [leftGroup, leftEdge]
  rfl

theorem read_right (fuel : Nat) (parts done : List Expr) (rest : List Char) :
    branches (fuel + 6) parts done { text := rightGroup ++ rest } =
      branches (fuel + 5) (rightEdge :: parts) done { text := rest } := by
  rw [rightGroup, rightEdge]
  rfl

theorem read_end (fuel : Nat) (parts done : List Expr) : branches (fuel + 1) parts done { text := [] } =
    some (ofBranches ((ofParts parts.reverse :: done).reverse), { text := [] }) := rfl

theorem read_meta (fuel : Nat) (parts done : List Expr) (c : Char) (rest : List Char) (special : isMeta c = true) :
    branches (fuel + 1) parts done { text := '\\' :: c :: rest } =
      branches fuel (.literal ⟨c, false⟩ :: parts) done { text := rest } := by
  have member : c ∈ ['\\', '.', '+', '*', '?', '(', ')', '|', '[', ']', '{', '}', '^', '$', '#', '&', '-', '~'] := by
    simpa [isMeta] using special
  simp only [List.mem_cons, List.not_mem_nil, or_false] at member
  rcases member with rfl | rfl | rfl | rfl | rfl | rfl | rfl | rfl | rfl | rfl | rfl | rfl | rfl | rfl | rfl | rfl | rfl | rfl
  all_goals rfl

theorem read_plain (fuel : Nat) (parts done : List Expr) (c : Char) (rest : List Char) (plain : isMeta c = false) :
    branches (fuel + 1) parts done { text := c :: rest } =
      branches fuel (.literal ⟨c, false⟩ :: parts) done { text := rest } := by
  rw [branches]
  simp only [skipSpaced, Reader.rest, bind, StateT.bind, get, getThe, MonadStateOf.get, StateT.get, pure,
    Functor.map, StateT.map, Option.bind_some, Bool.false_eq_true, if_false]
  refine congrFun (g := fun cursor : Cursor =>
    branches fuel (.literal ⟨c, false⟩ :: parts) done { cursor with text := cursor.text.drop 1 }) ?_ _
  split
  case h_1 same => cases same
  case h_14 =>
    rename_i same
    cases same
    rfl
  all_goals
    rename_i same
    cases same
    cases plain

theorem read_escaped (fuel : Nat) (parts done : List Expr) (value rest : List Char) :
    branches (fuel + value.length) parts done { text := escaped value ++ rest } =
      branches fuel ((literals value).reverse ++ parts) done { text := rest } := by
  induction value generalizing parts with
  | nil => rfl
  | cons c value ih =>
      rw [literals, List.map_cons, List.reverse_cons, List.append_assoc, List.singleton_append, ← literals, ← ih]
      by_cases special : isMeta c = true
      · rw [escaped, List.flatMap_cons, if_pos special]
        exact read_meta _ _ _ _ _ special
      · rw [escaped, List.flatMap_cons, if_neg special]
        exact read_plain _ _ _ _ _ (eq_false_of_ne_true special)

end Reader

theorem depths_edges (value : List Char) : depths (leftEdge :: (literals value ++ [rightEdge])) = 2 := by
  have inner : depths (literals value ++ [rightEdge]) = 2 := by
    induction value with
    | nil => rfl
    | cons c value ih =>
        rw [literals, List.map_cons, List.cons_append, depths, ← literals, ih]
        rfl
  rw [depths, inner]
  rfl

theorem escaped_length (value : List Char) : value.length ≤ (escaped value).length := by
  induction value with
  | nil => exact Nat.le_refl _
  | cons c value ih =>
      rw [escaped, List.flatMap_cons, List.length_append, List.length_cons]
      change _ ≤ _ + (escaped value).length
      by_cases special : Reader.isMeta c = true
      · rw [if_pos special, List.length_cons]
        omega
      · rw [if_neg special, List.length_singleton]
        omega

theorem read_words (value : List Char) : ofString? (String.ofList (ofWords value)) =
    some (.concat (leftEdge :: (literals value ++ [rightEdge]))) := by
  obtain ⟨spare, enough⟩ : ∃ spare, (ofWords value).length + 1 = spare + 1 + value.length + 6 := by
    have shorter := escaped_length value
    refine ⟨(escaped value).length + 10 - value.length, ?_⟩
    rw [ofWords, List.length_append, List.length_append, leftGroup, rightGroup]
    simp only [List.length_cons, List.length_nil]
    omega
  have whole : Reader.branches ((ofWords value).length + 1) [] [] { text := ofWords value } =
      some (.concat (leftEdge :: (literals value ++ [rightEdge])), { text := [] }) := by
    have onwards : spare + 1 + value.length + 5 = spare + 6 + value.length := by omega
    rw [enough, ofWords, Reader.read_left, onwards, Reader.read_escaped, ← List.append_nil rightGroup,
      Reader.read_right, Reader.read_end]
    cases value with
    | nil => rfl
    | cons c value => simp [literals, ofBranches, ofParts]
  have deep : depth (.concat (leftEdge :: (literals value ++ [rightEdge]))) ≤ maxDepth := by
    rw [depth, depths_edges]
    decide
  simp [ofString?, StateT.run, whole, deep]

theorem patterns_cons {flags next last : Flags} {e : Expr} {es : List Expr} {p : Pattern} {ps : List Pattern}
    (first : pattern? flags e = some (p, next)) (others : patterns? next es = some (ps, last)) :
    patterns? flags (e :: es) = some (p :: ps, last) := by
  simp [patterns?, first, others]

theorem words_pattern (value : List Char) :
    pattern? { caseless := true } (.concat (leftEdge :: (literals value ++ [rightEdge]))) =
      some (.ofList (.group false Pattern.leftEdge ::
        ((value.map fun c => .chars (.caseless c)) ++ [.group false Pattern.rightEdge])), { caseless := true }) := by
  have inner : patterns? { caseless := true } (literals value ++ [rightEdge]) =
      some ((value.map fun c => .chars (.caseless c)) ++ [.group false Pattern.rightEdge], { caseless := true }) := by
    induction value with
    | nil => rfl
    | cons c value ih => exact patterns_cons rfl ih
  have parts : patterns? { caseless := true } (leftEdge :: (literals value ++ [rightEdge])) =
      some (.group false Pattern.leftEdge ::
        ((value.map fun c => .chars (.caseless c)) ++ [.group false Pattern.rightEdge]), { caseless := true }) :=
    patterns_cons rfl inner
  rw [pattern?, parts]
  rfl

end Expr

namespace Pattern

def chain (value : List Char) (last : Pattern) : Pattern :=
  (value.map fun c => .chars (.caseless c)).foldr .seq last

theorem of_list_chain (first : Pattern) (value : List Char) (last : Pattern) :
    ofList (first :: ((value.map fun c => .chars (.caseless c)) ++ [last])) = .seq first (chain value last) := by
  simp [ofList, chain, List.foldl_reverse]

theorem chain_ends (text : List Char) (value : List Char) (last : Pattern) (places : Nat) :
    (chain value last).ends text places = last.ends text ((caseless value).ends text places) := by
  induction value using caseless.induct generalizing places with
  | case1 => rfl
  | case2 c => rfl
  | case3 c value more ih =>
      rw [caseless.eq_3 c value more, chain, List.map_cons, List.foldr_cons]
      exact ih _

theorem chain_parts (value : List Char) (last : Pattern) : Outline.partsOf (chain value last).branchParts =
    (value.map fun c => classOutline (.caseless c)) ++ Outline.partsOf last.branchParts := by
  induction value with
  | nil => rfl
  | cons c value ih =>
      rw [List.map_cons, List.cons_append, ← ih]
      rfl

theorem of_parts_empty (front back : List Outline) :
    Outline.ofParts (front ++ .empty :: back) = Outline.ofParts (front ++ back) := by
  have same : (Outline.flattenParts (front ++ .empty :: back)).foldr Outline.joinPart [] =
      (Outline.flattenParts (front ++ back)).foldr Outline.joinPart [] := by
    simp [Outline.flattenParts, Outline.joinPart]
  rw [Outline.ofParts, same, ← Outline.ofParts]

-- Of an empty value there is an empty part, which joining drops.
theorem caseless_parts (front : List Outline) (value : List Char) (back : List Outline) :
    Outline.ofParts (front ++ (Outline.partsOf (caseless value).branchParts ++ back)) =
      Outline.ofParts (front ++ ((value.map fun c => classOutline (.caseless c)) ++ back)) := by
  induction value using caseless.induct generalizing front with
  | case1 => exact of_parts_empty front back
  | case2 c => rfl
  | case3 c value more ih =>
      have onwards := ih (front ++ [classOutline (.caseless c)])
      rw [List.append_assoc, List.append_assoc] at onwards
      rw [caseless.eq_3 c value more]
      exact onwards

theorem words_as_expression (value : List Char) : ∃ e p,
    Expr.ofString? (String.ofList (Expr.ofWords value)) = some e ∧
      e.pattern? { caseless := true } = some (p, { caseless := true }) ∧
      p.fits = (words value).fits ∧ ∀ text, p.isIn text = (words value).isIn text := by
  refine ⟨_, _, Expr.read_words value, Expr.words_pattern value, ?_, fun text => ?_⟩
  · have outlines : (Pattern.seq (.group false leftEdge) (chain value (.group false rightEdge))).outline =
        (words value).outline := by
      change Outline.ofParts (Outline.partsOf leftEdge.branchParts ++
        Outline.partsOf (chain value (.group false rightEdge)).branchParts) = _
      rw [chain_parts]
      exact (caseless_parts _ value _).symm
    rw [of_list_chain, fits, fits, outlines]
  · have same (places : Nat) : (Pattern.seq (.group false leftEdge) (chain value (.group false rightEdge))).ends text places =
        (words value).ends text places := chain_ends text value _ _
    rw [of_list_chain, isIn, isIn, same]

end Pattern

end NowNext
