import Mathlib.Algebra.Ring.Nat
import Mathlib.Data.List.Induction
import NowNext.Proofs.Relay.Ring

set_option autoImplicit false

namespace NowNext

inductive RelayOp where
  | subscribe
  | unsubscribe (id : Nat)
  | publish (update : Update)
  | receive (id : Nat)
  | close
deriving DecidableEq

def RelayOp.update? : RelayOp → Option Update
  | publish update => some update
  | _ => none

theorem RelayOp.update_some (op : RelayOp) (update : Update) (sent : op.update? = some update) :
    op = .publish update := by
  cases op with
  | publish other =>
      cases sent
      rfl
  | subscribe | unsubscribe id | receive id | close => cases sent

namespace Received

def update? : Received → Option Update
  | .update content => some content
  | _ => none

def lost : Received → Nat
  | lagged count => count
  | _ => 0

def moves : Received → Nat
  | .update _ => 1
  | lagged count => count
  | empty | closed => 0

end Received

namespace Relay

def perform (relay : Relay) : RelayOp → Relay
  | .subscribe => relay.subscribe.2
  | .unsubscribe id => relay.unsubscribe id
  | .publish update => (relay.publish update).2
  | .receive id => (relay.receive id).2
  | .close => relay.close

def after (relay : Relay) (ops : List RelayOp) : Relay := ops.foldl perform relay

def published (ops : List RelayOp) : List Update := ops.filterMap RelayOp.update?

def answers (id : Nat) : Relay → List RelayOp → List Received
  | _, [] => []
  | relay, op :: rest =>
      (if op = .receive id then [(relay.receive id).1] else []) ++ answers id (relay.perform op) rest

def passed (id : Nat) (relay : Relay) (ops : List RelayOp) : Nat := ((answers id relay ops).map Received.moves).sum

variable {relay : Relay}

theorem receive_moves (relay : Relay) (id : Nat) : ∃ positions, (relay.receive id).2 = { relay with positions } ∧
    positions.length = relay.positions.length ∧ ∀ other, id ≠ other → positions[other]? = relay.positions[other]? := by
  unfold receive
  split
  · exact ⟨relay.positions, rfl, rfl, fun _ _ => rfl⟩
  · split
    · exact ⟨_, rfl, List.length_set, fun _ others => List.getElem?_set_ne others⟩
    · split
      · exact ⟨relay.positions, rfl, rfl, fun _ _ => rfl⟩
      · exact ⟨_, rfl, List.length_set, fun _ others => List.getElem?_set_ne others⟩

theorem publish_keeps (relay : Relay) (update : Update) :
    (relay.publish update).2 = if relay.isDeserted then relay else relay.keep update := by
  rw [publish, offer?]
  split <;> rfl

theorem perform_frame (relay : Relay) (op : RelayOp) : (relay.perform op).slots = relay.slots ∧
    ((relay.perform op).isClosed = true ↔ relay.isClosed = true ∨ .close = op) ∧
    (relay.perform op).positions.length = relay.positions.length + [op].count .subscribe := by
  cases op with
  | subscribe => exact ⟨rfl, by simp [perform, subscribe], by simp [perform, subscribe]⟩
  | unsubscribe id => exact ⟨rfl, by simp [perform, unsubscribe], by simp [perform, unsubscribe]⟩
  | publish update =>
      rw [perform, publish_keeps]
      split <;> exact ⟨rfl, by simp [keep], by simp [keep]⟩
  | receive id =>
      obtain ⟨positions, moved, length, _⟩ := relay.receive_moves id
      rw [perform, moved]
      exact ⟨rfl, by simp, by simp [length]⟩
  | close => exact ⟨rfl, by simp [perform, close], by simp [perform, close]⟩

theorem after_append (relay : Relay) (ops : List RelayOp) (op : RelayOp) :
    relay.after (ops ++ [op]) = (relay.after ops).perform op := by
  rw [after, List.foldl_append]
  rfl

theorem after_frame (relay : Relay) (ops : List RelayOp) : (relay.after ops).slots = relay.slots ∧
    ((relay.after ops).isClosed = true ↔ relay.isClosed = true ∨ .close ∈ ops) ∧
    (relay.after ops).positions.length = relay.positions.length + ops.count .subscribe := by
  induction ops using List.reverseRecOn with
  | nil => exact ⟨rfl, by simp [after], rfl⟩
  | append_singleton ops op ih =>
      obtain ⟨slots, closed, joined⟩ := (relay.after ops).perform_frame op
      rw [after_append, slots, closed, joined, ih.1, ih.2.1, ih.2.2, or_assoc, List.count_append, Nat.add_assoc]
      exact ⟨rfl, by simp, rfl⟩

theorem perform_holds {log : List Update} (holds : relay.Holds log) (op : RelayOp) :
    ∃ log, (relay.perform op).Holds log := by
  cases op with
  | subscribe | unsubscribe id | close => exact ⟨log, holds.next, holds.kept⟩
  | publish update =>
      rw [perform, publish_keeps]
      split
      · exact ⟨log, holds⟩
      · exact ⟨log ++ [update], keep_holds holds update⟩
  | receive id =>
      obtain ⟨positions, moved, _⟩ := relay.receive_moves id
      rw [perform, moved]
      exact ⟨log, holds.next, holds.kept⟩

theorem after_holds (capacity : Nat) (ops : List RelayOp) : ∃ log, ((ofCapacity capacity).after ops).Holds log := by
  induction ops using List.reverseRecOn with
  | nil => exact ⟨[], fresh_holds capacity⟩
  | append_singleton ops op ih =>
      obtain ⟨log, holds⟩ := ih
      rw [after_append]
      exact perform_holds holds op

-- A subscriber that joined after the old updates. It has moved past so many of those meant for it.
structure Follows (relay : Relay) (id : Nat) (old meant : List Update) (moved : Nat) : Prop where
  holds : relay.Holds (old ++ meant)
  position : relay.positions[id]? = some (some (old.length + moved))
  within : moved ≤ meant.length

inductive Fits (slots : Nat) (isClosed : Prop) (meant : List Update) (moved : Nat) : Received → Prop where
  | update (update : Update) (next : meant[moved]? = some update) (kept : meant.length ≤ moved + slots) :
      Fits slots isClosed meant moved (.update update)
  | lagged (count : Nat) (some : 0 < count) (oldest : moved + count + slots = meant.length) :
      Fits slots isClosed meant moved (.lagged count)
  | empty (all : moved = meant.length) (opened : ¬isClosed) : Fits slots isClosed meant moved .empty
  | closed (all : moved = meant.length) (ended : isClosed) : Fits slots isClosed meant moved .closed

variable {id moved : Nat} {old meant : List Update}

theorem unread_kept (follows : relay.Follows id old meant moved) : relay.kept? (old.length + moved) =
    if meant.length ≤ moved + relay.slots then meant[moved]? else none := by
  have unread : (old ++ meant)[old.length + moved]? = meant[moved]? := by
    rw [List.getElem?_append_right (Nat.le_add_right _ _), Nat.add_sub_cancel_left]
  have inside : (old ++ meant).length ≤ old.length + moved + relay.slots ↔ meant.length ≤ moved + relay.slots := by
    rw [List.length_append]
    omega
  rw [follows.holds.kept, unread]
  simp only [inside]

theorem move_follows (follows : relay.Follows id old meant moved) (further : Nat) (within : further ≤ meant.length) :
    (relay.moveTo id (old.length + further)).Follows id old meant further := by
  have there : id < relay.positions.length := (List.getElem?_eq_some_iff.mp follows.position).1
  exact ⟨⟨follows.holds.next, follows.holds.kept⟩, List.getElem?_set_self there, within⟩

theorem follows_found (follows : relay.Follows id old meant moved) :
    (relay.positions[id]?).join = some (old.length + moved) ∧ relay.next = old.length + meant.length := by
  rw [follows.position, Option.join_some, follows.holds.next, List.length_append]
  exact ⟨rfl, rfl⟩

theorem receive_unread (follows : relay.Follows id old meant moved) (update : Update)
    (next : meant[moved]? = some update) (near : meant.length ≤ moved + relay.slots) :
    relay.receive id = (.update update, relay.moveTo id (old.length + (moved + 1))) := by
  have kept : relay.kept? (old.length + moved) = some update := by
    rw [unread_kept follows, if_pos near, next]
  simp only [receive, (follows_found follows).1, kept]
  rfl

theorem receive_up_to_date (follows : relay.Follows id old meant meant.length) :
    relay.receive id = (if relay.isClosed then .closed else .empty, relay) := by
  obtain ⟨found, next⟩ := follows_found follows
  have kept : relay.kept? (old.length + meant.length) = none := by
    rw [unread_kept follows, if_pos (Nat.le_add_right _ _), List.getElem?_eq_none_iff.mpr (Nat.le_refl _)]
  simp only [receive, found, kept, next, if_true]

theorem receive_late (follows : relay.Follows id old meant moved) (late : moved + relay.slots < meant.length) :
    relay.receive id = (.lagged (meant.length - relay.slots - moved),
      relay.moveTo id (old.length + (meant.length - relay.slots))) := by
  obtain ⟨found, next⟩ := follows_found follows
  have kept : relay.kept? (old.length + moved) = none := by
    rw [unread_kept follows, if_neg (Nat.not_le_of_lt late)]
  have behind : ¬old.length + moved = old.length + meant.length := by omega
  have oldest : relay.oldest = old.length + (meant.length - relay.slots) := by
    rw [Relay.oldest, next]
    omega
  simp only [receive, found, kept, next, behind, if_false, oldest, Nat.add_sub_add_left]

theorem receive_fits (follows : relay.Follows id old meant moved) :
    Fits relay.slots (relay.isClosed = true) meant moved (relay.receive id).1 ∧
      (relay.receive id).2.Follows id old meant (moved + (relay.receive id).1.moves) := by
  rcases Nat.lt_or_ge (moved + relay.slots) meant.length with late | near
  · have further : moved + (meant.length - relay.slots - moved) = meant.length - relay.slots := by omega
    rw [receive_late follows late, Received.moves, further]
    exact ⟨.lagged _ (by omega) (by omega), move_follows follows _ (Nat.sub_le _ _)⟩
  · rcases Nat.eq_or_lt_of_le follows.within with rfl | unread
    · rw [receive_up_to_date follows]
      cases ended : relay.isClosed with
      | true => exact ⟨.closed rfl rfl, follows⟩
      | false => exact ⟨.empty rfl Bool.false_ne_true, follows⟩
    · have next : meant[moved]? = some meant[moved] := List.getElem?_eq_getElem unread
      rw [receive_unread follows _ next near]
      exact ⟨.update _ next near, move_follows follows (moved + 1) unread⟩

theorem subscribe_follows {log : List Update} (holds : relay.Holds log) :
    relay.subscribe.2.Follows relay.subscribe.1 log [] 0 := by
  refine ⟨?_, ?_, Nat.le_refl _⟩
  · rw [List.append_nil]
    exact ⟨holds.next, holds.kept⟩
  · rw [Nat.add_zero, ← holds.next]
    exact List.getElem?_concat_length

theorem listened (follows : relay.Follows id old meant moved) : relay.isDeserted = false :=
  List.all_eq_false.mpr ⟨_, List.mem_of_getElem? follows.position, Bool.false_ne_true⟩

theorem publish_follows (follows : relay.Follows id old meant moved) (update : Update) :
    (relay.perform (.publish update)).Follows id old (meant ++ [update]) moved := by
  rw [perform, publish_keeps, listened follows, if_neg Bool.false_ne_true]
  refine ⟨?_, follows.position, ?_⟩
  · rw [← List.append_assoc]
    exact keep_holds follows.holds update
  · rw [List.length_append]
    exact Nat.le_add_right_of_le follows.within

theorem elsewhere_follows (follows : relay.Follows id old meant moved) (positions : List (Option Nat)) (isClosed : Bool)
    (kept : positions[id]? = relay.positions[id]?) : Follows { relay with positions, isClosed } id old meant moved :=
  ⟨⟨follows.holds.next, follows.holds.kept⟩, kept.trans follows.position, follows.within⟩

theorem others_follow (follows : relay.Follows id old meant moved) (op : RelayOp) (stays : op ≠ .unsubscribe id)
    (silent : op.update? = none) (others : op ≠ .receive id) : (relay.perform op).Follows id old meant moved := by
  have there : id < relay.positions.length := (List.getElem?_eq_some_iff.mp follows.position).1
  cases op with
  | subscribe => exact elsewhere_follows follows _ relay.isClosed (List.getElem?_append_left there)
  | unsubscribe other =>
      exact elsewhere_follows follows _ relay.isClosed (List.getElem?_set_ne fun own => stays (congrArg _ own))
  | publish update => cases silent
  | receive other =>
      obtain ⟨positions, moved, _, kept⟩ := relay.receive_moves other
      rw [perform, moved]
      exact elsewhere_follows follows positions relay.isClosed (kept id fun own => others (congrArg _ own))
  | close => exact elsewhere_follows follows relay.positions true rfl

theorem published_append (ops : List RelayOp) (op : RelayOp) :
    published (ops ++ [op]) = published ops ++ op.update?.toList := by
  rw [published, List.filterMap_append]
  cases op <;> rfl

theorem answers_append (id : Nat) (relay : Relay) (ops : List RelayOp) (op : RelayOp) :
    answers id relay (ops ++ [op]) =
      answers id relay ops ++ if op = .receive id then [((relay.after ops).receive id).1] else [] := by
  induction ops generalizing relay with
  | nil => simp [answers, after]
  | cons first rest ih =>
      rw [List.cons_append, answers, answers, ih, List.append_assoc]
      rfl

theorem passed_append (id : Nat) (relay : Relay) (ops : List RelayOp) (op : RelayOp) : passed id relay (ops ++ [op]) =
    passed id relay ops + if op = .receive id then ((relay.after ops).receive id).1.moves else 0 := by
  rw [passed, answers_append, List.map_append, List.sum_append, passed]
  split <;> simp

theorem passed_sum (told : List Received) :
    (told.map Received.moves).sum = (told.filterMap Received.update?).length + (told.map Received.lost).sum := by
  induction told with
  | nil => rfl
  | cons received rest ih =>
      rw [List.map_cons, List.sum_cons, List.map_cons, List.sum_cons, ih]
      cases received with
      | update update =>
          simp only [Received.moves, Received.lost, Received.update?, List.filterMap_cons, List.length_cons]
          omega
      | empty | closed | lagged count =>
          simp only [Received.moves, Received.lost, Received.update?, List.filterMap_cons]
          omega

theorem since_follows (joined : relay.Follows id old [] 0) (since : List RelayOp) (stays : .unsubscribe id ∉ since) :
    (relay.after since).Follows id old (published since) (passed id relay since) := by
  induction since using List.reverseRecOn with
  | nil => exact joined
  | append_singleton earlier op ih =>
      have follows := ih fun left => stays (List.mem_append_left _ left)
      rw [after_append, published_append, passed_append]
      by_cases own : op = .receive id
      · have silent : op.update? = none := by
          rw [own]
          rfl
        rw [silent, own, if_pos rfl, Option.toList_none, List.append_nil]
        exact (receive_fits follows).2
      · rw [if_neg own, Nat.add_zero]
        cases sent : op.update? with
        | some update =>
            rw [op.update_some update sent]
            exact publish_follows follows update
        | none =>
            rw [Option.toList_none, List.append_nil]
            refine others_follow follows op ?_ sent own
            rintro rfl
            exact stays (by simp)

theorem receive_some_reaches (fuel : Nat) (follows : relay.Follows id old meant moved)
    (near : meant.length ≤ moved + relay.slots) (enough : meant.length ≤ moved + fuel) :
    (receiveSome id fuel relay).2.Follows id old meant meant.length := by
  induction fuel generalizing relay moved with
  | zero =>
      have all : moved = meant.length := Nat.le_antisymm follows.within enough
      exact all ▸ follows
  | succ fuel ih =>
      unfold receiveSome
      rcases Nat.eq_or_lt_of_le follows.within with rfl | unread
      · rw [receive_up_to_date follows]
        cases relay.isClosed <;> exact follows
      · rw [receive_unread follows _ (List.getElem?_eq_getElem unread) near]
        have moves : meant.length ≤ moved + 1 + relay.slots := by omega
        exact ih (move_follows follows (moved + 1) unread) moves (by omega)

-- One more attempt makes up for a loss before.
theorem receive_all_reaches (follows : relay.Follows id old meant moved) :
    (relay.receiveAll id).2.Follows id old meant meant.length := by
  rcases Nat.lt_or_ge (moved + relay.slots) meant.length with late | near
  · unfold receiveAll receiveSome
    rw [receive_late follows late]
    have rest := move_follows follows (meant.length - relay.slots) (Nat.sub_le _ _)
    have near : meant.length ≤ meant.length - relay.slots + relay.slots := by omega
    exact receive_some_reaches relay.slots rest near near
  · exact receive_some_reaches (relay.slots + 1) follows near (Nat.le_succ_of_le near)

-- The attempt that led past an update without it. So many were sent after it by then that its slot was needed.
def Missed (relay : Relay) (id : Nat) (since : List RelayOp) (number : Nat) : Prop :=
  ∃ earlier later, since = earlier ++ .receive id :: later ∧ passed id relay earlier ≤ number ∧
    number < passed id relay (earlier ++ [.receive id]) ∧ number + relay.slots < (published earlier).length

structure Accounts (relay : Relay) (id : Nat) (since : List RelayOp) (numbers : List Nat) : Prop where
  ordered : numbers.Pairwise (· < ·)
  past : ∀ number ∈ numbers, number < passed id relay since
  got : numbers.map ((published since)[·]?) = ((answers id relay since).filterMap Received.update?).map some
  missed : ∀ number < passed id relay since, number ∉ numbers → relay.Missed id since number

theorem missed_append {since : List RelayOp} {number : Nat} (missed : relay.Missed id since number) (op : RelayOp) :
    relay.Missed id (since ++ [op]) number := by
  obtain ⟨earlier, later, rfl, before, behind, full⟩ := missed
  exact ⟨earlier, later ++ [op], by simp, before, behind, full⟩

variable {since : List RelayOp} {numbers : List Nat}

theorem others_account (accounts : relay.Accounts id since numbers)
    (within : passed id relay since ≤ (published since).length) (op : RelayOp) (others : op ≠ .receive id) :
    relay.Accounts id (since ++ [op]) numbers := by
  have told : answers id relay (since ++ [op]) = answers id relay since := by
    rw [answers_append, if_neg others, List.append_nil]
  have far : passed id relay (since ++ [op]) = passed id relay since := by
    rw [passed_append, if_neg others, Nat.add_zero]
  refine ⟨accounts.ordered, ?_, ?_, ?_⟩
  · rw [far]
    exact accounts.past
  · rw [told, ← accounts.got, published_append]
    refine List.map_congr_left fun number member => ?_
    exact List.getElem?_append_left (Nat.lt_of_lt_of_le (accounts.past number member) within)
  · rw [far]
    exact fun number behind unread => missed_append (accounts.missed number behind unread) op

theorem receive_accounts (accounts : relay.Accounts id since numbers)
    (follows : (relay.after since).Follows id old (published since) (passed id relay since)) :
    ∃ numbers, relay.Accounts id (since ++ [.receive id]) numbers := by
  obtain ⟨fits, _⟩ := receive_fits follows
  have told := answers_append id relay since (.receive id)
  have far := passed_append id relay since (.receive id)
  have same : published (since ++ [.receive id]) = published since := by
    rw [published_append]
    exact List.append_nil _
  rw [if_pos rfl] at told far
  rw [(relay.after_frame since).1] at fits
  generalize ((relay.after since).receive id).1 = answer at told far fits
  have unmoved : answer.update? = none → (answer.moves = 0 ∨ passed id relay since + answer.moves + relay.slots =
      (published since).length) → relay.Accounts id (since ++ [.receive id]) numbers := by
    intro nothing lost
    refine ⟨accounts.ordered, ?_, ?_, ?_⟩
    · intro number member
      have before := accounts.past number member
      omega
    · rw [told, same, List.filterMap_append, accounts.got]
      simp [nothing]
    · intro number behind unread
      by_cases before : number < passed id relay since
      · exact missed_append (accounts.missed number before unread) _
      · exact ⟨since, [], rfl, by omega, behind, by omega⟩
  cases fits with
  | update update next kept =>
      refine ⟨numbers ++ [passed id relay since], ?_, ?_, ?_, ?_⟩
      · rw [List.pairwise_append]
        exact ⟨accounts.ordered, List.pairwise_singleton _ _, by simpa using accounts.past⟩
      · intro number member
        rw [far, Received.moves]
        rcases List.mem_append.mp member with before | last
        · exact Nat.lt_succ_of_lt (accounts.past number before)
        · rw [List.mem_singleton.mp last]
          exact Nat.lt_succ_self _
      · rw [told, same, List.filterMap_append, List.map_append, List.map_append, accounts.got]
        simp [next, Received.update?]
      · intro number behind unread
        rw [far, Received.moves] at behind
        rw [List.mem_append, List.mem_singleton, not_or] at unread
        exact missed_append (accounts.missed number (by omega) unread.1) _
  | lagged count some oldest => exact ⟨numbers, unmoved rfl (.inr oldest)⟩
  | empty all opened => exact ⟨numbers, unmoved rfl (.inl rfl)⟩
  | closed all ended => exact ⟨numbers, unmoved rfl (.inl rfl)⟩

theorem since_accounts (joined : relay.Follows id old [] 0) (since : List RelayOp) (stays : .unsubscribe id ∉ since) :
    ∃ numbers, relay.Accounts id since numbers := by
  induction since using List.reverseRecOn with
  | nil => exact ⟨[], .nil, by simp, rfl, by simp [passed, answers]⟩
  | append_singleton earlier op ih =>
      have stayed : .unsubscribe id ∉ earlier := fun left => stays (List.mem_append_left _ left)
      have follows := since_follows joined earlier stayed
      obtain ⟨numbers, accounts⟩ := ih stayed
      by_cases own : op = .receive id
      · rw [own]
        exact receive_accounts accounts follows
      · exact ⟨numbers, others_account accounts follows.within op own⟩

theorem updates_accounted (capacity : Nat) (before since : List RelayOp)
    (stays : .unsubscribe (before.count .subscribe) ∉ since) :
    let opened := ofCapacity capacity
    let id := before.count .subscribe
    let joined := (opened.after before).subscribe.2
    let relay := joined.after since
    let got := (answers id joined since).filterMap Received.update?
    let lost := ((answers id joined since).map Received.lost).sum
    (0 < capacity → capacity ≤ maxCapacity → open? capacity = some opened) ∧
    IsLeast {slots : Nat | slots.isPowerOfTwo ∧ capacity ≤ slots} joined.slots ∧
    (∀ update, (relay.publish update).1 = none) ∧
    (opened.after before).subscribe.1 = id ∧
    relay.positions[id]? = some (some (joined.next + passed id joined since)) ∧
    passed id joined since = got.length + lost ∧ passed id joined since ≤ (published since).length ∧
    (∃ numbers, joined.Accounts id since numbers) ∧
    (relay.receiveAll id).2.positions[id]? = some (some relay.next) ∧
    ∀ earlier later, since = earlier ++ .receive id :: later →
      Fits joined.slots (.close ∈ before ++ earlier) (published earlier) (passed id joined earlier)
        ((joined.after earlier).receive id).1 := by
  intro opened id joined relay got lost
  obtain ⟨log, holds⟩ := after_holds capacity before
  obtain ⟨slots, closed, number⟩ := opened.after_frame before
  have named : (opened.after before).subscribe.1 = id := by
    change (opened.after before).positions.length = _
    rw [number]
    exact Nat.zero_add _
  have follows : joined.Follows id log [] 0 := by
    rw [← named]
    exact subscribe_follows holds
  have now : relay.Follows id log (published since) (passed id joined since) := since_follows follows since stays
  refine ⟨?_, ?_, fun _ => rfl, named, ?_, passed_sum _, now.within, since_accounts follows since stays, ?_, ?_⟩
  · intro positive bounded
    exact if_neg (by omega)
  · change IsLeast _ (opened.after before).slots
    rw [slots]
    exact slots_for_least capacity
  · have next : joined.next = log.length := holds.next
    rw [next]
    exact now.position
  · rw [(follows_found now).2]
    exact (receive_all_reaches now).position
  · rintro earlier later rfl
    have stayed : .unsubscribe id ∉ earlier := fun left => stays (List.mem_append_left _ left)
    have fits := (receive_fits (since_follows follows earlier stayed)).1
    obtain ⟨same, ended, _⟩ := joined.after_frame earlier
    have opens : joined.isClosed = true ↔ .close ∈ before := by
      change (opened.after before).isClosed = true ↔ _
      rw [closed]
      exact or_iff_right Bool.false_ne_true
    rw [same, ended, opens, ← List.mem_append] at fits
    exact fits

-- One subscriber is there before. The other one joins after an update and falls behind by one more than
-- the four slots; it reads on when the relay is closed.
def crowd : List RelayOp := [.subscribe, .publish (.status .online)]

def rush : List RelayOp :=
  [.publish (.board .blank), .receive 0, .publish (.status .unknown), .publish (.status .online), .unsubscribe 0,
    .publish (.board .blank), .publish (.status .unknown), .receive 1, .close, .receive 1, .receive 1, .receive 1,
    .receive 1, .receive 1]

theorem updates_accounted_in_crowd :
    .unsubscribe (crowd.count .subscribe) ∉ rush ∧
      IsLeast {slots : Nat | slots.isPowerOfTwo ∧ 3 ≤ slots} 4 ∧
      answers 1 ((ofCapacity 3).after crowd).subscribe.2 rush =
        [.lagged 1, .update (.status .unknown), .update (.status .online), .update (.board .blank),
          .update (.status .unknown), .closed] ∧
      (((ofCapacity 3).after crowd).subscribe.2.after rush).positions[1]? = some (some (1 + (4 + 1))) := by
  have stays : .unsubscribe (crowd.count .subscribe) ∉ rush := by decide
  obtain ⟨_, least, _, _, position, total, _⟩ := updates_accounted 3 crowd rush stays
  have told : answers 1 ((ofCapacity 3).after crowd).subscribe.2 rush =
      [.lagged 1, .update (.status .unknown), .update (.status .online), .update (.board .blank),
        .update (.status .unknown), .closed] := by decide +kernel
  refine ⟨stays, least, told, ?_⟩
  rw [total] at position
  exact position.trans (by decide +kernel)

end Relay

end NowNext
