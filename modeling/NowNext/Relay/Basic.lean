import NowNext.Board.Basic
import NowNext.Status

/-!
A relay of updates to subscribers that read at their own pace. It keeps the latest updates in a ring of
slots, where each one takes the place of an old one; a subscriber who is further behind is told how many
it missed and goes on with the oldest one that is kept.
-/

set_option autoImplicit false

namespace NowNext

inductive Update where
  | board (board : Board)
  | status (status : Status)
deriving DecidableEq

structure Kept where
  number : Nat
  update : Update
deriving DecidableEq

-- Each subscriber is at the number of the update that it reads next, and nowhere once it left.
structure Relay where
  slots : Nat
  slots_pos : 0 < slots
  ring : Vector (Option Kept) slots := .replicate slots none
  next : Nat := 0
  positions : List (Option Nat) := []
  isClosed : Bool := false

inductive Received where
  | update (update : Update)
  | empty
  | closed
  | lagged (count : Nat)
deriving DecidableEq

namespace Relay

def maxCapacity : Nat := 9223372036854775807

def slotsFor (capacity : Nat) : Nat := if capacity ≤ 1 then 1 else Nat.pow 2 ((capacity - 1).log2 + 1)

theorem slots_for_pos (capacity : Nat) : 0 < slotsFor capacity := by
  unfold slotsFor
  split
  · exact Nat.one_pos
  · exact Nat.two_pow_pos _

def ofCapacity (capacity : Nat) : Relay :=
  { slots := slotsFor capacity, slots_pos := slots_for_pos capacity }

def open? (capacity : Nat) : Option Relay :=
  if capacity = 0 ∨ maxCapacity < capacity then none else some (ofCapacity capacity)

def subscribe (relay : Relay) : Nat × Relay :=
  (relay.positions.length,
    { relay with positions := relay.positions ++ [some relay.next] })

def unsubscribe (relay : Relay) (id : Nat) : Relay :=
  { relay with positions := relay.positions.set id none }

def isDeserted (relay : Relay) : Bool := relay.positions.all Option.isNone

def place (relay : Relay) (number : Nat) : Fin relay.slots :=
  ⟨number % relay.slots, Nat.mod_lt _ relay.slots_pos⟩

def keep (relay : Relay) (update : Update) : Relay :=
  let place := relay.place relay.next
  { relay with
    ring := relay.ring.set place (some ⟨relay.next, update⟩) place.isLt
    next := relay.next + 1 }

def offer? (relay : Relay) (update : Update) : Option Relay :=
  if relay.isDeserted then none else some (relay.keep update)

-- What nobody is there to get is dropped, which is no fault.
def publish (relay : Relay) (update : Update) : Option Fault × Relay :=
  (none, (relay.offer? update).getD relay)

def send (relay : Relay) (update : Update) : Relay := (relay.publish update).2

def close (relay : Relay) : Relay := { relay with isClosed := true }

-- The update of that number, unless its slot has another one.
def kept? (relay : Relay) (number : Nat) : Option Update :=
  (relay.ring[relay.place number].filter fun kept => kept.number = number).map Kept.update

def oldest (relay : Relay) : Nat := relay.next - relay.slots

def moveTo (relay : Relay) (id position : Nat) : Relay :=
  { relay with positions := relay.positions.set id (some position) }

def receive (relay : Relay) (id : Nat) : Received × Relay :=
  match (relay.positions[id]?).join with
  | none => (.closed, relay)
  | some position =>
      match relay.kept? position with
      | some update => (.update update, relay.moveTo id (position + 1))
      | none =>
          if position = relay.next then (if relay.isClosed then .closed else .empty, relay)
          else (.lagged (relay.oldest - position), relay.moveTo id relay.oldest)

def receiveSome (id : Nat) : Nat → Relay → List Received × Relay
  | 0, relay => ([], relay)
  | fuel + 1, relay =>
      match relay.receive id with
      | (.empty, rest) | (.closed, rest) => ([], rest)
      | (received, rest) =>
          let (others, last) := receiveSome id fuel rest
          (received :: others, last)

def receiveAll (relay : Relay) (id : Nat) : List Received × Relay :=
  receiveSome id (relay.slots + 1) relay

end Relay

end NowNext
