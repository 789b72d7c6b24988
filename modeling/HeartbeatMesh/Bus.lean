import Std.Data.ExtTreeMap
import HeartbeatMesh.Text.Utf8

/-!
# The bus

Everything that is published goes to every subscription, in one order for all. Units are numbered
as they are published, and a subscription is the number of the unit that it reads next. The bus
keeps the most recent units, as many as it has slots; a subscription that asks for one that is gone
goes on at the oldest that is kept.

A closed bus takes nothing more, but what it keeps can still be read.
-/

namespace HeartbeatMesh

/-- The least power of two that is not below `n`, for `n` up to `2 ^ 64`. -/
def slotsFor (n : Nat) : Nat :=
  ((List.range 64).find? fun k => n ≤ 1 <<< k).elim (1 <<< 64) (1 <<< ·)

/-- A bus. -/
structure Bus where
  /-- How many units are kept. -/
  slots : Nat
  /-- The number of the oldest unit that is kept. -/
  oldest : Nat := 0
  /-- The units that are kept, in the order of their publication. -/
  kept : Array Bytes := #[]
  /-- For each subscription the number of the unit that it reads next. -/
  cursors : Std.ExtTreeMap Nat Nat := ∅
  /-- How many subscriptions there have been. -/
  subscribed : Nat := 0
  isOpen : Bool := true

/-- What a subscription finds when it reads. -/
inductive Reception where
  | unit (data : Bytes)
  /-- Nothing is unread. -/
  | pending
  /-- Nothing is unread and nothing will come. -/
  | closed
  /-- There is no such subscription. -/
  | unknown
  deriving Repr, DecidableEq

namespace Bus

/-- The number of bytes of one slot, as the channel under the bus lays it out on a 64 bit machine:
its lock, its number, how many subscriptions have still to read it, and where its unit is kept. -/
def slotSize : Nat := 48

/-- The largest number of bytes that the slots of a channel can take together. They are one piece of
memory, and the size of a piece is a signed number of 64 bits. -/
def maxSize : Nat := (1 <<< 63) - 1

/-- A bus that keeps at least the given number of units, and at least one; `none` if there is no
room for so many slots. Room is what the channel checks of a capacity before it asks for any memory;
it has nothing to do with how much memory the machine has. -/
def new? (capacity : Nat) : Option Bus :=
  let slots := slotsFor (max 1 capacity)
  if slots * slotSize ≤ maxSize then some { slots } else none

/-- The number of the next unit to be published. -/
def next (b : Bus) : Nat := b.oldest + b.kept.size

/-- A new subscription, which reads what is published from now on. -/
def subscribe (b : Bus) : Nat × Bus :=
  (b.subscribed,
    { b with cursors := b.cursors.insert b.subscribed b.next, subscribed := b.subscribed + 1 })

/-- Ends a subscription. -/
def unsubscribe (b : Bus) (i : Nat) : Bus := { b with cursors := b.cursors.erase i }

/-- Whether a subscription is there. -/
def isSubscribed (b : Bus) (i : Nat) : Bool := b.cursors.contains i

/-- The number of subscriptions. -/
def subscriberCount (b : Bus) : Nat := b.cursors.size

/-- Publishes a unit. When all slots are taken the oldest unit goes. -/
def publish (b : Bus) (data : Bytes) : Bus :=
  if b.kept.size < b.slots then { b with kept := b.kept.push data }
  else { b with oldest := b.oldest + 1, kept := (b.kept.eraseIdxIfInBounds 0).push data }

/-- Publishes units one after the other. -/
def publishAll (b : Bus) (units : List Bytes) : Bus := units.foldl publish b

/-- Reads one unit. -/
def receive (b : Bus) (i : Nat) : Reception × Bus :=
  match b.cursors[i]? with
  | none => (.unknown, b)
  | some cursor =>
    let at_ := max cursor b.oldest
    match b.kept[at_ - b.oldest]? with
    | some data => (.unit data, { b with cursors := b.cursors.insert i (at_ + 1) })
    | none => (if b.isOpen then .pending else .closed, b)

/-- The number of units that a subscription can still read. -/
def unread (b : Bus) (i : Nat) : Nat :=
  match b.cursors[i]? with
  | none => 0
  | some cursor => b.next - max cursor b.oldest

/-- Closes the bus. -/
def close (b : Bus) : Bus := { b with isOpen := false }

end Bus

end HeartbeatMesh
