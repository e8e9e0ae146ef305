/-! A bus hands each message to everyone who has subscribed before it is sent. It keeps a limited
number of messages: a subscriber who falls further behind loses the oldest and is told how many.
What one subscriber does is of no consequence to the others.
-/

namespace AdoptionRecords

/-- A bus: how many messages it keeps; the messages that it keeps, each with its number; how many were
sent; and for each subscriber the number of the message to receive next. A subscriber who left has
none. Messages are numbered as they are sent, and go around the slots: when all are taken, each
message takes the slot of the oldest.
-/
structure Bus (α : Type) where
  room : Nat
  slots : Array (Nat × α)
  sent : Nat
  cursors : List (Option Nat)
  deriving Repr

/-- What a subscriber receives. -/
inductive Reception (α : Type)
  | message (content : α)
  | lagged (lost : Nat)
  | empty
  deriving DecidableEq, Repr

namespace Bus

variable {α : Type}

/-- The capacity of a bus that nobody chose. -/
def standardCapacity : Nat :=
  256

/-- The greatest room of a bus: no memory holds more messages. -/
def greatestRoom : Nat :=
  Nat.pow 2 55

/-- The least power of two that is not less than a number. -/
def roundUp (capacity : Nat) : Nat :=
  if capacity ≤ 1 then 1 else Nat.pow 2 ((capacity - 1).log2 + 1)

/-- A bus with room for at least the given number of messages, the number being rounded up to a
power of two. There is none with room for no message, or for more than memory holds.
-/
def open? (capacity : Nat) : Option (Bus α) :=
  if capacity = 0 ∨ greatestRoom < capacity then none
  else some { room := roundUp capacity, slots := #[], sent := 0, cursors := [] }

/-- Adds a subscriber, who receives what is sent from now on. Subscribers are numbered in the order in
which they come.
-/
def subscribe (b : Bus α) : Nat × Bus α :=
  (b.cursors.length, { b with cursors := b.cursors ++ [some b.sent] })

/-- Lets a subscriber leave. -/
def leave (b : Bus α) (subscriber : Nat) : Bus α :=
  { b with cursors := b.cursors.set subscriber none }

/-- The number of subscribers who have not left. -/
def subscriberCount (b : Bus α) : Nat :=
  b.cursors.countP Option.isSome

/-- Puts a message into its slot. -/
def post (b : Bus α) (message : α) : Bus α :=
  { b with
    slots :=
      if b.slots.size < b.room then b.slots.push (b.sent, message)
      else b.slots.setIfInBounds (b.sent % b.room) (b.sent, message)
    sent := b.sent + 1 }

/-- Sends messages one after another. Without subscribers they are lost. -/
def send (b : Bus α) (messages : List α) : Bus α :=
  if b.subscriberCount = 0 then b else messages.foldl post b

/-- What there is for a subscriber to receive who waits for the message with a given number, and the
number of the message that comes after.
-/
def look (b : Bus α) (number : Nat) : Reception α × Nat :=
  match b.slots[number % b.room]? with
  | none => (.empty, number)
  | some (found, content) =>
      if found = number then (.message content, number + 1)
      -- The slot holds the message before: its successor is still to be sent.
      else if found + b.room = number then (.empty, number)
      -- The slot holds a later message: the next reception starts with the oldest that is kept.
      else (.lagged (b.sent - b.room - number), b.sent - b.room)

/-- Lets a subscriber receive; one who left, or never came, receives nothing. -/
def receive? (b : Bus α) (subscriber : Nat) : Option (Reception α × Bus α) :=
  match b.cursors[subscriber]? with
  | some (some number) =>
      let (reception, next) := b.look number
      some (reception, { b with cursors := b.cursors.set subscriber (some next) })
  | _ => none

end Bus

end AdoptionRecords
