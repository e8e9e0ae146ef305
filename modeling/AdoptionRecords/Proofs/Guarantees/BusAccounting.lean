import AdoptionRecords.Proofs.Bus.Ring
import Mathlib.Algebra.Ring.Nat
import Mathlib.Order.Bounds.Basic

/-! A bus accounts for each message. Whatever the subscribers do, all that is sent after one has come is
received by it in order, or told to it as lost, or still pending; and what one subscriber does is of no
consequence to the others.
-/

namespace AdoptionRecords

variable {α : Type}

/-- The message that is received, if there is one. -/
def Reception.content? : Reception α → Option α
  | message content => some content
  | lagged _ | empty => none

/-- How many messages are told to be lost. -/
def Reception.lost : Reception α → Nat
  | lagged lost => lost
  | message _ | empty => 0

namespace Bus

-----------------------------------------------------------------------------------------
-- What happens on a bus
-----------------------------------------------------------------------------------------

/-- What is done with a bus. -/
inductive Step (α : Type)
  | subscribe
  | leave (subscriber : Nat)
  | send (messages : List α)
  | receive (subscriber : Nat)
  deriving DecidableEq

namespace Step

/-- The messages that are sent. -/
def messages : Step α → List α
  | send messages => messages
  | subscribe | leave _ | receive _ => []

/-- Whether a subscriber comes. -/
def subscribes : Step α → Bool
  | subscribe => true
  | leave _ | send _ | receive _ => false

/-- Whether a given subscriber receives. -/
def receives (subscriber : Nat) : Step α → Bool
  | receive other => other = subscriber
  | subscribe | leave _ | send _ => false

/-- Whether a step is more than the leaving or receiving of another subscriber. -/
def concerns (subscriber : Nat) : Step α → Bool
  | leave other | receive other => other = subscriber
  | subscribe | send _ => true

end Step

/-- The bus after a step. -/
def step (b : Bus α) : Step α → Bus α
  | .subscribe => b.subscribe.2
  | .leave subscriber => b.leave subscriber
  | .send messages => b.send messages
  | .receive subscriber => ((b.receive? subscriber).map Prod.snd).getD b

/-- The bus after some steps. -/
def after (b : Bus α) (steps : List (Step α)) : Bus α :=
  steps.foldl step b

/-- What a subscriber receives next. -/
def answer? (b : Bus α) (subscriber : Nat) : Option (Reception α) :=
  (b.receive? subscriber).map Prod.fst

/-- What a subscriber receives in some steps. -/
def receptions (b : Bus α) (subscriber : Nat) : List (Step α) → List (Reception α)
  | [] => []
  | step :: rest =>
      (if step.receives subscriber then (b.answer? subscriber).toList else [])
        ++ (b.step step).receptions subscriber rest

/-- How many messages a subscriber still has to receive. -/
def pendingCount? (b : Bus α) (subscriber : Nat) : Option Nat :=
  (b.cursors[subscriber]?).join.map (b.sent - ·)

/-- The messages sent in some steps. -/
def sentIn (steps : List (Step α)) : List α :=
  steps.flatMap Step.messages

/-- The messages sent in some steps after a subscriber has come. -/
def sentSince (subscriber : Nat) : List (Step α) → List α
  | [] => []
  | step :: rest =>
      match step.subscribes, subscriber with
      | true, 0 => sentIn rest
      | true, earlier + 1 => sentSince earlier rest
      | false, _ => sentSince subscriber rest

section SentSince

variable {step : Step α} (steps : List (Step α)) (subscriber : Nat)

theorem sentSince_cons (other : step.subscribes = false)
    : sentSince subscriber (step :: steps) = sentSince subscriber steps := by
  simp only [sentSince, other]

theorem sentSince_zero_cons (comes : step.subscribes = true)
    : sentSince 0 (step :: steps) = sentIn steps := by
  simp only [sentSince, comes]

theorem sentSince_succ_cons (comes : step.subscribes = true)
    : sentSince (subscriber + 1) (step :: steps) = sentSince subscriber steps := by
  simp only [sentSince, comes]

end SentSince

/-- Whether a subscriber comes in some steps, and does not leave. -/
structure Attends (subscriber : Nat) (steps : List (Step α)) : Prop where
  comes : subscriber < steps.countP Step.subscribes
  stays : .leave subscriber ∉ steps

-----------------------------------------------------------------------------------------
-- Accounts
-----------------------------------------------------------------------------------------

/-- What a subscriber received accounts for the messages sent: from the first on, each was received in
its turn, or lost with those that a reception counts; and the rest is pending.
-/
inductive Accounts : List (Reception α) → List α → List α → Prop
  | done (pending : List α) : Accounts [] pending pending
  | message (content : α) {received : List (Reception α)} {sent pending : List α}
    (rest : Accounts received sent pending)
    : Accounts (.message content :: received) (content :: sent) pending
  | lagged (lost : List α) {received : List (Reception α)} {sent pending : List α}
    (rest : Accounts received sent pending)
    : Accounts (.lagged lost.length :: received) (lost ++ sent) pending
  | empty {received : List (Reception α)} {sent pending : List α}
    (rest : Accounts received sent pending)
    : Accounts (.empty :: received) sent pending

section Accounts

variable {received : List (Reception α)} {sent pending : List α}

/-- What is received was sent, in the same order and each message once, by induction on the receptions. -/
theorem Accounts.sublist (h : Accounts received sent pending)
    : (received.filterMap Reception.content?).Sublist sent := by
  induction h with
  | done => exact List.nil_sublist _
  | message content _ ih => exact ih.cons_cons content
  | lagged lost _ ih => exact ih.trans (List.sublist_append_right lost _)
  | empty _ ih => exact ih

/-- No message is received that was not sent, and none is lost that is not told. -/
theorem Accounts.count (h : Accounts received sent pending)
    : (received.filterMap Reception.content?).length + (received.map Reception.lost).sum
        + pending.length
      = sent.length := by
  induction h with
  | done => exact Nat.zero_add _
  | message content _ ih =>
      simp only [List.filterMap_cons, List.map_cons, List.sum_cons, List.length_cons,
        Reception.content?, Reception.lost]
      omega
  | lagged lost _ ih =>
      simp only [List.filterMap_cons, List.map_cons, List.sum_cons, List.length_append,
        Reception.content?, Reception.lost]
      omega
  | empty _ ih =>
      simp only [List.filterMap_cons, List.map_cons, List.sum_cons, Reception.content?,
        Reception.lost]
      omega

/-- What is received next accounts for what is pending no longer. -/
theorem Accounts.next {room : Nat} {more : List α}
    (h : Accounts received ((Bus.next room pending).2 ++ more) sent)
    : Accounts ((Bus.next room pending).1 :: received) (pending ++ more) sent := by
  by_cases crowded : room < pending.length
  · rw [next_of_crowded crowded] at h ⊢
    have rest := Accounts.lagged (pending.take (pending.length - room)) h
    rwa [← List.append_assoc, List.take_append_drop, List.length_take_of_le (Nat.sub_le _ _)]
      at rest
  · cases pending with
    | nil =>
        rw [next_nil] at h ⊢
        exact h.empty
    | cons first rest =>
        rw [next_cons (Nat.le_of_not_lt crowded)] at h ⊢
        exact h.message first

end Accounts

/-- What a subscriber receives from now on if no more is sent. -/
def owed (room : Nat) (pending : List α) : List (Reception α) :=
  if room < pending.length then
    .lagged (pending.length - room) :: (pending.drop (pending.length - room)).map .message
  else pending.map .message

/-- What is received next is the first of what is owed. -/
theorem owed_eq_cons {room : Nat} {pending : List α} (some : pending ≠ [])
    : owed room pending = (next room pending).1 :: owed room (next room pending).2 := by
  by_cases crowded : room < pending.length
  · have fits : ¬ room < (pending.drop (pending.length - room)).length := by
      rw [List.length_drop]
      omega
    rw [next_of_crowded crowded, owed, if_pos crowded, owed, if_neg fits]
  · cases pending with
    | nil => exact absurd rfl some
    | cons first rest =>
        have fits : ¬ room < rest.length := fun h => crowded (Nat.lt_succ_of_lt h)
        rw [next_cons (Nat.le_of_not_lt crowded), owed, if_neg crowded, owed, if_neg fits]
        rfl

-----------------------------------------------------------------------------------------
-- What is shown after a step
-----------------------------------------------------------------------------------------

/-- The pending messages of the subscribers after a step. -/
def shown (room : Nat) (views : List (Option (List α))) : Step α → List (Option (List α))
  | .subscribe => views ++ [some []]
  | .leave subscriber => views.set subscriber none
  | .send messages => views.map (Option.map (· ++ messages))
  | .receive subscriber =>
      match views[subscriber]? with
      | some (some pending) => views.set subscriber (some (next room pending).2)
      | _ => views

section Shown

variable {b c : Bus α} {views : List (Option (List α))} {pending : List α} {subscriber : Nat}

theorem Shows.answer (h : b.Shows views) (subscriber : Nat)
    : b.answer? subscriber
      = (views[subscriber]?).join.map fun pending => (next b.room pending).1 := by
  unfold answer?
  cases there : (views[subscriber]?).join with
  | none =>
      have absent (pending : List α) : views[subscriber]? ≠ some (some pending) := by
        intro found
        rw [found] at there
        cases there
      rw [h.receive_eq_none absent]
      rfl
  | some pending =>
      obtain ⟨after, received, -⟩ := h.receive (Option.join_eq_some_iff.mp there)
      rw [received]
      rfl

theorem Shows.step (h : b.Shows views) (step : Step α)
    : (b.step step).Shows (shown b.room views step) ∧ (b.step step).room = b.room := by
  cases step with
  | subscribe => exact ⟨h.subscribe, rfl⟩
  | leave subscriber => exact ⟨h.leave subscriber, rfl⟩
  | send messages => exact ⟨h.send messages, room_send b messages⟩
  | receive subscriber =>
      simp only [Bus.step, shown]
      split
      · next pending there =>
          obtain ⟨after, received, shows, room⟩ := h.receive there
          rw [received]
          exact ⟨shows, room⟩
      · next absent =>
          rw [h.receive_eq_none absent]
          exact ⟨h, rfl⟩

/-- What is shown to a subscriber changes only with the steps that concern it. -/
theorem getElem?_shown_of_unconcerned (room : Nat) {step : Step α}
    (unconcerned : step.concerns subscriber = false)
    : (shown room views step)[subscriber]? = views[subscriber]? := by
  cases step with
  | subscribe => cases unconcerned
  | send messages => cases unconcerned
  | leave other =>
      exact List.getElem?_set_ne (of_decide_eq_false unconcerned)
  | receive other =>
      simp only [shown]
      split
      · exact List.getElem?_set_ne (of_decide_eq_false unconcerned)
      · rfl

/-- What is shown to a subscriber after a step depends on what is shown to it before. -/
theorem getElem?_shown_congr {others : List (Option (List α))} {room : Nat} {step : Step α}
    (length : views.length = others.length) (same : views[subscriber]? = others[subscriber]?)
    : (shown room views step)[subscriber]? = (shown room others step)[subscriber]? := by
  cases step with
  | subscribe => simp only [shown, List.getElem?_append, length, same]
  | leave other => simp only [shown, List.getElem?_set, length, same]
  | send messages => simp only [shown, List.getElem?_map, same]
  | receive other =>
      by_cases self : other = subscriber
      · subst self
        simp only [shown, same]
        split
        · simp only [List.getElem?_set, length, if_true]
        · exact same
      · have unconcerned : (Step.receive other : Step α).concerns subscriber = false :=
          decide_eq_false self
        simp only [getElem?_shown_of_unconcerned room unconcerned, same]

theorem length_shown (room : Nat) (views : List (Option (List α))) (step : Step α)
    : (shown room views step).length = views.length + if step.subscribes then 1 else 0 := by
  cases step with
  | subscribe => exact List.length_append
  | leave other => exact List.length_set
  | send messages => exact List.length_map _
  | receive other =>
      simp only [shown]
      split
      · exact List.length_set
      · rfl

/-- What is shown to a subscriber who stays: less what it receives, and more what is sent. -/
theorem getElem?_shown_of_stays (room : Nat) {step : Step α}
    (there : views[subscriber]? = some (some pending)) (stays : step ≠ .leave subscriber)
    : (shown room views step)[subscriber]?
      = some (some ((if step.receives subscriber then (next room pending).2 else pending)
          ++ step.messages)) := by
  cases step with
  | subscribe =>
      have within := (List.getElem?_eq_some_iff.mp there).1
      simp only [shown, List.getElem?_append_left within, there, Step.receives, Step.messages,
        Bool.false_eq_true, if_false, List.append_nil]
  | leave other =>
      have ne : other ≠ subscriber := fun same => stays (same ▸ rfl)
      simp only [shown, List.getElem?_set_ne ne, there, Step.receives, Step.messages,
        Bool.false_eq_true, if_false, List.append_nil]
  | send messages =>
      simp only [shown, List.getElem?_map, there, Option.map_some, Step.receives, Step.messages,
        Bool.false_eq_true, if_false]
  | receive other =>
      by_cases same : other = subscriber
      · subst same
        have within := (List.getElem?_eq_some_iff.mp there).1
        simp only [shown, there, List.getElem?_set_self within, Step.receives, Step.messages,
          decide_true, if_true, List.append_nil]
      · have unconcerned : (Step.receive other : Step α).concerns subscriber = false :=
          decide_eq_false same
        simp only [getElem?_shown_of_unconcerned room unconcerned, there, Step.receives,
          Step.messages, same, decide_false, Bool.false_eq_true, if_false, List.append_nil]

/-- One who left is shown nothing any more. -/
theorem getElem?_shown_of_gone (room : Nat) (step : Step α)
    (gone : views[subscriber]? = some none)
    : (shown room views step)[subscriber]? = some none := by
  have within := (List.getElem?_eq_some_iff.mp gone).1
  cases step with
  | subscribe => rw [shown, List.getElem?_append_left within, gone]
  | leave other =>
      by_cases same : other = subscriber
      · rw [shown, same, List.getElem?_set_self within]
      · rw [shown, List.getElem?_set_ne same, gone]
  | send messages => rw [shown, List.getElem?_map, gone, Option.map_some, Option.map_none]
  | receive other =>
      by_cases same : other = subscriber
      · simp only [shown, same, gone]
      · have unconcerned : (Step.receive other : Step α).concerns subscriber = false :=
          decide_eq_false same
        rw [getElem?_shown_of_unconcerned room unconcerned, gone]

/-- What a subscriber still has to receive is as much as is shown to it. -/
theorem Shows.pendingCount (h : b.Shows views) (there : views[subscriber]? = some (some pending))
    : b.pendingCount? subscriber = some pending.length := by
  obtain ⟨history, holds, behind, rfl⟩ := h
  rw [List.getElem?_map] at there
  obtain ⟨cursor, found, same⟩ := Option.map_eq_some_iff.mp there
  obtain ⟨number, rfl, rfl⟩ := Option.map_eq_some_iff.mp same
  rw [pendingCount?, found, List.length_drop, ← holds.counted]
  rfl

-----------------------------------------------------------------------------------------
-- What is received in some steps
-----------------------------------------------------------------------------------------

/-- One who left receives nothing any more, by induction on the steps. -/
theorem Shows.receptions_of_gone (h : b.Shows views) (gone : views[subscriber]? = some none)
    (steps : List (Step α))
    : b.receptions subscriber steps = [] := by
  induction steps generalizing b views with
  | nil => rfl
  | cons step steps ih =>
      have rest := ih (h.step step).1 (getElem?_shown_of_gone b.room step gone)
      rw [receptions, rest, h.answer, gone, List.append_nil]
      exact ite_self []

/-- What a subscriber receives in a step if it is shown some messages. -/
theorem Shows.receptions_cons (h : b.Shows views) (there : views[subscriber]? = some (some pending))
    (step : Step α) (steps : List (Step α))
    : b.receptions subscriber (step :: steps)
      = (if step.receives subscriber then [(next b.room pending).1] else [])
        ++ (b.step step).receptions subscriber steps := by
  rw [receptions, h.answer, there]
  rfl

theorem messages_of_receives {step : Step α} (receives : step.receives subscriber = true)
    : step.messages = [] := by
  cases step with
  | send => cases receives
  | subscribe | leave | receive => rfl

/-- What a subscriber receives who is shown some messages accounts for these and all that are sent
later, by induction on the steps. What is pending is still shown to it, unless it leaves.
-/
theorem Shows.accounts (h : b.Shows views) (there : views[subscriber]? = some (some pending))
    (steps : List (Step α))
    : ∃ rest, Accounts (b.receptions subscriber steps) (pending ++ sentIn steps) rest
      ∧ (.leave subscriber ∉ steps →
        ∃ later, (b.after steps).Shows later ∧ later[subscriber]? = some (some rest)) := by
  induction steps generalizing b views pending with
  | nil =>
      refine ⟨pending, ?_, fun _ => ⟨views, h, there⟩⟩
      rw [sentIn, List.flatMap_nil, List.append_nil]
      exact .done pending
  | cons step steps ih =>
      have shows := (h.step step).1
      by_cases left : step = .leave subscriber
      · subst left
        have within := (List.getElem?_eq_some_iff.mp there).1
        refine ⟨pending ++ sentIn steps, ?_, fun stays => absurd List.mem_cons_self stays⟩
        rw [h.receptions_cons there, shows.receptions_of_gone (List.getElem?_set_self within)]
        exact .done _
      · have after := getElem?_shown_of_stays b.room there left
        obtain ⟨rest, accounts, shown⟩ := ih shows after
        refine ⟨rest, ?_, fun stays => shown fun leaves => stays (List.mem_cons_of_mem _ leaves)⟩
        rw [h.receptions_cons there, sentIn, List.flatMap_cons, ← sentIn]
        by_cases receives : step.receives subscriber = true
        · rw [if_pos receives] at accounts ⊢
          rw [messages_of_receives receives, List.append_nil] at accounts
          rw [messages_of_receives receives, List.nil_append]
          exact accounts.next
        · rw [if_neg receives] at accounts ⊢
          rwa [List.append_assoc] at accounts

/-- Who is still to come receives nothing. -/
theorem Shows.receptions_cons_of_awaited (h : b.Shows views) (awaited : views.length ≤ subscriber)
    (step : Step α) (steps : List (Step α))
    : b.receptions subscriber (step :: steps) = (b.step step).receptions subscriber steps := by
  rw [receptions, h.answer, List.getElem?_eq_none awaited]
  exact congrArg (· ++ _) (ite_self [])

/-- What a subscriber receives who is still to come accounts for all that is sent after it has come, by
induction on the steps until then.
-/
theorem Shows.accounts_since (h : b.Shows views) (number : Nat) (steps : List (Step α))
    : ∃ rest, Accounts (b.receptions (views.length + number) steps) (sentSince number steps) rest
      ∧ (number < steps.countP Step.subscribes → .leave (views.length + number) ∉ steps →
        ∃ later, (b.after steps).Shows later
          ∧ later[views.length + number]? = some (some rest)) := by
  induction steps generalizing b views number with
  | nil => exact ⟨[], .done [], nofun⟩
  | cons step steps ih =>
      have shows := (h.step step).1
      have length := length_shown b.room views step
      rw [h.receptions_cons_of_awaited (Nat.le_add_right _ _)]
      have onward {leaving : Step α} (stays : leaving ∉ step :: steps) : leaving ∉ steps :=
        fun leaves => stays (List.mem_cons_of_mem _ leaves)
      cases comes : step.subscribes with
      | false =>
          rw [comes, if_neg Bool.false_ne_true, Nat.add_zero] at length
          obtain ⟨rest, accounts, shown⟩ := ih shows number
          rw [length] at accounts shown
          rw [sentSince_cons _ _ comes, List.countP_cons, comes, if_neg Bool.false_ne_true]
          exact ⟨rest, accounts, fun counted stays => shown counted (onward stays)⟩
      | true =>
          rw [comes, if_pos rfl] at length
          cases number with
          | succ number =>
              obtain ⟨rest, accounts, shown⟩ := ih shows number
              rw [length, Nat.add_assoc, Nat.add_comm 1 number] at accounts shown
              rw [sentSince_succ_cons _ _ comes, List.countP_cons, comes, if_pos rfl]
              exact ⟨rest, accounts, fun counted stays =>
                shown (Nat.lt_of_succ_lt_succ counted) (onward stays)⟩
          | zero =>
              have new : (Bus.shown b.room views step)[views.length]? = some (some []) := by
                cases step with
                | subscribe => exact List.getElem?_concat_length
                | leave | send | receive => cases comes
              obtain ⟨rest, accounts, shown⟩ := shows.accounts new steps
              rw [sentSince_zero_cons _ comes]
              exact ⟨rest, accounts, fun _ stays => shown (onward stays)⟩

-----------------------------------------------------------------------------------------
-- What is received if no more is sent
-----------------------------------------------------------------------------------------

/-- As long as nothing is sent, a subscriber receives what is owed to it and nothing after, by induction
on the steps.
-/
theorem Shows.receptions_of_quiet (h : b.Shows views)
    (there : views[subscriber]? = some (some pending)) {steps : List (Step α)}
    (quiet : sentIn steps = []) (stays : .leave subscriber ∉ steps)
    : let received := steps.countP (Step.receives subscriber)
      b.receptions subscriber steps
        = (owed b.room pending ++ List.replicate received Reception.empty).take received := by
  induction steps generalizing b views pending with
  | nil => rfl
  | cons step steps ih =>
      obtain ⟨shows, room⟩ := h.step step
      have after := getElem?_shown_of_stays b.room there fun left => stays (left ▸ List.mem_cons_self)
      rw [sentIn, List.flatMap_cons, List.append_eq_nil_iff] at quiet
      rw [quiet.1, List.append_nil] at after
      have rest := ih shows after quiet.2 fun leaves => stays (List.mem_cons_of_mem _ leaves)
      rw [room] at rest
      rw [h.receptions_cons there, rest, List.countP_cons]
      generalize steps.countP (Step.receives subscriber) = received
      by_cases receives : step.receives subscriber = true
      · simp only [if_pos receives]
        by_cases none : pending = []
        · rw [none, next_nil]
          rfl
        · have enough : received
              ≤ (owed b.room (next b.room pending).2
                ++ List.replicate received Reception.empty).length := by
            rw [List.length_append, List.length_replicate]
            exact Nat.le_add_left _ _
          rw [owed_eq_cons none, List.replicate_succ', List.singleton_append, List.cons_append,
            List.take_succ_cons, ← List.append_assoc, List.take_append_of_le_length enough]
      · simp only [if_neg receives]
        rfl

-----------------------------------------------------------------------------------------
-- What the other subscribers do
-----------------------------------------------------------------------------------------

/-- Two buses are alike for a subscriber if they have the same room and show it the same, or have as
many others coming before it.
-/
def Alike (subscriber : Nat) (b c : Bus α) : Prop :=
  b.room = c.room ∧ ∃ views others, b.Shows views ∧ c.Shows others
    ∧ views.length = others.length ∧ views[subscriber]? = others[subscriber]?

theorem Alike.answer (h : Alike subscriber b c) : b.answer? subscriber = c.answer? subscriber := by
  obtain ⟨room, views, others, shows, shows', -, same⟩ := h
  rw [shows.answer, shows'.answer, room, same]

theorem Alike.step (h : Alike subscriber b c) (step : Step α)
    : Alike subscriber (b.step step) (c.step step) := by
  obtain ⟨room, views, others, shows, shows', length, same⟩ := h
  obtain ⟨first, first_room⟩ := shows.step step
  obtain ⟨second, second_room⟩ := shows'.step step
  refine ⟨by rw [first_room, second_room, room], _, _, first, second, ?_, ?_⟩
  · rw [length_shown, length_shown, length]
  · rw [room, getElem?_shown_congr length same]

theorem Alike.step_of_unconcerned (h : Alike subscriber b c) {step : Step α}
    (unconcerned : step.concerns subscriber = false)
    : Alike subscriber b (c.step step) := by
  obtain ⟨room, views, others, shows, shows', length, same⟩ := h
  obtain ⟨second, second_room⟩ := shows'.step step
  refine ⟨by rw [second_room, room], _, _, shows, second, ?_, ?_⟩
  · cases step with
    | subscribe | send => cases unconcerned
    | leave | receive => rw [length_shown, length]; rfl
  · rw [getElem?_shown_of_unconcerned _ unconcerned, same]

/-- A subscriber receives the same if the others do not leave or receive, by induction on the steps. -/
theorem Alike.receptions_filter (h : Alike subscriber b c) (steps : List (Step α))
    : b.receptions subscriber (steps.filter (Step.concerns subscriber))
      = c.receptions subscriber steps := by
  induction steps generalizing b c with
  | nil => rfl
  | cons step steps ih =>
      cases concerned : step.concerns subscriber with
      | true =>
          rw [List.filter_cons_of_pos concerned, receptions, receptions, h.answer, ih (h.step step)]
      | false =>
          have other : step.receives subscriber = false := by
            cases step with
            | subscribe | send => cases concerned
            | leave => rfl
            | receive => exact concerned
          rw [List.filter_cons_of_neg (by rw [concerned]; exact Bool.false_ne_true),
            ih (h.step_of_unconcerned concerned), receptions, other, if_neg Bool.false_ne_true,
            List.nil_append]

-----------------------------------------------------------------------------------------
-- The accounts of a bus
-----------------------------------------------------------------------------------------

/-- How a bus stands with a subscriber for whom some messages are pending: it knows how many they are; it
tells that some are lost if they are more than there is room for, and that there are none if so; and
as long as no more are sent, the subscriber receives what is owed to it.
-/
structure Standing (b : Bus α) (subscriber : Nat) (pending : List α) : Prop where
  counted : b.pendingCount? subscriber = some pending.length
  lagged : ∀ lost, b.answer? subscriber = some (.lagged lost)
    ↔ b.room < pending.length ∧ lost = pending.length - b.room
  empty : b.answer? subscriber = some .empty ↔ pending = []
  message : ∀ content, b.answer? subscriber = some (.message content)
    ↔ pending.length ≤ b.room ∧ pending.head? = some content
  onward : ∀ more : List (Step α), sentIn more = [] → .leave subscriber ∉ more →
    let received := more.countP (Step.receives subscriber)
    b.receptions subscriber more
      = (owed b.room pending ++ List.replicate received Reception.empty).take received

/-- What a subscriber receives next tells how its pending messages stand to the room. -/
theorem Shows.standing (h : b.Shows views) (there : views[subscriber]? = some (some pending))
    : b.Standing subscriber pending := by
  have counted := h.pendingCount there
  have onward (more : List (Step α)) (quiet : sentIn more = []) (stays : .leave subscriber ∉ more) :=
    h.receptions_of_quiet there quiet stays
  have answer := h.answer subscriber
  rw [there] at answer
  replace answer : b.answer? subscriber = some (next b.room pending).1 := answer
  by_cases crowded : b.room < pending.length
  · rw [next_of_crowded crowded] at answer
    have some_pending : pending ≠ [] := List.ne_nil_of_length_pos (Nat.zero_lt_of_lt crowded)
    refine ⟨counted, fun lost => ?_, ?_, fun content => ?_, onward⟩
    · rw [answer, Option.some.injEq, Reception.lagged.injEq, and_iff_right crowded, eq_comm]
    · rw [answer]
      exact ⟨nofun, fun none => absurd none some_pending⟩
    · rw [answer]
      exact ⟨nofun, fun fits => absurd crowded (Nat.not_lt_of_le fits.1)⟩
  · cases pending with
    | nil =>
        rw [next_nil] at answer
        refine ⟨counted, fun lost => ?_, iff_of_true answer rfl, fun content => ?_, onward⟩
        · rw [answer]
          exact ⟨nofun, fun lags => absurd lags.1 crowded⟩
        · rw [answer]
          exact ⟨nofun, nofun⟩
    | cons first rest =>
        rw [next_cons (Nat.le_of_not_lt crowded)] at answer
        refine ⟨counted, fun lost => ?_, ?_, fun content => ?_, onward⟩
        · rw [answer]
          exact ⟨nofun, fun lags => absurd lags.1 crowded⟩
        · rw [answer]
          exact ⟨nofun, nofun⟩
        · rw [answer, Option.some.injEq, Reception.message.injEq, List.head?_cons,
            Option.some.injEq, and_iff_right (Nat.le_of_not_lt crowded)]

theorem receptions_append (b : Bus α) (subscriber : Nat) (steps more : List (Step α))
    : b.receptions subscriber (steps ++ more)
      = b.receptions subscriber steps ++ (b.after steps).receptions subscriber more := by
  induction steps generalizing b with
  | nil => rfl
  | cons step steps ih =>
      rw [List.cons_append, receptions, receptions, ih, List.append_assoc]
      rfl

/-- The room of a bus is the same after any steps, by induction on these. -/
theorem Shows.after (h : b.Shows views) (steps : List (Step α))
    : (b.after steps).room = b.room ∧ ∃ later, (b.after steps).Shows later := by
  induction steps generalizing b views with
  | nil => exact ⟨rfl, views, h⟩
  | cons step steps ih =>
      obtain ⟨shows, room⟩ := h.step step
      rw [← room]
      exact ih shows

end Shown

theorem isLeast_room {capacity : Nat} {b : Bus α} (opened : open? capacity = some b)
    : IsLeast {room : Nat | room.isPowerOfTwo ∧ capacity ≤ room} b.room := by
  unfold open? at opened
  split at opened
  · cases opened
  · cases opened
    exact ⟨⟨isPowerOfTwo_roundUp capacity, le_roundUp capacity⟩,
      fun room h => roundUp_le h.1 h.2⟩

/-- The accounts of a bus of any capacity, after any steps of its subscribers. It has room for the least
power of two of messages that is not less than the capacity. Each subscriber receives, in order, what
was sent since it has come; as long as it attends, what it did not receive is told to be lost or is
pending, and it receives what its pending messages tell; after it has left it receives nothing. It
receives the same if the others neither leave nor receive. What is sent without subscribers is of no
consequence.
-/
theorem accounts_kept (capacity : Nat)
    : ((open? capacity : Option (Bus α)) = none ↔ capacity = 0 ∨ greatestRoom < capacity)
      ∧ ∀ b : Bus α, open? capacity = some b →
        IsLeast {room : Nat | room.isPowerOfTwo ∧ capacity ≤ room} b.room
        ∧ ∀ (steps : List (Step α)) (subscriber : Nat),
          let received := b.receptions subscriber steps
          let contents := received.filterMap Reception.content?
          let sent := sentSince subscriber steps
          let now := b.after steps
          now.room = b.room
          ∧ contents.Sublist sent
          ∧ (Attends subscriber steps →
              (∃ pending, Accounts received sent pending
                ∧ contents.length + (received.map Reception.lost).sum + pending.length
                  = sent.length
                ∧ now.Standing subscriber pending)
              ∧ ∀ more, b.receptions subscriber (steps ++ .leave subscriber :: more) = received)
          ∧ b.receptions subscriber (steps.filter (Step.concerns subscriber)) = received
          ∧ (now.subscriberCount = 0 → ∀ messages more,
              b.after (steps ++ .send messages :: more) = b.after (steps ++ more)
              ∧ b.receptions subscriber (steps ++ .send messages :: more)
                = b.receptions subscriber (steps ++ more)) := by
  refine ⟨?_, ?_⟩
  · unfold open?
    split
    · exact iff_of_true rfl ‹_›
    · exact iff_of_false nofun ‹_›
  · intro b opened
    have shows := shows_open opened
    refine ⟨isLeast_room opened, ?_⟩
    · intro steps subscriber received contents sent now
      obtain ⟨pending, accounts, shown⟩ := shows.accounts_since subscriber steps
      rw [List.length_nil, Nat.zero_add] at accounts shown
      refine ⟨(shows.after steps).1, accounts.sublist, ?_, ?_, ?_⟩
      · intro attends
        obtain ⟨later, shows_later, there⟩ := shown attends.comes attends.stays
        refine ⟨⟨pending, accounts, accounts.count, shows_later.standing there⟩, ?_⟩
        intro more
        have within := (List.getElem?_eq_some_iff.mp there).1
        have gone := (shows_later.leave subscriber).receptions_of_gone
          (List.getElem?_set_self within) more
        rw [receptions_append, receptions, Step.receives, if_neg Bool.false_ne_true,
          List.nil_append, step, gone, List.append_nil]
      · exact Alike.receptions_filter ⟨rfl, [], [], shows, shows, rfl, rfl⟩ steps
      · intro unheard messages more
        have same : now.step (.send messages) = now := if_pos unheard
        refine ⟨?_, ?_⟩
        · rw [after, after, List.foldl_append, List.foldl_append, List.foldl_cons]
          exact congrArg (more.foldl step) same
        · rw [receptions_append, receptions_append, receptions]
          exact congrArg (received ++ receptions · subscriber more) same

/-- A bus of capacity three keeps four messages. Its first subscriber is two behind that when it receives
after six messages; the second has left, and a third has come late.
-/
theorem accounts_kept_of_lag
    : let steps : List (Step Nat) := [.subscribe, .subscribe, .send [1, 2, 3], .receive 1,
        .send [4, 5], .leave 1, .subscribe, .send [6], .receive 0, .receive 0, .receive 2, .receive 2]
      ∃ b : Bus Nat, open? 3 = some b ∧ b.room = 4
        ∧ b.receptions 0 steps = [.lagged 2, .message 3]
        ∧ b.receptions 1 steps = [.message 1] ∧ b.receptions 2 steps = [.message 6, .empty]
        ∧ Attends 0 steps ∧ ∃ pending, pending.length = 3
        ∧ Accounts [.lagged 2, .message 3] [1, 2, 3, 4, 5, 6] pending
        ∧ (b.after steps).Standing 0 pending := by
  intro steps
  let b : Bus Nat := ⟨4, #[], 0, []⟩
  have opened : open? 3 = some b := rfl
  have attends : Attends 0 steps := ⟨by decide, by decide⟩
  have first : b.receptions 0 steps = [.lagged 2, .message 3] := by decide
  have sent : sentSince 0 steps = [1, 2, 3, 4, 5, 6] := by decide
  have three : (b.after steps).pendingCount? 0 = some 3 := by decide
  obtain ⟨⟨pending, accounts, -, standing⟩, -⟩ :=
    (((accounts_kept (α := Nat) 3).2 b opened).2 steps 0).2.2.1 attends
  have length := Option.some.inj (standing.counted.symm.trans three)
  rw [first, sent] at accounts
  exact ⟨b, opened, rfl, first, by decide, by decide, attends, pending, length, accounts, standing⟩

end Bus

end AdoptionRecords
