import AdoptionRecords.Bus

/-! The slots of a bus are as good as a list of pending messages for each subscriber. The bus does not
keep these lists, for it keeps no more than it has room for; but what a subscriber receives is what the
list would tell.
-/

namespace AdoptionRecords.Bus

variable {α : Type} {b : Bus α} {history messages : List α} {number subscriber : Nat}

-----------------------------------------------------------------------------------------
-- The slots
-----------------------------------------------------------------------------------------

/-- Rounding a number up leads to a power of two that is not less, and to the least one. -/
theorem isPowerOfTwo_roundUp (capacity : Nat) : (roundUp capacity).isPowerOfTwo := by
  unfold roundUp
  split
  · exact ⟨0, rfl⟩
  · exact ⟨_, rfl⟩

theorem le_roundUp (capacity : Nat) : capacity ≤ roundUp capacity := by
  unfold roundUp
  split
  · assumption
  · have : capacity - 1 < 2 ^ ((capacity - 1).log2 + 1) := Nat.lt_log2_self
    show capacity ≤ 2 ^ ((capacity - 1).log2 + 1)
    omega

theorem roundUp_le {capacity room : Nat} (two : room.isPowerOfTwo) (le : capacity ≤ room)
    : roundUp capacity ≤ room := by
  unfold roundUp
  split
  · exact Nat.pos_of_isPowerOfTwo two
  · obtain ⟨power, rfl⟩ := two
    refine Nat.pow_le_pow_right (by decide) ?_
    exact (Nat.log2_lt (by omega)).mpr (by omega)

/-- The slots hold the newest of the messages sent, as many as there is room for, each with its number
in the slot that the number leads to.
-/
structure Holds (b : Bus α) (history : List α) : Prop where
  room_pos : 0 < b.room
  counted : b.sent = history.length
  filled : b.slots.size = min b.sent b.room
  newest : ∀ number content, history[number]? = some content → b.sent ≤ number + b.room →
    b.slots[number % b.room]? = some (number, content)

/-- Numbers that are near each other lead to different slots. -/
theorem mod_ne_of_near {first second room : Nat} (lt : first < second)
    (near : second < first + room)
    : first % room ≠ second % room := by
  intro same
  have divides := Nat.dvd_of_mod_eq_zero (Nat.sub_mod_eq_zero_of_mod_eq same.symm)
  have := Nat.le_of_dvd (Nat.sub_pos_of_lt lt) divides
  omega

/-- Of the numbers that lead to the slot of an earlier one, one is among the newest. -/
theorem exists_newest {sent room : Nat} (room_pos : 0 < room) (lt : number < sent)
    : ∃ newest, newest % room = number % room ∧ newest < sent ∧ sent ≤ newest + room := by
  refine ⟨number + room * ((sent - 1 - number) / room), Nat.add_mul_mod_self_left .., ?_⟩
  have whole := Nat.div_add_mod (sent - 1 - number) room
  have rest := Nat.mod_lt (sent - 1 - number) room_pos
  omega

/-- The slot that an earlier number leads to holds one of the newest messages. -/
theorem Holds.exists_slot (h : b.Holds history) (lt : number < b.sent)
    : ∃ found content, b.slots[number % b.room]? = some (found, content)
      ∧ found < b.sent ∧ b.sent ≤ found + b.room := by
  obtain ⟨found, same, before, near⟩ := exists_newest h.room_pos lt
  have there := List.getElem?_eq_getElem (h.counted ▸ before)
  exact ⟨found, _, same ▸ h.newest found _ there near, before, near⟩

/-- A message that is put into its slot stands there, and the other slots are as they were. -/
theorem Holds.getElem?_post (h : b.Holds history) (message : α) (slot : Nat)
    : (b.post message).slots[slot]?
      = if slot = b.sent % b.room then some (b.sent, message) else b.slots[slot]? := by
  have filled := h.filled
  have within := Nat.mod_lt b.sent h.room_pos
  unfold post
  by_cases free : b.slots.size < b.room
  · have first : b.sent % b.room = b.slots.size := by
      rw [Nat.mod_eq_of_lt] <;> omega
    simp only [if_pos free, Array.getElem?_push, first]
  · have room : b.sent % b.room < b.slots.size := by omega
    simp only [if_neg free, Array.getElem?_setIfInBounds, if_pos room, eq_comm]

theorem Holds.post (h : b.Holds history) (message : α)
    : (b.post message).Holds (history ++ [message]) := by
  have filled := h.filled
  refine ⟨h.room_pos, ?_, ?_, ?_⟩
  · rw [List.length_append, List.length_singleton, ← h.counted]
    rfl
  · unfold Bus.post
    by_cases free : b.slots.size < b.room
    · simp only [if_pos free, Array.size_push]
      omega
    · simp only [if_neg free, Array.size_setIfInBounds]
      omega
  · intro number content found near
    replace near : b.sent + 1 ≤ number + b.room := near
    show (b.post message).slots[number % b.room]? = _
    rw [h.getElem?_post]
    obtain earlier | here : number < b.sent ∨ number = b.sent := by
      have := (List.getElem?_eq_some_iff.mp found).1
      rw [List.length_append, List.length_singleton, ← h.counted] at this
      omega
    · rw [if_neg (mod_ne_of_near earlier (by omega))]
      rw [List.getElem?_append_left (h.counted ▸ earlier)] at found
      exact h.newest number content found (by omega)
    · rw [here, h.counted, List.getElem?_concat_length] at found
      rw [here, if_pos rfl, Option.some.inj found]

-----------------------------------------------------------------------------------------
-- What a subscriber receives
-----------------------------------------------------------------------------------------

/-- What a subscriber receives who has some messages pending, and the messages pending then. Of more
messages than there is room for, the oldest are lost.
-/
def next (room : Nat) (pending : List α) : Reception α × List α :=
  if room < pending.length then
    (.lagged (pending.length - room), pending.drop (pending.length - room))
  else
    match pending with
    | [] => (.empty, [])
    | first :: rest => (.message first, rest)

theorem next_of_crowded {room : Nat} {pending : List α} (crowded : room < pending.length)
    : next room pending
      = (.lagged (pending.length - room), pending.drop (pending.length - room)) :=
  if_pos crowded

theorem next_nil (room : Nat) : next room ([] : List α) = (.empty, []) :=
  if_neg (Nat.not_lt_zero _)

theorem next_cons {room : Nat} {first : α} {rest : List α} (fits : rest.length < room)
    : next room (first :: rest) = (.message first, rest) :=
  if_neg (Nat.not_lt_of_le fits)

/-- Nothing is found by who waits for the message that is sent next. -/
theorem Holds.look_sent (h : b.Holds history) : b.look b.sent = (.empty, b.sent) := by
  have filled := h.filled
  have room_pos := h.room_pos
  unfold look
  by_cases full : b.room ≤ b.sent
  · have counted := h.counted
    have before : b.sent - b.room < history.length := by omega
    have there := List.getElem?_eq_getElem before
    rw [Nat.mod_eq_sub_mod full, h.newest _ _ there (by omega)]
    simp only
    rw [if_neg (by omega), if_pos (by omega)]
  · have none : b.slots[b.sent % b.room]? = none := by
      rw [Array.getElem?_eq_none_iff, Nat.mod_eq_of_lt] <;> omega
    rw [none]

/-- The oldest message that is kept comes next for who waits for an earlier one. -/
theorem Holds.look_of_crowded (h : b.Holds history) (crowded : number + b.room < b.sent)
    : b.look number = (.lagged (b.sent - b.room - number), b.sent - b.room) := by
  have lt : number < b.sent := by omega
  obtain ⟨found, content, slot, -, near⟩ := h.exists_slot lt
  unfold look
  rw [slot]
  simp only
  rw [if_neg (by omega), if_neg (by omega)]

theorem Holds.look_of_kept (h : b.Holds history) (kept : b.sent ≤ number + b.room) {content : α}
    (there : history[number]? = some content)
    : b.look number = (.message content, number + 1) := by
  unfold look
  rw [h.newest number content there kept]
  simp only [if_true]

/-- A subscriber finds in the slots what the pending messages tell. -/
theorem Holds.look_eq_next (h : b.Holds history) (le : number ≤ b.sent)
    : ∃ further ≤ b.sent, b.look number = ((next b.room (history.drop number)).1, further)
      ∧ (next b.room (history.drop number)).2 = history.drop further := by
  have counted := h.counted
  by_cases crowded : number + b.room < b.sent
  · have length : (history.drop number).length = b.sent - number := by
      rw [List.length_drop, counted]
    refine ⟨b.sent - b.room, Nat.sub_le _ _, ?_⟩
    rw [h.look_of_crowded crowded, next_of_crowded (by omega), length, List.drop_drop]
    refine ⟨?_, ?_⟩
    · rw [show b.sent - b.room - number = b.sent - number - b.room by omega]
    · rw [show number + (b.sent - number - b.room) = b.sent - b.room by omega]
  · obtain rfl | lt := Nat.eq_or_lt_of_le le
    · rw [List.drop_of_length_le (Nat.le_of_eq counted.symm), next_nil]
      exact ⟨b.sent, Nat.le_refl _, h.look_sent,
        (List.drop_of_length_le (Nat.le_of_eq counted.symm)).symm⟩
    · have within : number < history.length := counted ▸ lt
      have fits : (history.drop (number + 1)).length < b.room := by
        rw [List.length_drop]
        omega
      rw [List.drop_eq_getElem_cons within, next_cons fits]
      exact ⟨number + 1, lt, h.look_of_kept (Nat.le_of_not_lt crowded)
        (List.getElem?_eq_getElem within), rfl⟩

-----------------------------------------------------------------------------------------
-- The subscribers
-----------------------------------------------------------------------------------------

/-- A bus shows its subscribers some pending messages each: all that were sent after the ones that the
subscriber is done with. One who left is shown none.
-/
def Shows (b : Bus α) (views : List (Option (List α))) : Prop :=
  ∃ history, b.Holds history ∧ (∀ cursor, some cursor ∈ b.cursors → cursor ≤ b.sent)
    ∧ views = b.cursors.map (Option.map history.drop)

variable {views : List (Option (List α))} {pending : List α}

theorem shows_open {capacity : Nat} (opened : open? capacity = some b) : b.Shows [] := by
  unfold open? at opened
  by_cases refused : capacity = 0 ∨ greatestRoom < capacity
  · rw [if_pos refused] at opened
    cases opened
  · rw [if_neg refused] at opened
    cases opened
    have room_pos := Nat.pos_of_isPowerOfTwo (isPowerOfTwo_roundUp capacity)
    exact ⟨[], ⟨room_pos, rfl, (Nat.zero_min _).symm, nofun⟩, nofun, rfl⟩

theorem Shows.subscribe (h : b.Shows views) : b.subscribe.2.Shows (views ++ [some []]) := by
  obtain ⟨history, holds, behind, rfl⟩ := h
  refine ⟨history, ⟨holds.room_pos, holds.counted, holds.filled, holds.newest⟩, ?_, ?_⟩
  · intro cursor member
    obtain member | new := List.mem_append.mp member
    · exact behind cursor member
    · cases List.mem_singleton.mp new
      exact Nat.le_refl _
  · simp only [Bus.subscribe, List.map_append, List.map_singleton, Option.map_some,
      List.drop_of_length_le (Nat.le_of_eq holds.counted.symm)]

theorem Shows.leave (h : b.Shows views) (subscriber : Nat)
    : (b.leave subscriber).Shows (views.set subscriber none) := by
  obtain ⟨history, holds, behind, rfl⟩ := h
  refine ⟨history, ⟨holds.room_pos, holds.counted, holds.filled, holds.newest⟩, ?_, ?_⟩
  · intro cursor member
    obtain member | none := List.mem_or_eq_of_mem_set member
    · exact behind cursor member
    · cases none
  · simp only [Bus.leave, List.map_set, Option.map_none]

theorem Shows.post (h : b.Shows views) (message : α)
    : (b.post message).Shows (views.map (Option.map (· ++ [message]))) := by
  obtain ⟨history, holds, behind, rfl⟩ := h
  refine ⟨history ++ [message], holds.post message, ?_, ?_⟩
  · intro cursor member
    exact Nat.le_succ_of_le (behind cursor member)
  · rw [List.map_map]
    refine List.map_congr_left fun cursor member => ?_
    cases cursor with
    | none => rfl
    | some number =>
        have le := holds.counted ▸ behind number member
        simp only [Function.comp_apply, Option.map_some, List.drop_append_of_le_length le]

theorem room_send (b : Bus α) (messages : List α) : (b.send messages).room = b.room := by
  unfold Bus.send
  split
  · rfl
  · induction messages generalizing b with
    | nil => rfl
    | cons message rest ih => exact ih (b.post message) ‹_›

/-- Messages are pending for each subscriber, by induction on the messages. Those without subscribers
are pending for none.
-/
theorem Shows.send (h : b.Shows views) (messages : List α)
    : (b.send messages).Shows (views.map (Option.map (· ++ messages))) := by
  unfold Bus.send
  by_cases unheard : b.subscriberCount = 0
  · rw [if_pos unheard]
    obtain ⟨history, holds, behind, rfl⟩ := h
    refine ⟨history, holds, behind, ?_⟩
    rw [List.map_map]
    refine List.map_congr_left fun cursor member => ?_
    cases cursor with
    | none => rfl
    | some number => exact absurd rfl (List.countP_eq_zero.mp unheard _ member)
  · rw [if_neg unheard]
    clear unheard
    induction messages generalizing b views with
    | nil => simpa only [List.foldl_nil, List.append_nil, Option.map_id_fun', List.map_id] using h
    | cons message rest ih =>
        have later := ih (h.post message)
        rw [List.map_map] at later
        simpa only [List.foldl_cons, Function.comp_def, Option.map_map, List.append_assoc,
          List.singleton_append] using later

theorem Shows.receive (h : b.Shows views) (there : views[subscriber]? = some (some pending))
    : ∃ after, b.receive? subscriber = some ((next b.room pending).1, after)
      ∧ after.Shows (views.set subscriber (some (next b.room pending).2)) ∧ after.room = b.room := by
  obtain ⟨history, holds, behind, rfl⟩ := h
  rw [List.getElem?_map] at there
  obtain ⟨cursor, found, same⟩ := Option.map_eq_some_iff.mp there
  obtain ⟨number, rfl, rfl⟩ := Option.map_eq_some_iff.mp same
  obtain ⟨further, le, look, rest⟩ := holds.look_eq_next (behind number (List.mem_of_getElem? found))
  refine ⟨{ b with cursors := b.cursors.set subscriber (some further) }, ?_, ?_, rfl⟩
  · unfold receive?
    rw [found]
    simp only [look]
  · refine ⟨history, ⟨holds.room_pos, holds.counted, holds.filled, holds.newest⟩, ?_, ?_⟩
    · intro cursor member
      obtain member | new := List.mem_or_eq_of_mem_set member
      · exact behind cursor member
      · cases new
        exact le
    · simp only [List.map_set, Option.map_some, rest]

/-- A subscriber who left, or never came, is not there to receive. -/
theorem Shows.receive_eq_none (h : b.Shows views)
    (absent : ∀ pending, views[subscriber]? ≠ some (some pending))
    : b.receive? subscriber = none := by
  obtain ⟨history, -, -, rfl⟩ := h
  unfold receive?
  split
  · next number found =>
      refine absurd ?_ (absent (history.drop number))
      rw [List.getElem?_map, found]
      rfl
  · rfl

end AdoptionRecords.Bus
