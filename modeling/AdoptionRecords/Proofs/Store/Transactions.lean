import AdoptionRecords.Proofs.Store.Units

/-! The calls of a transaction as a run. What is answered in a transaction that is not spoiled is a
run from the store at its start; once it is spoiled nothing more is answered, so that the deeds
answered before are still a run, which the end of the transaction undoes.
-/

namespace AdoptionRecords

open Calendar

/-- The deeds of calls with their answers, in order. -/
def Call.deedsOf (calls : List Call) (answers : List (Except Fault Call.Answer)) : List Deed :=
  (calls.zip answers).flatMap fun (call, answer) => call.deeds answer

namespace Store

variable {now : Instant} {s after : Store} {fault : Fault}

/-- The work of a call is a run with the deeds of its answer. -/
theorem Yields.runs_call {call : Call} {calls : List Call} {answer : Call.Answer}
    (h : s.Yields (call.work now) answer after) (member : call ∈ calls)
    : Runs now (fun _ c => c.IsOfCalls calls) s (call.deeds (.ok answer)) after := by
  cases call with
  | transition t =>
      simp only [Call.work, yields_bind_iff, yields_pure_iff] at h
      obtain ⟨entry, _, h, rfl, rfl⟩ := h
      refine h.runs_carryOut.mono ?_
      intro _ _ caused
      obtain ⟨_, rfl⟩ := caused
      exact member
  | record t =>
      simp only [Call.work, yields_bind_iff, yields_pure_iff] at h
      obtain ⟨entry, _, h, rfl, rfl⟩ := h
      refine h.runs_record.mono ?_
      intro _ _ caused
      obtain ⟨_, rfl⟩ := caused
      exact member
  | flagProfiles kind username =>
      cases found : Profile.ofKind? kind with
      | none => simp [Call.work, found] at h
      | some profile =>
          simp only [Call.work, found, yields_bind_iff, yields_pure_iff] at h
          obtain ⟨flagged, _, h, rfl, rfl⟩ := h
          obtain rfl := Profile.kind_of_ofKind found
          refine (yields_setProfiles_iff.mp h).2.runs_flag.mono ?_
          rintro _ _ rfl
          exact ⟨profile.kind_isOfPeople, username, member,
            fun _ _ carried => Flag.profileName_of_carries carried⟩

/-- The work of a call stops because the store refuses it, or it has written nothing. -/
theorem Stops.of_call {call : Call} (h : s.Stops (call.work now) fault after)
    : (fault.spoils = true ∧ s.sequences ≤ after.sequences) ∨ s.Keeps after := by
  cases call with
  | transition t =>
      simp only [Call.work, stops_bind_iff, not_stops_pure, and_false, exists_false,
        or_false] at h
      exact h.of_carryOut
  | record t =>
      simp only [Call.work, stops_bind_iff, not_stops_pure, and_false, exists_false,
        or_false] at h
      exact .inr ((Work.writesLast_record t now).stops h)
  | flagProfiles kind username =>
      cases found : Profile.ofKind? kind with
      | none =>
          simp only [Call.work, found] at h
          exact .inr ((Work.WritesNothing.throw _).stops h)
      | some profile =>
          simp only [Call.work, found, stops_bind_iff, not_stops_pure, and_false,
            exists_false, or_false] at h
          exact .inr ((Work.writesLast_setProfiles ..).stops h)

end Store

namespace Transaction

variable {t : Transaction} (now : Instant)

/-- A call in a spoiled transaction does nothing and leaves it as it is. -/
theorem call_of_spoiled (spoiled : t.spoiled = true) (call : Call)
    : call.deeds (t.call now call).1 = [] ∧ (t.call now call).2 = t := by
  cases refused : call.refused? <;> simp [Transaction.call, refused, spoiled]

/-- Calls in a spoiled transaction do nothing and leave it as it is, by induction on them. -/
theorem calls_of_spoiled (spoiled : t.spoiled = true) (calls : List Call)
    : Call.deedsOf calls (t.calls now calls).1 = [] ∧ (t.calls now calls).2 = t := by
  induction calls with
  | nil => exact ⟨rfl, rfl⟩
  | cons call rest ih =>
      obtain ⟨nothing, same⟩ := call_of_spoiled now spoiled call
      simp only [Transaction.calls, Call.deedsOf, List.zip_cons_cons, List.flatMap_cons, same,
        nothing, List.nil_append]
      exact ih

/-- A call in a transaction that is not spoiled is a run with the deeds of its answer. It leads to
the store of the transaction, unless the transaction is spoiled then.
-/
theorem runs_call (sound : t.spoiled = false) {call : Call} {calls : List Call}
    (member : call ∈ calls)
    : ∃ reached,
        Store.Runs now (fun _ c => c.IsOfCalls calls) t.store (call.deeds (t.call now call).1)
          reached
        ∧ ((t.call now call).2.spoiled = false → reached = (t.call now call).2.store)
        ∧ t.store.sequences ≤ (t.call now call).2.store.sequences := by
  cases refused : call.refused? with
  | some fault =>
      simp only [Transaction.call, refused, Call.deeds_error]
      exact ⟨t.store, .refl _, fun _ => rfl, le_rfl⟩
  | none =>
      rcases t.store.yields_or_stops (call.work now) with ⟨answer, after, h⟩ | ⟨fault, after, h⟩
      · have run := h.runs_call member
        simp only [Transaction.call, refused, sound, h.run_eq]
        exact ⟨after, run, fun _ => rfl, run.sequences_le⟩
      · simp only [Transaction.call, refused, sound, h.run_eq,
          Bool.false_eq_true, if_false, Call.deeds_error]
        rcases h.of_call with ⟨spoils, drawn⟩ | kept
        · refine ⟨t.store, .refl _, ?_, drawn⟩
          intro unspoiled
          exact absurd (spoils.symm.trans unspoiled) (by decide)
        · exact ⟨after, .stay kept.tables kept.sequences, fun _ => rfl, kept.sequences⟩

/-- Calls in a transaction that is not spoiled are a run with the deeds of their answers, by
induction on them. It leads to the store of the transaction, unless that is spoiled in the end.
-/
theorem runs_calls (calls : List Call) (sound : t.spoiled = false) {all : List Call}
    (members : ∀ call ∈ calls, call ∈ all)
    : ∃ reached,
        Store.Runs now (fun _ c => c.IsOfCalls all) t.store
          (Call.deedsOf calls (t.calls now calls).1) reached
        ∧ ((t.calls now calls).2.spoiled = false → reached = (t.calls now calls).2.store)
        ∧ t.store.sequences ≤ (t.calls now calls).2.store.sequences := by
  induction calls generalizing t with
  | nil => exact ⟨t.store, .refl _, fun _ => rfl, le_rfl⟩
  | cons call rest ih =>
      obtain ⟨member, members⟩ := List.forall_mem_cons.mp members
      obtain ⟨reached, run, same, drawn⟩ := runs_call now sound member
      simp only [Transaction.calls, Call.deedsOf, List.zip_cons_cons, List.flatMap_cons]
      cases spoiled : (t.call now call).2.spoiled with
      | true =>
          -- What was answered until now stays a run, although the end undoes it.
          obtain ⟨nothing, last⟩ := calls_of_spoiled now spoiled rest
          simp only [Call.deedsOf] at nothing
          rw [nothing, last, List.append_nil]
          exact ⟨reached, run, fun sound => absurd (spoiled.symm.trans sound) (by decide), drawn⟩
      | false =>
          obtain ⟨last, later, same', drawn'⟩ := ih spoiled members
          rw [← same spoiled] at later
          exact ⟨last, run.trans later, same', le_trans drawn drawn'⟩

/-- A transaction draws keys and gives none back, whatever becomes of it. -/
theorem sequences_le_finish (s : Store) (now : Instant) (calls : List Call) (commit : Bool)
    : s.sequences ≤ (s.transact now calls commit).2.sequences := by
  obtain ⟨-, -, -, drawn⟩ := runs_calls (t := .start s) now calls rfl
    fun _ member => member
  simp only [Store.transact, Transaction.finish]
  split <;> exact drawn

end Transaction

end AdoptionRecords
