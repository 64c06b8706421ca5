import AsyncFiles.Proofs.Waking.Steps

/-!
No wake-up is lost. While a call is parked, either all that are parked are about to be woken, or it
is right to wait: the context runs, work is outstanding, and for every queued handler a wake-up is
on its way. A call that was woken may find its handler gone to a newcomer, and then there is one
handler less; it may leave because the context was stopped, and then all that are parked were woken
or are about to be, even if the context has been started again since.
-/
namespace AsyncFiles

namespace Context

variable {Handler : Type} {context rest : Context Handler} {handler : Handler}

theorem stopped_of_take (taken : context.turn = .take handler rest) :
    rest.stopped = context.stopped := by
  unfold turn at taken
  split at taken
  · cases taken
  · split at taken
    · cases taken
      rfl
    · split at taken <;> cases taken

theorem waits_of_wait (waits : context.turn = .wait) :
    context.stopped = false ∧ 0 < context.outstanding ∧ context.queue = [] := by
  unfold turn at waits
  split at waits
  · cases waits
  next runs =>
    split at waits
    · cases waits
    next empty =>
      split at waits
      · cases waits
      next busy => exact ⟨by simpa using runs, Nat.pos_of_ne_zero busy, empty⟩

theorem queue_of_leave (leaves : context.turn = .leave) :
    context.stopped = true ∨ context.queue = [] := by
  unfold turn at leaves
  split at leaves
  next stopped => exact .inl stopped
  · split at leaves
    · cases leaves
    next empty => exact .inr empty

end Context

namespace Waking

variable {Handler : Type} {context rest : Context Handler} {calls : List (Stage Handler)}
  {call : Nat} {before : Stage Handler} {handler : Handler}

theorem wakeOne_cases (chosen : Nat) (calls : List (Stage Handler)) :
    (parked calls = 0 ∧ wakeOne chosen calls = calls) ∨
      ∃ call, calls[call]? = some .parked ∧ wakeOne chosen calls = calls.set call .woken := by
  simp only [wakeOne]
  split
  next found => exact .inr ⟨chosen, found, rfl⟩
  · split
    next first found =>
      obtain ⟨bound, isParked, _⟩ := List.findIdx?_eq_some_iff_getElem.mp found
      refine .inr ⟨first, ?_, rfl⟩
      rw [List.getElem?_eq_getElem bound]
      cases stage : calls[first] with
      | parked => rfl
      | _ => simp [stage, Stage.isParked] at isParked
    next none =>
      refine .inl ⟨List.countP_eq_zero.mpr fun stage member => ?_, rfl⟩
      simpa using List.findIdx?_eq_none_iff.mp none stage member

theorem parked_map_wake (calls : List (Stage Handler)) : parked (calls.map Stage.wake) = 0 := by
  refine List.countP_eq_zero.mpr fun stage member => ?_
  obtain ⟨before, _, rfl⟩ := List.mem_map.mp member
  cases before <;> simp [Stage.wake, Stage.isParked]

/-- How the counts change when one call comes from `before` to `after`. -/
theorem counts_set (found : calls[call]? = some before) (after : Stage Handler) :
    parked (calls.set call after) + before.isParked.toNat = parked calls + after.isParked.toNat ∧
      rousers (calls.set call after) + before.rousesAll.toNat =
        rousers calls + after.rousesAll.toNat ∧
      stirring (calls.set call after) + before.stirs.toNat = stirring calls + after.stirs.toNat :=
  ⟨countP_set_balance found after, countP_set_balance found after, countP_set_balance found after⟩

theorem countP_concat {α : Type} (p : α → Bool) (list : List α) (last : α) :
    (list ++ [last]).countP p = list.countP p + (p last).toNat := by
  rw [List.countP_append, List.countP_singleton]
  cases p last <;> rfl

theorem counts_begin (calls : List (Stage Handler)) (stage : Stage Handler) :
    parked (calls ++ [stage]) = parked calls + stage.isParked.toNat ∧
      rousers (calls ++ [stage]) = rousers calls + stage.rousesAll.toNat ∧
      stirring (calls ++ [stage]) = stirring calls + stage.stirs.toNat :=
  ⟨countP_concat _ calls stage, countP_concat _ calls stage, countP_concat _ calls stage⟩

/-- While a call is parked and no call is about to wake all, there is something to wait for and
nothing that waits for the call. -/
def Watchful (context : Context Handler) (calls : List (Stage Handler)) : Prop :=
  0 < parked calls → rousers calls = 0 →
    context.stopped = false ∧ 0 < context.outstanding ∧ context.queue.length ≤ stirring calls

theorem watchful_begin (watchful : Watchful context calls) {later : Context Handler}
    {stage : Stage Handler} (awake : stage.isParked = false)
    (stopped : later.stopped = true → context.stopped = true ∨ stage = .rousingAll)
    (outstanding : later.outstanding = 0 → context.outstanding = 0 ∨ stage = .rousingAll)
    (queue : later.queue.length ≤ context.queue.length + stage.stirs.toNat) :
    Watchful later (calls ++ [stage]) := by
  obtain ⟨parkedCount, rouserCount, stirringCount⟩ := counts_begin calls stage
  rw [awake, Bool.toNat_false] at parkedCount
  intro waiting calm
  have other : stage ≠ .rousingAll := by
    rintro rfl
    rw [calm] at rouserCount
    cases rouserCount
  obtain ⟨runs, busy, fewer⟩ := watchful (by omega) (by omega)
  refine ⟨?_, Nat.pos_of_ne_zero fun none => ?_, by omega⟩
  · by_contra after
    rcases stopped (by simpa using after) with already | rouses
    · simp [runs] at already
    · exact other rouses
  · rcases outstanding none with already | rouses
    · omega
    · exact other rouses

/-- A call that looks is neither parked nor about to wake all. -/
structure Looks (before : Stage Handler) : Prop where
  awake : before.isParked = false
  silent : before.rousesAll = false

theorem watchful_take (watchful : Watchful context calls) (found : calls[call]? = some before)
    (looks : Looks before) (taken : context.turn = .take handler rest) :
    Watchful rest (calls.set call (.running handler)) := by
  obtain ⟨parkedCount, rouserCount, stirringCount⟩ := counts_set found (.running handler)
  rw [looks.awake] at parkedCount
  rw [looks.silent] at rouserCount
  simp only [Stage.isParked, Stage.rousesAll, Bool.toNat_false] at parkedCount rouserCount
  change _ + before.stirs.toNat = _ + 0 at stirringCount
  have one : before.stirs.toNat ≤ 1 := Bool.toNat_le _
  intro waiting calm
  obtain ⟨runs, busy, fewer⟩ := watchful (by omega) (by omega)
  rw [Context.queue_of_take taken, List.length_cons] at fewer
  exact ⟨(Context.stopped_of_take taken).trans runs,
    (Context.outstanding_of_take taken).symm ▸ busy, by omega⟩

theorem watchful_park (waits : context.turn = .wait) (call : Nat) :
    Watchful context (calls.set call .parked) := by
  obtain ⟨runs, busy, empty⟩ := Context.waits_of_wait waits
  intro _ _
  exact ⟨runs, busy, by simp [empty]⟩

/-- A wake-up is wasted on a call that leaves; but then nothing is queued, or the context is stopped
and all that are parked are about to be woken. -/
theorem watchful_leave (watchful : Watchful context calls) (found : calls[call]? = some before)
    (looks : Looks before) (leaves : context.turn = .leave) :
    Watchful context (calls.set call .finished) := by
  obtain ⟨parkedCount, rouserCount, _⟩ := counts_set found .finished
  rw [looks.awake] at parkedCount
  rw [looks.silent] at rouserCount
  simp only [Stage.isParked, Stage.rousesAll, Bool.toNat_false] at parkedCount rouserCount
  intro waiting calm
  obtain ⟨runs, busy, _⟩ := watchful (by omega) (by omega)
  refine ⟨runs, busy, ?_⟩
  -- The call leaves since the context is stopped, which it is not, or since the queue is empty.
  rcases Context.queue_of_leave leaves with stopped | empty
  · rw [runs] at stopped
    cases stopped
  · simp [empty]

theorem watchful_look (watchful : Watchful context calls) (found : calls[call]? = some before)
    (looks : Looks before) :
    Watchful (Stage.looking.next context).1 (calls.set call (Stage.looking.next context).2) := by
  cases turned : context.turn with
  | take handler rest => simpa [Stage.next, turned] using watchful_take watchful found looks turned
  | wait => simpa [Stage.next, turned] using watchful_park turned call
  | leave => simpa [Stage.next, turned] using watchful_leave watchful found looks turned

theorem afterWork_cases (context : Context Handler) :
    Stage.afterWork context = .rousingAll ∨
      context.outstanding ≠ 0 ∧ Stage.afterWork context = .finished := by
  simp only [Stage.afterWork]
  split
  next => exact .inl rfl
  next some => exact .inr ⟨some, rfl⟩

theorem watchful_finish (watchful : Watchful context calls)
    (found : calls[call]? = some (.running handler)) :
    Watchful context.workFinished (calls.set call (.afterWork context.workFinished)) := by
  rcases afterWork_cases context.workFinished with last | ⟨some, more⟩
  · obtain ⟨_, rouserCount, _⟩ := counts_set found .rousingAll
    simp only [Stage.rousesAll, Bool.toNat_false, Bool.toNat_true] at rouserCount
    rw [last]
    intro _ calm
    omega
  · obtain ⟨parkedCount, rouserCount, stirringCount⟩ := counts_set found .finished
    simp only [Stage.isParked, Stage.rousesAll, Stage.stirs, Bool.toNat_false]
      at parkedCount rouserCount stirringCount
    rw [more]
    intro waiting calm
    obtain ⟨runs, _, fewer⟩ := watchful (by omega) (by omega)
    refine ⟨runs, Nat.pos_of_ne_zero some, ?_⟩
    change context.queue.length ≤ _
    omega

theorem watchful_wakeOne (watchful : Watchful context calls)
    (found : calls[call]? = some .rousingOne) (chosen : Nat) :
    Watchful context (wakeOne chosen (calls.set call .finished)) := by
  obtain ⟨parkedCount, rouserCount, stirringCount⟩ := counts_set found .finished
  simp only [Stage.isParked, Stage.rousesAll, Stage.stirs, Bool.toNat_false, Bool.toNat_true]
    at parkedCount rouserCount stirringCount
  rcases wakeOne_cases chosen (calls.set call .finished) with ⟨none, same⟩ | ⟨woken, there, same⟩
  · rw [same]
    intro waiting _
    omega
  · obtain ⟨sleepers, others, moving⟩ := counts_set there .woken
    simp only [Stage.isParked, Stage.rousesAll, Stage.stirs, Bool.toNat_false, Bool.toNat_true]
      at sleepers others moving
    rw [same]
    intro waiting calm
    obtain ⟨runs, busy, fewer⟩ := watchful (by omega) (by omega)
    exact ⟨runs, busy, by omega⟩

theorem watchful_wakeAll (context : Context Handler) (calls : List (Stage Handler)) :
    Watchful context (calls.map Stage.wake) := by
  intro waiting _
  rw [parked_map_wake] at waiting
  cases waiting

namespace Shared

variable {shared : Shared Handler}

theorem watchful_advance (watchful : Watchful shared.context shared.calls) (call chosen : Nat) :
    Watchful (shared.advance call chosen).context (shared.advance call chosen).calls := by
  cases found : shared.calls[call]? with
  | none => simpa [advance, found] using watchful
  | some stage =>
    rw [advance_eq chosen found]
    cases stage with
    | looking | woken => exact watchful_look watchful found ⟨rfl, rfl⟩
    | running handler => exact watchful_finish watchful found
    | rousingOne => exact watchful_wakeOne watchful found chosen
    | rousingAll => exact watchful_wakeAll shared.context _
    | parked | finished => simpa [Stage.next, Stage.rouse, set_same found] using watchful

theorem watchful_step (watchful : Watchful shared.context shared.calls) (move : Move Handler) :
    Watchful (shared.step move).context (shared.step move).calls := by
  cases move with
  | runOne => exact watchful_begin watchful rfl .inl .inl (Nat.le_add_right _ _)
  | pollOne =>
    simp only [step]
    split
    next handler rest taken =>
      refine watchful_begin watchful rfl (fun stopped => ?_) (fun none => ?_) ?_
      · exact .inl ((Context.stopped_of_take taken).symm.trans stopped)
      · exact .inl ((Context.outstanding_of_take taken).symm.trans none)
      · rw [Context.queue_of_take taken, List.length_cons]
        exact Nat.le_trans (Nat.le_succ _) (Nat.le_add_right _ _)
    all_goals exact watchful_begin watchful rfl .inl .inl (Nat.le_add_right _ _)
  | post handler =>
    refine watchful_begin watchful rfl .inl (fun none => ?_) ?_
    · cases none
    · exact Nat.le_of_eq List.length_append
  | startWork =>
    refine watchful_begin watchful rfl .inl (fun none => ?_) (Nat.le_add_right _ _)
    cases none
  | finishWork =>
    simp only [step]
    rcases afterWork_cases shared.context.workFinished with last | ⟨some, more⟩
    · rw [last]
      exact watchful_begin watchful rfl .inl (fun _ => .inr rfl) (Nat.le_add_right _ _)
    · rw [more]
      exact watchful_begin watchful rfl .inl (fun none => absurd none some) (Nat.le_add_right _ _)
  | stop =>
    exact watchful_begin watchful rfl (fun _ => .inr rfl) (fun _ => .inr rfl) (Nat.le_add_right _ _)
  | restart =>
    refine watchful_begin watchful rfl (fun stopped => ?_) .inl (Nat.le_add_right _ _)
    cases stopped
  | advance call chosen => exact watchful_advance watchful call chosen

theorem watchful_run (watchful : Watchful shared.context shared.calls)
    (moves : List (Move Handler)) :
    Watchful (shared.run moves).context (shared.run moves).calls := by
  induction moves generalizing shared with
  | nil => exact watchful
  | cons move rest ih => exact ih (watchful_step watchful move)

theorem watchful_fresh : Watchful ({} : Shared Handler).context ({} : Shared Handler).calls :=
  fun waiting => by cases waiting

/-- Where all notifications are sent and no call that was woken has yet to look, a call that is
parked has something to wait for and nothing to do: the context is not stopped, no handler is queued
and work is outstanding. -/
theorem parked_only_to_wait (moves : List (Move Handler))
    (quiet : (Shared.run {} moves).Quiet) (parked : .parked ∈ (Shared.run {} moves).calls) :
    (Shared.run {} moves).context.stopped = false ∧ (Shared.run {} moves).context.queue = [] ∧
      0 < (Shared.run {} moves).context.outstanding := by
  have watchful := watchful_run watchful_fresh moves
  generalize Shared.run {} moves = reached at quiet parked watchful
  obtain ⟨notOne, notAll, notWoken⟩ := quiet
  have calm : rousers reached.calls = 0 := List.countP_eq_zero.mpr fun stage member rouses => by
    cases stage with
    | rousingAll => exact notAll member
    | _ => cases rouses
  have still : stirring reached.calls = 0 := List.countP_eq_zero.mpr fun stage member stirs => by
    cases stage with
    | rousingOne => exact notOne member
    | woken => exact notWoken member
    | _ => cases stirs
  obtain ⟨runs, busy, fewer⟩ := watchful (List.countP_pos_iff.mpr ⟨_, parked, rfl⟩) calm
  rw [still, Nat.le_zero, List.length_eq_zero_iff] at fewer
  exact ⟨runs, fewer, busy⟩

end Shared

/-- Two calls park. A handler is posted and the second call is woken for it, but a newcomer takes it
first and finishes it. The context is stopped and started again before all are woken. -/
def busyWaits : List (Move Unit) :=
  [.startWork, .runOne, .runOne, .advance 1 0, .advance 2 0, .post (), .advance 3 2, .pollOne,
    .advance 2 0, .advance 4 0, .stop, .restart, .advance 5 0, .advance 1 0, .advance 2 0]

/-- Both calls look again and park again: the first work is still to be finished. -/
theorem parked_busyWaits :
    ((Shared.run {} busyWaits).Quiet ∧ .parked ∈ (Shared.run {} busyWaits).calls) ∧
      (Shared.run {} busyWaits).context.stopped = false ∧
      (Shared.run {} busyWaits).context.queue = [] ∧
      0 < (Shared.run {} busyWaits).context.outstanding := by
  have quiet : (Shared.run {} busyWaits).Quiet := by decide
  have parked : .parked ∈ (Shared.run {} busyWaits).calls := by decide
  exact ⟨⟨quiet, parked⟩, Shared.parked_only_to_wait busyWaits quiet parked⟩

end Waking

end AsyncFiles
