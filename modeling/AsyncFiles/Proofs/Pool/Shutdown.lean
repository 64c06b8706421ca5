import AsyncFiles.Proofs.Pool.Conservation

namespace AsyncFiles

open Error

namespace Pool

variable {Task : Type} {pool : Pool Task} {worker : Nat} {state : Worker Task}

theorem isGone_setWorker (present : pool.workers[worker]? = some state)
    (stays : state.hasLeft = false) {after : Worker Task} (works : after.hasLeft = false)
    (other : Nat) : (pool.setWorker worker after).isGone other = pool.isGone other := by
  simp only [isGone, setWorker]
  rw [any_getElem_set present]
  split
  next same =>
    subst same
    simp [present, works, stays]
  next => rfl

theorem isGone_left (present : pool.workers[worker]? = some state) (other : Nat) :
    (pool.setWorker worker .left).isGone other =
      (decide (worker = other) || pool.isGone other) := by
  simp only [isGone, setWorker]
  rw [any_getElem_set present]
  by_cases same : worker = other <;> simp [same, Worker.hasLeft]

theorem allLeft_iff :
    pool.allLeft = true ↔ ∀ worker < pool.workers.length, pool.isGone worker = true := by
  simp only [allLeft, List.all_eq_true, isGone]
  constructor
  · intro all worker bound
    rw [List.getElem?_eq_getElem bound]
    exact all _ (List.getElem_mem bound)
  · intro each state member
    obtain ⟨worker, bound, rfl⟩ := List.mem_iff_getElem.mp member
    simpa [List.getElem?_eq_getElem bound] using each worker bound

end Pool

namespace Submission

theorem next_lends {Task : Type} {pool : Pool Task} (task : Task) (receiver : Nat)
    {stage : Submission} (none : stage.lends = false) (silent : pool.sending = false) :
    (stage.next pool task receiver).2.lends = false := by
  cases stage with
  | begun => simp only [next]; split <;> rfl
  | checked => simp [next, silent, lends]
  | turnedAway | returned => rfl
  | _ => cases none

theorem next_unlent {Task : Type} {pool : Pool Task} (task : Task) (receiver : Nat)
    {stage : Submission} (none : stage.lends = false) (silent : pool.sending = false)
    (returned : pool.lent = 0) : (stage.next pool task receiver).1.lent = 0 := by
  have still := next_lends task receiver none silent
  have lent : stage.lends = true → 0 < pool.lent := fun lends => by simp [none] at lends
  have senders := next_lent task receiver lent
  simpa [none, still, returned] using senders

end Submission

namespace Closing

variable {Task : Type} {pool later : Pool Task} {caller : Option Nat} {stage : Closing}

/-- What a shutdown that has come this far says about the pool. -/
structure Heeded (caller : Option Nat) (pool : Pool Task) (stage : Closing) : Prop where
  silent : stage.hangsUp = true → pool.sending = false
  left : stage.drains = true → ∀ worker < pool.workers.length, worker ∉ stage.awaits →
    caller = some worker ∨ pool.isGone worker = true
  bound : ∀ worker ∈ stage.awaits, worker < pool.workers.length

theorem Heeded.mono (heeded : stage.Heeded caller pool)
    (sending : pool.sending = false → later.sending = false)
    (threads : later.workers.length = pool.workers.length)
    (gone : ∀ worker, pool.isGone worker = true → later.isGone worker = true) :
    stage.Heeded caller later where
  silent hungUp := sending (heeded.silent hungUp)
  left drains worker bound unawaited :=
    (heeded.left drains worker (threads ▸ bound) unawaited).imp_right (gone worker)
  bound worker awaited := threads ▸ heeded.bound worker awaited

theorem heeded_begun (caller : Option Nat) (pool : Pool Task) :
    Closing.begun.Heeded caller pool where
  silent hungUp := by cases hungUp
  left drained := by cases drained
  bound worker awaited := by cases awaited

theorem heeded_next (heeded : stage.Heeded caller pool) :
    (stage.next caller pool).2.Heeded caller (stage.next caller pool).1 := by
  cases stage with
  | begun => exact ⟨by simp [next, hangsUp], by simp [next, drains], by simp [next, awaits]⟩
  | refusing => exact ⟨by simp [next, Pool.hangUp], by simp [next, drains], by simp [next, awaits]⟩
  | hungUp =>
    have silent := heeded.silent rfl
    simp only [next]
    split
    · exact ⟨fun _ => silent, by simp [drains], by simp [awaits]⟩
    · refine ⟨fun _ => silent, fun _ worker bound unawaited => ?_, fun worker => List.mem_range.mp⟩
      exact absurd (List.mem_range.mpr bound) unawaited
  | joining rest =>
    cases rest with
    | nil => exact ⟨heeded.silent, heeded.left, heeded.bound⟩
    | cons worker rest =>
      simp only [next]
      split
      next done =>
        refine ⟨heeded.silent, fun _ other bound unawaited => ?_,
          fun other awaited => heeded.bound other (List.mem_cons_of_mem _ awaited)⟩
        by_cases same : other = worker
        · subst same
          simpa using done
        · exact heeded.left rfl other bound (by simpa [awaits, same] using unawaited)
      next => exact heeded
  | returned drained => exact heeded

theorem next_sending (pool : Pool Task) (caller : Option Nat) (stage : Closing)
    (silent : pool.sending = false) :
    (stage.next caller pool).1.sending = false := by
  cases stage with
  | hungUp => simp only [next]; split <;> exact silent
  | joining rest =>
    cases rest with
    | nil => exact silent
    | cons worker rest => simp only [next]; split <;> exact silent
  | refusing => rfl
  | _ => exact silent

theorem next_joined (pool : Pool Task) (caller : Option Nat) (stage : Closing) :
    (stage.next caller pool).1.joined.toNat + stage.drains.toNat =
      pool.joined.toNat + (stage.next caller pool).2.drains.toNat := by
  cases stage with
  | hungUp =>
    simp only [next]
    split
    next => rfl
    next first => simp [first, drains]
  | joining rest =>
    cases rest with
    | nil => rfl
    | cons worker rest => simp only [next]; split <;> rfl
  | _ => rfl

end Closing

namespace Traffic

variable {traffic later : Traffic} {worker : Nat}

structure Closed (traffic : Traffic) : Prop where
  heeded : ∀ call ∈ traffic.closings, call.stage.Heeded call.caller traffic.pool
  drained : (traffic.closings.countP fun call => call.stage.drains) = traffic.pool.joined.toNat
  gone : ∀ worker, traffic.pool.isGone worker = true →
    traffic.pool.sending = false ∧ traffic.pool.lent = 0 ∧ traffic.pool.queue = []
  manned : 0 < traffic.pool.workers.length

theorem Closed.of_calm (closed : traffic.Closed) (closings : later.closings = traffic.closings)
    (sending : later.pool.sending = traffic.pool.sending)
    (joined : later.pool.joined = traffic.pool.joined)
    (threads : later.pool.workers.length = traffic.pool.workers.length)
    (gone : ∀ worker, later.pool.isGone worker = traffic.pool.isGone worker)
    (quiet : traffic.pool.sending = false → traffic.pool.lent = 0 → later.pool.lent = 0)
    (empty : traffic.pool.lent = 0 → traffic.pool.queue = [] → later.pool.queue = []) :
    later.Closed where
  heeded call member := (closed.heeded call (closings ▸ member)).mono
    (fun silent => sending.trans silent) threads fun worker left => (gone worker).trans left
  drained := by
    rw [closings, joined]
    exact closed.drained
  gone worker left := by
    rw [gone] at left
    obtain ⟨silent, returned, nothing⟩ := closed.gone worker left
    exact ⟨sending ▸ silent, quiet silent returned, empty returned nothing⟩
  manned := threads ▸ closed.manned

theorem Closed.submit (closed : traffic.Closed) (caller : Option Nat) :
    (traffic.step (.submit caller)).Closed := by
  simp only [step]
  split
  · exact ⟨closed.heeded, closed.drained, closed.gone, closed.manned⟩
  · exact closed

theorem Closed.advance (closed : traffic.Closed) (balanced : traffic.Balanced)
    (number receiver : Nat) : (traffic.advance number receiver).Closed := by
  cases found : traffic.submissions[number]? with
  | none => rwa [advance_none found]
  | some call =>
    obtain ⟨_, _, sending, joined⟩ :=
      Submission.next_settings traffic.pool { number } receiver call.stage
    have own : call.stage.lends = true → 0 < traffic.pool.lent := fun lends => by
      rw [balanced.lent]
      exact positive_of_found (p := fun call => call.stage.lends) found lends
    rw [advance_eq found]
    rcases Submission.next_cases traffic.pool { number } receiver call.stage with
      ⟨counted, pool, sent, accepts⟩ | ⟨queue, workers, _⟩
    · -- The submission has a sender of its own, so no worker has left.
      have lent : traffic.pool.lent ≠ 0 := Nat.pos_iff_ne_zero.mp (own (by rw [counted]; rfl))
      rw [accepts] at sending joined ⊢
      refine closed.of_calm (note_closings ..) ?_ ?_ ?_ ?_ (fun _ none => absurd none lent)
        (fun none => absurd none lent)
      all_goals simp only [note_pool, put_pool]
      · exact sending
      · exact joined
      · cases sent <;> simp [Pool.setWorker]
      · intro worker
        cases sent with
        | queued => rfl
        | handed _ waits => exact Pool.isGone_setWorker waits rfl rfl worker
    · refine closed.of_calm (note_closings ..) ?_ ?_ ?_ ?_ ?_ ?_
      all_goals simp only [note_pool, put_pool, queue, workers, Pool.isGone]
      · exact sending
      · exact joined
      · exact fun _ => trivial
      · intro silent none
        have without : call.stage.lends = false := by
          by_contra lends
          exact absurd (own (by simpa using lends)) (by omega)
        exact Submission.next_unlent _ _ without silent none
      · exact fun _ nothing => nothing

theorem Closed.close (closed : traffic.Closed) (caller : Option Nat) :
    (traffic.step (.close caller)).Closed := by
  simp only [step]
  split
  · refine ⟨?_, ?_, closed.gone, closed.manned⟩
    · intro call member
      rcases List.mem_append.mp member with before | new
      · exact closed.heeded call before
      · cases List.mem_singleton.mp new
        exact Closing.heeded_begun caller traffic.pool
    · simpa [Closing.drains] using closed.drained
  · exact closed

theorem Closed.wind (closed : traffic.Closed) (closing : Nat) : (traffic.wind closing).Closed := by
  cases found : traffic.closings[closing]? with
  | none => rwa [wind_none found]
  | some call =>
    obtain ⟨_, queue, workers, lent, _⟩ :=
      Closing.next_rest traffic.pool call.caller call.stage
    have sending := Closing.next_sending traffic.pool call.caller call.stage
    have gone : ∀ worker, (call.stage.next call.caller traffic.pool).1.isGone worker =
        traffic.pool.isGone worker := fun worker => by simp only [Pool.isGone, workers]
    rw [wind_eq found]
    refine ⟨fun other member => ?_, ?_, fun worker left => ?_, ?_⟩
    · rcases List.mem_or_eq_of_mem_set member with before | rfl
      · exact (closed.heeded other before).mono sending (by rw [workers])
          fun worker left => (gone worker).trans left
      · exact Closing.heeded_next (closed.heeded call (List.mem_of_getElem? found))
    · have counted := countP_set_balance
        (p := fun call : PoolCall Closing => call.stage.drains) found
        { call with stage := (call.stage.next call.caller traffic.pool).2 }
      have joined := Closing.next_joined traffic.pool call.caller call.stage
      have before := closed.drained
      simp only at counted ⊢
      omega
    · rw [gone] at left
      obtain ⟨silent, returned, nothing⟩ := closed.gone worker left
      exact ⟨sending silent, lent.trans returned, queue.trans nothing⟩
    · rw [workers]
      exact closed.manned

theorem Closed.take (closed : traffic.Closed) (worker : Nat) : (traffic.take worker).Closed := by
  rcases traffic.take_cases worker with same | ⟨job, rest, idle, queued, taken⟩
  · rwa [same]
  · rw [taken]
    refine closed.of_calm rfl rfl rfl (List.length_set ..) (Pool.isGone_setWorker idle rfl rfl)
      (fun _ none => none) (fun _ nothing => ?_)
    simp [queued] at nothing

theorem Closed.endTask (closed : traffic.Closed) (worker : Nat) (ending : Ending) :
    (traffic.endTask worker ending).Closed := by
  rcases traffic.endTask_cases worker ending with same | ⟨number, holds, _, ended⟩
  · rwa [same]
  · rw [ended]
    exact closed.of_calm rfl rfl rfl (List.length_set ..) (Pool.isGone_setWorker holds rfl rfl)
      (fun _ none => none) (fun _ nothing => nothing)

theorem Closed.countOff (closed : traffic.Closed) (worker : Nat) :
    (traffic.countOff worker).Closed := by
  rcases traffic.countOff_cases worker with same | ⟨number, holds, counted⟩
  · rwa [same]
  · rw [counted]
    exact closed.of_calm rfl rfl rfl (List.length_set ..) (Pool.isGone_setWorker holds rfl rfl)
      (fun _ none => none) (fun _ nothing => nothing)

theorem Closed.leave (closed : traffic.Closed) (worker : Nat) : (traffic.leave worker).Closed := by
  rcases traffic.leave_cases worker with same | ⟨idle, empty, silent, returned, left⟩
  · rwa [same]
  · rw [left]
    refine ⟨fun call member => ?_, closed.drained, fun _ _ => ⟨silent, returned, empty⟩,
      by simpa [Pool.setWorker] using closed.manned⟩
    refine (closed.heeded call member).mono id (List.length_set ..) fun other gone => ?_
    rw [Pool.isGone_left idle, gone, Bool.or_true]

end Traffic

end AsyncFiles
