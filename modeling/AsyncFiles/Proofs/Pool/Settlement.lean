import AsyncFiles.Proofs.Pool.Shutdown
import Mathlib.Algebra.GroupWithZero.Nat

namespace AsyncFiles

open Error

/-- How many steps a submission can still take, with those of the worker that gets its task. -/
def Submission.rank : Submission → Nat
  | .begun => 8
  | .checked => 7
  | .lent => 6
  | .counted => 5
  | .refused _ => 3
  | .discounted _ => 2
  | .accepted | .dropped _ | .turnedAway => 1
  | .returned _ => 0

def Closing.rank (threads : Nat) : Closing → Nat
  | .begun => threads + 4
  | .refusing => threads + 3
  | .hungUp => threads + 2
  | .joining rest => rest.length + 1
  | .returned _ => 0

def Worker.rank : Worker Job → Nat
  | .busy job => if job.spent then 2 else 3
  | .idle => 1
  | .left => 0

def Pool.load (pool : Pool Job) : Nat := 3 * pool.queue.length + (pool.workers.map Worker.rank).sum

theorem sum_map_set {α : Type} {list : List α} {index : Nat} {before : α} (f : α → Nat)
    (present : list[index]? = some before) (after : α) :
    ((list.set index after).map f).sum + f before = (list.map f).sum + f after := by
  induction list generalizing index with
  | nil => simp at present
  | cons head rest ih =>
    cases index with
    | zero =>
      cases present
      simp only [List.set_cons_zero, List.map_cons, List.sum_cons]
      omega
    | succ index =>
      have balance := ih present
      simp only [List.set_cons_succ, List.map_cons, List.sum_cons]
      omega

theorem eq_of_countP_le_one {α : Type} {list : List α} {p : α → Bool} (few : list.countP p ≤ 1)
    {first second : α} (member : first ∈ list) (also : second ∈ list) (holds : p first = true)
    (too : p second = true) : first = second := by
  rw [List.countP_eq_length_filter] at few
  have one := List.mem_filter.mpr ⟨member, holds⟩
  have two := List.mem_filter.mpr ⟨also, too⟩
  match list.filter p, few, one, two with
  | [only], _, one, two => exact (List.mem_singleton.mp one).trans (List.mem_singleton.mp two).symm

namespace Pool

variable {worker : Nat} {state : Worker Job}

theorem load_setWorker (pool : Pool Job) (present : pool.workers[worker]? = some state)
    (after : Worker Job) :
    (pool.setWorker worker after).load + state.rank = pool.load + after.rank := by
  have balance := sum_map_set Worker.rank present after
  simp only [load, setWorker]
  omega

end Pool

theorem Submission.next_rank (pool : Pool Job) (number receiver : Nat) {stage : Submission}
    (underway : stage.isOver = false) :
    let next := stage.next pool { number } receiver
    next.2.rank + next.1.load < stage.rank + pool.load := by
  cases stage with
  | begun => simp only [next]; split <;> simp [rank]
  | checked => simp only [next]; split <;> simp [rank, Pool.load, Pool.lend]
  | counted =>
    simp only [next]
    cases sent : pool.send { number } receiver with
    | error error => simp [rank]
    | ok later =>
      cases Pool.sent_of_send sent with
      | queued => simp [rank, Pool.load]; omega
      | handed _ waits =>
        have grown := Pool.load_setWorker _ waits (.busy { number })
        simp [rank, Worker.rank] at grown ⊢
        omega
  | returned result => cases underway
  | _ => simp [next, rank, Pool.load, Pool.countIn, Pool.countOff, Pool.giveBack]

theorem Closing.next_rank (pool : Pool Job) (caller : Option Nat) (stage : Closing) :
    let next := stage.next caller pool
    next = (pool, stage) ∨ next.2.rank pool.workers.length < stage.rank pool.workers.length := by
  cases stage with
  | hungUp =>
    right
    simp only [next]
    split <;> simp [rank]
  | joining rest =>
    cases rest with
    | nil => exact .inr Nat.zero_lt_one
    | cons worker rest =>
      simp only [next]
      split
      · exact .inr (by simp [rank])
      · exact .inl rfl
  | returned => exact .inl rfl
  | _ => exact .inr (by simp [next, rank])

theorem Closing.waits_of_next {pool : Pool Job} {caller : Option Nat} {stage : Closing}
    (same : stage.next caller pool = (pool, stage)) (underway : stage.isOver = false) :
    ∃ worker rest, stage = .joining (worker :: rest) ∧ caller ≠ some worker ∧
      pool.isGone worker = false := by
  cases stage with
  | begun | refusing => simp [next] at same
  | hungUp =>
    simp only [next] at same
    split at same <;> simp at same
  | joining rest =>
    cases rest with
    | nil => simp [next] at same
    | cons worker rest =>
      simp only [next] at same
      split at same
      next => simp at same
      next waits =>
        rw [Bool.or_eq_true, not_or] at waits
        exact ⟨worker, rest, rfl, by simpa using waits.1, by simpa using waits.2⟩
  | returned => cases underway

namespace Traffic

variable {traffic : Traffic} {worker number : Nat}

/-- How many steps can still be taken before the next call. -/
def measure (traffic : Traffic) : Nat :=
  (traffic.submissions.map fun call => call.stage.rank).sum +
    (traffic.closings.map fun call => call.stage.rank traffic.pool.workers.length).sum +
    traffic.pool.load

/-- An act of a call, a task or a worker that is there already. -/
def Act.continues : Act → Bool
  | .submit _ | .close _ => false
  | _ => true

def Effective (traffic : Traffic) : List Act → Prop
  | [] => True
  | act :: rest => traffic.step act ≠ traffic ∧ Effective (traffic.step act) rest

theorem measure_of_load {later : Traffic} (submissions : later.submissions = traffic.submissions)
    (closings : later.closings = traffic.closings)
    (threads : later.pool.workers.length = traffic.pool.workers.length)
    (less : later.pool.load < traffic.pool.load) : later.measure < traffic.measure := by
  simp only [measure, submissions, closings, threads]
  omega

theorem advance_lt {call : PoolCall Submission} (found : traffic.submissions[number]? = some call)
    (underway : call.stage.isOver = false) (receiver : Nat) :
    (traffic.advance number receiver).measure < traffic.measure := by
  have threads : (call.stage.next traffic.pool { number } receiver).1.workers.length =
      traffic.pool.workers.length := by
    rcases Submission.next_cases traffic.pool { number } receiver call.stage with
      ⟨_, later, sent, accepts⟩ | ⟨_, workers, _⟩
    · rw [accepts]
      cases sent <;> simp [Pool.setWorker]
    · rw [workers]
  have closer := Submission.next_rank traffic.pool number receiver underway
  have ranks := sum_map_set (fun call : PoolCall Submission => call.stage.rank) found
    { call with stage := (call.stage.next traffic.pool { number } receiver).2 }
  rw [advance_eq found]
  simp only [measure, note_pool, note_submissions, note_closings, put_pool, put_submissions,
    show ∀ next, (traffic.put number call next).closings = traffic.closings from fun _ => rfl,
    threads]
  simp only at closer ranks
  omega

theorem advance_over {call : PoolCall Submission} (found : traffic.submissions[number]? = some call)
    (ended : call.stage.isOver = true) (receiver : Nat) :
    traffic.advance number receiver = traffic := by
  obtain ⟨caller, stage⟩ := call
  cases stage with
  | returned result =>
    simp [advance, found, Submission.next, note, put, set_same found]
  | _ => cases ended

theorem wind_lt {call : PoolCall Closing} {closing : Nat}
    (found : traffic.closings[closing]? = some call)
    (closer : (call.stage.next call.caller traffic.pool).2.rank traffic.pool.workers.length <
      call.stage.rank traffic.pool.workers.length) :
    (traffic.wind closing).measure < traffic.measure := by
  obtain ⟨_, queue, workers, _, _⟩ :=
    Closing.next_rest traffic.pool call.caller call.stage
  have ranks := sum_map_set
    (fun call : PoolCall Closing => call.stage.rank traffic.pool.workers.length) found
    { call with stage := (call.stage.next call.caller traffic.pool).2 }
  rw [wind_eq found]
  simp only [measure, Pool.load, queue, workers] at ranks closer ⊢
  omega

theorem wind_cases (closing : Nat) : traffic.wind closing = traffic ∨
    (traffic.wind closing).measure < traffic.measure := by
  cases found : traffic.closings[closing]? with
  | none => exact .inl (wind_none found)
  | some call =>
    rcases Closing.next_rank traffic.pool call.caller call.stage with waits | closer
    · left
      rw [wind_eq found]
      simp [waits, set_same found]
    · exact .inr (wind_lt found closer)

theorem take_lt {job : Job} {rest : List Job} (idle : traffic.pool.workers[worker]? = some .idle)
    (queued : traffic.pool.queue = job :: rest) :
    (traffic.take worker).measure < traffic.measure := by
  simp only [take, Pool.dequeue?, idle, queued]
  refine measure_of_load rfl rfl (List.length_set ..) ?_
  have loaded := Pool.load_setWorker { traffic.pool with queue := rest } idle (.busy job)
  have busy : (Worker.busy job).rank ≤ 3 := by simp only [Worker.rank]; split <;> omega
  simp only [Pool.load, queued, List.length_cons, Worker.rank] at loaded busy ⊢
  omega

theorem endTask_lt (holds : traffic.pool.workers[worker]? = some (.busy { number }))
    (free : traffic.engaged worker = false) (ending : Ending) :
    (traffic.endTask worker ending).measure < traffic.measure := by
  simp only [endTask, job?_eq_some.mpr holds, free, Bool.or_false, Bool.false_eq_true, if_false]
  refine measure_of_load rfl rfl (List.length_set ..) ?_
  have loaded := Pool.load_setWorker _ holds (.busy { number, spent := true })
  simp only [Worker.rank, Bool.false_eq_true, if_false, if_true] at loaded ⊢
  omega

theorem countOff_lt
    (holds : traffic.pool.workers[worker]? = some (.busy { number, spent := true })) :
    (traffic.countOff worker).measure < traffic.measure := by
  simp only [countOff, job?_eq_some.mpr holds, Option.any_some, if_true]
  refine measure_of_load rfl rfl (List.length_set ..) ?_
  have loaded := Pool.load_setWorker _ holds .idle
  simp only [Worker.rank, if_true] at loaded
  simp only [Pool.finish, Pool.countOff, Pool.load] at loaded ⊢
  omega

theorem leave_lt (idle : traffic.pool.workers[worker]? = some .idle)
    (empty : traffic.pool.queue = []) (silent : traffic.pool.sending = false)
    (returned : traffic.pool.lent = 0) : (traffic.leave worker).measure < traffic.measure := by
  have goes := Pool.leave?_eq_some.mpr ⟨idle, empty, silent, returned, rfl⟩
  simp only [leave, goes]
  refine measure_of_load rfl rfl (List.length_set ..) ?_
  have loaded := Pool.load_setWorker _ idle .left
  simp only [Worker.rank] at loaded ⊢
  omega

theorem step_measure {act : Act} (continues : act.continues = true) :
    traffic.step act = traffic ∨ (traffic.step act).measure < traffic.measure := by
  cases act with
  | submit | close => cases continues
  | advance number receiver =>
    cases found : traffic.submissions[number]? with
    | none => exact .inl (advance_none found)
    | some call =>
      cases ended : call.stage.isOver with
      | true => exact .inl (advance_over found ended receiver)
      | false => exact .inr (advance_lt found ended receiver)
  | wind closing => exact traffic.wind_cases closing
  | take worker =>
    exact (traffic.take_cases worker).imp_right fun ⟨_, _, idle, queued, _⟩ => take_lt idle queued
  | endTask worker ending =>
    exact (traffic.endTask_cases worker ending).imp_right
      fun ⟨_, holds, free, _⟩ => endTask_lt holds free ending
  | countOff worker =>
    exact (traffic.countOff_cases worker).imp_right fun ⟨_, holds, _⟩ => countOff_lt holds
  | leave worker =>
    exact (traffic.leave_cases worker).imp_right
      fun ⟨idle, empty, silent, returned, _⟩ => leave_lt idle empty silent returned

theorem length_le_measure {acts : List Act} (continue_ : ∀ act ∈ acts, act.continues = true)
    (effective : traffic.Effective acts) : acts.length ≤ traffic.measure := by
  induction acts generalizing traffic with
  | nil => exact Nat.zero_le _
  | cons act rest ih =>
    -- Every step that changes something brings the measure down.
    have closer := (step_measure (continue_ act List.mem_cons_self)).resolve_left effective.1
    have remaining := ih (fun act member => continue_ act (List.mem_cons_of_mem _ member))
      effective.2
    rw [List.length_cons]
    omega

structure Sound (traffic : Traffic) : Prop where
  balanced : traffic.Balanced
  placed : traffic.Placed
  closed : traffic.Closed

theorem sound_fresh (capacity : Option Nat) (threads : Nat) :
    (Traffic.fresh capacity (threads + 1)).Sound where
  balanced := by
    constructor
    · simp [fresh, Pool.fresh, Pool.held, unsettled, List.filterMap_replicate, Worker.task?]
    · rfl
  placed := by
    refine ⟨rfl, ?_, by simp [fresh, Pool.fresh], by simp [fresh], by simp [fresh],
      fun capacity _ => Nat.zero_le _⟩
    simp [fresh, Pool.fresh, running, Worker.running?]
  closed := by
    refine ⟨by simp [fresh], rfl, fun worker gone => ?_, by simp [fresh, Pool.fresh]⟩
    simp [fresh, Pool.fresh, Pool.isGone, List.getElem?_replicate] at gone
    split at gone <;> simp [Worker.hasLeft] at gone

theorem Sound.step (sound : traffic.Sound) (act : Act) : (traffic.step act).Sound := by
  obtain ⟨balanced, placed, closed⟩ := sound
  cases act with
  | submit caller => exact ⟨balanced.submit caller, placed.submit caller, closed.submit caller⟩
  | advance number receiver =>
    exact ⟨balanced.advance number receiver, placed.advance number receiver,
      closed.advance balanced number receiver⟩
  | close caller => exact ⟨balanced.close caller, placed.close caller, closed.close caller⟩
  | wind closing => exact ⟨balanced.wind closing, placed.wind closing, closed.wind closing⟩
  | take worker => exact ⟨balanced.take worker, placed.take worker, closed.take worker⟩
  | endTask worker ending =>
    exact ⟨balanced.endTask worker ending, placed.endTask worker ending,
      closed.endTask worker ending⟩
  | countOff worker =>
    exact ⟨balanced.countOff worker, placed.countOff worker, closed.countOff worker⟩
  | leave worker => exact ⟨balanced.leave worker, placed.leave worker, closed.leave worker⟩

theorem Sound.run (sound : traffic.Sound) (acts : List Act) : (traffic.run acts).Sound := by
  induction acts generalizing traffic with
  | nil => exact sound
  | cons act rest ih => exact ih (sound.step act)

/-- No step of the calls, tasks and workers that are there changes anything. -/
def AtRest (traffic : Traffic) : Prop :=
  ∀ act : Act, act.continues = true → traffic.step act = traffic

namespace AtRest

theorem not_lt (rests : traffic.AtRest) (act : Act) (continues : act.continues = true)
    (less : (traffic.step act).measure < traffic.measure) : False := by
  rw [rests act continues] at less
  exact Nat.lt_irrefl _ less

theorem submissions_over (rests : traffic.AtRest) :
    ∀ call ∈ traffic.submissions, call.stage.isOver = true := by
  intro call member
  obtain ⟨number, bound, same⟩ := List.mem_iff_getElem.mp member
  by_contra underway
  have found : traffic.submissions[number]? = some call := by
    rw [List.getElem?_eq_getElem bound, same]
  exact rests.not_lt (.advance number 0) rfl
    (advance_lt found (by simpa using underway) 0)

theorem not_counting (rests : traffic.AtRest) {call : PoolCall Submission}
    (member : call ∈ traffic.submissions) :
    call.stage.lends = false ∧ call.stage.counts = false := by
  have ended := rests.submissions_over call member
  obtain ⟨caller, stage⟩ := call
  cases stage with
  | returned => exact ⟨rfl, rfl⟩
  | _ => cases ended

theorem lent (rests : traffic.AtRest) (sound : traffic.Sound) : traffic.pool.lent = 0 := by
  rw [sound.balanced.lent, List.countP_eq_zero]
  intro call member
  simp [(rests.not_counting member).1]

theorem waits (rests : traffic.AtRest) {call : PoolCall Closing} (member : call ∈ traffic.closings)
    (underway : call.stage.isOver = false) :
    ∃ worker rest, call.stage = .joining (worker :: rest) ∧ call.caller ≠ some worker ∧
      traffic.pool.isGone worker = false := by
  obtain ⟨closing, bound, same⟩ := List.mem_iff_getElem.mp member
  have found : traffic.closings[closing]? = some call := by
    rw [List.getElem?_eq_getElem bound, same]
  rcases Closing.next_rank traffic.pool call.caller call.stage with stays | closer
  · exact Closing.waits_of_next stays underway
  · exact (rests.not_lt (.wind closing) rfl (wind_lt found closer)).elim

theorem engaged (rests : traffic.AtRest) (sound : traffic.Sound)
    {state : Worker Job} (present : traffic.pool.workers[worker]? = some state)
    (stays : state.hasLeft = false) (silent : state = .idle → traffic.pool.sending = false) :
    traffic.engaged worker = true := by
  cases state with
  | idle =>
    exfalso
    cases queued : traffic.pool.queue with
    | nil =>
      exact rests.not_lt (.leave worker) rfl
        (leave_lt present queued (silent rfl) (rests.lent sound))
    | cons job rest => exact rests.not_lt (.take worker) rfl (take_lt present queued)
  | busy job =>
    obtain ⟨number, spent⟩ := job
    cases spent with
    | true => exact (rests.not_lt (.countOff worker) rfl (countOff_lt present)).elim
    | false =>
      by_contra free
      exact rests.not_lt (.endTask worker .returned) rfl
        (endTask_lt present (by simpa using free) .returned)
  | left => cases stays

theorem exists_closing (rests : traffic.AtRest) (engaged : traffic.engaged worker = true) :
    ∃ call ∈ traffic.closings, call.caller = some worker ∧ call.stage.isOver = false := by
  simp only [Traffic.engaged, Bool.or_eq_true, List.any_eq_true, Bool.and_eq_true,
    decide_eq_true_eq, Bool.not_eq_true'] at engaged
  rcases engaged with ⟨call, member, _, underway⟩ | closing
  · rw [rests.submissions_over call member] at underway
    cases underway
  · exact closing

/-- The only shutdown that waits would have to wait for one that its own worker makes. -/
theorem closings_over (rests : traffic.AtRest) (sound : traffic.Sound) :
    ∀ call ∈ traffic.closings, call.stage.isOver = true := by
  intro call member
  by_contra underway
  have underway : call.stage.isOver = false := by simpa using underway
  obtain ⟨worker, rest, joins, foreign, stays⟩ := rests.waits member underway
  have heeded := sound.closed.heeded call member
  rw [joins] at heeded
  have bound := heeded.bound worker List.mem_cons_self
  have present := List.getElem?_eq_getElem bound
  have working : traffic.pool.workers[worker].hasLeft = false := by
    simpa [Pool.isGone, present] using stays
  obtain ⟨other, also, own, underway⟩ := rests.exists_closing
    (rests.engaged sound present working fun _ => heeded.silent rfl)
  obtain ⟨_, _, joining, _, _⟩ := rests.waits also underway
  have same : call = other := by
    refine eq_of_countP_le_one (p := fun call : PoolCall Closing => call.stage.drains) ?_ member
      also (by rw [joins]; rfl) (by rw [joining]; rfl)
    rw [sound.closed.drained]
    exact Bool.toNat_le _
  exact foreign (same ▸ own)

theorem no_engaged (rests : traffic.AtRest) (sound : traffic.Sound) (worker : Nat) :
    traffic.engaged worker = false := by
  by_contra engaged
  obtain ⟨call, member, _, underway⟩ := rests.exists_closing (by simpa using engaged)
  rw [rests.closings_over sound call member] at underway
  cases underway

theorem worker_cases (rests : traffic.AtRest) (sound : traffic.Sound) {state : Worker Job}
    (member : state ∈ traffic.pool.workers) : state.task? = none ∧ traffic.pool.queue = [] := by
  obtain ⟨worker, bound, rfl⟩ := List.mem_iff_getElem.mp member
  have present := List.getElem?_eq_getElem bound
  cases state : traffic.pool.workers[worker] with
  | idle =>
    refine ⟨rfl, ?_⟩
    rw [state] at present
    cases queued : traffic.pool.queue with
    | nil => rfl
    | cons job rest => exact (rests.not_lt (.take worker) rfl (take_lt present queued)).elim
  | busy job =>
    have engaged := rests.engaged sound present (by rw [state]; rfl)
      fun idle => by simp [state] at idle
    rw [rests.no_engaged sound worker] at engaged
    cases engaged
  | left => exact ⟨rfl, (sound.closed.gone worker (by simp [Pool.isGone, present, state]; rfl)).2.2⟩

theorem queue_empty (rests : traffic.AtRest) (sound : traffic.Sound) : traffic.pool.queue = [] := by
  obtain ⟨state, member⟩ := List.length_pos_iff_exists_mem.mp sound.closed.manned
  exact (rests.worker_cases sound member).2

theorem held_empty (rests : traffic.AtRest) (sound : traffic.Sound) : traffic.pool.held = [] :=
  List.filterMap_eq_nil_iff.mpr fun _ member => (rests.worker_cases sound member).1

end AtRest

end Traffic

end AsyncFiles
