import AsyncFiles.Proofs.Pool.Balance

namespace AsyncFiles.Traffic

open Error

variable {traffic : Traffic} {worker number : Nat}

theorem job?_eq_some {job : Job} :
    traffic.job? worker = some job ↔ traffic.pool.workers[worker]? = some (.busy job) := by
  simp only [job?, Option.bind_eq_some_iff]
  constructor
  · rintro ⟨state, present, holds⟩
    cases state with
    | busy task => cases holds; exact present
    | idle | left => cases holds
  · exact fun present => ⟨_, present, rfl⟩

structure Balanced (traffic : Traffic) : Prop where
  pending : traffic.pool.pending =
    traffic.pool.queue.length + traffic.pool.held.length + traffic.unsettled
  lent : traffic.pool.lent = traffic.submissions.countP fun call => call.stage.lends

structure Placed (traffic : Traffic) : Prop where
  order : traffic.accepted = traffic.taken ++ traffic.pool.queue.map Job.number
  ran : traffic.taken.Perm (traffic.ended.map Prod.fst ++ traffic.running)
  fresh : ∀ job ∈ traffic.pool.queue, job.spent = false
  accepted : ∀ number, traffic.accepted.count number =
    ((traffic.submissions[number]?).any fun call => call.stage.succeeds).toNat
  dropped : ∀ number, traffic.dropped.count number =
    ((traffic.submissions[number]?).any fun call => call.stage.drops).toNat
  room : ∀ capacity, traffic.pool.capacity = some capacity →
    traffic.pool.queue.length ≤ capacity

section Submissions

@[simp] theorem put_pool (number : Nat) (call : PoolCall Submission)
    (next : Pool Job × Submission) : (traffic.put number call next).pool = next.1 := rfl

@[simp] theorem put_submissions (number : Nat) (call : PoolCall Submission)
    (next : Pool Job × Submission) : (traffic.put number call next).submissions =
      traffic.submissions.set number { call with stage := next.2 } := rfl

@[simp] theorem note_pool (number : Nat) (before after : Submission) :
    (traffic.note number before after).pool = traffic.pool := by
  unfold note
  split <;> rfl

@[simp] theorem note_submissions (number : Nat) (before after : Submission) :
    (traffic.note number before after).submissions = traffic.submissions := by
  unfold note
  split <;> rfl

@[simp] theorem note_closings (number : Nat) (before after : Submission) :
    (traffic.note number before after).closings = traffic.closings := by
  unfold note
  split <;> rfl

@[simp] theorem note_ended (number : Nat) (before after : Submission) :
    (traffic.note number before after).ended = traffic.ended := by
  unfold note
  split <;> rfl

theorem count_note (traffic : Traffic) (pool : Pool Job) (stage : Submission)
    (number receiver other : Nat) :
    let after := (stage.next pool { number } receiver).2
    let noted := traffic.note number stage after
    noted.accepted.count other + (if number = other then stage.succeeds.toNat else 0) =
        traffic.accepted.count other + (if number = other then after.succeeds.toNat else 0) ∧
      noted.dropped.count other + (if number = other then stage.drops.toNat else 0) =
        traffic.dropped.count other + (if number = other then after.drops.toNat else 0) := by
  cases stage with
  | counted =>
    simp only [Submission.next]
    cases sent : pool.send { number } receiver <;>
      simp [note, Submission.succeeds, Submission.drops, List.count_singleton]
  | checked =>
    simp only [Submission.next]
    split <;> simp [note, Submission.succeeds, Submission.drops]
  | begun =>
    simp only [Submission.next]
    split <;> simp [note, Submission.succeeds, Submission.drops]
  | returned result => simp [Submission.next, note]
  | _ => simp [Submission.next, note, Submission.succeeds, Submission.drops, List.count_singleton]

variable {call : PoolCall Submission} {receiver : Nat}

theorem advance_eq (found : traffic.submissions[number]? = some call) :
    let next := call.stage.next traffic.pool { number } receiver
    traffic.advance number receiver =
      (traffic.put number call next).note number call.stage next.2 := by
  simp [advance, found]

theorem advance_none (missing : traffic.submissions[number]? = none) :
    traffic.advance number receiver = traffic := by
  simp [advance, missing]

theorem positive_of_found {p : PoolCall Submission → Bool}
    (found : traffic.submissions[number]? = some call) (own : p call = true) :
    0 < traffic.submissions.countP p :=
  List.countP_pos_iff.mpr ⟨call, List.mem_of_getElem? found, own⟩

theorem Balanced.advance (balanced : traffic.Balanced) (number receiver : Nat) :
    (traffic.advance number receiver).Balanced := by
  cases found : traffic.submissions[number]? with
  | none => rwa [advance_none found]
  | some call =>
    have lent : call.stage.lends = true → 0 < traffic.pool.lent := fun own => by
      rw [balanced.lent]
      exact positive_of_found (p := fun call => call.stage.lends) found own
    have pending : call.stage.counts = true → 0 < traffic.pool.pending := fun own => by
      rw [balanced.pending]
      have := positive_of_found (p := fun call => call.stage.counts) found own
      simp only [unsettled]
      omega
    have senders := Submission.next_lent ({ number } : Job) receiver lent
    have tasks := Submission.next_pending ({ number } : Job) receiver pending
    rw [advance_eq found]
    constructor
    · have counted := countP_set_balance (p := fun call : PoolCall Submission => call.stage.counts)
        found { call with stage := (call.stage.next traffic.pool { number } receiver).2 }
      have before := balanced.pending
      simp only [note_pool, put_pool, note_submissions, put_submissions, unsettled] at before ⊢
      simp only at counted tasks
      omega
    · have counted := countP_set_balance (p := fun call : PoolCall Submission => call.stage.lends)
        found { call with stage := (call.stage.next traffic.pool { number } receiver).2 }
      have before := balanced.lent
      simp only [note_pool, put_pool, note_submissions, put_submissions]
      simp only at counted senders
      omega

theorem note_of_undecided (traffic : Traffic) {stage after : Submission}
    (undecided : stage = .counted → ∃ error, after = .refused error) (number : Nat) :
    (traffic.note number stage after).accepted = traffic.accepted ∧
      (traffic.note number stage after).taken = traffic.taken := by
  cases stage with
  | counted =>
    obtain ⟨error, rfl⟩ := undecided rfl
    exact ⟨rfl, rfl⟩
  | _ => exact ⟨rfl, rfl⟩

theorem Placed.logs_advance (placed : traffic.Placed) (receiver other : Nat)
    (found : traffic.submissions[number]? = some call) :
    let later := traffic.advance number receiver
    later.accepted.count other =
        ((later.submissions[other]?).any fun call => call.stage.succeeds).toNat ∧
      later.dropped.count other =
        ((later.submissions[other]?).any fun call => call.stage.drops).toNat := by
  rw [advance_eq found]
  have before := placed.accepted other
  have gone := placed.dropped other
  let next := call.stage.next traffic.pool { number } receiver
  obtain ⟨accepted, dropped⟩ :=
    count_note (traffic.put number call next) traffic.pool call.stage number receiver other
  simp only [note_submissions]
  simp only [put, next, any_getElem_set found] at accepted dropped ⊢
  by_cases own : number = other
  · subst own
    simp only [found, Option.any_some, if_true] at before gone accepted dropped ⊢
    omega
  · simp only [own, if_false] at accepted dropped ⊢
    omega

theorem perm_begun {taken ended before after : List Nat} (ran : taken.Perm (ended ++ before))
    (grown : after.Perm (number :: before)) : (taken ++ [number]).Perm (ended ++ after) := by
  have later : after.Perm (before ++ [number]) := grown.trans (List.perm_append_singleton _ _).symm
  refine (ran.append_right _).trans ?_
  rw [List.append_assoc]
  exact later.symm.append_left _

theorem Placed.advance (placed : traffic.Placed) (number receiver : Nat) :
    (traffic.advance number receiver).Placed := by
  cases found : traffic.submissions[number]? with
  | none => rwa [advance_none found]
  | some call =>
    have logs := fun other => placed.logs_advance receiver other found
    have settings := Submission.next_settings traffic.pool { number } receiver call.stage
    rw [advance_eq found] at logs ⊢
    rcases Submission.next_cases traffic.pool { number } receiver call.stage with
      ⟨counted, later, sent, accepts⟩ | ⟨queue, workers, undecided⟩
    · simp only [accepts] at logs ⊢
      refine ⟨?_, ?_, ?_, fun other => (logs other).1, fun other => (logs other).2, ?_⟩ <;>
        simp only [counted, note, put] <;> clear logs
      · cases sent with
        | queued room roomy => simp [roomy, placed.order]
        | handed roomless =>
          have empty : traffic.pool.queue = [] := by simpa using placed.room 0 roomless
          simp [roomless, Pool.setWorker, placed.order, empty]
      · cases sent with
        | queued room roomy => simpa [roomy, running] using placed.ran
        | handed roomless waits =>
          have grown := filterMap_set_perm (f := Worker.running?) waits (.busy { number })
          simp only [roomless, if_true, running, Pool.setWorker]
          exact perm_begun placed.ran grown
      · cases sent with
        | queued => simpa [or_imp, forall_and] using placed.fresh
        | handed => exact placed.fresh
      · cases sent with
        | queued room =>
          intro capacity bounded
          rw [List.length_append]
          exact room capacity bounded
        | handed => exact placed.room
    · obtain ⟨accepted, taken⟩ := note_of_undecided
        (traffic.put number call (call.stage.next traffic.pool { number } receiver))
        undecided number
      refine ⟨?_, ?_, ?_, fun other => (logs other).1, fun other => (logs other).2, ?_⟩
      · rw [accepted, taken, note_pool]
        simp only [put, queue]
        exact placed.order
      · simp only [running, taken, note_ended, note_pool]
        simp only [put, workers]
        exact placed.ran
      · simp only [note_pool, put, queue]
        exact placed.fresh
      · simp only [note_pool, put, settings.1, queue]
        exact placed.room

end Submissions

section Calls

variable {call : PoolCall Closing} {closing : Nat}

theorem Balanced.submit (balanced : traffic.Balanced) (caller : Option Nat) :
    (traffic.step (.submit caller)).Balanced := by
  simp only [step]
  split
  · constructor
    · simpa [unsettled, Submission.counts] using balanced.pending
    · simpa [Submission.lends] using balanced.lent
  · exact balanced

theorem any_begun {p : Submission → Bool} (idle : p .begun = false) (caller : Option Nat)
    (number : Nat) :
    ((traffic.submissions ++ [{ caller, stage := .begun }])[number]?).any
        (fun call => p call.stage) =
      (traffic.submissions[number]?).any fun call => p call.stage := by
  rcases Nat.lt_trichotomy number traffic.submissions.length with earlier | rfl | later
  · rw [List.getElem?_append_left earlier]
  · simp [idle]
  · rw [List.getElem?_eq_none (by simp; omega), List.getElem?_eq_none (by omega)]

theorem Placed.submit (placed : traffic.Placed) (caller : Option Nat) :
    (traffic.step (.submit caller)).Placed := by
  simp only [step]
  split
  · refine ⟨placed.order, placed.ran, placed.fresh, fun number => ?_, fun number => ?_, placed.room⟩
    · rw [any_begun rfl]
      exact placed.accepted number
    · rw [any_begun rfl]
      exact placed.dropped number
  · exact placed

theorem Balanced.close (balanced : traffic.Balanced) (caller : Option Nat) :
    (traffic.step (.close caller)).Balanced := by
  simp only [step]
  split
  · exact ⟨balanced.pending, balanced.lent⟩
  · exact balanced

theorem Placed.close (placed : traffic.Placed) (caller : Option Nat) :
    (traffic.step (.close caller)).Placed := by
  simp only [step]
  split
  · exact ⟨placed.order, placed.ran, placed.fresh, placed.accepted, placed.dropped, placed.room⟩
  · exact placed

theorem wind_eq (found : traffic.closings[closing]? = some call) :
    let next := call.stage.next call.caller traffic.pool
    traffic.wind closing =
      { traffic with
        pool := next.1
        closings := traffic.closings.set closing { call with stage := next.2 } } := by
  simp [wind, found]

theorem wind_none (missing : traffic.closings[closing]? = none) :
    traffic.wind closing = traffic := by
  simp [wind, missing]

theorem Balanced.wind (balanced : traffic.Balanced) (closing : Nat) :
    (traffic.wind closing).Balanced := by
  cases found : traffic.closings[closing]? with
  | none => rwa [wind_none found]
  | some call =>
    obtain ⟨_, queue, workers, lent, pending⟩ :=
      Closing.next_rest traffic.pool call.caller call.stage
    rw [wind_eq found]
    constructor
    · simpa [queue, workers, pending, Pool.held, unsettled] using balanced.pending
    · simpa [lent] using balanced.lent

theorem Placed.wind (placed : traffic.Placed) (closing : Nat) : (traffic.wind closing).Placed := by
  cases found : traffic.closings[closing]? with
  | none => rwa [wind_none found]
  | some call =>
    obtain ⟨capacity, queue, workers, _, _⟩ :=
      Closing.next_rest traffic.pool call.caller call.stage
    rw [wind_eq found]
    refine ⟨?_, ?_, ?_, placed.accepted, placed.dropped, ?_⟩
    · simpa [queue] using placed.order
    · simpa [running, workers] using placed.ran
    · simpa [queue] using placed.fresh
    · simpa [capacity, queue] using placed.room

end Calls

section Workers

theorem take_cases (worker : Nat) :
    traffic.take worker = traffic ∨
      ∃ job rest, traffic.pool.workers[worker]? = some .idle ∧ traffic.pool.queue = job :: rest ∧
        traffic.take worker =
          { traffic with
            pool := { traffic.pool with queue := rest }.setWorker worker (.busy job)
            taken := traffic.taken ++ [job.number] } := by
  cases taken : traffic.pool.dequeue? worker with
  | none => exact .inl (by simp [take, taken])
  | some pool =>
    obtain ⟨job, rest, idle, queued, rfl⟩ := Pool.dequeue?_eq_some.mp taken
    exact .inr ⟨job, rest, idle, queued, by simp [take, taken, queued]⟩

theorem endTask_cases (worker : Nat) (ending : Ending) :
    traffic.endTask worker ending = traffic ∨
      ∃ number, traffic.pool.workers[worker]? = some (.busy { number }) ∧
        traffic.engaged worker = false ∧
        traffic.endTask worker ending =
          { traffic with
            pool := traffic.pool.setWorker worker (.busy { number, spent := true })
            ended := traffic.ended ++ [(number, ending)] } := by
  cases holds : traffic.job? worker with
  | none => exact .inl (by simp [endTask, holds])
  | some job =>
    obtain ⟨number, spent⟩ := job
    by_cases stays : (spent || traffic.engaged worker) = true
    · exact .inl (by simp [endTask, holds, stays])
    · have goes : spent = false ∧ traffic.engaged worker = false := by simpa using stays
      obtain ⟨rfl, free⟩ := goes
      exact .inr ⟨number, job?_eq_some.mp holds, free, by simp [endTask, holds, free]⟩

theorem countOff_cases (worker : Nat) :
    traffic.countOff worker = traffic ∨
      ∃ number, traffic.pool.workers[worker]? = some (.busy { number, spent := true }) ∧
        traffic.countOff worker = { traffic with pool := traffic.pool.finish worker } := by
  cases holds : traffic.job? worker with
  | none => exact .inl (by simp [countOff, holds])
  | some job =>
    obtain ⟨number, spent⟩ := job
    cases spent with
    | false => exact .inl (by simp [countOff, holds])
    | true => exact .inr ⟨number, job?_eq_some.mp holds, by simp [countOff, holds]⟩

theorem leave_cases (worker : Nat) :
    traffic.leave worker = traffic ∨
      traffic.pool.workers[worker]? = some .idle ∧ traffic.pool.queue = [] ∧
        traffic.pool.sending = false ∧ traffic.pool.lent = 0 ∧
        traffic.leave worker = { traffic with pool := traffic.pool.setWorker worker .left } := by
  cases goes : traffic.pool.leave? worker with
  | none => exact .inl (by simp [leave, goes])
  | some pool =>
    obtain ⟨idle, empty, silent, returned, rfl⟩ := Pool.leave?_eq_some.mp goes
    exact .inr ⟨idle, empty, silent, returned, by simp [leave, goes]⟩

theorem Balanced.take (balanced : traffic.Balanced) (worker : Nat) :
    (traffic.take worker).Balanced := by
  rcases traffic.take_cases worker with same | ⟨job, rest, idle, queued, taken⟩
  · rwa [same]
  · rw [taken]
    refine ⟨?_, balanced.lent⟩
    have moved := Pool.length_held_setWorker { traffic.pool with queue := rest } idle (.busy job)
    have before := balanced.pending
    simp only [queued, Worker.task?, Option.toList, List.length_cons, List.length_nil]
      at before moved
    simp only [unsettled, Pool.setWorker, Pool.held] at before moved ⊢
    omega

theorem Placed.take (placed : traffic.Placed) (worker : Nat) : (traffic.take worker).Placed := by
  rcases traffic.take_cases worker with same | ⟨⟨number, spent⟩, rest, idle, queued, taken⟩
  · rwa [same]
  · rw [taken]
    have fresh := placed.fresh
    rw [queued] at fresh
    have unfinished : spent = false := fresh _ List.mem_cons_self
    subst unfinished
    refine ⟨?_, ?_, fun job member => fresh job (List.mem_cons_of_mem _ member), placed.accepted,
      placed.dropped, fun capacity bounded => ?_⟩
    · simpa [Pool.setWorker, queued] using placed.order
    · have grown := filterMap_set_perm (f := Worker.running?) idle (.busy { number })
      exact perm_begun placed.ran grown
    · have fits := placed.room capacity bounded
      rw [queued, List.length_cons] at fits
      exact Nat.le_of_succ_le fits

theorem Balanced.endTask (balanced : traffic.Balanced) (worker : Nat) (ending : Ending) :
    (traffic.endTask worker ending).Balanced := by
  rcases traffic.endTask_cases worker ending with same | ⟨number, holds, _, ended⟩
  · rwa [same]
  · rw [ended]
    have kept := Pool.length_held_setWorker _ holds (.busy { number, spent := true })
    refine ⟨?_, balanced.lent⟩
    rw [show (traffic.pool.setWorker worker (.busy { number, spent := true })).held.length =
      traffic.pool.held.length from Nat.add_left_cancel kept]
    exact balanced.pending

theorem Placed.endTask (placed : traffic.Placed) (worker : Nat) (ending : Ending) :
    (traffic.endTask worker ending).Placed := by
  rcases traffic.endTask_cases worker ending with same | ⟨number, holds, _, ended⟩
  · rwa [same]
  · rw [ended]
    refine ⟨placed.order, ?_, placed.fresh, placed.accepted, placed.dropped, placed.room⟩
    have left : (number :: running { traffic with
        pool := traffic.pool.setWorker worker (.busy { number, spent := true }) }).Perm
          traffic.running :=
      filterMap_set_perm (f := Worker.running?) holds (.busy { number, spent := true })
    rw [List.map_append, List.append_assoc]
    exact placed.ran.trans (left.symm.append_left _)

theorem Balanced.countOff (balanced : traffic.Balanced) (worker : Nat) :
    (traffic.countOff worker).Balanced := by
  rcases traffic.countOff_cases worker with same | ⟨number, holds, counted⟩
  · rwa [same]
  · rw [counted]
    refine ⟨?_, balanced.lent⟩
    have fewer := Pool.length_held_setWorker _ holds .idle
    have before := balanced.pending
    simp only [Worker.task?, Option.toList, List.length_cons, List.length_nil] at fewer
    simp only [unsettled, Pool.finish, Pool.countOff, Pool.setWorker, Pool.held] at fewer before ⊢
    omega

theorem Placed.countOff (placed : traffic.Placed) (worker : Nat) :
    (traffic.countOff worker).Placed := by
  rcases traffic.countOff_cases worker with same | ⟨number, holds, counted⟩
  · rwa [same]
  · rw [counted]
    refine ⟨placed.order, ?_, placed.fresh, placed.accepted, placed.dropped, placed.room⟩
    exact placed.ran.trans
      ((filterMap_set_perm (f := Worker.running?) holds .idle).symm.append_left _)

theorem Balanced.leave (balanced : traffic.Balanced) (worker : Nat) :
    (traffic.leave worker).Balanced := by
  rcases traffic.leave_cases worker with same | ⟨idle, _, _, _, left⟩
  · rwa [same]
  · rw [left]
    have kept := Pool.length_held_setWorker _ idle .left
    refine ⟨?_, balanced.lent⟩
    rw [show (traffic.pool.setWorker worker .left).held.length = traffic.pool.held.length from
      Nat.add_left_cancel kept]
    exact balanced.pending

theorem Placed.leave (placed : traffic.Placed) (worker : Nat) : (traffic.leave worker).Placed := by
  rcases traffic.leave_cases worker with same | ⟨idle, _, _, _, left⟩
  · rwa [same]
  · rw [left]
    refine ⟨placed.order, ?_, placed.fresh, placed.accepted, placed.dropped, placed.room⟩
    exact placed.ran.trans
      ((filterMap_set_perm (f := Worker.running?) idle .left).symm.append_left _)

end Workers

end AsyncFiles.Traffic
