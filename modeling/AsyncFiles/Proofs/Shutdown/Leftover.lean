import AsyncFiles.Proofs.Completion.Waiting
import AsyncFiles.Proofs.Shutdown.Carried
import AsyncFiles.Proofs.Shutdown.Staffed

namespace AsyncFiles

open Access Error Host

namespace Course

theorem isCancelled_iff_ended (course : Course)
    (allowed : course.atIssue.allows course.issuing = true) {home : ServiceId}
    {operation : Operation Ticket} (started : course.atStart.Started home operation)
    (own : operation.handler = some course.atIssue.initiated.length)
    (few : course.issued.changes course.imp.state course.after < 2 ^ 63) :
    course.atStart.system.isCancelled operation = true ↔ course.Ended := by
  obtain ⟨_, context, rfl⟩ := operation_of_started allowed started own
  have grounded : course.atIssue.Grounded := Program.Grounded.run course.host course.before
  have member : course.imp ∈ course.atIssue.live := by
    simp only [issuing, Program.allows, Bool.and_eq_true, List.contains_iff_mem] at allowed
    exact allowed.2
  have bound : course.imp.state < course.issued.system.states.length := by
    rw [states_issued]
    exact grounded course.imp member
  have source : course.issued.system.state course.imp.state =
      course.atIssue.system.state course.imp.state := by
    simp only [System.state, states_issued]
  have cancelled := Program.isCancelled_iff bound few
  rw [source] at cancelled
  exact cancelled

end Course

/-- A run in which an operation is issued, then its service is shut down, and what comes after. -/
structure Leftover extends Course where
  ending : Act
  later : List Act := []

namespace Leftover

def atEnding (left : Leftover) : Program := left.atStart

def ended (left : Leftover) : Program := left.atEnding.step left.ending

def atLast (left : Leftover) : Program := left.ended.run left.later

def upTo (left : Leftover) (acts : List Act) : Course :=
  { left.toCourse with after := left.after ++ left.ending :: acts }

/-- Nothing has ended the operation when the shutdown comes, but its file is that of an
implementation of another service. -/
def MovedAway (left : Leftover) : Prop :=
  ¬ left.toCourse.Ended ∧
    ∃ bearer ∈ left.atEnding.all, bearer.state = left.imp.state ∧ bearer.owner ≠ left.service

variable {left : Leftover} {operation : Operation Ticket}

theorem atStart_upTo (left : Leftover) (acts : List Act) :
    (left.upTo acts).atStart = left.ended.run acts := by
  change left.issued.run (left.after ++ left.ending :: acts) = _
  rw [Program.run_append, Program.run_cons]
  rfl

theorem ended_upTo (left : Leftover) (acts : List Act) :
    (left.upTo acts).Ended ↔ left.toCourse.Ended ∨
      left.imp.state ∈ left.atEnding.ended left.ending ∨
        left.ended.EndsIn left.imp.state acts := by
  change _ ∨ left.issued.EndsIn left.imp.state (left.after ++ left.ending :: acts) ↔ _
  rw [Program.endsIn_append, Program.endsIn_cons, ← or_assoc]
  rfl

theorem bears_atEnding (allowed : left.atIssue.allows left.issuing = true)
    (spared : ¬ left.toCourse.Ended) : left.atEnding.Bears left.imp.state := by
  have issued : left.atIssue.Bears left.imp.state := by
    refine ⟨left.imp, Program.mem_all_of_live ?_, rfl⟩
    simp only [Course.issuing, Program.allows, Bool.and_eq_true, List.contains_iff_mem] at allowed
    exact allowed.2
  have begun : left.issued.Bears left.imp.state := by
    refine (Program.bears_step issued left.issuing).resolve_right ?_
    rw [Program.ended, if_pos allowed]
    exact List.not_mem_nil
  exact Program.bears_run begun fun ends => spared (.inr ends)

theorem ended_upTo_iff (allowed : left.atIssue.allows left.issuing = true)
    (registered : left.atEnding.Registered)
    (first : left.atEnding.ShutsDown left.service left.ending) (acts : List Act) :
    (left.upTo acts).Ended ↔
      ¬ left.MovedAway ∨ left.ended.EndsIn left.imp.state acts := by
  rw [ended_upTo]
  by_cases ended : left.toCourse.Ended
  · have stays : ¬ left.MovedAway := fun moved => moved.1 ended
    simp [ended, stays]
  · obtain ⟨bearer, member, own⟩ := bears_atEnding allowed ended
    have mine := registered.ended_iff first member
    rw [own] at mine
    have stays : ¬ left.MovedAway ↔ bearer.owner = left.service := by
      constructor
      · intro stays
        by_contra apart
        exact stays ⟨ended, bearer, member, own, apart⟩
      · rintro home ⟨_, other, known, same, apart⟩
        rw [List.inj_on_of_nodup_map registered.books.nodup known member (same.trans own.symm)]
          at apart
        exact apart home
    rw [mine, stays]
    simp [ended]

theorem started_atLast (awaits : left.atEnding.system.Awaits left.service operation)
    (acts : List Act) : (left.upTo acts).atStart.Started left.service operation := by
  have started := left.toCourse.accounted_atStart.started_of_awaits awaits
  have grown := left.atEnding.initiated_run (left.ending :: acts)
  rw [atStart_upTo]
  exact started.mono fun _ member => grown.subset member

theorem isCancelled_iff (allowed : left.atIssue.allows left.issuing = true)
    (registered : left.atEnding.Registered)
    (first : left.atEnding.ShutsDown left.service left.ending)
    (own : operation.handler = some left.atIssue.initiated.length)
    (awaits : left.atEnding.system.Awaits left.service operation) {acts : List Act}
    (few : left.issued.changes left.imp.state (left.after ++ left.ending :: acts) < 2 ^ 63) :
    (left.ended.run acts).system.isCancelled operation = true ↔
      ¬ left.MovedAway ∨ left.ended.EndsIn left.imp.state acts := by
  have dead := (left.upTo acts).isCancelled_iff_ended allowed (started_atLast awaits acts) own few
  rw [atStart_upTo] at dead
  exact dead.trans (ended_upTo_iff allowed registered first acts)

theorem few_of_append {first rest : List Act}
    (few : left.issued.changes left.imp.state (left.after ++ left.ending :: (first ++ rest)) <
      2 ^ 63) :
    left.issued.changes left.imp.state (left.after ++ left.ending :: first) < 2 ^ 63 := by
  rw [← List.cons_append, ← List.append_assoc, Program.changes_append] at few
  omega

theorem registered_atEnding (left : Leftover)
    (orderly : (Program.fresh left.host).Throughout
      (fun program act => program.ByFile act ∨ program.AtHome act)
      (left.before ++ left.issuing :: left.after)) : left.atEnding.Registered := by
  rw [atEnding, left.atStart_eq]
  exact ((Program.registered_fresh left.host).run orderly).2

theorem awaits_or_replied (allowed : left.atIssue.allows left.issuing = true)
    (registered : left.atEnding.Registered)
    (first : left.atEnding.ShutsDown left.service left.ending)
    (own : operation.handler = some left.atIssue.initiated.length)
    (awaits : left.atEnding.system.Awaits left.service operation)
    (few : left.issued.changes left.imp.state (left.after ++ left.ending :: left.later) < 2 ^ 63)
    (stays : ¬ left.MovedAway) :
    left.atLast.system.Awaits left.service operation ∨
      left.atLast.Replied operation operation.aborted := by
  have dead (acts rest : List Act) (same : left.later = acts ++ rest) :
      (left.ended.run acts).system.isCancelled operation = true := by
    rw [same] at few
    exact (isCancelled_iff allowed registered first own awaits (few_of_append few)).mpr
      (.inl stays)
  have aside : left.ended.system.Awaits left.service operation := by
    obtain ⟨allowed, retires⟩ := first.retires
    rw [ended, Program.step, if_pos allowed]
    exact awaits.of_desks (left.atEnding.still_perform retires.aside).calm.desks
  have accounted : left.ended.Accounted := left.toCourse.accounted_atStart.step left.ending
  exact accounted.awaits_run aside dead

theorem not_awaits_of_allLeft {found : Service Ticket}
    (present : left.atLast.system.service? left.service = some found)
    (gone : found.pool.allLeft = true) :
    ¬ left.atLast.system.Awaits left.service operation := by
  rintro ⟨desk, located, waits⟩
  rw [System.desks_getElem, present] at located
  cases located
  have staffed : left.atLast.system.Staffed := by
    rw [atLast, ← atStart_upTo, Course.atStart_eq]
    exact Program.staffed_run left.host _
  obtain ⟨empty, unbusy⟩ := (staffed.of_service present).nothing_left gone
  rcases waits with queued | busy
  · change _ ∈ found.pool.queue at queued
    rw [empty] at queued
    cases queued
  · cases unbusy _ busy

/-- An operation that no worker has started when its service is shut down for the first time, or
loses its last reference, waits until it is answered as aborted, without a call of the host; when
the workers have left it has been answered. This is so whatever became of its file, unless that was
moved to an implementation of another service and not ended before. Then the shutdown does not
concern it: it makes its transfer, unless something ends it before a worker starts it. -/
theorem aborts_iff_not_movedAway (left : Leftover)
    (allowed : left.atIssue.allows left.issuing = true)
    (orderly : (Program.fresh left.host).Throughout
      (fun program act => program.ByFile act ∨ program.AtHome act)
      (left.before ++ left.issuing :: left.after))
    (first : left.atEnding.ShutsDown left.service left.ending)
    (own : operation.handler = some left.atIssue.initiated.length)
    (awaits : left.atEnding.system.Awaits left.service operation)
    (few : left.issued.changes left.imp.state (left.after ++ left.ending :: left.later) < 2 ^ 63) :
    (¬ left.MovedAway →
      (left.atLast.system.Awaits left.service operation ∨
        left.atLast.Replied operation operation.aborted) ∧
      (∀ worker, left.atLast.system.heldTask? left.service worker = some (.issued operation) →
        left.atLast.AbortsUnstarted left.service worker operation) ∧
      ∀ found, left.atLast.system.service? left.service = some found →
        found.pool.allLeft = true → left.atLast.Replied operation operation.aborted) ∧
    (left.MovedAway → ∀ worker,
      left.atLast.system.heldTask? left.service worker = some (.issued operation) →
        (left.atLast.AbortsUnstarted left.service worker operation ↔
          left.ended.EndsIn left.imp.state left.later) ∧
        (¬ left.ended.EndsIn left.imp.state left.later →
          left.atLast.Transfers left.service worker operation)) := by
  have registered := left.registered_atEnding orderly
  have dead := isCancelled_iff allowed registered first own awaits few
  constructor
  · intro stays
    have waiting := awaits_or_replied allowed registered first own awaits few stays
    refine ⟨waiting, fun worker held => Program.start_of_dead held (dead.mpr (.inl stays)), ?_⟩
    intro found present gone
    exact waiting.resolve_left (not_awaits_of_allLeft present gone)
  · intro moved worker held
    have transfers (spared : ¬ left.ended.EndsIn left.imp.state left.later) :
        left.atLast.Transfers left.service worker operation := by
      refine Program.start_of_live held (Bool.eq_false_iff.mpr fun cancelled => ?_)
      exact (dead.mp cancelled).elim (fun stays => stays moved) spared
    -- An operation that starts its transfer is not answered as aborted.
    refine ⟨⟨fun aborts => ?_, fun ends => ?_⟩, transfers⟩
    · by_contra spared
      have lasting : left.atLast.Accounted := by
        rw [atLast, ← atStart_upTo]
        exact (left.upTo left.later).accounted_atStart
      have bound := lasting.contexts _ (lasting.started_of_held held)
      exact Program.not_aborts_of_transfers bound (transfers spared) aborts
    · exact Program.start_of_dead held (dead.mpr (.inr ends))

end Leftover

/-- A file is assigned and a read is issued; then the file moves, and its first service is shut down
before its worker takes the read. -/
def movedTo (service : ServiceId) : Leftover where
  host := .fresh default
  before :=
    [.context .create, .service (.start 0 {}), .service (.start 0 {}),
      .implementation (.construct 0),
      .implementation (.call 0 ⟨⟨1, 1⟩, 0, 0⟩ (.assign ⟨0⟩))]
  service := 0
  imp := ⟨⟨1, 1⟩, 0, 0⟩
  request := { direction := .read }
  buffers := [[0]]
  after := [.implementation (.moveConstruct service 0 ⟨⟨1, 1⟩, 0, 0⟩)]
  ending := .service (.shutdown 0)
  later := [.work 0 0]

def movedRead (service : ServiceId) : Operation Ticket :=
  (movedTo service).atIssue.operation 0 (movedTo service).imp { direction := .read } [[0]]

theorem atIssue_movedTo (service : ServiceId) : (movedTo service).atIssue =
    ({ served (.fresh default) with system := { (served (.fresh default)).system with
        services := (served (.fresh default)).system.services ++
          [{ context := 0, config := {}, pool := .fresh none 1 }] } } : Program).run
      [.implementation (.construct 0), .implementation (.call 0 ⟨⟨1, 1⟩, 0, 0⟩ (.assign ⟨0⟩))] := by
  rw [← step_second, ← Program.run_cons, ← run_served, ← Program.run_append]
  rfl

theorem orderly_movedTo (service : ServiceId) :
    (Program.fresh (movedTo service).host).Throughout
      (fun program act => program.ByFile act ∨ program.AtHome act)
      ((movedTo service).before ++ (movedTo service).issuing :: (movedTo service).after) := by
  apply Program.throughout_of_forall
  intro act member program
  simp only [movedTo, Course.issuing, List.cons_append, List.nil_append, List.mem_cons,
    List.not_mem_nil, or_false] at member
  rcases member with rfl | rfl | rfl | rfl | rfl | rfl | rfl
  all_goals simp [Program.ByFile, Program.AtHome, Program.passes]

theorem allowed_movedTo (service : ServiceId) :
    (movedTo service).atIssue.allows (movedTo service).issuing = true := by
  rw [atIssue_movedTo]
  rfl

theorem shutsDown_movedTo {service : ServiceId} (other : service = 0 ∨ service = 1) :
    (movedTo service).atEnding.ShutsDown 0 (movedTo service).ending := by
  simp only [Leftover.atEnding, Course.atStart, Course.issued]
  rw [atIssue_movedTo]
  rcases other with rfl | rfl <;> exact ⟨rfl, rfl⟩

theorem awaits_movedTo {service : ServiceId} (other : service = 0 ∨ service = 1) :
    (movedTo service).atEnding.system.Awaits 0 (movedRead service) := by
  simp only [movedRead, Leftover.atEnding, Course.atStart, Course.issued]
  rw [atIssue_movedTo]
  rcases other with rfl | rfl <;> exact ⟨_, rfl, .inl List.mem_cons_self⟩

theorem held_movedTo {service : ServiceId} (other : service = 0 ∨ service = 1) :
    (movedTo service).atLast.system.heldTask? 0 0 = some (.issued (movedRead service)) := by
  simp only [movedRead, Leftover.atLast, Leftover.ended, Leftover.atEnding, Course.atStart,
    Course.issued]
  rw [atIssue_movedTo]
  rcases other with rfl | rfl <;> rfl

/-- The read of a file that has moved to the other service is not aborted. -/
theorem transfers_movedTo :
    (movedTo 1).atEnding.ShutsDown 0 (movedTo 1).ending ∧
      (movedTo 1).atEnding.system.Awaits 0 (movedRead 1) ∧
      (movedTo 1).atLast.system.heldTask? 0 0 = some (.issued (movedRead 1)) ∧
      (movedTo 1).atLast.Transfers 0 0 (movedRead 1) ∧
      ¬ (movedTo 1).atLast.AbortsUnstarted 0 0 (movedRead 1) := by
  have held := held_movedTo (.inr rfl)
  have transfers : (movedTo 1).atLast.Transfers 0 0 (movedRead 1) := by
    apply Program.start_of_live held
    simp only [movedRead, Leftover.atLast, Leftover.ended, Leftover.atEnding, Course.atStart,
      Course.issued]
    rw [atIssue_movedTo]
    rfl
  have bound : (movedRead 1).context < (movedTo 1).atLast.system.queues.length := by
    simp only [movedRead, Leftover.atLast, Leftover.ended, Leftover.atEnding, Course.atStart,
      Course.issued]
    rw [atIssue_movedTo]
    decide
  exact ⟨shutsDown_movedTo (.inr rfl), awaits_movedTo (.inr rfl), held, transfers,
    Program.not_aborts_of_transfers bound transfers⟩

/-- That of a file that has moved within the service is. -/
theorem aborts_movedTo :
    (movedTo 0).atEnding.ShutsDown 0 (movedTo 0).ending ∧
      (movedTo 0).atLast.AbortsUnstarted 0 0 (movedRead 0) := by
  have first := shutsDown_movedTo (.inl rfl)
  have few : (movedTo 0).issued.changes (movedTo 0).imp.state
      ((movedTo 0).after ++ (movedTo 0).ending :: (movedTo 0).later) < 2 ^ 63 := by
    simp only [Course.issued]
    rw [atIssue_movedTo]
    decide
  have stays : ¬ (movedTo 0).MovedAway := by
    rintro ⟨_, bearer, member, _, apart⟩
    have all : (movedTo 0).atEnding.all = [⟨⟨2, 1⟩, 0, 0⟩, ⟨⟨1, 1⟩, 0, 1⟩] := by
      simp only [Leftover.atEnding, Course.atStart, Course.issued]
      rw [atIssue_movedTo]
      rfl
    rw [all] at member
    rcases List.mem_cons.mp member with rfl | member
    · exact apart rfl
    · cases List.mem_singleton.mp member
      exact apart rfl
  have fate := (movedTo 0).aborts_iff_not_movedAway (allowed_movedTo 0) (orderly_movedTo 0) first
    rfl (awaits_movedTo (.inl rfl)) few
  exact ⟨first, (fate.1 stays).2.1 0 (held_movedTo (.inl rfl))⟩

end AsyncFiles
