import AsyncFiles.Proofs.Pool.Settlement
import Mathlib.Data.List.Nodup

namespace AsyncFiles.Traffic

open Error

variable {traffic : Traffic}

def Sealed (traffic : Traffic) : Prop := traffic.pool.sending = false ∧ traffic.pool.lent = 0

theorem sealed_step (sound : traffic.Sound) (closed : traffic.Sealed) (act : Act) :
    (traffic.step act).Sealed ∧ (traffic.step act).accepted = traffic.accepted := by
  obtain ⟨silent, returned⟩ := closed
  have still : traffic.Sealed ∧ traffic.accepted = traffic.accepted := ⟨⟨silent, returned⟩, rfl⟩
  cases act <;> simp only [step]
  case submit | close => split <;> exact still
  case advance number receiver =>
    cases found : traffic.submissions[number]? with
    | none => rwa [advance_none found]
    | some call =>
      -- A submission that has a sender in hand would be counted among the lent ones.
      have without : call.stage.lends = false := by
        by_contra lends
        have positive := positive_of_found (p := fun call => call.stage.lends) found
          (by simpa using lends)
        rw [← sound.balanced.lent] at positive
        omega
      rw [advance_eq found]
      rcases Submission.next_cases traffic.pool { number } receiver call.stage with
        ⟨counted, _⟩ | ⟨_, _, undecided⟩
      · rw [counted] at without
        cases without
      · refine ⟨⟨?_, ?_⟩, (note_of_undecided _ undecided number).1⟩
        all_goals rw [note_pool, put_pool]
        · exact (Submission.next_settings _ _ _ call.stage).2.2.1.trans silent
        · exact Submission.next_unlent _ _ without silent returned
  case wind closing =>
    cases found : traffic.closings[closing]? with
    | none => rwa [wind_none found]
    | some call =>
      rw [wind_eq found]
      exact ⟨⟨Closing.next_sending _ call.caller call.stage silent,
        (Closing.next_rest _ call.caller call.stage).2.2.2.1.trans returned⟩, rfl⟩
  case take worker =>
    rcases traffic.take_cases worker with same | ⟨_, _, _, _, later⟩
    · rwa [same]
    · rwa [later]
  case endTask worker ending =>
    rcases traffic.endTask_cases worker ending with same | ⟨_, _, _, later⟩
    · rwa [same]
    · rwa [later]
  case countOff worker =>
    rcases traffic.countOff_cases worker with same | ⟨_, _, later⟩
    · rwa [same]
    · rwa [later]
  case leave worker =>
    rcases traffic.leave_cases worker with same | ⟨_, _, _, _, later⟩
    · rwa [same]
    · rwa [later]

theorem accepted_of_sealed (sound : traffic.Sound) (closed : traffic.Sealed) (acts : List Act) :
    (traffic.run acts).accepted = traffic.accepted := by
  induction acts generalizing traffic with
  | nil => rfl
  | cons act rest ih =>
    obtain ⟨still, same⟩ := sealed_step sound closed act
    exact (ih (sound.step act) still).trans same

/-- Everything accepted has been run to its end and counted off. -/
structure Done (traffic : Traffic) : Prop where
  ended : traffic.accepted.Perm (traffic.ended.map Prod.fst)
  queue : traffic.pool.queue = []
  held : traffic.pool.held = []
  pending : traffic.pool.pending = 0

structure Conserved (traffic : Traffic) : Prop where
  /-- Workers take the tasks in the order in which they were accepted. -/
  order : traffic.accepted = traffic.taken ++ traffic.pool.queue.map Job.number
  /-- What was taken has ended, once, or is being run. -/
  ran : traffic.taken.Perm (traffic.ended.map Prod.fst ++ traffic.running)
  acceptedOnce : traffic.accepted.Nodup
  accepted : ∀ number, number ∈ traffic.accepted ↔
    ∃ call, traffic.submissions[number]? = some call ∧ call.stage.succeeds = true
  droppedOnce : traffic.dropped.Nodup
  dropped : ∀ number, number ∈ traffic.dropped ↔
    ∃ call, traffic.submissions[number]? = some call ∧ call.stage.drops = true
  apart : ∀ number ∈ traffic.dropped, number ∉ traffic.accepted
  pending : traffic.pool.pending =
    traffic.pool.queue.length + traffic.pool.held.length + traffic.unsettled
  /-- Nobody counts off what is not counted. -/
  covered : (∀ call ∈ traffic.submissions, call.stage.counts = true → 0 < traffic.pool.pending) ∧
    ∀ job ∈ traffic.pool.held, 0 < traffic.pool.pending
  room : ∀ capacity, traffic.pool.capacity = some capacity → traffic.pool.queue.length ≤ capacity
  /-- At most one shutdown waits for the workers, and when it returns all but its own have left. -/
  drained : (traffic.closings.countP fun call => call.stage.drains) ≤ 1
  left : ∀ call ∈ traffic.closings, call.stage = .returned true →
    ∀ worker < traffic.pool.workers.length,
      call.caller = some worker ∨ traffic.pool.isGone worker = true
  /-- When it returns to a thread outside all is done, and nothing is accepted any more. -/
  closed : ∀ call ∈ traffic.closings, call.stage = .returned true → call.caller = none →
    traffic.Done ∧ traffic.pool.allLeft = true ∧
      ∀ acts, (traffic.run acts).accepted = traffic.accepted
  /-- Without new calls the pool comes to rest, -/
  settles : ∃ bound, ∀ acts, (∀ act ∈ acts, act.continues = true) → traffic.Effective acts →
    acts.length ≤ bound
  /-- and at rest all is done and every call has returned. -/
  done : traffic.AtRest → traffic.Done ∧
    (∀ call ∈ traffic.submissions, call.stage.isOver = true) ∧
    ∀ call ∈ traffic.closings, call.stage.isOver = true

theorem lends_of_counts {stage : Submission} (counts : stage.counts = true) :
    stage.lends = true := by
  cases stage with
  | counted | refused => rfl
  | _ => cases counts

theorem nodup_of_count {log : List Nat} {flag : Nat → Bool}
    (counted : ∀ number, log.count number = (flag number).toNat) : log.Nodup :=
  List.nodup_iff_count_le_one.mpr fun number => counted number ▸ Bool.toNat_le _

theorem mem_iff_of_count {log : List Nat} {p : Submission → Bool}
    (counted : ∀ number, log.count number =
      ((traffic.submissions[number]?).any fun call => p call.stage).toNat) (number : Nat) :
    number ∈ log ↔ ∃ call, traffic.submissions[number]? = some call ∧ p call.stage = true := by
  rw [← List.count_pos_iff, counted]
  cases traffic.submissions[number]? with
  | none => simp
  | some call => cases holds : p call.stage <;> simp [holds]

namespace Sound

theorem done_of_empty (sound : traffic.Sound) (queue : traffic.pool.queue = [])
    (held : traffic.pool.held = []) (settled : traffic.unsettled = 0) : traffic.Done where
  ended := by
    have running : traffic.running = [] := by
      refine List.filterMap_eq_nil_iff.mpr fun worker member => ?_
      have nothing := List.filterMap_eq_nil_iff.mp held worker member
      cases worker with
      | busy job => cases nothing
      | idle | left => rfl
    have ran := sound.placed.ran
    rw [running, List.append_nil] at ran
    rw [sound.placed.order, queue, List.map_nil, List.append_nil]
    exact ran
  queue := queue
  held := held
  pending := by
    rw [sound.balanced.pending, queue, held, settled]
    rfl

theorem sealed_of_left (sound : traffic.Sound) (left : traffic.pool.allLeft = true) :
    traffic.Done ∧ traffic.Sealed := by
  obtain ⟨silent, returned, queue⟩ :=
    sound.closed.gone 0 (Pool.allLeft_iff.mp left 0 sound.closed.manned)
  refine ⟨sound.done_of_empty queue ?_ ?_, silent, returned⟩
  · refine List.filterMap_eq_nil_iff.mpr fun worker member => ?_
    have gone := List.all_eq_true.mp left worker member
    cases worker with
    | left => rfl
    | _ => cases gone
  · have without := sound.balanced.lent.symm.trans returned
    rw [List.countP_eq_zero] at without
    exact List.countP_eq_zero.mpr fun call member counts =>
      without call member (lends_of_counts counts)

theorem conserved (sound : traffic.Sound) : traffic.Conserved where
  order := sound.placed.order
  ran := sound.placed.ran
  acceptedOnce := nodup_of_count sound.placed.accepted
  accepted := mem_iff_of_count sound.placed.accepted
  droppedOnce := nodup_of_count sound.placed.dropped
  dropped := mem_iff_of_count sound.placed.dropped
  apart number gone kept := by
    obtain ⟨call, found, drops⟩ := (mem_iff_of_count sound.placed.dropped number).mp gone
    obtain ⟨other, also, succeeds⟩ := (mem_iff_of_count sound.placed.accepted number).mp kept
    rw [found, Option.some.injEq] at also
    subst also
    obtain ⟨caller, stage⟩ := call
    match stage, drops, succeeds with
    | .returned (.ok _), drops, _ => cases drops
    | .returned (.error _), _, succeeds => cases succeeds
    | .dropped _, _, succeeds => cases succeeds
  pending := sound.balanced.pending
  covered := by
    rw [sound.balanced.pending]
    refine ⟨fun call member counts => ?_, fun job member => ?_⟩
    · have positive : 0 < traffic.unsettled := List.countP_pos_iff.mpr ⟨call, member, counts⟩
      omega
    · have positive := List.length_pos_of_mem member
      omega
  room := sound.placed.room
  drained := sound.closed.drained ▸ Bool.toNat_le _
  left call member returned := by
    have left := (sound.closed.heeded call member).left
    rw [returned] at left
    exact fun worker bound => left rfl worker bound (List.not_mem_nil)
  closed call member returned outside := by
    have left := (sound.closed.heeded call member).left
    rw [returned, outside] at left
    have all : traffic.pool.allLeft = true := Pool.allLeft_iff.mpr fun worker bound =>
      (left rfl worker bound List.not_mem_nil).resolve_left (Option.some_ne_none worker).symm
    obtain ⟨done, closed⟩ := sound.sealed_of_left all
    exact ⟨done, all, accepted_of_sealed sound closed⟩
  settles := ⟨traffic.measure, fun _ => length_le_measure⟩
  done rests := by
    refine ⟨sound.done_of_empty (rests.queue_empty sound) (rests.held_empty sound) ?_,
      rests.submissions_over, rests.closings_over sound⟩
    refine List.countP_eq_zero.mpr fun call member => ?_
    rw [(rests.not_counting member).2]
    exact Bool.false_ne_true

end Sound

/-- Every accepted task is run exactly once, in the order of acceptance, and every refused task is
dropped exactly once, in every run of a pool: with any number of workers and room for any number of
tasks, and whatever steps of submissions, shutdowns, tasks and workers come between each other. -/
theorem tasks_conserved (capacity : Option Nat) (threads : Nat) (acts : List Act) :
    ((Traffic.fresh capacity (threads + 1)).run acts).Conserved :=
  ((sound_fresh capacity threads).run acts).conserved

end AsyncFiles.Traffic
