import AsyncFiles.Proofs.Pool.Traffic
import Mathlib.Data.List.Perm.Basic
import Mathlib.Tactic.Common

namespace AsyncFiles

open Error

section Lists

variable {α β : Type} {list : List α} {index : Nat} {before : α}

theorem countP_set_balance {p : α → Bool} (present : list[index]? = some before) (after : α) :
    (list.set index after).countP p + (p before).toNat = list.countP p + (p after).toNat := by
  induction list generalizing index with
  | nil => simp at present
  | cons head rest ih =>
    cases index with
    | zero =>
      cases present
      simp only [List.set_cons_zero, List.countP_cons]
      cases p before <;> cases p after <;> simp
    | succ index =>
      have balance := ih present
      simp only [List.set_cons_succ, List.countP_cons]
      omega

theorem flatMap_set_perm {f : α → List β} (present : list[index]? = some before) (after : α) :
    (f before ++ (list.set index after).flatMap f).Perm (f after ++ list.flatMap f) := by
  induction list generalizing index with
  | nil => simp at present
  | cons head rest ih =>
    cases index with
    | zero =>
      cases present
      simp only [List.set_cons_zero, List.flatMap_cons]
      exact List.perm_append_comm_assoc _ _ _
    | succ index =>
      simp only [List.set_cons_succ, List.flatMap_cons]
      refine (List.perm_append_comm_assoc _ _ _).trans ?_
      exact ((ih present).append_left _).trans (List.perm_append_comm_assoc _ _ _)

theorem filterMap_set_perm {f : α → Option β} (present : list[index]? = some before) (after : α) :
    ((f before).toList ++ (list.set index after).filterMap f).Perm
      ((f after).toList ++ list.filterMap f) := by
  simp only [List.filterMap_eq_flatMap_toList]
  exact flatMap_set_perm (f := fun entry => (f entry).toList) present after

theorem any_getElem_set {p : α → Bool} (present : list[index]? = some before) (after : α)
    (other : Nat) :
    ((list.set index after)[other]?).any p = if index = other then p after else
      (list[other]?).any p := by
  have bound := (List.getElem?_eq_some_iff.mp present).1
  by_cases same : index = other
  · subst same
    simp [bound]
  · simp [same]

theorem set_same (present : list[index]? = some before) : list.set index before = list := by
  obtain ⟨bound, rfl⟩ := List.getElem?_eq_some_iff.mp present
  exact List.set_getElem_self bound

end Lists

namespace Pool

variable {Task : Type} {pool later : Pool Task} {worker : Nat} {state : Worker Task}

theorem held_setWorker (present : pool.workers[worker]? = some state) (after : Worker Task) :
    (state.task?.toList ++ (pool.setWorker worker after).held).Perm
      (after.task?.toList ++ pool.held) :=
  filterMap_set_perm present after

theorem length_held_setWorker (pool : Pool Task) (present : pool.workers[worker]? = some state)
    (after : Worker Task) :
    state.task?.toList.length + (pool.setWorker worker after).held.length =
      after.task?.toList.length + pool.held.length := by
  simpa using (held_setWorker present after).length_eq

theorem dequeue?_eq_some :
    pool.dequeue? worker = some later ↔ ∃ task rest, pool.workers[worker]? = some .idle ∧
      pool.queue = task :: rest ∧
      later = { pool with queue := rest }.setWorker worker (.busy task) := by
  simp only [dequeue?]
  constructor
  · intro taken
    split at taken
    next task rest idle queued =>
      cases taken
      exact ⟨task, rest, idle, queued, rfl⟩
    next => cases taken
  · rintro ⟨task, rest, idle, queued, rfl⟩
    simp [idle, queued]

theorem leave?_eq_some :
    pool.leave? worker = some later ↔ pool.workers[worker]? = some .idle ∧ pool.queue = [] ∧
      pool.sending = false ∧ pool.lent = 0 ∧ later = pool.setWorker worker .left := by
  simp only [leave?]
  constructor
  · intro gone
    split at gone
    next idle empty =>
      split at gone
      next silent =>
        cases gone
        simp only [Bool.and_eq_true, Bool.not_eq_true', decide_eq_true_eq] at silent
        exact ⟨idle, empty, silent.1, silent.2, rfl⟩
      next => cases gone
    next => cases gone
  · rintro ⟨idle, empty, silent, returned, rfl⟩
    simp [idle, empty, silent, returned]

end Pool

namespace Submission

variable {Task : Type} {pool : Pool Task} {task : Task} {receiver : Nat}

theorem next_settings (pool : Pool Task) (task : Task) (receiver : Nat) (stage : Submission) :
    let later := (stage.next pool task receiver).1
    later.capacity = pool.capacity ∧ later.running = pool.running ∧
      later.sending = pool.sending ∧ later.joined = pool.joined := by
  cases stage with
  | counted =>
    simp only [next]
    cases sent : pool.send task receiver with
    | error error => simp
    | ok later => cases Pool.sent_of_send sent <;> simp [Pool.setWorker]
  | checked => simp only [next]; split <;> simp [Pool.lend]
  | _ => simp [next, Pool.countIn, Pool.countOff, Pool.giveBack]

theorem next_cases (pool : Pool Task) (task : Task) (receiver : Nat) (stage : Submission) :
    (stage = .counted ∧ ∃ later, pool.Sent task receiver later ∧
        stage.next pool task receiver = (later, .accepted)) ∨
      (stage.next pool task receiver).1.queue = pool.queue ∧
        (stage.next pool task receiver).1.workers = pool.workers ∧
        (stage = .counted → ∃ error, (stage.next pool task receiver).2 = .refused error) := by
  cases stage with
  | counted =>
    simp only [next]
    cases sent : pool.send task receiver with
    | error error => exact .inr ⟨rfl, rfl, fun _ => ⟨error, rfl⟩⟩
    | ok later => exact .inl ⟨trivial, later, Pool.sent_of_send sent, rfl⟩
  | checked => simp only [next]; split <;> simp [Pool.lend]
  | _ => simp [next, Pool.countIn, Pool.countOff, Pool.giveBack]

theorem next_undecided {stage : Submission} (drops : stage.drop? = none)
    (undecided : stage = .counted → ∃ error, (stage.next pool task receiver).2 = .refused error) :
    (stage.next pool task receiver).2.succeeds = stage.succeeds ∧
      (stage.next pool task receiver).2.drops = stage.drops := by
  cases stage with
  | counted =>
    obtain ⟨error, same⟩ := undecided rfl
    rw [same]
    exact ⟨rfl, rfl⟩
  | begun | checked => simp only [next]; split <;> exact ⟨rfl, rfl⟩
  | discounted | turnedAway => cases drops
  | _ => exact ⟨rfl, rfl⟩

theorem next_lent (task : Task) (receiver : Nat) {stage : Submission}
    (lent : stage.lends = true → 0 < pool.lent) :
    (stage.next pool task receiver).1.lent + stage.lends.toNat =
      pool.lent + (stage.next pool task receiver).2.lends.toNat := by
  cases stage with
  | begun => simp only [next]; split <;> simp [lends]
  | checked => simp only [next]; split <;> simp [lends, Pool.lend]
  | counted =>
    simp only [next]
    cases sent : pool.send task receiver with
    | error error => simp [lends]
    | ok later => cases Pool.sent_of_send sent <;> simp [lends, Pool.setWorker]
  | _ =>
    simp only [lends, forall_const, Bool.false_eq_true, false_implies] at lent
    simp [next, lends, Pool.countIn, Pool.countOff, Pool.giveBack]
    try omega

theorem next_pending (task : Task) (receiver : Nat) {stage : Submission}
    (pending : stage.counts = true → 0 < pool.pending) :
    let later := (stage.next pool task receiver).1
    later.pending + (pool.queue.length + pool.held.length) + stage.counts.toNat =
      pool.pending + (later.queue.length + later.held.length) +
        (stage.next pool task receiver).2.counts.toNat := by
  cases stage with
  | begun => simp only [next]; split <;> simp [counts]
  | checked => simp only [next]; split <;> simp [counts, Pool.lend, Pool.held]
  | counted =>
    simp only [next]
    cases sent : pool.send task receiver with
    | error error => simp [counts]
    | ok later =>
      cases Pool.sent_of_send sent with
      | queued =>
        simp only [counts, Pool.held, List.length_append, List.length_singleton, Bool.toNat_true,
          Bool.toNat_false]
        omega
      | handed _ waits =>
        have grown := Pool.length_held_setWorker _ waits (.busy task)
        simp only [Worker.task?, Option.toList, List.length_nil, List.length_singleton] at grown
        simp only [counts, Pool.setWorker, Pool.held, Bool.toNat_true, Bool.toNat_false] at grown ⊢
        omega
  | _ =>
    simp only [counts, forall_const, Bool.false_eq_true, false_implies] at pending
    simp [next, counts, Pool.countIn, Pool.countOff, Pool.giveBack, Pool.held]
    try omega

end Submission

namespace Closing

variable {Task : Type}

theorem next_rest (pool : Pool Task) (caller : Option Nat) (stage : Closing) :
    let later := (stage.next caller pool).1
    later.capacity = pool.capacity ∧ later.queue = pool.queue ∧ later.workers = pool.workers ∧
      later.lent = pool.lent ∧ later.pending = pool.pending := by
  cases stage with
  | hungUp => simp only [next]; split <;> simp
  | joining rest =>
    cases rest with
    | nil => simp [next]
    | cons worker rest => simp only [next]; split <;> simp
  | _ => simp [next, Pool.refuse, Pool.hangUp]

end Closing

end AsyncFiles
