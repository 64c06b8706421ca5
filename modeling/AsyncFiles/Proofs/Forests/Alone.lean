import AsyncFiles.Script.Machine

/-!
One thread alone with a context. Where the workers have nothing to do and the thread does nothing
but serve the context, the session changes in that context and its log only, and the machine goes
one step of the thread after the other.
-/
namespace AsyncFiles

open Error Host

namespace System

variable {Handler : Type}

theorem workerStep?_contexts {system : System Handler} {held : Operation Handler → Bool}
    {service : ServiceId} {worker : Nat} (idle : system.workerStep? held service worker = none)
    (contexts : List (Context (Invocation Handler))) :
    ({ system with contexts } : System Handler).workerStep? held service worker = none := by
  have services : ({ system with contexts } : System Handler).service? service =
      system.service? service := rfl
  have tasks : ({ system with contexts } : System Handler).heldTask? service worker =
      system.heldTask? service worker := rfl
  simp only [workerStep?, services, tasks] at idle ⊢
  cases found : system.service? service with
  | none => rfl
  | some served =>
    simp only [found] at idle ⊢
    cases holds : system.heldTask? service worker with
    | some task =>
      cases task with
      | stalled operation call =>
        simp only [holds, resume?, Option.map_eq_none_iff] at idle ⊢
        exact idle
      | admitted operation =>
        simp only [holds] at idle ⊢
        split at idle
        · next waits => rw [if_pos waits]
        · cases idle
      | _ => simp [holds] at idle
    | none =>
      simp only [holds] at idle ⊢
      split at idle
      · cases idle
      · simpa using idle

end System

namespace Script

namespace Session

def Rests (session : Session) : Prop := session.workerStep? = none

/-- The session with something else in one context and with another log. -/
def having (session : Session) (context : ContextId) (found : Context (Invocation Handler))
    (log : List Entry) : Session :=
  { session with system := session.system.updateContext context fun _ => found, log }

variable {session : Session} {context : ContextId} {before found : Context (Invocation Handler)}
  {log : List Entry}

theorem having_change (change : Context (Invocation Handler) → Context (Invocation Handler)) :
    ((session.having context found log).changeSystem fun system =>
      system.updateContext context change) = session.having context (change found) log := by
  simp only [having, changeSystem, System.updateContext, List.modify_modify_eq]
  rfl

theorem having_post (handler : Handler) :
    (session.having context found log).postHandler context handler =
      session.having context (found.post { handler }) log :=
  having_change fun found => found.post { handler }

theorem having_workFinished :
    ((session.having context found log).changeSystem fun system => system.workFinished context) =
      session.having context found.workFinished log :=
  having_change Context.workFinished

theorem having_note (entry : Entry) :
    (session.having context found log).note entry = session.having context found (log ++ [entry]) :=
  rfl

theorem having_self (present : session.system.context? context = some found) :
    session.having context found session.log = session := by
  have same : session.system.contexts.modify context (fun _ => found) =
      session.system.contexts := by
    apply List.ext_getElem?
    intro other
    rw [List.getElem?_modify]
    by_cases own : context = other
    · subst own
      have there : session.system.contexts[context]? = some found := present
      simp [there]
    · simp [own]
  simp only [having, System.updateContext, same]

theorem context_having (present : session.system.context? context = some before) :
    (session.having context found log).system.context? context = some found := by
  simp only [System.context?] at present
  simp [having, System.context?, System.updateContext, present]

theorem rests_having (rests : session.Rests) : (session.having context found log).Rests := by
  simp only [Rests, workerStep?, List.findSome?_eq_none_iff, Option.map_eq_none_iff] at rests ⊢
  intro service listed worker employed
  exact System.workerStep?_contexts (rests service listed worker employed) _

theorem work_of_rests (rests : session.Rests) : session.work = session := by
  have idle : session.workerStep? = none := rests
  simp only [work, settle, idle]

end Session

namespace Machine

def RunsTo (machine : Machine) (steps : Nat) (later : Machine) : Prop :=
  ∀ fuel, machine.run (steps + fuel) = later.run fuel

variable {machine middle later : Machine} {few more : Nat}

theorem RunsTo.refl (machine : Machine) : machine.RunsTo 0 machine := by
  intro fuel
  rw [Nat.zero_add]

theorem RunsTo.trans (first : machine.RunsTo few middle) (second : middle.RunsTo more later) :
    machine.RunsTo (few + more) later := by
  intro fuel
  calc machine.run (few + more + fuel)
      _ = machine.run (few + (more + fuel)) := by rw [Nat.add_assoc]
      _ = middle.run (more + fuel) := first _
      _ = later.run fuel := second _

theorem run_of_halted (halted : machine.advance? = none) (fuel : Nat) :
    machine.run fuel = machine := by
  cases fuel with
  | zero => rfl
  | succ fuel => simp only [run, halted]

theorem RunsTo.run_eq (runs : machine.RunsTo few later) (halted : later.advance? = none)
    {fuel : Nat} (enough : few ≤ fuel) : machine.run fuel = later := by
  obtain ⟨rest, rfl⟩ := Nat.exists_eq_add_of_le enough
  rw [runs rest, run_of_halted halted]

end Machine

namespace Session

def alone (session : Session) (thread : Thread) : Machine := { session, threads := [thread] }

variable {session later : Session} {thread next : Thread}

theorem advance_alone (session : Session) (thread : Thread) :
    (session.alone thread).advance? =
      ((session.alone thread).step? 0).map fun machine =>
        { machine with session := machine.session.work } := by
  have only : List.range (session.alone thread).threads.length = [0] := rfl
  rw [Machine.advance?, only, List.findSome?_singleton]

theorem step_alone (stepped : (session.alone thread).step? 0 = some (later.alone next))
    (rests : later.Rests) : (session.alone thread).RunsTo 1 (later.alone next) := by
  have advanced : (session.alone thread).advance? = some (later.alone next) := by
    rw [advance_alone, stepped, Option.map_some]
    simp only [alone, work_of_rests rests]
  intro fuel
  rw [Nat.add_comm]
  simp only [Machine.run, advanced]

theorem Rests.runs_step {context : ContextId} {found : Context (Invocation Handler)}
    {log : List Entry} {machine : Session} (rests : session.Rests)
    (stepped : (machine.alone thread).step? 0 =
      some ((session.having context found log).alone next)) :
    (machine.alone thread).RunsTo 1 ((session.having context found log).alone next) :=
  step_alone stepped (rests_having rests)

theorem halted_alone (ended : (session.alone thread).step? 0 = none) :
    (session.alone thread).advance? = none := by
  rw [advance_alone, ended, Option.map_none]

end Session

end Script

end AsyncFiles
