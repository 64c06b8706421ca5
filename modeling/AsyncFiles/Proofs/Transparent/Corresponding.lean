import AsyncFiles.Proofs.Transparent.Alongside

namespace AsyncFiles

open Access Error Host

namespace Exchange

/-- The other program is alongside, but may have asked its host for the same in another order. -/
def Corresponds (exchange : Exchange) (program other : Program) : Prop :=
  ∃ next, exchange.Alongside program next ∧ next.Reordered other

/-- What two programs have in common that differ in the keys of two slots. All files, sources,
contexts, pools and handlers are the same, what the one has in use the other has under translated
keys, and they allow the same acts and answer them alike. -/
structure Agrees (exchange : Exchange) (program other : Program) : Prop where
  states : other.system.states = program.system.states
  contexts : other.system.contexts = program.system.contexts
  services : ∀ service, (other.system.service? service).map ({ · with registry := {} }) =
    (program.system.service? service).map ({ · with registry := {} })
  registered : ∀ service,
    (other.system.registered service).Perm (program.system.registered service)
  host : program.system.host.Reordered other.system.host
  implementations :
    other.implementations.Perm (program.implementations.map exchange.implementation)
  forgotten : other.forgotten.Perm (program.forgotten.map exchange.implementation)
  files : other.files.Perm (program.files.map exchange.file)
  owners : other.owners = program.owners
  loose : other.loose = program.loose
  initiated : other.initiated = program.initiated
  serving : other.serving = program.serving
  invoked : other.invoked = program.invoked
  allows : ∀ act, other.allows (exchange.act act) = program.allows act
  answer : ∀ act, other.answer (exchange.act act) = program.answer act

variable {exchange : Exchange} {program other : Program}

theorem Corresponds.agrees (corresponds : exchange.Corresponds program other) :
    exchange.Agrees program other := by
  obtain ⟨next, alongside, reordered⟩ := corresponds
  have allows (act : Act) : other.allows (exchange.act act) = program.allows act :=
    (reordered.allows _).trans (alongside.allows act)
  have answer (act : Act) : other.answer (exchange.act act) = program.answer act :=
    (reordered.answer _).trans (alongside.answer act)
  obtain ⟨_, ⟨calls, perm, rfl⟩, rfl⟩ := reordered
  have services (service : ServiceId) :=
    alongside.system.view ({ · with registry := {} }) (fun _ _ => rfl) service
  obtain ⟨states, contexts, host⟩ := alongside.system.shared
  rw [host] at perm
  exact
    { states
      contexts
      services
      registered := alongside.system.registered
      host := ⟨calls, perm, congrArg (Host.relog · calls) host⟩
      implementations := alongside.implementations
      forgotten := alongside.forgotten
      files := alongside.files
      owners := alongside.owners
      loose := alongside.loose
      initiated := alongside.initiated
      serving := alongside.serving
      invoked := alongside.invoked
      allows
      answer }

theorem Corresponds.step (corresponds : exchange.Corresponds program other)
    (homes : ∀ file ∈ program.files, file.implementation.owner = file.service) {act : Act}
    (tame : program.allows act = true → ¬ exchange.Strays act) :
    exchange.Corresponds (program.step act) (other.step (exchange.act act)) := by
  have same := corresponds.agrees.allows act
  obtain ⟨next, alongside, reordered⟩ := corresponds
  rw [Program.step, Program.step, same]
  split
  next allowed =>
    obtain ⟨later, stays, moved⟩ := alongside.perform homes allowed (tame allowed)
    exact ⟨later, stays, moved.trans (reordered.perform _)⟩
  next => exact ⟨next, alongside, reordered⟩

theorem Corresponds.run (corresponds : exchange.Corresponds program other)
    (addressed : program.Addressed) {acts : List Act}
    (tame : program.Throughout (fun _ act => ¬ exchange.Strays act) acts) :
    exchange.Corresponds (program.run acts) (other.run (acts.map exchange.act)) := by
  induction acts generalizing program other with
  | nil => exact corresponds
  | cons act rest ih =>
    have later : (program.step act).Addressed := by
      rw [Program.step]
      split
      next allowed => exact (addressed.perform allowed).addressed
      next => exact addressed
    exact ih (corresponds.step addressed.homes tame.1) later tame.2

end Exchange

end AsyncFiles
