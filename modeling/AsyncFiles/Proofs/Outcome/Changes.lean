import AsyncFiles.Proofs.Completion.OnceOnly
import AsyncFiles.Proofs.Endings

namespace AsyncFiles.Program

open Cancellation Error Host

variable {program : Program}

/-- The states whose operations an act ends, if it happens. -/
def endedBy (program : Program) : Act → List StateId
  | .service (.shutdown service) => program.system.endedByShutdown service
  | .service (.drop service) => program.system.endedByDrop service
  | .implementation (.moveAssign _ imp _ _) | .implementation (.destroy _ imp)
  | .implementation (.call _ imp .close) | .implementation (.call _ imp .release) => [imp.state]
  | .implementation (.call _ imp .cancel) =>
    if (program.system.handleOf imp).isOpen then [imp.state] else []
  | .file (.moveFrom file other) =>
    file.implementation.state :: file.endedByMove other program.system
  | .file (.drop file) => file.implementation.state :: file.endedByDrop program.system
  | _ => []

def ended (program : Program) (act : Act) : List StateId :=
  if program.allows act then program.endedBy act else []

theorem turns_onContext (program : Program) (act : ContextAct) (state : StateId) :
    program.system.Turns (program.onContext act).system state 0 := by
  refine (System.destroyed_of_states ?_ state).turns
  cases act with
  | serve context =>
    simp only [onContext]
    split <;> rfl
  | _ => rfl

theorem turns_onService (program : Program) (act : ServiceAct) (state : StateId) :
    program.system.Turns (program.onService act).system state
      ((program.endedBy (.service act)).count state) := by
  cases act with
  | start context config =>
    refine (System.destroyed_of_states ?_ state).turns
    simp only [onService]
    split
    next started =>
      obtain ⟨pool, _, rfl⟩ := System.started_service started
      rfl
    next => rfl
  | retain service =>
    refine (System.destroyed_of_states ?_ state).turns
    rfl
  | drop service => exact (program.system.destroyed_dropReference service state).turns
  | shutdown service => exact (program.system.destroyed_shutdown service state).turns

theorem turns_onCall (program : Program) (service : ServiceId) (imp : Implementation)
    (call : ImplementationCall) (state : StateId) :
    program.system.Turns (program.onCall service imp call).system state
      ((program.endedBy (.implementation (.call service imp call))).count state) := by
  cases call with
  | openPath path args => exact program.system.turns_openFile imp path args state
  | assign handle =>
    have turns := program.system.turns_assign imp handle state
    simp only [onCall]
    split
    all_goals
      next same =>
        rw [same] at turns
        exact turns
  | close => exact (program.system.destroyed_closeState imp.state state).turns
  | release =>
    have turns := (program.system.destroyed_releaseState imp.state state).turns
    simp only [onCall, keep]
    split <;> exact turns
  | cancel => exact program.system.turns_cancel imp state
  | ask question =>
    refine (System.destroyed_of_states ?_ state).turns
    rfl
  | submit request buffers =>
    refine (System.destroyed_of_states ?_ state).turns
    simp only [onCall, submit]
    split
    next => rfl
    next => exact program.system.states_submit service imp request buffers _

theorem turns_onImplementation (program : Program) (act : ImplementationAct) (state : StateId) :
    program.system.Turns (program.onImplementation act).system state
      ((program.endedBy (.implementation act)).count state) := by
  cases act with
  | construct service => exact (program.system.destroyed_construct service state).turns
  | moveConstruct service otherService other =>
    exact (program.system.destroyed_moveConstruct service otherService other state).turns
  | moveAssign service imp otherService other =>
    exact (program.system.destroyed_moveAssign service imp otherService other state).turns
  | destroy service imp => exact (program.system.destroyed_destroy service imp state).turns
  | forget imp =>
    refine (System.destroyed_of_states ?_ state).turns
    rfl
  | call service imp call => exact program.turns_onCall service imp call state

theorem turns_onFile {act : FileAct} (allowed : program.allows (.file act) = true)
    (state : StateId) :
    program.system.Turns (program.onFile act).system state
      ((program.endedBy (.file act)).count state) := by
  cases act with
  | new service => exact (File.destroyed_new service program.system state).turns
  | openNew service path args =>
    have held : 0 < program.system.references service := by simpa [allows] using allowed
    have turns := File.turns_openNew service path args held state
    simp only [onFile]
    split
    all_goals
      next same =>
        rw [same] at turns
        exact turns
  | take file => exact (file.destroyed_take program.system state).turns
  | moveFrom file other => exact (file.destroyed_moveFrom other program.system state).turns
  | drop file => exact (file.destroyed_drop program.system state).turns

theorem states_onOwner (program : Program) (act : OwnerAct) :
    (program.onOwner act).system.states = program.system.states := by
  cases act with
  | openPath path args =>
    simp only [onOwner]
    split <;> rfl
  | duplicate handle =>
    simp only [onOwner]
    split <;> rfl
  | reset owner handle =>
    simp only [onOwner]
    split <;> rfl
  | release owner =>
    simp only [onOwner, keep]
    split <;> rfl
  | _ => rfl

theorem turns_perform {act : Act} (allowed : program.allows act = true) (state : StateId) :
    program.system.Turns (program.perform act).system state
      ((program.endedBy act).count state) := by
  cases act with
  | context act => exact program.turns_onContext act state
  | service act => exact program.turns_onService act state
  | implementation act => exact program.turns_onImplementation act state
  | file act => exact turns_onFile allowed state
  | owner act => exact (System.destroyed_of_states (program.states_onOwner act) state).turns
  | work service worker =>
    refine (System.destroyed_of_states ?_ state).turns
    simp only [perform]
    split
    next stepped => exact System.states_workerStep stepped
    next => rfl
  | outside host =>
    refine (System.destroyed_of_states ?_ state).turns
    rfl

theorem turns_step (program : Program) (act : Act) (state : StateId) :
    program.system.Turns (program.step act).system state ((program.ended act).count state) := by
  simp only [step, ended]
  split
  next allowed => exact turns_perform allowed state
  next =>
    refine (System.destroyed_of_states ?_ state).turns
    rfl

theorem initiated_keep (program : Program) (handle : FileHandle) :
    (program.keep handle).initiated = program.initiated := by
  simp only [keep]
  split <;> rfl

theorem initiated_of_quiet (program : Program) {act : Act}
    (quiet : ∀ service imp request buffers,
      act ≠ .implementation (.call service imp (.submit request buffers))) :
    (program.perform act).initiated = program.initiated := by
  cases act with
  | context act => cases act with
    | serve context =>
      simp only [perform, onContext]
      split <;> rfl
    | _ => rfl
  | service act => cases act with
    | start context config =>
      simp only [perform, onService]
      split <;> rfl
    | _ => rfl
  | implementation act => cases act with
    | call service imp call => cases call with
      | assign handle =>
        simp only [perform, onImplementation, onCall]
        split <;> rfl
      | release => exact initiated_keep _ _
      | submit request buffers => exact absurd rfl (quiet service imp request buffers)
      | _ => rfl
    | _ => rfl
  | file act => cases act with
    | openNew service path args =>
      simp only [perform, onFile]
      split <;> rfl
    | _ => rfl
  | owner act => cases act with
    | openPath path args =>
      simp only [perform, onOwner]
      split <;> rfl
    | duplicate handle =>
      simp only [perform, onOwner]
      split <;> rfl
    | reset owner handle =>
      simp only [perform, onOwner]
      split <;> rfl
    | release owner => exact initiated_keep _ _
    | _ => rfl
  | work service worker =>
    simp only [perform]
    split <;> rfl
  | outside host => rfl

theorem initiated_perform (program : Program) (act : Act) :
    program.initiated <+: (program.perform act).initiated := by
  by_cases quiet : ∀ service imp request buffers,
      act ≠ .implementation (.call service imp (.submit request buffers))
  · exact (program.initiated_of_quiet quiet).symm ▸ List.prefix_refl _
  · simp only [not_forall, not_not] at quiet
    obtain ⟨service, imp, request, buffers, rfl⟩ := quiet
    simp only [perform, onImplementation, onCall, submit]
    split
    next => exact List.prefix_refl _
    next => exact List.prefix_append _ _

theorem initiated_run (program : Program) (acts : List Act) :
    program.initiated <+: (program.run acts).initiated := by
  induction acts generalizing program with
  | nil => exact List.prefix_refl _
  | cons act rest ih =>
    refine List.IsPrefix.trans ?_ (ih (program.step act))
    simp only [step]
    split
    next => exact program.initiated_perform act
    next => exact List.prefix_refl _

def changesOf (program : Program) (state : StateId) (act : Act) : Nat :=
  if (program.ended act).count state = 0 then
    if ((program.step act).system.state state).source = (program.system.state state).source then 0
    else 1
  else (program.ended act).count state

def changes (program : Program) (state : StateId) : List Act → Nat
  | [] => 0
  | act :: rest => program.changesOf state act + (program.step act).changes state rest

def EndsIn (program : Program) (state : StateId) (acts : List Act) : Prop :=
  ∃ before act after, acts = before ++ act :: after ∧ state ∈ (program.run before).ended act

section

variable {state : StateId}

theorem later_step (act : Act) (bound : state < program.system.states.length) :
    (program.system.state state).source.Later (program.changesOf state act)
      ((program.step act).system.state state).source := by
  have turn := (program.turns_step act state).source bound
  simp only [changesOf]
  split
  next never =>
    split
    next same =>
      rw [same]
      exact Source.later_refl _
    next changed =>
      rw [never] at turn
      generalize ((program.step act).system.state state).source = later at turn changed ⊢
      cases turn with
      | ended => exact absurd rfl changed
      | cancelled once => cases once
      | revived =>
        by_cases destroyed : (program.system.state state).source.destroyed = true
        · exact Source.later_reset destroyed
        · exact absurd (Source.reset_of_live (by simpa using destroyed)) changed
  next some =>
    generalize ((program.step act).system.state state).source = later at turn ⊢
    cases turn with
    | ended => exact Source.later_iterate _ _
    | cancelled once =>
      rw [once]
      exact Source.later_cancel _
    | revived never => exact absurd never some

theorem later_run (acts : List Act) (bound : state < program.system.states.length) :
    (program.system.state state).source.Later (program.changes state acts)
      ((program.run acts).system.state state).source := by
  induction acts generalizing program with
  | nil => exact Source.later_refl _
  | cons act rest ih =>
    have grown := (program.turns_step act state).grown
    exact (later_step act bound).trans (ih (Nat.lt_of_lt_of_le bound grown))

theorem endsIn_cons {act : Act} {rest : List Act} :
    program.EndsIn state (act :: rest) ↔
      state ∈ program.ended act ∨ (program.step act).EndsIn state rest := by
  constructor
  · rintro ⟨before, other, after, same, ends⟩
    cases before with
    | nil =>
      cases same
      exact .inl ends
    | cons first before =>
      cases same
      exact .inr ⟨before, other, after, rfl, ends⟩
  · rintro (ends | ⟨before, other, after, rfl, ends⟩)
    · exact ⟨[], act, rest, rfl, ends⟩
    · exact ⟨act :: before, other, after, rfl, ends⟩

theorem source_run {acts : List Act} (spared : ¬ program.EndsIn state acts)
    (live : (program.system.state state).source.destroyed = false)
    (bound : state < program.system.states.length) :
    ((program.run acts).system.state state).source = (program.system.state state).source := by
  induction acts generalizing program with
  | nil => rfl
  | cons act rest ih =>
    rw [endsIn_cons, not_or] at spared
    have turns := program.turns_step act state
    have same : ((program.step act).system.state state).source =
        (program.system.state state).source := by
      have turn := turns.source bound
      rw [List.count_eq_zero.mpr spared.1] at turn
      -- A live source that is not cancelled can only be revived, which changes nothing in it.
      generalize ((program.step act).system.state state).source = later at turn ⊢
      cases turn with
      | ended => rfl
      | cancelled once => cases once
      | revived => exact Source.reset_of_live live
    rw [run_cons, ih spared.2 (same ▸ live) (Nat.lt_of_lt_of_le bound turns.grown), same]

theorem changes_pos {acts : List Act} (ends : program.EndsIn state acts) :
    0 < program.changes state acts := by
  induction acts generalizing program with
  | nil =>
    obtain ⟨before, act, after, same, _⟩ := ends
    simp at same
  | cons act rest ih =>
    rw [changes]
    rcases endsIn_cons.mp ends with here | later
    · have counted := List.count_pos_iff.mpr here
      simp only [changesOf]
      rw [if_neg (by omega)]
      omega
    · have rest := ih later
      omega

theorem isCancelled_iff {acts : List Act} (bound : state < program.system.states.length)
    (few : program.changes state acts < 2 ^ 63) :
    (program.system.state state).source.token.isCancelled
        ((program.run acts).system.state state).source = true ↔
      (program.system.state state).source.destroyed = true ∨ program.EndsIn state acts := by
  have later := later_run acts bound
  constructor
  · intro dead
    by_contra neither
    rw [not_or, Bool.not_eq_true] at neither
    have same := source_run neither.2 neither.1 bound
    have alive : ((program.run acts).system.state state).source.destroyed = false := by
      rw [same]
      exact neither.1
    have live := (Token.isCancelled_eq_false_iff (program.system.state state).source.token _).mpr
      ⟨same, alive⟩
    rw [live] at dead
    cases dead
  · intro ended
    by_contra dead
    rw [Bool.not_eq_true, Token.isCancelled_eq_false_iff] at dead
    obtain ⟨same, live⟩ := dead
    rcases ended with destroyed | ends
    · rw [same] at live
      exact absurd (live.symm.trans destroyed) (by decide)
    · exact absurd ((later.eq_iff few).mp same) (by have happened := changes_pos ends; omega)

end

end AsyncFiles.Program
