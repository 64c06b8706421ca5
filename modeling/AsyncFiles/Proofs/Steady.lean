import AsyncFiles.Proofs.Descriptors.Owners
import AsyncFiles.Proofs.Outcome.Starts

namespace AsyncFiles

open Access Error Host

/-- Whether an act has to do with what the registries list. -/
def Act.relists : Act → Bool
  | .implementation (.call _ _ _) => false
  | .implementation _ | .file _ => true
  | _ => false

/-- An act that has to do with no service. -/
def Act.apart : Act → Bool
  | .implementation (.call _ _ (.submit _ _)) => false
  | .implementation (.call _ _ _) | .context _ | .owner _ | .outside _ => true
  | _ => false

namespace Program

variable {program later : Program}

/-- Registries, implementations and files are as they were. -/
structure Steady (program later : Program) : Prop where
  grown : program.system.states.length ≤ later.system.states.length
  registries : ∀ service, later.system.registryOf service = program.system.registryOf service
  implementations : later.implementations = program.implementations
  files : later.files = program.files
  forgotten : later.forgotten = program.forgotten
  bound : ∀ service, program.bound service ≤ program.system.references service →
    program.bound service ≤ later.system.references service

structure Apart (program later : Program) : Prop where
  grown : program.system.states.length ≤ later.system.states.length
  services : later.system.services = program.system.services
  implementations : later.implementations = program.implementations
  files : later.files = program.files
  forgotten : later.forgotten = program.forgotten

theorem Steady.all (steady : program.Steady later) : later.all = program.all := by
  simp only [Program.all, steady.implementations, steady.files, steady.forgotten]

theorem Steady.refl (program : Program) : program.Steady program where
  grown := Nat.le_refl _
  registries _ := rfl
  implementations := rfl
  files := rfl
  forgotten := rfl
  bound _ bounded := bounded

theorem Apart.steady (apart : program.Apart later) : program.Steady later where
  grown := apart.grown
  registries := System.registryOf_of_services apart.services
  implementations := apart.implementations
  files := apart.files
  forgotten := apart.forgotten
  bound service bounded :=
    le_of_le_of_eq bounded (System.references_of_services apart.services service).symm

theorem Apart.keep (apart : program.Apart later) (handle : FileHandle) :
    program.Apart (later.keep handle) := by
  simp only [Program.keep]
  split
  next => exact { apart with }
  next => exact apart

theorem steady_of_onlyPools (grown : program.system.states.length ≤ later.system.states.length)
    (pools : program.system.OnlyPools later.system)
    (implementations : later.implementations = program.implementations)
    (files : later.files = program.files) (forgotten : later.forgotten = program.forgotten) :
    program.Steady later where
  grown := grown
  registries := pools.registryOf
  implementations := implementations
  files := files
  forgotten := forgotten
  bound service bounded := le_of_le_of_eq bounded (pools.references service).symm

theorem apart_onContext (program : Program) (act : ContextAct) :
    program.Apart (program.onContext act) := by
  cases act with
  | serve context =>
    simp only [Program.onContext]
    split <;> exact ⟨Nat.le_refl _, rfl, rfl, rfl, rfl⟩
  | _ => exact ⟨Nat.le_refl _, rfl, rfl, rfl, rfl⟩

theorem apart_onCall (program : Program) (service : ServiceId) (imp : Implementation)
    {call : ImplementationCall}
    (apart : (Act.implementation (.call service imp call)).apart = true) :
    program.Apart (program.onCall service imp call) := by
  have grown := (program.turns_onCall service imp call 0).grown
  cases call with
  | openPath path args => exact ⟨grown, System.services_openFile _ imp path args, rfl, rfl, rfl⟩
  | assign handle =>
    have same : (program.system.assign imp handle).2.services = program.system.services := by
      simp only [System.assign]
      split
      next taken =>
        obtain ⟨next, _, rfl⟩ := Option.map_eq_some_iff.mp taken
        rfl
      next => rfl
    simp only [Program.onCall] at grown ⊢
    split
    all_goals
      next assigned =>
        rw [assigned] at grown same
        exact ⟨grown, same, rfl, rfl, rfl⟩
  | close => exact ⟨grown, rfl, rfl, rfl, rfl⟩
  | release =>
    have released : program.Apart { program with system := (program.system.release imp).2 } :=
      ⟨(program.system.destroyed_releaseState imp.state 0).grown, rfl, rfl, rfl, rfl⟩
    exact released.keep _
  | cancel =>
    have same : (program.system.cancel imp).2.services = program.system.services := by
      simp only [System.cancel]
      split <;> rfl
    exact ⟨grown, same, rfl, rfl, rfl⟩
  | ask question => exact ⟨grown, rfl, rfl, rfl, rfl⟩
  | submit request buffers => cases apart

theorem apart_onOwner (program : Program) (act : OwnerAct) :
    program.Apart (program.onOwner act) := by
  cases act with
  | openPath path args | duplicate handle | reset owner handle =>
    simp only [Program.onOwner]
    split <;> exact ⟨Nat.le_refl _, rfl, rfl, rfl, rfl⟩
  | release owner =>
    simp only [Program.onOwner, Program.keep]
    split <;> exact ⟨Nat.le_refl _, rfl, rfl, rfl, rfl⟩
  | _ => exact ⟨Nat.le_refl _, rfl, rfl, rfl, rfl⟩

theorem apart_perform (program : Program) {act : Act} (apart : act.apart = true) :
    program.Apart (program.perform act) := by
  cases act with
  | context act => exact program.apart_onContext act
  | implementation act =>
    cases act with
    | call service imp call => exact program.apart_onCall service imp apart
    | _ => cases apart
  | owner act => exact program.apart_onOwner act
  | outside host => exact ⟨Nat.le_refl _, rfl, rfl, rfl, rfl⟩
  | service act | file act | work service worker => cases apart

theorem steady_submit (program : Program) (service : ServiceId) (imp : Implementation)
    (request : Request) (buffers : List Bytes) :
    program.Steady (program.submit service imp request buffers) := by
  simp only [Program.submit]
  split
  next => exact .refl program
  next =>
    exact steady_of_onlyPools
      (Nat.le_of_eq (congrArg List.length
        (program.system.states_submit service imp request buffers _)).symm)
      (program.system.onlyPools_submit service imp request buffers _) rfl rfl rfl

theorem steady_onCall (program : Program) (service : ServiceId) (imp : Implementation)
    (call : ImplementationCall) : program.Steady (program.onCall service imp call) := by
  cases call with
  | submit request buffers => exact program.steady_submit service imp request buffers
  | _ => exact (program.apart_onCall service imp rfl).steady

theorem steady_work (program : Program) (service : ServiceId) (worker : Nat) :
    program.Steady (program.perform (.work service worker)) := by
  simp only [Program.perform]
  split
  next stepped =>
    exact steady_of_onlyPools
      (Nat.le_of_eq (congrArg List.length (System.states_workerStep stepped)).symm)
      (System.onlyPools_workerStep stepped) rfl rfl rfl
  next => exact .refl program

theorem steady_onService {act : ServiceAct} (allowed : program.allows (.service act) = true) :
    program.Steady (program.onService act) := by
  have grown := (turns_perform allowed 0).grown
  cases act with
  | start context config =>
    simp only [perform, Program.onService] at grown ⊢
    split
    next started =>
      obtain ⟨pool, _, rfl⟩ := System.started_service started
      have fresh := service_start program.system { context, config, pool } rfl
      exact
        { grown := Nat.le_refl _
          registries := fun service => (fresh service).1
          implementations := rfl
          files := rfl
          forgotten := rfl
          bound := fun service bounded => Nat.le_trans bounded (fresh service).2 }
    next => exact .refl program
  | retain service =>
    exact
      { grown
        registries := program.system.registryOf_retain service
        implementations := rfl
        files := rfl
        forgotten := rfl
        bound := fun other bounded =>
          Nat.le_trans bounded (program.system.references_le_retain service other) }
  | drop service =>
    have spareOne : program.bound service < program.system.references service := by
      simpa [allows] using allowed
    refine ⟨grown, program.system.registryOf_dropReference service, rfl, rfl, rfl,
      fun other bounded => ?_⟩
    have references := program.system.references_dropReference service other
    change program.bound other ≤ (program.system.dropReference service).references other
    by_cases same : other = service
    · subst same
      rw [if_pos rfl] at references
      omega
    · rw [if_neg same] at references
      omega
  | shutdown service =>
    exact
      { grown
        registries := program.system.registryOf_shutdown service
        implementations := rfl
        files := rfl
        forgotten := rfl
        bound := fun other bounded =>
          le_of_le_of_eq bounded (program.system.references_shutdown service other).symm }

theorem steady_perform {act : Act} (allowed : program.allows act = true)
    (unlisted : act.relists = false) : program.Steady (program.perform act) := by
  cases act with
  | service act => exact steady_onService allowed
  | implementation act =>
    cases act with
    | call service imp call => exact program.steady_onCall service imp call
    | _ => cases unlisted
  | file act => cases unlisted
  | work service worker => exact program.steady_work service worker
  | context act => exact (program.apart_onContext act).steady
  | owner act => exact (program.apart_onOwner act).steady
  | outside host =>
    have apart : program.Apart (program.perform (.outside host)) := program.apart_perform rfl
    exact apart.steady

/-- A new object whose file has been opened, if that was possible. -/
def opening (program : Program) (service : ServiceId) (path : Path) (args : OpenArgs) : Program :=
  (program.onFile (.new service)).onCall service (File.new service program.system).1.implementation
    (.openPath path args)

theorem steady_opening (program : Program) (service : ServiceId) (path : Path) (args : OpenArgs) :
    (program.onFile (.new service)).Steady (program.opening service path args) :=
  (program.onFile (.new service)).steady_onCall service _ (.openPath path args)

theorem services_opening (program : Program) (service : ServiceId) (path : Path)
    (args : OpenArgs) : (program.opening service path args).system.services =
      (program.onFile (.new service)).system.services :=
  System.services_openFile _ _ path args

theorem onFile_openNew (program : Program) (service : ServiceId) (path : Path) (args : OpenArgs) :
    program.onFile (.openNew service path args) = program.opening service path args ∨
      program.onFile (.openNew service path args) =
        (program.opening service path args).onFile (.drop (File.new service program.system).1) := by
  rcases File.openNew_cases service path args program.system with
    ⟨later, same, whole⟩ | ⟨error, later, same, whole⟩
  · left
    simp only [opening, onCall, Program.onFile, whole, same]
  · right
    simp only [opening, onCall, Program.onFile, whole, same, List.erase_cons_head]

end Program

end AsyncFiles
