import AsyncFiles.Proofs.Outcome.Changes

namespace AsyncFiles

open Error Host

namespace System

variable {Handler : Type} (system : System Handler)

theorem states_construct (service : ServiceId) :
    (system.construct service).2.states = system.states ++ [({} : FileState)] :=
  states_register _ service _

theorem states_moveConstruct (service otherService : ServiceId) (other : Implementation) :
    (system.moveConstruct service otherService other).2.2.states =
      system.states ++ [({} : FileState)] :=
  (states_register _ service _).trans (system.states_detach otherService other)

theorem length_closeState (state : StateId) :
    (system.closeState state).2.states.length = system.states.length := by
  simp [closeState, releaseState, updateState, onHost]

theorem states_moveAssign (service : ServiceId) (imp : Implementation) (otherService : ServiceId)
    (other : Implementation) :
    (system.moveAssign service imp otherService other).2.2.states =
      (system.closeState imp.state).2.states ++ [({} : FileState)] := by
  have begun := (system.closeState imp.state).2.states_detach otherService other
  simp only [moveAssign]
  split
  next => exact begun
  next =>
    exact ((states_register _ otherService _).trans (states_unlist _ service imp)).trans begun

theorem state_moveAssign (service : ServiceId) (imp : Implementation) (otherService : ServiceId)
    (other : Implementation) :
    (system.moveAssign service imp otherService other).1.state = other.state ∧
      (system.moveAssign service imp otherService other).2.1.state = system.states.length := by
  have fresh := system.length_closeState imp.state
  simp only [moveAssign]
  split
  all_goals exact ⟨rfl, fresh⟩

end System

theorem File.length_moveFrom {Handler : Type} (file other : File) (system : System Handler) :
    system.states.length < (file.moveFrom other system).2.2.states.length := by
  let moved := (system.moveAssign file.service file.implementation other.service
    other.implementation).2.2
  have wider : moved.states.length = system.states.length + 1 := by
    simp [moved, system.states_moveAssign, system.length_closeState]
  have more : system.states.length < moved.states.length := by
    rw [wider]
    exact Nat.lt_succ_self _
  have grown := ((moved.retain other.service).destroyed_dropReference file.service 0).grown
  simp only [File.moveFrom]
  split
  next => exact more
  next =>
    calc
      system.states.length < moved.states.length := more
      _ ≤ ((moved.retain other.service).dropReference file.service).states.length := grown

namespace Program

variable {program later : Program}

def Grounded (program : Program) : Prop :=
  ∀ imp ∈ program.live, imp.state < program.system.states.length

theorem Grounded.of_live (grounded : program.Grounded)
    (grown : program.system.states.length ≤ later.system.states.length)
    (known : ∀ imp ∈ later.live, imp ∈ program.live ∨
      (∃ other ∈ program.live, imp.state = other.state) ∨
      (imp.state = program.system.states.length ∧
        program.system.states.length < later.system.states.length)) : later.Grounded := by
  intro imp member
  rcases known imp member with before | ⟨other, before, same⟩ | ⟨fresh, wider⟩
  · exact Nat.lt_of_lt_of_le (grounded imp before) grown
  · exact same ▸ Nat.lt_of_lt_of_le (grounded other before) grown
  · exact fresh ▸ wider

theorem Grounded.of_same_live (grounded : program.Grounded)
    (grown : program.system.states.length ≤ later.system.states.length)
    (implementations : later.implementations = program.implementations)
    (files : later.files = program.files) : later.Grounded := by
  refine grounded.of_live grown fun imp member => .inl ?_
  simpa only [live, implementations, files] using member

theorem mem_live {imp : Implementation} :
    imp ∈ program.live ↔ imp ∈ program.implementations ∨
      ∃ file ∈ program.files, file.implementation = imp := by
  simp [live]

theorem Grounded.onImplementation (grounded : program.Grounded) {act : ImplementationAct}
    (allowed : program.allows (.implementation act) = true) :
    (program.onImplementation act).Grounded := by
  have grown := (turns_perform allowed 0).grown
  cases act with
  | construct service =>
    have wider := program.system.states_construct service
    refine grounded.of_live grown fun imp member => ?_
    simp only [Program.onImplementation, mem_live, List.mem_cons] at member
    rcases member with (rfl | before) | file
    · exact .inr (.inr ⟨rfl, by simp [Program.onImplementation, wider]⟩)
    · exact .inl (mem_live.mpr (.inl before))
    · exact .inl (mem_live.mpr (.inr file))
  | moveConstruct service otherService other =>
    have wider := program.system.states_moveConstruct service otherService other
    have own : other ∈ program.live := by
      simp only [allows, Bool.and_eq_true, List.contains_iff_mem] at allowed
      exact mem_live.mpr (.inl allowed.2)
    refine grounded.of_live grown fun imp member => ?_
    simp only [Program.onImplementation, mem_live, List.mem_cons] at member
    rcases member with (rfl | rfl | before) | file
    · exact .inr (.inl ⟨other, own, rfl⟩)
    · exact .inr (.inr ⟨rfl, by simp [Program.onImplementation, wider]⟩)
    · exact .inl (mem_live.mpr (.inl (List.mem_of_mem_erase before)))
    · exact .inl (mem_live.mpr (.inr file))
  | moveAssign service imp otherService other =>
    have wider := program.system.states_moveAssign service imp otherService other
    have moved := program.system.state_moveAssign service imp otherService other
    have length := program.system.length_closeState imp.state
    have own : other ∈ program.live := by
      simp only [allows, Bool.and_eq_true, List.contains_iff_mem] at allowed
      exact mem_live.mpr (.inl (List.mem_of_mem_erase allowed.2))
    refine grounded.of_live grown fun found member => ?_
    simp only [Program.onImplementation, mem_live, List.mem_cons] at member
    rcases member with (rfl | rfl | before) | file
    · exact .inr (.inl ⟨other, own, moved.1⟩)
    · exact .inr (.inr ⟨moved.2, by simp [Program.onImplementation, wider, length]⟩)
    · exact .inl (mem_live.mpr (.inl (List.mem_of_mem_erase (List.mem_of_mem_erase before))))
    · exact .inl (mem_live.mpr (.inr file))
  | destroy service imp =>
    refine grounded.of_live grown fun found member => .inl ?_
    simp only [Program.onImplementation, mem_live] at member
    exact mem_live.mpr (member.imp_left List.mem_of_mem_erase)
  | forget imp =>
    refine grounded.of_live grown fun found member => .inl ?_
    simp only [Program.onImplementation, mem_live] at member
    exact mem_live.mpr (member.imp_left List.mem_of_mem_erase)
  | call service imp call =>
    refine grounded.of_same_live grown ?_ ?_
    all_goals
      cases call with
      | assign handle =>
        simp only [Program.onImplementation, onCall]
        split <;> rfl
      | release =>
        simp only [Program.onImplementation, onCall, keep]
        split <;> rfl
      | submit request buffers =>
        simp only [Program.onImplementation, onCall, submit]
        split <;> rfl
      | _ => rfl

theorem Grounded.onFile (grounded : program.Grounded) {act : FileAct}
    (allowed : program.allows (.file act) = true) : (program.onFile act).Grounded := by
  have grown := (turns_perform allowed 0).grown
  cases act with
  | new service =>
    have wider := program.system.states_construct service
    refine grounded.of_live grown fun imp member => ?_
    simp only [Program.onFile, mem_live, List.mem_cons] at member
    rcases member with before | ⟨file, rfl | before, rfl⟩
    · exact .inl (mem_live.mpr (.inl before))
    · refine .inr (.inr ⟨rfl, ?_⟩)
      change _ < (program.system.construct service).2.states.length
      simp [wider]
    · exact .inl (mem_live.mpr (.inr ⟨file, before, rfl⟩))
  | openNew service path args =>
    have wider : program.system.states.length <
        (File.new service program.system).2.states.length := by
      change _ < (program.system.construct service).2.states.length
      simp [program.system.states_construct service]
    have onward := (System.turns_openFile (File.new service program.system).2
      (File.new service program.system).1.implementation path args 0).grown
    simp only [perform, Program.onFile] at grown ⊢
    rcases File.openNew_cases service path args program.system with
      ⟨later, same, opened⟩ | ⟨error, later, same, failed⟩
    · rw [same] at onward
      simp only [opened] at grown ⊢
      apply grounded.of_live grown
      intro imp member
      simp only [mem_live, List.mem_cons] at member
      rcases member with before | ⟨file, rfl | before, rfl⟩
      · exact .inl (mem_live.mpr (.inl before))
      · exact .inr (.inr ⟨rfl, Nat.lt_of_lt_of_le wider onward⟩)
      · exact .inl (mem_live.mpr (.inr ⟨file, before, rfl⟩))
    · simp only [failed] at grown ⊢
      exact grounded.of_same_live grown rfl rfl
  | take file =>
    have wider := program.system.states_moveConstruct file.service file.service file.implementation
    have own : file.implementation ∈ program.live := by
      simp only [allows, List.contains_iff_mem] at allowed
      exact mem_live.mpr (.inr ⟨file, allowed, rfl⟩)
    refine grounded.of_live grown fun imp member => ?_
    simp only [Program.onFile, mem_live, List.mem_cons] at member
    rcases member with before | ⟨found, rfl | rfl | before, rfl⟩
    · exact .inl (mem_live.mpr (.inl before))
    · exact .inr (.inl ⟨_, own, rfl⟩)
    · refine .inr (.inr ⟨rfl, ?_⟩)
      change _ < (program.system.moveConstruct _ _ _).2.2.states.length
      simp [wider]
    · exact .inl (mem_live.mpr (.inr ⟨found, List.mem_of_mem_erase before, rfl⟩))
  | moveFrom file other =>
    have moved := program.system.state_moveAssign file.service file.implementation other.service
      other.implementation
    have own : other.implementation ∈ program.live := by
      simp only [allows, Bool.and_eq_true, List.contains_iff_mem] at allowed
      exact mem_live.mpr (.inr ⟨other, List.mem_of_mem_erase allowed.2, rfl⟩)
    refine grounded.of_live grown fun imp member => ?_
    simp only [Program.onFile, mem_live, List.mem_cons] at member
    rcases member with before | ⟨found, rfl | rfl | before, rfl⟩
    · exact .inl (mem_live.mpr (.inl before))
    · exact .inr (.inl ⟨_, own, moved.1⟩)
    · exact .inr (.inr ⟨moved.2, file.length_moveFrom other program.system⟩)
    · exact .inl (mem_live.mpr (.inr ⟨found, List.mem_of_mem_erase (List.mem_of_mem_erase before),
        rfl⟩))
  | drop file =>
    refine grounded.of_live grown fun found member => .inl ?_
    simp only [Program.onFile, mem_live] at member
    refine mem_live.mpr (member.imp_right ?_)
    rintro ⟨other, before, same⟩
    exact ⟨other, List.mem_of_mem_erase before, same⟩

theorem Grounded.perform (grounded : program.Grounded) {act : Act}
    (allowed : program.allows act = true) : (program.perform act).Grounded := by
  have grown := (turns_perform allowed 0).grown
  cases act with
  | context act =>
    refine grounded.of_same_live grown ?_ ?_
    all_goals
      cases act with
      | serve context =>
        simp only [Program.perform, onContext]
        split <;> rfl
      | _ => rfl
  | service act =>
    refine grounded.of_same_live grown ?_ ?_
    all_goals
      cases act with
      | start context config =>
        simp only [Program.perform, onService]
        split <;> rfl
      | _ => rfl
  | implementation act => exact grounded.onImplementation allowed
  | file act => exact grounded.onFile allowed
  | owner act =>
    refine grounded.of_same_live grown ?_ ?_
    all_goals
      cases act with
      | openPath path args =>
        simp only [Program.perform, onOwner]
        split <;> rfl
      | duplicate handle =>
        simp only [Program.perform, onOwner]
        split <;> rfl
      | reset owner handle =>
        simp only [Program.perform, onOwner]
        split <;> rfl
      | release owner =>
        simp only [Program.perform, onOwner, keep]
        split <;> rfl
      | _ => rfl
  | work service worker =>
    refine grounded.of_same_live grown ?_ ?_
    all_goals
      simp only [Program.perform]
      split <;> rfl
  | outside host => exact grounded.of_same_live grown rfl rfl

theorem Grounded.run (host : Host) (acts : List Act) : ((fresh host).run acts).Grounded :=
  run_keeps (fun _ _ grounded allowed => grounded.perform allowed)
    (fun imp member => by simp [live, fresh] at member) acts

end Program

end AsyncFiles
