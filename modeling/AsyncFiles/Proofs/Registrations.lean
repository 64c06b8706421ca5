import AsyncFiles.Proofs.Bounded
import AsyncFiles.Service.Report

namespace AsyncFiles

open Access Error Host

namespace Registry

variable {Value : Type} {registry : Registry Value}

theorem mem_entries {key : RegistryKey} {value : Value} :
    (key, value) ∈ registry.entries ↔ registry.get? key = some value := by
  simp only [entries, List.mem_filterMap, Prod.exists, Option.map_eq_some_iff,
    List.mem_zipIdx_iff_getElem?, Prod.mk.injEq]
  constructor
  · rintro ⟨slot, index, located, _, filled, rfl, rfl⟩
    refine get?_eq_some.mpr ⟨Nat.succ_pos _, ?_⟩
    rw [show position ⟨index + 1, slot.version⟩ = index from rfl, located, ← filled]
  · intro present
    obtain ⟨numbered, located⟩ := get?_eq_some.mp present
    refine ⟨_, position key, located, value, rfl, ?_, rfl⟩
    cases key
    simp only [position] at numbered ⊢
    simp only [RegistryKey.mk.injEq, and_true]
    omega

theorem entries_ordered (registry : Registry Value) :
    registry.entries.Pairwise fun first second => first.1.slot < second.1.slot := by
  have places : (registry.slots.zipIdx.map Prod.snd).Pairwise (· < ·) := by
    rw [List.zipIdx_map_snd]
    exact List.pairwise_lt_range' 1
  refine (List.pairwise_map.mp places).filterMap _ ?_
  rintro ⟨first, place⟩ ⟨second, later⟩ before entry found other others
  simp only [Option.map_eq_some_iff] at found others
  obtain ⟨value, _, rfl⟩ := found
  obtain ⟨further, _, rfl⟩ := others
  exact Nat.succ_lt_succ before

theorem nodup_entries (registry : Registry Value) : registry.entries.Nodup := by
  refine registry.entries_ordered.imp ?_
  rintro entry _ before rfl
  exact Nat.lt_irrefl _ before

end Registry

namespace System

variable {Handler : Type} {system : System Handler} {all : List Implementation}

theorem Books.entries_perm (books : system.Books all) (service : ServiceId) :
    (system.registryOf service).entries.Perm
      ((all.filter fun imp => imp.owner = service).map fun imp => (imp.key, imp.state)) := by
  have distinct : ((all.filter fun imp => imp.owner = service).map
      fun imp => (imp.key, imp.state)).Nodup := by
    apply List.Nodup.of_map Prod.snd
    rw [List.map_map]
    exact (List.Sublist.map Implementation.state List.filter_sublist).nodup books.nodup
  rw [List.perm_ext_iff_of_nodup (Registry.nodup_entries _) distinct]
  rintro ⟨key, state⟩
  rw [Registry.mem_entries, List.mem_map]
  constructor
  · intro present
    have member := (books.entry ⟨key, service, state⟩).mp present
    exact ⟨⟨key, service, state⟩, by simp [member], rfl⟩
  · rintro ⟨imp, member, same⟩
    obtain ⟨known, own⟩ := List.mem_filter.mp member
    cases same
    rw [← of_decide_eq_true own]
    exact (books.entry imp).mpr known

theorem Books.registered_perm (books : system.Books all) (service : ServiceId) :
    (system.registered service).Perm
      ((all.filter fun imp => imp.owner = service).map Implementation.state) := by
  have states := (books.entries_perm service).map Prod.snd
  rw [List.map_map] at states
  rw [registered_eq]
  exact states

theorem Books.nodup_keys (books : system.Books all) :
    (all.map fun imp => (imp.owner, imp.key)).Nodup := by
  refine List.Nodup.map_on ?_ books.nodup.of_map
  intro first member second also same
  simp only [Prod.mk.injEq] at same
  have mine := (books.entry first).mpr member
  have theirs := (books.entry second).mpr also
  rw [same.1, same.2, theirs, Option.some.injEq] at mine
  exact (List.inj_on_of_nodup_map books.nodup also member mine).symm

theorem live_eq (system : System Handler) (service : ServiceId) :
    system.live service = (system.registryOf service).entries.length := by
  simp only [live, registryOf, Registry.size]
  cases system.service? service <;> rfl

theorem entries_report (system : System Handler) (service : ServiceId) :
    (system.report service).entries = (system.registryOf service).entries.map
      fun entry => ⟨entry.1, system.state entry.2⟩ := by
  simp only [report, registryOf]
  cases system.service? service <;> rfl

end System

namespace Program

variable {program later : Program}

/-- The implementations that an act passes to a service, each with that service. -/
def passes (program : Program) : Act → List (Implementation × ServiceId)
  | .implementation (.moveConstruct _ otherService other) => [(other, otherService)]
  | .implementation (.moveAssign service imp otherService other) =>
    [(imp, service), (other, otherService)]
  | .implementation (.destroy service imp) | .implementation (.call service imp _) =>
    [(imp, service)]
  | .file (.openNew service _ _) =>
    [((File.new service program.system).1.implementation, service)]
  | .file (.take file) | .file (.drop file) => [(file.implementation, file.service)]
  | .file (.moveFrom file other) =>
    [(file.implementation, file.service), (other.implementation, other.service)]
  | _ => []

def AtHome (program : Program) (act : Act) : Prop :=
  ∀ passed ∈ program.passes act, passed.1.owner = passed.2

def Throughout (holds : Program → Act → Prop) (program : Program) : List Act → Prop
  | [] => True
  | act :: rest =>
    (program.allows act = true → holds program act) ∧ Throughout holds (program.step act) rest

/-- An act of a file object, or a call that goes through one. -/
def ByFile (program : Program) : Act → Prop
  | .file _ => True
  | .implementation (.call service imp _) =>
    ∃ file ∈ program.files, file.service = service ∧ file.implementation = imp
  | _ => False

/-- The registries hold the implementations that were not destroyed, and the files their services.
-/
structure Registered (program : Program) : Prop where
  books : program.system.Books program.all
  homes : ∀ file ∈ program.files, file.implementation.owner = file.service
  bound : ∀ service, program.bound service ≤ program.system.references service

/-- The implementations of a service that were not destroyed, forgotten ones included. -/
def registrants (program : Program) (service : ServiceId) : List Implementation :=
  program.all.filter fun imp => imp.owner = service

structure Exact (program : Program) : Prop where
  found : ∀ imp ∈ program.all,
    (program.system.registryOf imp.owner).get? imp.key = some imp.state
  states : (program.all.map Implementation.state).Nodup
  keys : (program.all.map fun imp => (imp.owner, imp.key)).Nodup
  entries : ∀ service, (program.system.registryOf service).entries.Perm
    ((program.registrants service).map fun imp => (imp.key, imp.state))
  live : ∀ service, program.system.live service = (program.registrants service).length
  report : ∀ service, (program.system.report service).entries.Perm
    ((program.registrants service).map fun imp => ⟨imp.key, program.system.state imp.state⟩)
  ordered : ∀ service, (program.system.report service).entries.Pairwise
    fun first second => first.key.slot < second.key.slot
  homes : ∀ file ∈ program.files, file.implementation.owner = file.service

theorem Registered.exact (registered : program.Registered) : program.Exact where
  found imp member := (registered.books.entry imp).mpr member
  states := registered.books.nodup
  keys := registered.books.nodup_keys
  entries := registered.books.entries_perm
  live service := by
    rw [System.live_eq, (registered.books.entries_perm service).length_eq, List.length_map]
    rfl
  report service := by
    have listed := (registered.books.entries_perm service).map
      fun entry : RegistryKey × StateId =>
        (⟨entry.1, program.system.state entry.2⟩ : RegistryEntry)
    rw [List.map_map] at listed
    rw [System.entries_report]
    exact listed
  ordered service := by
    rw [System.entries_report, List.pairwise_map]
    exact Registry.entries_ordered _
  homes := registered.homes

theorem registrants_perm {rest : List Implementation} (same : program.all.Perm rest)
    (service : ServiceId) : ((program.registrants service).map Implementation.state).Perm
      ((rest.filter fun imp => imp.owner = service).map Implementation.state) :=
  (same.filter _).map _

theorem Registered.nodup_registrants (registered : program.Registered) (service : ServiceId) :
    ((program.registrants service).map Implementation.state).Nodup :=
  (List.Sublist.map Implementation.state List.filter_sublist).nodup registered.books.nodup

theorem Registered.mem_registrants (registered : program.Registered) {imp : Implementation}
    (member : imp ∈ program.all) {service : ServiceId} :
    imp.state ∈ (program.registrants service).map Implementation.state ↔ imp.owner = service := by
  rw [List.mem_map]
  constructor
  · rintro ⟨bearer, registrant, own⟩
    obtain ⟨known, home⟩ := List.mem_filter.mp registrant
    rw [← List.inj_on_of_nodup_map registered.books.nodup known member own]
    exact of_decide_eq_true home
  · intro home
    exact ⟨imp, List.mem_filter.mpr ⟨member, decide_eq_true home⟩, rfl⟩

theorem Registered.atHome_of_byFile (registered : program.Registered) {act : Act}
    (allowed : program.allows act = true) (through : program.ByFile act) : program.AtHome act := by
  cases act with
  | implementation act =>
    cases act with
    | call service imp call =>
      obtain ⟨file, member, rfl, rfl⟩ := through
      simpa [AtHome, passes] using registered.homes file member
    | _ => cases through
  | file act =>
    cases act with
    | new service => simp [AtHome, passes]
    | openNew service path args =>
      simp only [AtHome, passes, List.forall_mem_singleton]
      rfl
    | take file | drop file =>
      simp only [allows, List.contains_iff_mem] at allowed
      simpa [AtHome, passes] using registered.homes file allowed
    | moveFrom file other =>
      simp only [allows, Bool.and_eq_true, List.contains_iff_mem] at allowed
      simpa [AtHome, passes] using And.intro (registered.homes file allowed.1)
        (registered.homes other (List.mem_of_mem_erase allowed.2))
  | _ => cases through

theorem Registered.bounded (registered : program.Registered) : program.Bounded := registered.bound

theorem Registered.steady (registered : program.Registered) (steady : program.Steady later) :
    later.Registered where
  books := by
    rw [steady.all]
    exact registered.books.of_registries steady.registries steady.grown
  homes := by
    rw [steady.files]
    exact registered.homes
  bound := registered.bounded.steady steady

theorem Registered.onImplementation (registered : program.Registered) {act : ImplementationAct}
    (allowed : program.allows (.implementation act) = true)
    (home : program.AtHome (.implementation act)) : (program.onImplementation act).Registered := by
  have bound := registered.bounded.onImplementation act
  cases act with
  | construct service =>
    have used : 0 < program.system.references service := by simpa [allows] using allowed
    exact ⟨System.books_construct registered.books used, registered.homes, bound⟩
  | moveConstruct service otherService other =>
    simp only [allows, Bool.and_eq_true, decide_eq_true_eq, List.contains_iff_mem] at allowed
    obtain ⟨⟨used, _⟩, member⟩ := allowed
    obtain rfl : other.owner = otherService := by simpa [AtHome, passes] using home
    refine ⟨?_, registered.homes, bound⟩
    exact System.books_moveConstruct (registered.books.perm (listed_erase member)) used
  | moveAssign service imp otherService other =>
    simp only [allows, Bool.and_eq_true, decide_eq_true_eq, List.contains_iff_mem] at allowed
    obtain ⟨⟨⟨_, used⟩, member⟩, otherMember⟩ := allowed
    obtain ⟨rfl, rfl⟩ : imp.owner = service ∧ other.owner = otherService := by
      simpa [AtHome, passes] using home
    refine ⟨?_, registered.homes, bound⟩
    exact System.books_moveAssign (registered.books.perm ((listed_erase member).trans
      ((listed_erase otherMember).cons imp))) used
  | destroy service imp =>
    simp only [allows, Bool.and_eq_true, decide_eq_true_eq, List.contains_iff_mem] at allowed
    obtain rfl : imp.owner = service := by simpa [AtHome, passes] using home
    refine ⟨?_, registered.homes, bound⟩
    exact System.books_destroy (registered.books.perm (listed_erase allowed.2))
  | forget imp =>
    simp only [allows, List.contains_iff_mem] at allowed
    have books := registered.books.perm ((listed_erase allowed).trans (listed_forgotten imp).symm)
    exact ⟨books, registered.homes, bound⟩
  | call service imp call => exact registered.steady (program.steady_onCall service imp call)

section

variable {service : ServiceId} {file other : File}

theorem Registered.onNew (registered : program.Registered)
    (used : 0 < program.system.references service) :
    (program.onFile (.new service)).Registered := by
  have books := (System.books_construct registered.books used).of_registries
    (System.registryOf_retain _ service) (Nat.le_refl _)
  let file := (File.new service program.system).1
  refine ⟨books.perm (listed_file file).symm, ?_, registered.bounded.onNew used⟩
  rintro file (_ | ⟨_, member⟩)
  · rfl
  · exact registered.homes file member

theorem Registered.onTake (registered : program.Registered) (member : file ∈ program.files) :
    (program.onFile (.take file)).Registered := by
  have home := registered.homes file member
  have used := registered.bounded.used member
  have moved := System.books_moveConstruct (registered.books.perm (listed_eraseFile member)) used
  rw [home] at moved
  have books := moved.of_registries (System.registryOf_retain _ file.service) (Nat.le_refl _)
  let taken := (file.take program.system).1
  let left := (file.take program.system).2.1
  refine ⟨books.perm ((listed_file taken).trans ((listed_file left).cons _)).symm, ?_,
    registered.bounded.onTake member⟩
  rintro next (_ | ⟨_, _ | ⟨_, elsewhere⟩⟩)
  · rfl
  · exact home
  · exact registered.homes next (List.mem_of_mem_erase elsewhere)

theorem Registered.onDrop (registered : program.Registered) (member : file ∈ program.files) :
    (program.onFile (.drop file)).Registered := by
  have destroyed := System.books_destroy (registered.books.perm (listed_eraseFile member))
  rw [registered.homes file member] at destroyed
  have books := destroyed.of_registries (System.registryOf_dropReference _ file.service)
    (System.destroyed_dropReference _ file.service 0).grown
  refine ⟨books, fun next elsewhere => ?_, registered.bounded.onDrop member⟩
  exact registered.homes next (List.mem_of_mem_erase elsewhere)

theorem Registered.books_moveAssign (registered : program.Registered)
    (member : file ∈ program.files) (otherMember : other ∈ program.files.erase file) :
    let moved := program.system.moveAssign file.service file.implementation other.service
      other.implementation
    moved.2.2.Books (moved.1 :: moved.2.1 :: listed program.implementations
      ((program.files.erase file).erase other) program.forgotten) := by
  have otherFile := List.mem_of_mem_erase otherMember
  have otherHome := registered.homes other otherFile
  have used := registered.bounded.used otherFile
  rw [← otherHome] at used
  have moved := System.books_moveAssign (registered.books.perm ((listed_eraseFile member).trans
    ((listed_eraseFile otherMember).cons _))) used
  rw [registered.homes file member, otherHome] at moved
  exact moved

theorem Registered.books_moveFrom (registered : program.Registered) (member : file ∈ program.files)
    (otherMember : other ∈ program.files.erase file) :
    (file.moveFrom other program.system).2.2.Books
      ((file.moveFrom other program.system).1.implementation ::
        (file.moveFrom other program.system).2.1.implementation ::
        listed program.implementations ((program.files.erase file).erase other)
          program.forgotten) := by
  have moved := registered.books_moveAssign member otherMember
  simp only [File.moveFrom]
  split
  next => exact moved
  next =>
    exact (moved.of_registries (System.registryOf_retain _ other.service)
      (Nat.le_refl _)).of_registries (System.registryOf_dropReference _ file.service)
      (System.destroyed_dropReference _ file.service 0).grown

theorem Registered.onMoveFrom (registered : program.Registered) (member : file ∈ program.files)
    (otherMember : other ∈ program.files.erase file) :
    (program.onFile (.moveFrom file other)).Registered := by
  have otherFile := List.mem_of_mem_erase otherMember
  have home := registered.homes file member
  have otherHome := registered.homes other otherFile
  have books := registered.books_moveFrom member otherMember
  refine ⟨books.perm ((listed_file _).trans ((listed_file _).cons _)).symm, ?_,
    registered.bounded.onMoveFrom member otherMember⟩
  have owners := program.system.owner_moveAssign file.implementation other.implementation
  rw [home, otherHome] at owners
  rintro next (_ | ⟨_, _ | ⟨_, elsewhere⟩⟩)
  · exact owners
  · exact (program.system.owner_source_moveAssign _ _ _ _).trans otherHome
  · exact registered.homes next (List.mem_of_mem_erase (List.mem_of_mem_erase elsewhere))

theorem Registered.onOpenNew (registered : program.Registered)
    (used : 0 < program.system.references service) (path : Path) (args : OpenArgs) :
    (program.onFile (.openNew service path args)).Registered := by
  have opened := (registered.onNew used).steady (program.steady_opening service path args)
  rcases program.onFile_openNew service path args with same | same
  · exact same ▸ opened
  · have mine :
        (File.new service program.system).1 ∈ (program.opening service path args).files := by
      rw [(program.steady_opening service path args).files]
      exact List.mem_cons_self
    exact same ▸ opened.onDrop mine

end

theorem Registered.onFile (registered : program.Registered) {act : FileAct}
    (allowed : program.allows (.file act) = true) : (program.onFile act).Registered := by
  cases act with
  | new service => exact registered.onNew (by simpa [allows] using allowed)
  | openNew service path args =>
    exact registered.onOpenNew (by simpa [allows] using allowed) path args
  | take file => exact registered.onTake (by simpa [allows] using allowed)
  | moveFrom file other =>
    simp only [allows, Bool.and_eq_true, List.contains_iff_mem] at allowed
    exact registered.onMoveFrom allowed.1 allowed.2
  | drop file => exact registered.onDrop (by simpa [allows] using allowed)

theorem Registered.perform (registered : program.Registered) {act : Act}
    (allowed : program.allows act = true) (home : program.AtHome act) :
    (program.perform act).Registered := by
  cases act with
  | implementation act => exact registered.onImplementation allowed home
  | file act => exact registered.onFile allowed
  | _ => exact registered.steady (steady_perform allowed rfl)

theorem registered_fresh (host : Host) : (fresh host).Registered where
  books :=
    { wellFormed := fun _ => Registry.wellFormed_empty
      entry := fun imp => by
        simp [System.registryOf, System.service?, fresh, Registry.get?_empty, all, listed]
      nodup := List.nodup_nil
      bound := by simp [fresh, all, listed] }
  homes := by simp [fresh]
  bound service := by simp [fresh, Program.bound]

theorem Registered.run (registered : program.Registered) {acts : List Act}
    (orderly : program.Throughout (fun program act => program.ByFile act ∨ program.AtHome act)
      acts) :
    program.Throughout AtHome acts ∧ (program.run acts).Registered := by
  induction acts generalizing program with
  | nil => exact ⟨trivial, registered⟩
  | cons act rest ih =>
    have home (allowed : program.allows act = true) : program.AtHome act := by
      rcases orderly.1 allowed with through | home
      · exact registered.atHome_of_byFile allowed through
      · exact home
    have stepped : (program.step act).Registered := by
      simp only [step]
      split
      next allowed => exact registered.perform allowed (home allowed)
      next => exact registered
    have later := ih stepped orderly.2
    exact ⟨⟨home, later.1⟩, later.2⟩

/-- In a run in which every implementation is passed to the service that owns it, except perhaps
where it goes through a file object, it is so there too; and in the end each registry holds the
implementations of its service that were not destroyed, once each and nothing else, counts them and
reports what they stand on, and every file object is bound to the service that owns its
implementation. -/
theorem registries_exact (host : Host) (acts : List Act)
    (orderly : (fresh host).Throughout
      (fun program act => program.ByFile act ∨ program.AtHome act) acts) :
    (fresh host).Throughout AtHome acts ∧ ((fresh host).run acts).Exact :=
  ((registered_fresh host).run orderly).imp_right Registered.exact

theorem throughout_append {holds : Program → Act → Prop} (first rest : List Act) :
    program.Throughout holds (first ++ rest) ↔
      program.Throughout holds first ∧ (program.run first).Throughout holds rest := by
  induction first generalizing program with
  | nil => simp [Throughout]
  | cons act more ih => simp only [List.cons_append, Throughout, ih, run_cons, and_assoc]

theorem throughout_of_forall {holds : Program → Act → Prop} {acts : List Act}
    (always : ∀ act ∈ acts, ∀ program, holds program act) : program.Throughout holds acts := by
  induction acts generalizing program with
  | nil => trivial
  | cons act rest ih =>
    exact ⟨fun _ => always act List.mem_cons_self program,
      ih fun later member => always later (List.mem_cons_of_mem _ member)⟩

end Program

theorem step_second (host : Host) :
    (served host).step (.service (.start 0 {})) = { served host with
      system := { (served host).system with
        services := (served host).system.services ++
          [{ context := 0, config := {}, pool := .fresh none 1 }] } } := by
  have started : (served host).system.startService 0 {} = .ok (1, { (served host).system with
      services := (served host).system.services ++
        [{ context := 0, config := {}, pool := .fresh none 1 }] }) := by
    simp [System.startService, start_default, Except.map, served]
  have allowed : (served host).allows (.service (.start 0 {})) = true := rfl
  simp only [Program.step, allowed, Program.perform, Program.onService, started]
  rfl

/-- An implementation moves into the registry of another service, a file is taken over under the key
of an object that could not be opened, and an implementation is forgotten. -/
def movesAcross : List Act :=
  [.context .create, .service (.start 0 {})] ++
    [.service (.start 0 {}), .implementation (.construct 0), .implementation (.construct 1),
      .implementation (.moveAssign 0 ⟨⟨1, 1⟩, 0, 0⟩ 1 ⟨⟨1, 1⟩, 1, 1⟩),
      .file (.openNew 1 ⟨[0x61]⟩ .invalid), .file (.new 1), .file (.take ⟨1, ⟨⟨3, 3⟩, 1, 4⟩⟩),
      .implementation (.forget ⟨⟨1, 1⟩, 1, 2⟩)]

/-- Nothing is left in the registry that was moved out of; the other one has the target and the
source of the move and both files. -/
theorem exact_movesAcross :
    (Program.fresh (.fresh default)).Throughout
        (fun program act => program.ByFile act ∨ program.AtHome act) movesAcross ∧
      ((Program.fresh (.fresh default)).run movesAcross).system.live 0 = 0 ∧
      ((Program.fresh (.fresh default)).run movesAcross).system.live 1 = 4 := by
  have orderly : (Program.fresh (.fresh default)).Throughout
      (fun program act => program.ByFile act ∨ program.AtHome act) movesAcross := by
    apply Program.throughout_of_forall
    intro act member program
    simp only [movesAcross, List.cons_append, List.nil_append, List.mem_cons, List.not_mem_nil,
      or_false] at member
    rcases member with rfl | rfl | rfl | rfl | rfl | rfl | rfl | rfl | rfl | rfl
    all_goals simp [Program.ByFile, Program.AtHome, Program.passes]
  have exact := (Program.registries_exact (.fresh default) movesAcross orderly).2
  refine ⟨orderly, ?_, ?_⟩
  all_goals
    rw [exact.live, movesAcross, Program.run_append, run_served, Program.run_cons, step_second]
    rfl

end AsyncFiles
