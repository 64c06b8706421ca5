import AsyncFiles.Proofs.Bystanders.Entries
import AsyncFiles.Proofs.Registrations

/-!
Bystanders of calls that pass implementations to services that do not own them. Each keeps what is
listed at its address, except when a move within its service goes into an implementation of another
service with the same key: that slot is written without a look at the owner.
-/
namespace AsyncFiles

open Access Error Host

/-- A move within a service into an implementation that the service does not own, with the key of
one that it does. -/
def Act.Overwrites : Act → Implementation → Prop
  | .implementation (.moveAssign taker imp giver _), bystander =>
    taker = giver ∧ imp.owner ≠ taker ∧ bystander.address = (taker, imp.key)
  | _, _ => False

namespace Program

variable {program later : Program}

structure Addressed (program : Program) : Prop where
  keyed : program.system.Keyed program.all
  homes : ∀ file ∈ program.files, file.implementation.owner = file.service

/-- Implementations that are not passed to a service keep their entries, unless overwritten. -/
structure Spares (program : Program) (act : Act) : Prop where
  addressed : (program.perform act).Addressed
  kept : ∀ bystander ∈ program.all, (∀ passed ∈ program.passes act, passed.1 ≠ bystander) →
    ¬ act.Overwrites bystander →
      (program.perform act).system.find? bystander.address =
        program.system.find? bystander.address

theorem mem_rest {imp bystander : Implementation} {all rest : List Implementation}
    (same : all.Perm (imp :: rest)) (member : bystander ∈ all) (apart : imp ≠ bystander) :
    bystander ∈ rest :=
  List.mem_of_ne_of_mem apart.symm (same.mem_iff.mp member)

theorem Addressed.of_steady (addressed : program.Addressed) (steady : program.Steady later) :
    later.Addressed where
  keyed := by
    rw [steady.all]
    exact addressed.keyed.of_registries steady.registries steady.grown
  homes := by
    rw [steady.files]
    exact addressed.homes

theorem Addressed.steady (addressed : program.Addressed) {act : Act}
    (steady : program.Steady (program.perform act)) : program.Spares act where
  addressed := addressed.of_steady steady
  kept bystander _ _ _ := System.find?_of_registries steady.registries bystander.address

theorem Addressed.onImplementation (addressed : program.Addressed) {act : ImplementationAct}
    (allowed : program.allows (.implementation act) = true) :
    program.Spares (.implementation act) := by
  have keyed := addressed.keyed
  cases act with
  | construct service =>
    have used : 0 < program.system.references service := by simpa [allows] using allowed
    obtain ⟨constructed, kept⟩ := keyed.construct (System.length_of_references used)
    exact ⟨⟨constructed, addressed.homes⟩, fun bystander member _ _ => kept bystander member⟩
  | moveConstruct service otherService other =>
    simp only [allows, Bool.and_eq_true, decide_eq_true_eq, List.contains_iff_mem] at allowed
    obtain ⟨⟨used, _⟩, member⟩ := allowed
    have listing : program.all.Perm _ := listed_erase member
    obtain ⟨moved, kept⟩ :=
      (keyed.perm listing).moveConstruct (System.length_of_references used) otherService
    refine ⟨⟨moved, addressed.homes⟩, fun bystander member apart _ => kept bystander ?_⟩
    exact mem_rest listing member (apart (other, otherService) List.mem_cons_self)
  | moveAssign service imp otherService other =>
    simp only [allows, Bool.and_eq_true, decide_eq_true_eq, List.contains_iff_mem] at allowed
    obtain ⟨⟨⟨_, used⟩, member⟩, otherMember⟩ := allowed
    have listing : program.all.Perm _ :=
      (listed_erase member).trans ((listed_erase otherMember).cons imp)
    obtain ⟨moved, kept⟩ :=
      (keyed.perm listing).moveAssign (System.length_of_references used) service
    refine ⟨⟨moved, addressed.homes⟩, fun bystander member apart spared => ?_⟩
    have notTarget := apart (imp, service) List.mem_cons_self
    have notSource := apart (other, otherService) (by simp [passes])
    have beside := mem_rest (.refl _) (mem_rest listing member notTarget) notSource
    refine (kept bystander beside).trans (if_neg ?_)
    rintro ⟨same, address⟩
    -- Only an implementation of another service can have the bystander's key.
    have foreign : imp.owner ≠ service := by
      rintro rfl
      have kin := (keyed.perm listing).address_ne (List.mem_cons_of_mem _ beside)
      exact kin address
    exact spared ⟨same, foreign, address⟩
  | destroy service imp =>
    simp only [allows, Bool.and_eq_true, decide_eq_true_eq, List.contains_iff_mem] at allowed
    have listing : program.all.Perm _ := listed_erase allowed.2
    obtain ⟨destroyed, kept⟩ := (keyed.perm listing).destroy service
    refine ⟨⟨destroyed, addressed.homes⟩, fun bystander member apart _ => kept bystander ?_⟩
    exact mem_rest listing member (apart (imp, service) List.mem_cons_self)
  | forget imp =>
    simp only [allows, List.contains_iff_mem] at allowed
    have relisted := keyed.perm ((listed_erase allowed).trans (listed_forgotten imp).symm)
    exact ⟨⟨relisted, addressed.homes⟩, fun _ _ _ _ => rfl⟩
  | call service imp call => exact addressed.steady (program.steady_onCall service imp call)

section

variable {service : ServiceId} {file other : File}

theorem Addressed.known_of_file (addressed : program.Addressed) (member : file ∈ program.files) :
    file.service < program.system.services.length := by
  have filled := addressed.keyed.filled file.implementation
    (mem_all_of_live (List.mem_append_right _ (List.mem_map_of_mem member)))
  rw [System.find?, Implementation.address, addressed.homes file member] at filled
  by_contra beyond
  have absent : program.system.service? file.service = none :=
    List.getElem?_eq_none (Nat.le_of_not_lt beyond)
  simp [System.registryOf, absent, Registry.get?_empty] at filled

theorem Addressed.onNew (addressed : program.Addressed)
    (known : service < program.system.services.length) : program.Spares (.file (.new service)) := by
  obtain ⟨constructed, kept⟩ := addressed.keyed.construct known
  let file := (File.new service program.system).1
  have retained := System.registryOf_retain (program.system.construct service).2 service
  refine ⟨⟨?_, ?_⟩, fun bystander member _ _ => ?_⟩
  · exact (constructed.of_registries retained (Nat.le_refl _)).perm (listed_file file).symm
  · rintro next (_ | ⟨_, member⟩)
    · rfl
    · exact addressed.homes next member
  · exact (System.find?_of_registries retained _).trans (kept bystander member)

theorem Addressed.onTake (addressed : program.Addressed) (member : file ∈ program.files) :
    program.Spares (.file (.take file)) := by
  have listing : program.all.Perm _ := listed_eraseFile member
  obtain ⟨moved, kept⟩ := (addressed.keyed.perm listing).moveConstruct
    (addressed.known_of_file member) file.service
  let taken := (file.take program.system).1
  let left := (file.take program.system).2.1
  have retained := System.registryOf_retain
    (program.system.moveConstruct file.service file.service file.implementation).2.2 file.service
  refine ⟨⟨?_, ?_⟩, fun bystander known apart _ => ?_⟩
  · exact (moved.of_registries retained (Nat.le_refl _)).perm
      ((listed_file taken).trans ((listed_file left).cons _)).symm
  · rintro next (_ | ⟨_, _ | ⟨_, elsewhere⟩⟩)
    · rfl
    · exact addressed.homes file member
    · exact addressed.homes next (List.mem_of_mem_erase elsewhere)
  · have beside := mem_rest listing known (apart _ List.mem_cons_self)
    exact (System.find?_of_registries retained _).trans (kept bystander beside)

theorem Addressed.onDrop (addressed : program.Addressed) (member : file ∈ program.files) :
    program.Spares (.file (.drop file)) := by
  have listing : program.all.Perm _ := listed_eraseFile member
  obtain ⟨destroyed, kept⟩ := (addressed.keyed.perm listing).destroy file.service
  let rest := program.system.destroy file.service file.implementation
  have dropped := rest.registryOf_dropReference file.service
  refine ⟨⟨?_, ?_⟩, fun bystander known apart _ => ?_⟩
  · exact destroyed.of_registries dropped (rest.destroyed_dropReference file.service 0).grown
  · intro next elsewhere
    exact addressed.homes next (List.mem_of_mem_erase elsewhere)
  · have beside := mem_rest listing known (apart _ List.mem_cons_self)
    exact (System.find?_of_registries dropped _).trans (kept bystander beside)

theorem registryOf_moveFrom (file other : File) (system : System Ticket) (service : ServiceId) :
    (file.moveFrom other system).2.2.registryOf service =
      (system.moveAssign file.service file.implementation other.service
        other.implementation).2.2.registryOf service := by
  simp only [File.moveFrom]
  split
  next => rfl
  next =>
    exact (System.registryOf_dropReference _ file.service service).trans
      (System.registryOf_retain _ other.service service)

theorem grown_moveFrom (file other : File) (system : System Ticket) :
    (system.moveAssign file.service file.implementation other.service
        other.implementation).2.2.states.length ≤
      (file.moveFrom other system).2.2.states.length := by
  simp only [File.moveFrom]
  split
  next => exact Nat.le_refl _
  next =>
    let retained := (system.moveAssign file.service file.implementation other.service
      other.implementation).2.2.retain other.service
    exact (retained.destroyed_dropReference file.service 0).grown

/-- A file object's implementation belongs to its service, so a move into it overwrites nobody. -/
theorem Addressed.onMoveFrom (addressed : program.Addressed) (member : file ∈ program.files)
    (otherMember : other ∈ program.files.erase file) :
    program.Spares (.file (.moveFrom file other)) := by
  have otherFile := List.mem_of_mem_erase otherMember
  have home := addressed.homes file member
  have otherHome := addressed.homes other otherFile
  have listing : program.all.Perm _ :=
    (listed_eraseFile member).trans ((listed_eraseFile otherMember).cons _)
  have keyed := addressed.keyed.perm listing
  obtain ⟨moved, kept⟩ := keyed.moveAssign (addressed.known_of_file otherFile) file.service
  have registries := registryOf_moveFrom file other program.system
  have grown := grown_moveFrom file other program.system
  let target := (file.moveFrom other program.system).1
  let source := (file.moveFrom other program.system).2.1
  refine ⟨⟨?_, ?_⟩, fun bystander known apart _ => ?_⟩
  · exact (moved.of_registries registries grown).perm
      ((listed_file target).trans ((listed_file source).cons _)).symm
  · have owners := program.system.owner_moveAssign file.implementation other.implementation
    rw [home, otherHome] at owners
    rintro next (_ | ⟨_, _ | ⟨_, elsewhere⟩⟩)
    · exact owners
    · exact (program.system.owner_source_moveAssign _ _ _ _).trans otherHome
    · exact addressed.homes next (List.mem_of_mem_erase (List.mem_of_mem_erase elsewhere))
  · have notTarget := apart _ List.mem_cons_self
    have notSource := apart (other.implementation, other.service) (by simp [passes])
    have beside := mem_rest (.refl _) (mem_rest listing known notTarget) notSource
    refine (System.find?_of_registries registries _).trans
      ((kept bystander beside).trans (if_neg ?_))
    rintro ⟨-, address⟩
    have kin := keyed.address_ne (List.mem_cons_of_mem _ beside)
    rw [← home] at address
    exact kin address

/-- A new object whose file cannot be opened is dropped, and takes its own entry with it. -/
theorem Addressed.onOpenNew (addressed : program.Addressed)
    (known : service < program.system.services.length) (path : Path) (args : OpenArgs) :
    program.Spares (.file (.openNew service path args)) := by
  have fresh := addressed.onNew known
  have steady := program.steady_opening service path args
  have opened : (program.opening service path args).Addressed := fresh.addressed.of_steady steady
  have kept (bystander : Implementation) (member : bystander ∈ program.all) :
      (program.opening service path args).system.find? bystander.address =
        program.system.find? bystander.address := by
    calc
      _ = (program.onFile (.new service)).system.find? bystander.address :=
        System.find?_of_registries steady.registries _
      _ = program.system.find? bystander.address :=
        fresh.kept bystander member (by simp [passes]) (by simp [Act.Overwrites])
  rcases program.onFile_openNew service path args with same | same
  all_goals change program.perform (.file (.openNew service path args)) = _ at same
  · refine ⟨?_, fun bystander member _ _ => ?_⟩ <;> rw [same]
    · exact opened
    · exact kept bystander member
  · have mine : (File.new service program.system).1 ∈
        (program.opening service path args).files := by
      rw [steady.files]
      exact List.mem_cons_self
    have dropped := opened.onDrop mine
    refine ⟨?_, fun bystander member apart _ => ?_⟩ <;> rw [same]
    · exact dropped.addressed
    · have listed : bystander ∈ (program.opening service path args).all := by
        rw [steady.all]
        exact (listed_file _).mem_iff.mpr (List.mem_cons_of_mem _ member)
      calc
        _ = (program.opening service path args).system.find? bystander.address :=
          dropped.kept bystander listed apart id
        _ = program.system.find? bystander.address := kept bystander member

end

theorem Addressed.perform (addressed : program.Addressed) {act : Act}
    (allowed : program.allows act = true) : program.Spares act := by
  cases act with
  | implementation act => exact addressed.onImplementation allowed
  | file act =>
    cases act with
    | new service =>
      have used : 0 < program.system.references service := by simpa [allows] using allowed
      exact addressed.onNew (System.length_of_references used)
    | openNew service path args =>
      have used : 0 < program.system.references service := by simpa [allows] using allowed
      exact addressed.onOpenNew (System.length_of_references used) path args
    | take file => exact addressed.onTake (by simpa [allows] using allowed)
    | moveFrom file other =>
      simp only [allows, Bool.and_eq_true, List.contains_iff_mem] at allowed
      exact addressed.onMoveFrom allowed.1 allowed.2
    | drop file => exact addressed.onDrop (by simpa [allows] using allowed)
  | _ => exact addressed.steady (steady_perform allowed rfl)

theorem addressed_fresh (host : Host) : (fresh host).Addressed where
  keyed :=
    { wellFormed := fun _ => Registry.wellFormed_empty
      filled := by simp [fresh, all, listed]
      apart := List.nodup_nil
      nodup := List.nodup_nil
      bound := by simp [fresh, all, listed] }
  homes := by simp [fresh]

theorem addressed_run (host : Host) (acts : List Act) : ((fresh host).run acts).Addressed :=
  run_keeps (fun _ _ addressed allowed => (addressed.perform allowed).addressed)
    (addressed_fresh host) acts

theorem Addressed.overwritten (addressed : program.Addressed) {taker giver : ServiceId}
    {imp other bystander : Implementation}
    (allowed : program.allows (.implementation (.moveAssign taker imp giver other)) = true)
    (member : bystander ∈ program.all)
    (apart : ∀ passed ∈ program.passes (.implementation (.moveAssign taker imp giver other)),
      passed.1 ≠ bystander)
    (overwrites :
      (Act.implementation (.moveAssign taker imp giver other)).Overwrites bystander) :
    other.state ≠ bystander.state ∧
      (program.perform (.implementation (.moveAssign taker imp giver other))).system.find?
        bystander.address = some other.state := by
  simp only [allows, Bool.and_eq_true, decide_eq_true_eq, List.contains_iff_mem] at allowed
  obtain ⟨⟨⟨_, used⟩, known⟩, otherKnown⟩ := allowed
  have listing : program.all.Perm _ :=
    (listed_erase known).trans ((listed_erase otherKnown).cons imp)
  have keyed := addressed.keyed.perm listing
  have beside := mem_rest (.refl _) (mem_rest listing member (apart _ List.mem_cons_self))
    (apart (other, giver) (by simp [passes]))
  have filled := addressed.keyed.filled bystander member
  obtain ⟨before, present⟩ := Option.isSome_iff_exists.mp filled
  have written := (keyed.moveAssign (System.length_of_references used) taker).2 bystander beside
  rw [if_pos ⟨overwrites.1, overwrites.2.2⟩, present] at written
  refine ⟨fun same => ?_, written⟩
  have alone := (List.nodup_cons.mp keyed.tail.nodup).1
  exact alone (same ▸ List.mem_map_of_mem beside)

/-- After any run, and whatever services and implementations a call then passes, a live
implementation that is not passed keeps its entry, unless the call is a move within its service into
an implementation of another one with its key. As long as it keeps it, a shutdown of its owner
closes it. -/
theorem entry_kept_iff (host : Host) (acts : List Act) {act : Act} {bystander : Implementation}
    (allowed : ((fresh host).run acts).allows act = true)
    (live : bystander ∈ ((fresh host).run acts).live)
    (apart : ∀ passed ∈ ((fresh host).run acts).passes act, passed.1 ≠ bystander)
    (own : ((fresh host).run acts).system.find? bystander.address = some bystander.state) :
    (((fresh host).run (acts ++ [act])).system.find? bystander.address = some bystander.state ↔
      ¬ act.Overwrites bystander) ∧
    (¬ act.Overwrites bystander →
      ((fresh host).run (acts ++ [act])).system.isShutDown bystander.owner = false →
        ((((fresh host).run (acts ++ [act])).system.shutdown bystander.owner).state
          bystander.state).handle = .closed) := by
  have addressed := addressed_run host acts
  have member := mem_all_of_live live
  rw [run_append, run_cons, run_nil, step, if_pos allowed]
  have kept (spared : ¬ act.Overwrites bystander) :
      (((fresh host).run acts).perform act).system.find? bystander.address =
        some bystander.state :=
    ((addressed.perform allowed).kept bystander member apart spared).trans own
  refine ⟨⟨fun still overwrites => ?_, kept⟩, fun spared on => ?_⟩
  · cases act with
    | implementation act =>
      cases act with
      | moveAssign taker imp giver other =>
        obtain ⟨different, written⟩ := addressed.overwritten allowed member apart overwrites
        rw [still, Option.some.injEq] at written
        exact different written.symm
      | _ => cases overwrites
    | _ => cases overwrites
  · have listed := System.mem_registered_of_find? (kept spared)
    rw [System.handle_shutdown, System.endedByShutdown, on]
    exact if_pos listed

end Program

/-- Two services. The first implementation of each has the same key; that of service 0 has a
file. -/
def sameKeys : List Act :=
  [.context .create, .service (.start 0 {})] ++
    [.service (.start 0 {}), .implementation (.construct 0), .implementation (.construct 0),
      .implementation (.construct 1), .implementation (.call 0 ⟨⟨1, 1⟩, 0, 0⟩ (.assign ⟨0⟩))]

def moveIntoForeign : Act :=
  .implementation (.moveAssign 0 ⟨⟨1, 1⟩, 1, 2⟩ 0 ⟨⟨2, 1⟩, 0, 1⟩)

def moveAcrossForeign : Act :=
  .implementation (.moveAssign 0 ⟨⟨1, 1⟩, 1, 2⟩ 1 ⟨⟨2, 1⟩, 0, 1⟩)

theorem run_sameKeys (rest : List Act) :
    (Program.fresh (.fresh default)).run (sameKeys ++ rest) =
      ((served (.fresh default)).step (.service (.start 0 {}))).run
        ([.implementation (.construct 0), .implementation (.construct 0),
          .implementation (.construct 1),
          .implementation (.call 0 ⟨⟨1, 1⟩, 0, 0⟩ (.assign ⟨0⟩))] ++ rest) := by
  rw [sameKeys, List.append_assoc, Program.run_append, run_served]
  rfl

theorem bystander_overwritten :
    ((Program.fresh (.fresh default)).run sameKeys).allows moveIntoForeign = true ∧
      (⟨⟨1, 1⟩, 0, 0⟩ : Implementation) ∈
        ((Program.fresh (.fresh default)).run sameKeys).live ∧
      (∀ passed ∈ ((Program.fresh (.fresh default)).run sameKeys).passes moveIntoForeign,
        passed.1 ≠ ⟨⟨1, 1⟩, 0, 0⟩) ∧
      ((Program.fresh (.fresh default)).run sameKeys).system.find? (0, ⟨1, 1⟩) = some 0 ∧
      ((Program.fresh (.fresh default)).run (sameKeys ++ [moveIntoForeign])).system.find?
        (0, ⟨1, 1⟩) = some 1 ∧
      ((((Program.fresh (.fresh default)).run (sameKeys ++ [moveIntoForeign])).system.shutdown
        0).state 0).handle = ⟨0⟩ := by
  have before := run_sameKeys []
  rw [List.append_nil] at before
  rw [before, run_sameKeys, step_second]
  exact ⟨rfl, by decide, by decide, rfl, rfl, rfl⟩

theorem bystander_kept :
    ((Program.fresh (.fresh default)).run sameKeys).system.find? (0, ⟨1, 1⟩) = some 0 ∧
      ((Program.fresh (.fresh default)).run (sameKeys ++ [moveAcrossForeign])).system.find?
        (0, ⟨1, 1⟩) = some 0 := by
  have before := run_sameKeys []
  rw [List.append_nil] at before
  have own : ((Program.fresh (.fresh default)).run sameKeys).system.find? (0, ⟨1, 1⟩) =
      some 0 := by
    rw [before, step_second]
    rfl
  have allowed :
      ((Program.fresh (.fresh default)).run sameKeys).allows moveAcrossForeign = true := by
    rw [before, step_second]
    rfl
  have live : (⟨⟨1, 1⟩, 0, 0⟩ : Implementation) ∈
      ((Program.fresh (.fresh default)).run sameKeys).live := by
    rw [before, step_second]
    decide
  have kept := Program.entry_kept_iff (.fresh default) sameKeys allowed live
    (by simp [moveAcrossForeign, Program.passes]) own
  exact ⟨own, kept.1.mpr (by simp [moveAcrossForeign, Act.Overwrites])⟩

end AsyncFiles
