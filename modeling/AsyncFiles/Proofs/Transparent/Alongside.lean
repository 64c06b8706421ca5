import AsyncFiles.Proofs.Bystanders.Spared
import AsyncFiles.Proofs.Transparent.Twins

namespace AsyncFiles

open Access Error Host

theorem System.openFile_of_state {Handler : Type} (system : System Handler)
    {imp next : Implementation} (same : imp.state = next.state) (path : Path) (args : OpenArgs) :
    system.openFile imp path args = system.openFile next path args := by
  cases imp
  cases next
  cases same
  rfl

theorem Program.onCall_of_state (program : Program) (service : ServiceId)
    {imp next : Implementation} (same : imp.state = next.state) (call : ImplementationCall) :
    program.onCall service imp call = program.onCall service next call := by
  cases imp
  cases next
  cases same
  cases call <;> rfl

theorem Program.answer_of_state (program : Program) (service : ServiceId)
    {imp next : Implementation} (same : imp.state = next.state) (call : ImplementationCall) :
    program.answer (.implementation (.call service imp call)) =
      program.answer (.implementation (.call service next call)) := by
  cases imp
  cases next
  cases same
  cases call <;> rfl

theorem File.moveFrom_within {Handler : Type} (file source : File)
    (within : file.service = source.service) (system : System Handler) :
    (file.moveFrom source system).2.2 = (system.moveAssign file.service file.implementation
      source.service source.implementation).2.2 := if_pos within

theorem File.moveFrom_across {Handler : Type} (file source : File)
    (across : file.service ≠ source.service) (system : System Handler) :
    (file.moveFrom source system).2.2 = ((system.moveAssign file.service file.implementation
      source.service source.implementation).2.2.retain source.service).dropReference file.service :=
  if_neg across

namespace Exchange

def file (exchange : Exchange) (file : File) : File :=
  { file with implementation := exchange.implementation file.implementation }

def act (exchange : Exchange) : Act → Act
  | .implementation (.moveConstruct service otherService source) =>
    .implementation (.moveConstruct service otherService (exchange.implementation source))
  | .implementation (.moveAssign service imp otherService source) =>
    .implementation (.moveAssign service (exchange.implementation imp) otherService
      (exchange.implementation source))
  | .implementation (.destroy service imp) =>
    .implementation (.destroy service (exchange.implementation imp))
  | .implementation (.forget imp) => .implementation (.forget (exchange.implementation imp))
  | .implementation (.call service imp call) =>
    .implementation (.call service (exchange.implementation imp) call)
  | .file (.take file) => .file (.take (exchange.file file))
  | .file (.moveFrom file source) =>
    .file (.moveFrom (exchange.file file) (exchange.file source))
  | .file (.drop file) => .file (.drop (exchange.file file))
  | act => act

theorem file_inj {exchange : Exchange} {file next : File}
    (same : exchange.file file = exchange.file next) : file = next := by
  cases file
  cases next
  simp only [Exchange.file, File.mk.injEq] at same
  rw [same.1, exchange.implementation_inj same.2]

namespace Twins

variable {Handler : Type} {exchange : Exchange} {system other : System Handler}
  (twins : exchange.Twins system other)
include twins

theorem openFile (imp : Implementation) (path : Path) (args : OpenArgs) :
    (other.openFile (exchange.implementation imp) path args).1 =
        (system.openFile imp path args).1 ∧
      exchange.Twins (system.openFile imp path args).2
        (other.openFile (exchange.implementation imp) path args).2 := by
  rw [other.openFile_of_state (exchange.state_implementation imp)]
  have kept := System.registryOf_of_services (system.services_openFile imp path args)
    exchange.service
  obtain ⟨registry, mirrors, rfl⟩ := twins
  have opened : (system.relist exchange.service registry).openFile imp path args =
      ((system.openFile imp path args).1,
        (system.openFile imp path args).2.relist exchange.service registry) :=
    system.openFile_updateService exchange.service _ imp path args
  rw [opened]
  exact ⟨rfl, registry, kept ▸ mirrors, rfl⟩

theorem start (found : Service Handler) (empty : found.registry = {}) :
    exchange.Twins { system with services := system.services ++ [found] }
      { other with services := other.services ++ [found] } := by
  obtain ⟨present, located⟩ := twins.present
  have inside : exchange.service < system.services.length :=
    (List.getElem?_eq_some_iff.mp located).1
  have kept := (Program.service_start system found empty exchange.service).1
  obtain ⟨registry, mirrors, rfl⟩ := twins
  refine ⟨registry, kept ▸ mirrors, ?_⟩
  have moved (change : Service Handler → Service Handler) :
      (system.services ++ [found]).modify exchange.service change =
        system.services.modify exchange.service change ++ [found] := by
    apply List.ext_getElem?
    grind
  simp only [System.relist, System.updateRegistry, System.updateService, moved]

theorem newFile (service : ServiceId) :
    (File.new service other).1 = exchange.file (File.new service system).1 ∧
      exchange.Twins (File.new service system).2 (File.new service other).2 := by
  obtain ⟨imp, constructed⟩ := twins.construct service
  refine ⟨?_, constructed.updateService service _ (fun _ => rfl) (fun _ _ => rfl)⟩
  simp only [File.new, imp]
  rfl

theorem drop (file : File) : ∃ next, exchange.Twins (file.drop system) next ∧
    next.Reordered ((exchange.file file).drop other) :=
  (twins.destroy file.service file.implementation).dropReference file.service

theorem openNew (service : ServiceId) (path : Path) (args : OpenArgs) :
    (File.openNew service path args other).1 =
        (File.openNew service path args system).1.map exchange.file ∧
      ∃ next, exchange.Twins (File.openNew service path args system).2 next ∧
        next.Reordered (File.openNew service path args other).2 := by
  obtain ⟨made, constructed⟩ := twins.newFile service
  obtain ⟨answer, opened⟩ :=
    constructed.openFile (File.new service system).1.implementation path args
  have same : (exchange.file (File.new service system).1).implementation =
    exchange.implementation (File.new service system).1.implementation := rfl
  simp only [File.openNew, made, same]
  generalize (File.new service system).2.openFile _ path args = outcome at answer opened ⊢
  generalize (File.new service other).2.openFile _ path args = next at answer opened ⊢
  obtain ⟨result, later⟩ := outcome
  obtain ⟨also, further⟩ := next
  obtain rfl : also = result := answer
  cases also with
  | ok done => exact ⟨rfl, further, opened, .refl _⟩
  | error error => exact ⟨rfl, opened.drop (File.new service system).1⟩

theorem take (file : File) :
    ((exchange.file file).take other).1 = exchange.file (file.take system).1 ∧
      ((exchange.file file).take other).2.1 = exchange.file (file.take system).2.1 ∧
      exchange.Twins (file.take system).2.2 ((exchange.file file).take other).2.2 := by
  obtain ⟨moved, left, constructed⟩ :=
    twins.moveConstruct file.service file.service file.implementation
  refine ⟨?_, ?_, constructed.updateService file.service _ (fun _ => rfl) (fun _ _ => rfl)⟩
  · exact congrArg (File.mk file.service) moved
  · exact congrArg (File.mk file.service) left

theorem moveFrom {file : File} (home : file.implementation.owner = file.service)
    (source : File) :
    ((exchange.file file).moveFrom (exchange.file source) other).1 =
        exchange.file (file.moveFrom source system).1 ∧
      ((exchange.file file).moveFrom (exchange.file source) other).2.1 =
        exchange.file (file.moveFrom source system).2.1 ∧
      ∃ next, exchange.Twins (file.moveFrom source system).2.2 next ∧
        next.Reordered ((exchange.file file).moveFrom (exchange.file source) other).2.2 := by
  have tame : file.service = source.service → file.implementation.owner ≠ file.service →
      file.service = exchange.service ∨ file.implementation.owner = exchange.service →
        exchange.key file.implementation.key = file.implementation.key :=
    fun _ foreign => absurd home foreign
  obtain ⟨target, left, moved⟩ := twins.moveAssign source.implementation tame
  refine ⟨congrArg (File.mk source.service) target, congrArg (File.mk source.service) left, ?_⟩
  by_cases within : file.service = source.service
  · rw [File.moveFrom_within file source within,
      File.moveFrom_within (exchange.file file) (exchange.file source) within]
    exact ⟨_, moved, .refl _⟩
  · rw [File.moveFrom_across file source within,
      File.moveFrom_across (exchange.file file) (exchange.file source) within]
    exact (moved.retain source.service).dropReference file.service

end Twins

section

variable {α β : Type} [DecidableEq α] [DecidableEq β] {translate : α → β} {list : List α}
  {next : List β} (injective : Function.Injective translate)
  (perm : next.Perm (list.map translate))
include injective perm

theorem contains_perm (value : α) : next.contains (translate value) = list.contains value := by
  rw [Bool.eq_iff_iff, List.contains_iff_mem, List.contains_iff_mem, perm.mem_iff,
    List.mem_map_of_injective injective]

theorem erase_perm (value : α) :
    (next.erase (translate value)).Perm ((list.erase value).map translate) := by
  rw [List.map_erase injective]
  exact perm.erase _

end

/-- Everything is the same in both programs, except that the other has two slots of a registry
exchanged, its implementations listed accordingly, and its lists in any order. -/
structure Alongside (exchange : Exchange) (program other : Program) : Prop where
  system : exchange.Twins program.system other.system
  implementations :
    other.implementations.Perm (program.implementations.map exchange.implementation)
  forgotten : other.forgotten.Perm (program.forgotten.map exchange.implementation)
  files : other.files.Perm (program.files.map exchange.file)
  owners : other.owners = program.owners
  loose : other.loose = program.loose
  initiated : other.initiated = program.initiated
  serving : other.serving = program.serving
  invoked : other.invoked = program.invoked

namespace Alongside

variable {exchange : Exchange} {program other : Program}
  (alongside : exchange.Alongside program other)
include alongside

theorem bound (service : ServiceId) : other.bound service = program.bound service := by
  rw [Program.bound, Program.bound, alongside.files.countP_eq, List.countP_map]
  rfl

theorem live : other.live.Perm (program.live.map exchange.implementation) := by
  have files := alongside.files.map File.implementation
  rw [List.map_map] at files
  rw [Program.live, Program.live, List.map_append, List.map_map]
  exact alongside.implementations.append files

theorem allows (act : Act) : other.allows (exchange.act act) = program.allows act := by
  have references := alongside.system.references
  have injective : Function.Injective exchange.implementation :=
    fun _ _ same => exchange.implementation_inj same
  have apart : Function.Injective exchange.file := fun _ _ same => file_inj same
  have listed := contains_perm injective alongside.implementations
  have filed := contains_perm apart alongside.files
  cases act with
  | context act =>
    cases act with
    | leave context => simp only [Exchange.act, Program.allows, alongside.serving]
    | _ => rfl
  | service act =>
    cases act with
    | start context config =>
      simp only [Exchange.act, Program.allows, alongside.system.shared.2.1]
    | drop service => simp only [Exchange.act, Program.allows, references, alongside.bound]
    | retain service | shutdown service => simp only [Exchange.act, Program.allows, references]
  | implementation act =>
    cases act with
    | construct service => simp only [Exchange.act, Program.allows, references]
    | moveAssign service imp otherService source =>
      have rest := contains_perm injective (erase_perm injective alongside.implementations imp)
      simp only [Exchange.act, Program.allows, references, listed, rest]
    | call service imp call =>
      have alive := contains_perm injective alongside.live
      simp only [Exchange.act, Program.allows, references, alive]
    | _ => simp only [Exchange.act, Program.allows, references, listed]
  | file act =>
    cases act with
    | new service | openNew service path args =>
      simp only [Exchange.act, Program.allows, references]
    | moveFrom file source =>
      have rest := contains_perm apart (erase_perm apart alongside.files file)
      simp only [Exchange.act, Program.allows, filed, rest]
    | _ => simp only [Exchange.act, Program.allows, filed]
  | owner act => cases act <;> simp only [Exchange.act, Program.allows, alongside.owners]
  | work | outside => rfl

theorem refit : ∃ registry,
    exchange.Mirrors (program.system.registryOf exchange.service) registry ∧
      other = program.refit exchange.service (fun found => { found with registry }) other := by
  obtain ⟨registry, mirrors, same⟩ := alongside.system
  have owners := alongside.owners
  have loose := alongside.loose
  have initiated := alongside.initiated
  have serving := alongside.serving
  have invoked := alongside.invoked
  refine ⟨registry, mirrors, ?_⟩
  cases other
  simp only at same owners loose initiated serving invoked
  rw [same, owners, loose, initiated, serving, invoked]
  rfl

theorem aside {act : Act} (apart : act.apart = true) :
    exchange.Alongside (program.perform act) (other.perform act) := by
  obtain ⟨registry, mirrors, same⟩ := alongside.refit
  have lists := program.apart_perform apart
  have kept := System.registryOf_of_services lists.services exchange.service
  rw [same, Program.refit_perform _ _ _ _ apart]
  exact
    { system := ⟨registry, kept ▸ mirrors, rfl⟩
      implementations := lists.implementations ▸ alongside.implementations
      forgotten := lists.forgotten ▸ alongside.forgotten
      files := lists.files ▸ alongside.files
      owners := rfl
      loose := rfl
      initiated := rfl
      serving := rfl
      invoked := rfl }

theorem answer (act : Act) : other.answer (exchange.act act) = program.answer act := by
  cases act with
  | implementation act =>
    cases act with
    | call service imp call =>
      have same := other.answer_of_state service (exchange.state_implementation imp) call
      obtain ⟨registry, _, fitted⟩ := alongside.refit
      refine same.trans ?_
      rw [fitted]
      cases call with
      | submit request buffers => rfl
      | _ => exact program.answer_refit exchange.service _ other rfl
    | _ => rfl
  | file act =>
    cases act with
    | openNew service path args =>
      simp only [Exchange.act, Program.answer, (alongside.system.openNew service path args).1]
      cases (File.openNew service path args program.system).1 <;> rfl
    | _ => rfl
  | _ => rfl

theorem withSystem {system next : System Ticket} (twins : exchange.Twins system next) :
    exchange.Alongside { program with system } { other with system := next } :=
  { alongside with system := twins }

theorem onService (act : ServiceAct) :
    ∃ next, exchange.Alongside (program.onService act) next ∧
      next.Reordered (other.onService act) := by
  cases act with
  | start context config =>
    simp only [Program.onService, System.startService]
    cases Pool.start config with
    | error error => exact ⟨_, alongside, .refl _⟩
    | ok pool =>
      exact ⟨_, alongside.withSystem (alongside.system.start { context, config, pool } rfl),
        .refl _⟩
  | retain service =>
    exact ⟨_, alongside.withSystem (alongside.system.retain service), .refl _⟩
  | drop service =>
    obtain ⟨system, twins, reordered⟩ := alongside.system.dropReference service
    exact ⟨_, alongside.withSystem twins, _, reordered, rfl⟩
  | shutdown service =>
    obtain ⟨system, twins, reordered⟩ := alongside.system.shutdown service
    exact ⟨_, alongside.withSystem twins, _, reordered, rfl⟩

theorem submit (service : ServiceId) (imp : Implementation) (request : Request)
    (buffers : List Bytes) : exchange.Alongside (program.submit service imp request buffers)
      (other.submit service (exchange.implementation imp) request buffers) := by
  have seen := alongside.system.view Service.context (fun _ _ => rfl) service
  have begun (context : ContextId) :
      other.operation context (exchange.implementation imp) request buffers =
        program.operation context imp request buffers := by
    simp only [Program.operation, System.handleOf, state_implementation, alongside.system.state,
      alongside.initiated]
  simp only [Program.submit, begun, alongside.initiated]
  cases present : program.system.service? service with
  | none =>
    rw [present, Option.map_none, Option.map_eq_none_iff] at seen
    rw [seen]
    exact alongside
  | some found =>
    rw [present, Option.map_some] at seen
    obtain ⟨next, located, same⟩ := Option.map_eq_some_iff.mp seen
    simp only [located, same]
    exact
      { alongside with
        system := alongside.system.submit service imp request buffers _
        initiated := rfl }

theorem work (service : ServiceId) (worker : Nat) :
    exchange.Alongside (program.perform (.work service worker))
      (other.perform (.work service worker)) := by
  have stepped := alongside.system.workerStep (fun _ => false) service worker
  simp only [Program.perform]
  generalize program.system.workerStep? (fun _ => false) service worker = outcome at stepped ⊢
  generalize other.system.workerStep? (fun _ => false) service worker = next at stepped ⊢
  cases stepped with
  | none => exact alongside
  | some twins => exact alongside.withSystem twins

theorem onCall (service : ServiceId) (imp : Implementation) (call : ImplementationCall) :
    exchange.Alongside (program.onCall service imp call)
      (other.onCall service (exchange.implementation imp) call) := by
  have quiet {call : ImplementationCall}
      (apart : (Act.implementation (.call service imp call)).apart = true) :
      exchange.Alongside (program.onCall service imp call) (other.onCall service imp call) :=
    alongside.aside apart
  cases call with
  | submit request buffers => exact alongside.submit service imp request buffers
  | _ =>
    rw [other.onCall_of_state service (exchange.state_implementation imp)]
    exact quiet rfl

theorem onImplementation {act : ImplementationAct}
    (tame : ¬ exchange.Strays (.implementation act)) :
    exchange.Alongside (program.perform (.implementation act))
      (other.perform (exchange.act (.implementation act))) := by
  have injective : Function.Injective exchange.implementation :=
    fun _ _ same => exchange.implementation_inj same
  have erased := erase_perm injective alongside.implementations
  cases act with
  | construct service =>
    obtain ⟨imp, twins⟩ := alongside.system.construct service
    refine { alongside with system := twins, implementations := ?_ }
    change ((other.system.construct service).1 :: other.implementations).Perm _
    rw [imp]
    exact alongside.implementations.cons _
  | moveConstruct service otherService source =>
    obtain ⟨moved, left, twins⟩ := alongside.system.moveConstruct service otherService source
    refine { alongside with system := twins, implementations := ?_ }
    change ((other.system.moveConstruct service otherService
      (exchange.implementation source)).1 :: (other.system.moveConstruct service otherService
      (exchange.implementation source)).2.1 ::
        other.implementations.erase (exchange.implementation source)).Perm _
    rw [moved, left]
    exact ((erased source).cons _).cons _
  | moveAssign service imp otherService source =>
    have calm : service = otherService → imp.owner ≠ service →
        service = exchange.service ∨ imp.owner = exchange.service →
          exchange.key imp.key = imp.key := by
      intro within foreign near
      by_contra translated
      exact tame ⟨within, foreign, near, translated⟩
    obtain ⟨target, left, twins⟩ := alongside.system.moveAssign source calm
    refine { alongside with system := twins, implementations := ?_ }
    change ((other.system.moveAssign service (exchange.implementation imp) otherService
      (exchange.implementation source)).1 :: (other.system.moveAssign service
      (exchange.implementation imp) otherService (exchange.implementation source)).2.1 ::
        (other.implementations.erase (exchange.implementation imp)).erase
          (exchange.implementation source)).Perm _
    rw [target, left]
    exact ((erase_perm injective (erased imp) source).cons _).cons _
  | destroy service imp =>
    exact
      { alongside with
        system := alongside.system.destroy service imp
        implementations := erased imp }
  | forget imp =>
    exact
      { alongside with
        implementations := erased imp
        forgotten := alongside.forgotten.cons _ }
  | call service imp call => exact alongside.onCall service imp call

theorem onFile (homes : ∀ file ∈ program.files, file.implementation.owner = file.service)
    {act : FileAct} (allowed : program.allows (.file act) = true) :
    ∃ next, exchange.Alongside (program.perform (.file act)) next ∧
      next.Reordered (other.perform (exchange.act (.file act))) := by
  have injective : Function.Injective exchange.file := fun _ _ same => file_inj same
  have erased := erase_perm injective alongside.files
  cases act with
  | new service =>
    obtain ⟨file, twins⟩ := alongside.system.newFile service
    refine ⟨other.perform (.file (.new service)),
      { alongside with system := twins, files := ?_ }, .refl _⟩
    change ((File.new service other.system).1 :: other.files).Perm _
    rw [file]
    exact alongside.files.cons _
  | openNew service path args =>
    obtain ⟨answer, system, twins, reordered⟩ := alongside.system.openNew service path args
    simp only [Exchange.act, Program.perform, Program.onFile]
    generalize File.openNew service path args program.system = outcome at answer twins ⊢
    generalize File.openNew service path args other.system = next at answer reordered ⊢
    obtain ⟨result, later⟩ := outcome
    obtain ⟨also, further⟩ := next
    obtain rfl : also = result.map exchange.file := answer
    cases result with
    | ok file =>
      exact ⟨{ other with system, files := exchange.file file :: other.files },
        { alongside with system := twins, files := alongside.files.cons _ }, _, reordered, rfl⟩
    | error error => exact ⟨_, alongside.withSystem twins, _, reordered, rfl⟩
  | take file =>
    obtain ⟨taken, left, twins⟩ := alongside.system.take file
    refine ⟨other.perform (.file (.take (exchange.file file))),
      { alongside with system := twins, files := ?_ }, .refl _⟩
    change (((exchange.file file).take other.system).1 ::
      ((exchange.file file).take other.system).2.1 ::
        other.files.erase (exchange.file file)).Perm _
    rw [taken, left]
    exact ((erased file).cons _).cons _
  | moveFrom file source =>
    simp only [Program.allows, Bool.and_eq_true, List.contains_iff_mem] at allowed
    obtain ⟨target, left, system, twins, reordered⟩ :=
      alongside.system.moveFrom (homes file allowed.1) source
    let moved := (exchange.file file).moveFrom (exchange.file source) other.system
    refine ⟨{ other with
        system
        files := moved.1 :: moved.2.1 ::
          (other.files.erase (exchange.file file)).erase (exchange.file source) },
      { alongside with system := twins, files := ?_ }, _, reordered, rfl⟩
    simp only [moved, target, left]
    exact ((erase_perm injective (erased file) source).cons _).cons _
  | drop file =>
    obtain ⟨system, twins, reordered⟩ := alongside.system.drop file
    exact ⟨{ other with system, files := other.files.erase (exchange.file file) },
      { alongside with system := twins, files := erased file }, _, reordered, rfl⟩

theorem perform (homes : ∀ file ∈ program.files, file.implementation.owner = file.service)
    {act : Act} (allowed : program.allows act = true) (tame : ¬ exchange.Strays act) :
    ∃ next, exchange.Alongside (program.perform act) next ∧
      next.Reordered (other.perform (exchange.act act)) := by
  cases act with
  | context act => exact ⟨_, alongside.aside rfl, .refl _⟩
  | service act => exact alongside.onService act
  | implementation act => exact ⟨_, alongside.onImplementation tame, .refl _⟩
  | file act => exact alongside.onFile homes allowed
  | owner act => exact ⟨_, alongside.aside rfl, .refl _⟩
  | work service worker => exact ⟨_, alongside.work service worker, .refl _⟩
  | outside host => exact ⟨_, alongside.aside rfl, .refl _⟩

end Alongside

end Exchange

end AsyncFiles
