import AsyncFiles.Proofs.Registrations

namespace AsyncFiles

open Access Error Host

variable {Handler : Type}

/-- The pool of a service, and whether it is shut down. -/
abbrev Standing (Handler : Type) := Pool (Task Handler) × Bool

def Service.standing (found : Service Handler) : Standing Handler := (found.pool, found.shutDown)

/-- A service that is shut down stays so; any other has its pool closed. -/
def Standing.retire (standing : Standing Handler) : Standing Handler :=
  if standing.2 then standing else (standing.1.close, true)

theorem Standing.retire_snd (standing : Standing Handler) : standing.retire.2 = true := by
  simp only [retire]
  split
  next down => exact down
  next => rfl

namespace System

variable {system middle later : System Handler} {service : ServiceId}

def standing? (system : System Handler) (service : ServiceId) : Option (Standing Handler) :=
  (system.service? service).map Service.standing

theorem isShutDown_eq (system : System Handler) (service : ServiceId) :
    system.isShutDown service = ((system.standing? service).map Prod.snd).getD false := by
  simp only [isShutDown, standing?, Option.map_map]
  rfl

theorem retire_standing (down : system.isShutDown service = true) :
    (system.standing? service).map Standing.retire = system.standing? service := by
  rw [isShutDown_eq] at down
  cases present : system.standing? service with
  | none => rfl
  | some standing =>
    rw [present] at down
    rw [Option.map_some, Standing.retire, if_pos (show standing.2 = true from down)]

def Stands (system later : System Handler) : Prop :=
  ∀ service, later.standing? service = system.standing? service

theorem Stands.trans (first : system.Stands middle) (second : middle.Stands later) :
    system.Stands later :=
  fun service => (second service).trans (first service)

theorem stands_of_services (same : later.services = system.services) : system.Stands later := by
  intro service
  simp only [standing?, service?, same]

theorem stands_updateService (system : System Handler) (service : ServiceId)
    (change : Service Handler → Service Handler)
    (same : ∀ found, (change found).standing = found.standing) :
    system.Stands (system.updateService service change) :=
  system.view_updateService service change same

theorem stands_updateRegistry (system : System Handler) (service : ServiceId)
    (change : Registry StateId → Registry StateId) :
    system.Stands (system.updateRegistry service change) :=
  system.stands_updateService service _ fun _ => rfl

theorem stands_register (system : System Handler) (service : ServiceId) (state : StateId) :
    system.Stands (system.register service state).2 := by
  simp only [register]
  split
  next => exact fun _ => rfl
  next => exact system.stands_updateRegistry service _

theorem stands_unlist (system : System Handler) (service : ServiceId) (imp : Implementation) :
    system.Stands (system.unlist service imp) := by
  simp only [unlist]
  split
  next => exact system.stands_updateRegistry service _
  next => exact fun _ => rfl

theorem stands_detach (system : System Handler) (service : ServiceId) (imp : Implementation) :
    system.Stands (system.detach service imp).2.2 := by
  simp only [detach]
  split
  next => exact system.addState.2.stands_updateRegistry service _
  next => exact fun _ => rfl

theorem stands_construct (system : System Handler) (service : ServiceId) :
    system.Stands (system.construct service).2 :=
  system.addState.2.stands_register service _

theorem stands_moveConstruct (system : System Handler) (service otherService : ServiceId)
    (other : Implementation) :
    system.Stands (system.moveConstruct service otherService other).2.2 :=
  (system.stands_detach otherService other).trans (stands_register _ service _)

theorem stands_moveAssign (system : System Handler) (service : ServiceId) (imp : Implementation)
    (otherService : ServiceId) (other : Implementation) :
    system.Stands (system.moveAssign service imp otherService other).2.2 := by
  have begun : system.Stands ((system.closeState imp.state).2.detach otherService other).2.2 :=
    stands_detach (system.closeState imp.state).2 otherService other
  simp only [moveAssign]
  split
  next => exact begun.trans (stands_updateRegistry _ service _)
  next => exact (begun.trans (stands_unlist _ service imp)).trans (stands_register _ otherService _)

theorem stands_destroy (system : System Handler) (service : ServiceId) (imp : Implementation) :
    system.Stands (system.destroy service imp) :=
  stands_unlist (system.closeState imp.state).2 service imp

theorem stands_retain (system : System Handler) (service : ServiceId) :
    system.Stands (system.retain service) :=
  system.stands_updateService service _ fun _ => rfl

theorem references_retain_other {retained service : ServiceId}
    (apart : retained ≠ service) :
    (system.retain retained).references service = system.references service := by
  simp [references, retain, service?, updateService, apart]

theorem stands_giveUp (system : System Handler) (service : ServiceId) :
    system.Stands (system.giveUp service) :=
  system.stands_updateService service _ fun _ => rfl

theorem services_shutdown (up : system.isShutDown service = false) :
    (system.shutdown service).services = system.services.modify service fun found =>
      { found with shutDown := true, pool := found.pool.close } := by
  have closed := services_closeStates (system.markShutDown service)
    ((system.markShutDown service).registered service)
  rw [shutdown, if_neg (by simp [up])]
  simp only [updatePool, updateService, closeAll, closed]
  exact List.modify_modify_eq _ _ service system.services

theorem standing_shutdown (system : System Handler) (service other : ServiceId) :
    (system.shutdown service).standing? other =
      if other = service then (system.standing? other).map Standing.retire
      else system.standing? other := by
  by_cases down : system.isShutDown service = true
  · rw [shutdown, if_pos down]
    split
    next same =>
      subst same
      rw [retire_standing down]
    next => rfl
  · have services := services_shutdown (Bool.eq_false_iff.mpr down)
    simp only [standing?, service?, services, List.getElem?_modify]
    by_cases same : other = service
    · subst same
      cases present : system.services[other]? with
      | none => simp
      | some found =>
        have running : found.shutDown = false := by
          simpa [isShutDown, service?, present] using down
        simp [Service.standing, Standing.retire, running]
    · cases system.services[other]? <;> simp [same, Ne.symm same]

theorem standing_dropReference (system : System Handler) (service other : ServiceId) :
    (system.dropReference service).standing? other =
      if other = service ∧ system.references service ≤ 1 then
        (system.standing? other).map Standing.retire
      else system.standing? other := by
  have gaveUp := system.stands_giveUp service other
  cases system.dropped_dropReference service with
  | unknown absent same =>
    rw [same, gaveUp]
    split
    next last =>
      have nothing : system.standing? other = none := by simp [standing?, last.1, absent]
      rw [nothing]
      rfl
    next => rfl
  | referenced left same => rw [same, gaveUp, if_neg (by omega)]
  | closed last down same =>
    have closed : ((system.giveUp service).closeAll service).services =
        (system.giveUp service).services := services_closeStates _ _
    have stays := stands_of_services closed other
    rw [same, stays, gaveUp]
    split
    next last => rw [last.1, retire_standing down]
    next => rfl
  | shutDown last on same =>
    rw [same, standing_shutdown, gaveUp]
    simp only [last, and_true]

end System

namespace Program

variable {program : Program} {service : ServiceId}

/-- An act that ends the use of a service: a shutdown, or the end of its last reference. -/
def Retires (program : Program) (service : ServiceId) : Act → Prop
  | .service (.shutdown other) => other = service
  | .service (.drop other) => other = service ∧ program.system.references service ≤ 1
  | .file (.drop file) => file.service = service ∧ program.system.references service ≤ 1
  | .file (.moveFrom file other) =>
    file.service = service ∧ other.service ≠ service ∧ program.system.references service ≤ 1
  | _ => False

end Program

/-- An act that gives no pool work to do. -/
def Act.leisurely : Act → Bool
  | .service (.start _ _) | .work _ _ | .implementation (.call _ _ (.submit _ _)) => false
  | _ => true

theorem Act.busy_cases (act : Act) (busy : ¬ act.leisurely = true) :
    (∃ context config, act = .service (.start context config)) ∨
      (∃ service imp request buffers,
        act = .implementation (.call service imp (.submit request buffers))) ∨
      ∃ service worker, act = .work service worker := by
  cases act with
  | service act =>
    cases act with
    | start context config => exact .inl ⟨context, config, rfl⟩
    | _ => exact absurd rfl busy
  | implementation act =>
    cases act with
    | call service imp call =>
      cases call with
      | submit request buffers => exact .inr (.inl ⟨service, imp, request, buffers, rfl⟩)
      | _ => exact absurd rfl busy
    | _ => exact absurd rfl busy
  | work service worker => exact .inr (.inr ⟨service, worker, rfl⟩)
  | _ => exact absurd rfl busy

namespace Program

variable {program : Program} {service : ServiceId}

theorem Retires.aside {act : Act} (retires : program.Retires service act) : act.aside = true := by
  cases act with
  | service act =>
    cases act with
    | start => cases retires
    | _ => rfl
  | file act => rfl
  | context | implementation | owner | work | outside => cases retires

theorem standing_drop (file : File) (system : System Ticket) (service : ServiceId) :
    (file.drop system).standing? service =
      if service = file.service ∧ system.references file.service ≤ 1 then
        (system.standing? service).map Standing.retire
      else system.standing? service := by
  have destroyed := system.stands_destroy file.service file.implementation service
  have dropped := (system.destroy file.service file.implementation).standing_dropReference
    file.service service
  rw [System.references_destroy, destroyed] at dropped
  exact dropped

theorem standing_moveFrom (file other : File) (system : System Ticket) (service : ServiceId) :
    (file.moveFrom other system).2.2.standing? service =
      if service = file.service ∧ other.service ≠ service ∧ system.references file.service ≤ 1 then
        (system.standing? service).map Standing.retire
      else system.standing? service := by
  let moved := (system.moveAssign file.service file.implementation other.service
    other.implementation).2.2
  have stands := system.stands_moveAssign file.service file.implementation other.service
    other.implementation
  simp only [File.moveFrom]
  split
  next home =>
    rw [if_neg (by rintro ⟨rfl, apart, _⟩; exact apart home.symm)]
    exact stands service
  next apart =>
    have retained := (stands.trans (moved.stands_retain other.service)) service
    have dropped := (moved.retain other.service).standing_dropReference file.service service
    rw [retained, System.references_retain_other (Ne.symm apart),
      System.references_moveAssign] at dropped
    rw [dropped]
    by_cases here : service = file.service
    · simp [here, Ne.symm apart]
    · simp [here]

theorem stands_new (program : Program) (service : ServiceId) :
    program.system.Stands (program.onFile (.new service)).system :=
  (program.system.stands_construct service).trans (System.stands_retain _ service)

theorem stands_opening (program : Program) (service : ServiceId) (path : Path) (args : OpenArgs) :
    program.system.Stands (program.opening service path args).system := by
  have services := program.services_opening service path args
  exact (program.stands_new service).trans (System.stands_of_services services)

theorem stands_openNew {service : ServiceId} (used : 0 < program.system.references service)
    (path : Path) (args : OpenArgs) :
    program.system.Stands (program.onFile (.openNew service path args)).system := by
  have stands := program.stands_opening service path args
  rcases program.onFile_openNew service path args with same | same
  · exact same ▸ stands
  · have services := program.services_opening service path args
    have held : (program.opening service path args).system.references service =
        program.system.references service + 1 := by
      have counted := File.references_new used service
      rw [if_pos rfl] at counted
      exact (System.references_of_services services service).trans counted
    intro other
    have dropped := standing_drop (File.new service program.system).1
      (program.opening service path args).system other
    have kept : ¬ (other = service ∧
        (program.opening service path args).system.references service ≤ 1) := by
      rw [held]
      omega
    rw [show (File.new service program.system).1.service = service from rfl, if_neg kept] at dropped
    rw [same]
    exact dropped.trans (stands other)

theorem standing_kept {act : Act} (allowed : program.allows act = true)
    (leisurely : act.leisurely = true) (stays : ¬ program.Retires service act) :
    (program.perform act).system.standing? service = program.system.standing? service := by
  cases act with
  | context act => exact System.stands_of_services (program.apart_onContext act).services service
  | service act =>
    cases act with
    | start => cases leisurely
    | retain other => exact program.system.stands_retain other service
    | drop other =>
      refine (program.system.standing_dropReference other service).trans (if_neg ?_)
      rintro ⟨rfl, last⟩
      exact stays ⟨rfl, last⟩
    | shutdown other =>
      exact (program.system.standing_shutdown other service).trans
        (if_neg fun same => stays same.symm)
  | implementation act =>
    cases act with
    | construct other => exact program.system.stands_construct other service
    | moveConstruct other otherService imp =>
      exact program.system.stands_moveConstruct other otherService imp service
    | moveAssign other imp otherService source =>
      exact program.system.stands_moveAssign other imp otherService source service
    | destroy other imp => exact program.system.stands_destroy other imp service
    | forget imp => rfl
    | call other imp call =>
      cases call with
      | submit => cases leisurely
      | _ => exact System.stands_of_services (program.apart_onCall other imp rfl).services service
  | file act =>
    cases act with
    | new other => exact program.stands_new other service
    | openNew other path args =>
      exact stands_openNew (by simpa [allows] using allowed) path args service
    | take file =>
      exact ((program.system.stands_moveConstruct file.service file.service
        file.implementation).trans (System.stands_retain _ file.service)) service
    | moveFrom file other =>
      refine (standing_moveFrom file other program.system service).trans (if_neg ?_)
      rintro ⟨rfl, apart, last⟩
      exact stays ⟨rfl, apart, last⟩
    | drop file =>
      refine (standing_drop file program.system service).trans (if_neg ?_)
      rintro ⟨rfl, last⟩
      exact stays ⟨rfl, last⟩
  | owner act => exact System.stands_of_services (program.apart_onOwner act).services service
  | work => cases leisurely
  | outside host => rfl

theorem standing_retired {act : Act} (retires : program.Retires service act) :
    (program.perform act).system.standing? service =
      (program.system.standing? service).map Standing.retire := by
  cases act with
  | service act =>
    cases act with
    | start | retain => cases retires
    | drop other =>
      obtain ⟨rfl, last⟩ := retires
      exact (program.system.standing_dropReference other other).trans (if_pos ⟨rfl, last⟩)
    | shutdown other =>
      cases retires
      exact (program.system.standing_shutdown service service).trans (if_pos rfl)
  | file act =>
    cases act with
    | new | openNew | take => cases retires
    | moveFrom file other =>
      obtain ⟨rfl, apart, last⟩ := retires
      exact (standing_moveFrom file other program.system file.service).trans
        (if_pos ⟨rfl, apart, last⟩)
    | drop file =>
      obtain ⟨rfl, last⟩ := retires
      exact (standing_drop file program.system file.service).trans (if_pos ⟨rfl, last⟩)
  | context | implementation | owner | work | outside => cases retires

theorem isShutDown_retired {act : Act} (retires : program.Retires service act)
    (known : service < program.system.services.length) :
    (program.perform act).system.isShutDown service = true := by
  obtain ⟨found, present⟩ := System.service_of_length known
  rw [System.isShutDown_eq, standing_retired retires, System.standing?, present]
  exact Standing.retire_snd found.standing

theorem isShutDown_kept {act : Act} (allowed : program.allows act = true)
    (stays : ¬ program.Retires service act) :
    (program.perform act).system.isShutDown service = program.system.isShutDown service := by
  have ofPools {later : System Ticket} (pools : program.system.OnlyPools later) :
      later.isShutDown service = program.system.isShutDown service := by
    simp only [System.isShutDown]
    rw [pools _ Service.shutDown fun _ _ => rfl]
  by_cases leisurely : act.leisurely = true
  · rw [System.isShutDown_eq, standing_kept allowed leisurely stays, ← System.isShutDown_eq]
  · obtain ⟨context, config, rfl⟩ | ⟨other, imp, request, buffers, rfl⟩ | ⟨other, worker, rfl⟩ :=
      act.busy_cases leisurely
    · simp only [perform, onService]
      split
      next started =>
        obtain ⟨pool, _, rfl⟩ := System.started_service started
        simp only [System.isShutDown, System.service?]
        rcases Nat.lt_trichotomy service program.system.services.length with old | rfl | none
        · rw [List.getElem?_append_left old]
        · simp
        · rw [List.getElem?_eq_none (Nat.le_of_lt none),
            List.getElem?_eq_none (by simpa using Nat.succ_le_of_lt none)]
      next => rfl
    · simp only [perform, onImplementation, onCall, submit]
      split
      next => rfl
      next => exact ofPools (program.system.onlyPools_submit other imp request buffers _)
    · simp only [perform]
      split
      next stepped => exact ofPools (System.onlyPools_workerStep stepped)
      next => rfl

theorem isShutDown_stays {act : Act} (down : program.system.isShutDown service = true) :
    (program.step act).system.isShutDown service = true := by
  simp only [step]
  split
  next allowed =>
    by_cases retires : program.Retires service act
    · have known : service < program.system.services.length := by
        cases present : program.system.service? service with
        | none => simp [System.isShutDown, present] at down
        | some found => exact (List.getElem?_eq_some_iff.mp present).1
      exact isShutDown_retired retires known
    · exact (isShutDown_kept allowed retires).trans down
  next => exact down

theorem isShutDown_run (down : program.system.isShutDown service = true) (acts : List Act) :
    (program.run acts).system.isShutDown service = true := by
  induction acts generalizing program with
  | nil => exact down
  | cons act rest ih => exact ih (isShutDown_stays down)

theorem Registered.endedBy_perm (registered : program.Registered) {act : Act}
    (allowed : program.allows act = true) (retires : program.Retires service act)
    (first : act = .service (.shutdown service) → program.system.isShutDown service = false) :
    (program.endedBy act).Perm ((program.registrants service).map Implementation.state) := by
  cases act with
  | service act =>
    cases act with
    | start | retain => cases retires
    | drop other =>
      obtain ⟨rfl, last⟩ := retires
      rw [endedBy, System.endedByDrop, if_pos last]
      exact registered.books.registered_perm other
    | shutdown other =>
      cases retires
      rw [endedBy, System.endedByShutdown, if_neg (by simp [first rfl])]
      exact registered.books.registered_perm service
  | file act =>
    cases act with
    | new | openNew | take => cases retires
    | moveFrom file other =>
      obtain ⟨rfl, apart, last⟩ := retires
      simp only [allows, Bool.and_eq_true, List.contains_iff_mem] at allowed
      have home := registered.homes file allowed.1
      have otherHome := registered.homes other (List.mem_of_mem_erase allowed.2)
      let moved := program.system.moveAssign file.service file.implementation other.service
        other.implementation
      have target : moved.1.owner = other.service := by
        have owner := program.system.owner_moveAssign file.implementation other.implementation
        rwa [home, otherHome] at owner
      have source : moved.2.1.owner = other.service :=
        (program.system.owner_source_moveAssign _ _ _ _).trans otherHome
      have before := registrants_perm ((listed_eraseFile allowed.1).trans
        ((listed_eraseFile allowed.2).cons file.implementation)) file.service
      have after := (registered.books_moveAssign allowed.1 allowed.2).of_registries
        (System.registryOf_retain _ other.service) (Nat.le_refl _)
      have left := after.registered_perm file.service
      rw [endedBy, File.endedByMove, if_neg (Ne.symm apart), System.endedByDrop,
        System.references_retain_other apart, System.references_moveAssign, if_pos last]
      simp only [List.filter_cons, target, source, home, otherHome, apart, decide_true,
        decide_false, if_true, Bool.false_eq_true, if_false, List.map_cons, moved] at before left
      exact (left.cons _).trans before.symm
    | drop file =>
      obtain ⟨rfl, last⟩ := retires
      simp only [allows, List.contains_iff_mem] at allowed
      have home := registered.homes file allowed
      have before := registrants_perm (listed_eraseFile allowed) file.service
      have after := System.books_destroy (registered.books.perm (listed_eraseFile allowed))
      rw [home] at after
      have left := after.registered_perm file.service
      rw [endedBy, File.endedByDrop, System.endedByDrop, System.references_destroy, if_pos last]
      simp only [List.filter_cons, home, decide_true, if_true, List.map_cons] at before
      exact (left.cons _).trans before.symm
  | context | implementation | owner | work | outside => cases retires

end Program

end AsyncFiles
