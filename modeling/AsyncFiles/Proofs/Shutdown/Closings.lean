import AsyncFiles.Proofs.Descriptors.Held
import AsyncFiles.Proofs.Shutdown.Standing

namespace AsyncFiles

open Access Error Host

theorem FileHandle.calls_close (handle : FileHandle) (host : Host) :
    (handle.close host).2.calls =
      if handle.isOpen then .close handle.raw :: host.calls else host.calls := by
  simp only [FileHandle.close]
  split
  next =>
    simp only [FileHandle.lifted, Host.close]
    split
    next => rfl
    next => split <;> rfl
  next => rfl

namespace System

variable {Handler : Type} {system middle later : System Handler} {service : ServiceId}
  {ended : List StateId}

def descriptorOf? (system : System Handler) (state : StateId) : Option Int :=
  let handle := (system.state state).handle
  if handle.isOpen then some handle.raw else none

theorem descriptorOf_eq_some {state : StateId} {raw : Int} :
    system.descriptorOf? state = some raw ↔
      (system.state state).handle = ⟨raw⟩ ∧ raw ≠ -1 := by
  simp only [descriptorOf?]
  constructor
  · intro held
    split at held
    next isOpen =>
      cases held
      exact ⟨rfl, by simpa [FileHandle.isOpen] using isOpen⟩
    next => cases held
  · rintro ⟨held, number⟩
    rw [held, if_pos (by simpa [FileHandle.isOpen] using number)]

/-- The given states come to their end and nothing else happens: each gives its handle away and is
destroyed, and what they held is closed by one call each. -/
structure Clears (system later : System Handler) (ended : List StateId) : Prop where
  grown : system.states.length ≤ later.states.length
  states : ∀ state < system.states.length, later.state state =
    if state ∈ ended then (system.state state).release.2 else system.state state
  calls : ∃ closed : List Int, closed.Perm (ended.filterMap system.descriptorOf?) ∧
    later.host.calls = closed.map Call.close ++ system.host.calls
  opened : ∀ raw, later.host.opened raw = true ↔
    system.host.opened raw = true ∧ raw ∉ ended.filterMap system.descriptorOf?

theorem clears_of_states (states : later.states = system.states)
    (host : later.host = system.host) : system.Clears later [] where
  grown := Nat.le_of_eq (congrArg List.length states.symm)
  states state _ := by simp [System.state, states]
  calls := ⟨[], .nil, by rw [host]; rfl⟩
  opened raw := by simp [host]

theorem Clears.trans {first second : List StateId} (before : system.Clears middle first)
    (after : middle.Clears later second) (apart : ∀ state ∈ second, state ∉ first)
    (bound : ∀ state ∈ second, state < system.states.length) :
    system.Clears later (first ++ second) := by
  have same : second.filterMap middle.descriptorOf? = second.filterMap system.descriptorOf? := by
    refine List.filterMap_congr fun state member => ?_
    simp only [descriptorOf?]
    rw [before.states state (bound state member), if_neg (apart state member)]
  refine ⟨Nat.le_trans before.grown after.grown, fun state known => ?_, ?_, fun raw => ?_⟩
  · rw [after.states state (Nat.lt_of_lt_of_le known before.grown), before.states state known]
    by_cases late : state ∈ second
    · simp [late, apart state late]
    · simp [late]
  · obtain ⟨early, held, called⟩ := before.calls
    obtain ⟨late, holds, calls⟩ := after.calls
    rw [same] at holds
    refine ⟨late ++ early, ?_, ?_⟩
    · rw [List.filterMap_append]
      exact (holds.append held).trans List.perm_append_comm
    · rw [calls, called, List.map_append, List.append_assoc]
  · rw [after.opened, before.opened, same, List.filterMap_append, List.mem_append, not_or,
      and_assoc]

theorem Clears.of_same (before : system.Clears middle ended) (states : later.states = middle.states)
    (host : later.host = middle.host) : system.Clears later ended := by
  have after := before.trans (clears_of_states states host) (by simp) (by simp)
  rwa [List.append_nil] at after

theorem clears_addState (system : System Handler) : system.Clears system.addState.2 [] where
  grown := by simp [addState]
  states state _ := by simp [state_addState]
  calls := ⟨[], .nil, rfl⟩
  opened raw := by simp [addState]

theorem clears_closeState (system : System Handler) (closed : StateId) :
    system.Clears (system.closeState closed).2 [closed] := by
  have shuts := system.host.shuts_close (system.state closed).handle
  have called := (system.state closed).handle.calls_close system.host
  refine ⟨Nat.le_of_eq (length_closeState system closed).symm, fun state known => ?_, ?_,
    fun raw => ?_⟩
  · change (system.updateState closed fun _ => (system.state closed).release.2).state state = _
    by_cases here : closed = state
    · subst here
      simp [state_updateState system _ known]
    · simp [System.state, updateState, here, Ne.symm here]
  · change ∃ shut, _ ∧ ((system.state closed).handle.close system.host).2.calls = _
    rw [called]
    simp only [List.filterMap_cons, List.filterMap_nil, descriptorOf?]
    by_cases isOpen : (system.state closed).handle.isOpen = true
    · exact ⟨[(system.state closed).handle.raw], by simp [isOpen], by simp [isOpen]⟩
    · exact ⟨[], by simp [isOpen], by simp [isOpen]⟩
  · change ((system.state closed).handle.close system.host).2.opened raw = true ↔ _
    rw [shuts.opened raw]
    simp only [List.filterMap_cons, List.filterMap_nil, descriptorOf?]
    by_cases isOpen : (system.state closed).handle.isOpen = true
    · simp [isOpen]
    · have none : (system.state closed).handle.raw = -1 := by
        simpa [FileHandle.isOpen] using isOpen
      have apart (there : system.host.opened raw = true) : raw ≠ -1 := by
        have natural := natural_of_opened there
        omega
      simpa [isOpen, none] using apart

theorem clears_closeStates {states : List StateId} (nodup : states.Nodup)
    (bound : ∀ state ∈ states, state < system.states.length) :
    system.Clears (system.closeStates states) states := by
  induction states generalizing system with
  | nil => exact clears_of_states rfl rfl
  | cons first rest ih =>
    obtain ⟨apart, distinct⟩ := List.nodup_cons.mp nodup
    have once := system.clears_closeState first
    have known (state : StateId) (member : state ∈ rest) : state < system.states.length :=
      bound state (List.mem_cons_of_mem _ member)
    have others := ih distinct fun state member =>
      Nat.lt_of_lt_of_le (known state member) once.grown
    exact once.trans others
      (fun state member here => apart (List.mem_singleton.mp here ▸ member)) known

theorem clears_shutdown (up : system.isShutDown service = false)
    (nodup : (system.registered service).Nodup)
    (bound : ∀ state ∈ system.registered service, state < system.states.length) :
    system.Clears (system.shutdown service) (system.registered service) := by
  have marked : system.Clears (system.markShutDown service) [] := clears_of_states rfl rfl
  have closed : (system.markShutDown service).Clears _ _ := clears_closeStates nodup bound
  rw [shutdown, if_neg (by simp [up]), closeAll, registered_markShutDown]
  exact (marked.trans closed (by simp) bound).of_same rfl rfl

theorem clears_dropReference (last : system.references service ≤ 1)
    (nodup : (system.registered service).Nodup)
    (bound : ∀ state ∈ system.registered service, state < system.states.length) :
    system.Clears (system.dropReference service) (system.registered service) := by
  have gaveUp : system.Clears (system.giveUp service) [] := clears_of_states rfl rfl
  have same := system.registered_giveUp service
  cases system.dropped_dropReference service with
  | unknown absent gone =>
    have empty : system.registered service = [] := by simp [registered, absent]
    rw [gone, empty]
    exact gaveUp
  | referenced left gone => omega
  | closed _ down gone =>
    have closed : (system.giveUp service).Clears _ _ := clears_closeStates nodup bound
    rw [gone, closeAll, same]
    exact gaveUp.trans closed (by simp) bound
  | shutDown _ on gone =>
    have closed : (system.giveUp service).Clears _ _ :=
      clears_shutdown ((system.isShutDown_giveUp service).trans on) (same ▸ nodup) (same ▸ bound)
    rw [same] at closed
    rw [gone]
    exact gaveUp.trans closed (by simp) bound

theorem Clears.dropReference {later : System Handler} {closed : StateId}
    (once : system.Clears later [closed]) (last : later.references service ≤ 1)
    (nodup : (closed :: later.registered service).Nodup)
    (bound : ∀ state ∈ closed :: later.registered service, state < system.states.length) :
    system.Clears (later.dropReference service) (closed :: later.registered service) := by
  obtain ⟨fresh, distinct⟩ := List.nodup_cons.mp nodup
  have known (state : StateId) (member : state ∈ later.registered service) :=
    bound state (List.mem_cons_of_mem _ member)
  have rest := clears_dropReference last distinct fun state member =>
    Nat.lt_of_lt_of_le (known state member) once.grown
  exact once.trans rest (fun state member here => fresh (List.mem_singleton.mp here ▸ member)) known

theorem clears_moveAssign (system : System Handler) (service : ServiceId) (imp : Implementation)
    (otherService : ServiceId) (other : Implementation) :
    system.Clears (system.moveAssign service imp otherService other).2.2 [imp.state] := by
  have closed := system.clears_closeState imp.state
  have begun := closed.trans (clears_addState _) (by simp) (by simp)
  rw [List.append_nil] at begun
  apply begun.of_same
  · exact (states_moveAssign ..).trans rfl
  · simp only [moveAssign]
    split
    next => exact host_detach _ otherService other
    next =>
      exact ((host_register _ otherService _).trans (host_unlist _ service imp)).trans
        (host_detach _ otherService other)

theorem clears_destroy (system : System Handler) (service : ServiceId) (imp : Implementation) :
    system.Clears (system.destroy service imp) [imp.state] :=
  (system.clears_closeState imp.state).of_same (states_unlist _ service imp)
    (host_unlist _ service imp)

end System

namespace Program

variable {program later : Program} {service : ServiceId} {act : Act}

theorem Registered.clears (registered : program.Registered)
    (allowed : program.allows act = true) (retires : program.Retires service act)
    (first : act = .service (.shutdown service) → program.system.isShutDown service = false) :
    program.system.Clears (program.perform act).system (program.endedBy act) := by
  have ends := registered.endedBy_perm allowed retires first
  have nodup : (program.endedBy act).Nodup :=
    ends.nodup_iff.mpr (registered.nodup_registrants service)
  have bound : ∀ state ∈ program.endedBy act, state < program.system.states.length := by
    intro state member
    obtain ⟨imp, registrant, rfl⟩ := List.mem_map.mp (ends.mem_iff.mp member)
    exact registered.books.bound imp (List.mem_of_mem_filter registrant)
  cases act with
  | service act =>
    cases act with
    | start | retain => cases retires
    | drop other =>
      obtain ⟨rfl, last⟩ := retires
      rw [endedBy, System.endedByDrop, if_pos last] at nodup bound ⊢
      exact System.clears_dropReference last nodup bound
    | shutdown other =>
      cases retires
      have up := first rfl
      rw [endedBy, System.endedByShutdown, if_neg (by simp [up])] at nodup bound ⊢
      exact System.clears_shutdown up nodup bound
  | file act =>
    cases act with
    | new | openNew | take => cases retires
    | moveFrom file other =>
      obtain ⟨rfl, apart, last⟩ := retires
      let moved := (program.system.moveAssign file.service file.implementation other.service
        other.implementation).2.2
      have once := program.system.clears_moveAssign file.service file.implementation
        other.service other.implementation
      have retained : program.system.Clears (moved.retain other.service)
        [file.implementation.state] := once.of_same rfl rfl
      have dropped : (moved.retain other.service).references file.service ≤ 1 := by
        rwa [System.references_retain_other apart, System.references_moveAssign]
      rw [endedBy, File.endedByMove, if_neg (Ne.symm apart), System.endedByDrop, if_pos dropped]
        at nodup bound ⊢
      simp only [Program.perform, Program.onFile, File.moveFrom, if_neg (Ne.symm apart)]
      exact retained.dropReference dropped nodup bound
    | drop file =>
      obtain ⟨rfl, last⟩ := retires
      have once := program.system.clears_destroy file.service file.implementation
      have dropped : (program.system.destroy file.service file.implementation).references
          file.service ≤ 1 := by
        rwa [System.references_destroy]
      rw [endedBy, File.endedByDrop, System.endedByDrop, if_pos dropped] at nodup bound ⊢
      exact once.dropReference dropped nodup bound
  | context | implementation | owner | work | outside => cases retires

def descriptors (program : Program) (service : ServiceId) : List Int :=
  (program.registrants service).filterMap fun imp => program.system.descriptorOf? imp.state

theorem mem_descriptors {raw : Int} :
    raw ∈ program.descriptors service ↔ raw ≠ -1 ∧
      ∃ imp ∈ program.registrants service, program.system.handleOf imp = ⟨raw⟩ := by
  simp only [descriptors, List.mem_filterMap, System.descriptorOf_eq_some, System.handleOf]
  constructor
  · rintro ⟨imp, registrant, held, number⟩
    exact ⟨number, imp, registrant, held⟩
  · rintro ⟨number, imp, registrant, held⟩
    exact ⟨imp, registrant, held, number⟩

/-- The files of a service are closed: one call of the host for each that was open, and no other;
their sources are destroyed, and the files of other services are as they were. Where every
descriptor has one holder, no number is closed twice and no other file loses its own. -/
structure Empties (program later : Program) (service : ServiceId) : Prop where
  calls : ∃ closed : List Int, closed.Perm (program.descriptors service) ∧
    later.system.host.calls = closed.map Call.close ++ program.system.host.calls
  opened : ∀ raw, later.system.host.opened raw = true ↔
    program.system.host.opened raw = true ∧ raw ∉ program.descriptors service
  ended : ∀ imp ∈ program.registrants service, later.system.handleOf imp = .closed ∧
    (later.system.state imp.state).source.destroyed = true
  spared : ∀ imp ∈ program.all, imp.owner ≠ service →
    later.system.state imp.state = program.system.state imp.state
  once : program.Conserved → (program.descriptors service).Nodup ∧
    ∀ imp ∈ program.all, imp.owner ≠ service → (program.system.handleOf imp).isOpen = true →
      later.system.host.opened (program.system.handleOf imp).raw = true

theorem Registered.empties (registered : program.Registered)
    (allowed : program.allows act = true) (retires : program.Retires service act)
    (first : act = .service (.shutdown service) → program.system.isShutDown service = false) :
    program.Empties (program.perform act) service := by
  have clears := registered.clears allowed retires first
  have ends := registered.endedBy_perm allowed retires first
  have held : ((program.endedBy act).filterMap program.system.descriptorOf?).Perm
      (program.descriptors service) := by
    refine (ends.filterMap _).trans ?_
    rw [List.filterMap_map]
    exact .refl _
  have mine (imp : Implementation) (registrant : imp ∈ program.registrants service) :
      imp.state ∈ program.endedBy act :=
    ends.mem_iff.mpr (List.mem_map_of_mem registrant)
  have opened (raw : Int) : (program.perform act).system.host.opened raw = true ↔
      program.system.host.opened raw = true ∧ raw ∉ program.descriptors service := by
    rw [clears.opened, held.mem_iff]
  refine ⟨?_, opened, fun imp registrant => ?_, fun imp member apart => ?_, fun conserved => ?_⟩
  · obtain ⟨closed, same, calls⟩ := clears.calls
    exact ⟨closed, same.trans held, calls⟩
  · have known := registered.books.bound imp (List.mem_of_mem_filter registrant)
    have released := clears.states imp.state known
    rw [if_pos (mine imp registrant)] at released
    rw [System.handleOf, released]
    exact ⟨rfl, rfl⟩
  · rw [clears.states imp.state (registered.books.bound imp member), if_neg]
    intro ended
    exact apart ((registered.mem_registrants member).mp (ends.mem_iff.mp ended))
  · constructor
    · have alone (state other : StateId) (raw : Int)
          (holds : raw ∈ program.system.descriptorOf? state)
          (also : raw ∈ program.system.descriptorOf? other) : state = other := by
        obtain ⟨held, number⟩ := System.descriptorOf_eq_some.mp holds
        exact conserved.sound.backed.unique number held (System.descriptorOf_eq_some.mp also).1
      have once := (registered.nodup_registrants service).filterMap alone
      rw [List.filterMap_map] at once
      exact once
    · intro imp member apart isOpen
      refine (opened _).mpr ⟨conserved.sound.backed.opened_of_handle imp.state isOpen, ?_⟩
      intro closed
      obtain ⟨number, other, registrant, held⟩ := mem_descriptors.mp closed
      have same : other.state = imp.state := conserved.sound.backed.unique number held rfl
      exact apart ((registered.mem_registrants member).mp (same ▸ List.mem_map_of_mem registrant))

theorem Registered.used_onFile (registered : program.Registered) {act : FileAct}
    (allowed : program.allows (.file act) = true) (stays : ¬ program.Retires service (.file act))
    (used : 0 < program.system.references service) :
    0 < (program.onFile act).system.references service := by
  cases act with
  | new other =>
    have otherUsed : 0 < program.system.references other := by simpa [allows] using allowed
    have more := File.references_new otherUsed service
    exact Nat.lt_of_lt_of_eq (Nat.add_pos_left used _) more.symm
  | openNew other path args =>
    have otherUsed : 0 < program.system.references other := by simpa [allows] using allowed
    have services := program.services_opening other path args
    have more (found : ServiceId) : (program.opening other path args).system.references found = _ :=
      (System.references_of_services services found).trans (File.references_new otherUsed found)
    change 0 < (program.onFile (.openNew other path args)).system.references service
    rcases program.onFile_openNew other path args with same | same
    · rw [same, more]
      exact Nat.add_pos_left used _
    · let file := (File.new other program.system).1
      have held : 0 < (program.opening other path args).system.references file.service := by
        rw [more]
        exact Nat.add_pos_left otherUsed _
      have dropped := File.references_drop held service
      rw [more] at dropped
      rw [same]
      exact Nat.lt_of_lt_of_eq used (Nat.add_right_cancel dropped).symm
  | take file =>
    simp only [allows, List.contains_iff_mem] at allowed
    have more := File.references_take (registered.bounded.used allowed) service
    exact Nat.lt_of_lt_of_eq (Nat.add_pos_left used _) more.symm
  | moveFrom file other =>
    simp only [allows, Bool.and_eq_true, List.contains_iff_mem] at allowed
    have moved := File.references_moveFrom (registered.bounded.used allowed.1)
      (registered.bounded.used (List.mem_of_mem_erase allowed.2)) service
    change 0 < (file.moveFrom other program.system).2.2.references service
    by_cases home : file.service = service
    · by_cases otherHome : other.service = service
      · rw [if_pos home, if_pos otherHome] at moved
        omega
      · have more := Nat.lt_of_not_le fun last => stays ⟨home, otherHome, last⟩
        rw [if_pos home, if_neg otherHome] at moved
        omega
    · rw [if_neg home] at moved
      omega
  | drop file =>
    simp only [allows, List.contains_iff_mem] at allowed
    have dropped := File.references_drop (registered.bounded.used allowed) service
    change 0 < (file.drop program.system).references service
    by_cases home : file.service = service
    · have more := Nat.lt_of_not_le fun last => stays ⟨home, last⟩
      rw [if_pos home] at dropped
      omega
    · rw [if_neg home] at dropped
      omega

theorem Registered.used_perform (registered : program.Registered)
    (allowed : program.allows act = true) (stays : ¬ program.Retires service act)
    (used : 0 < program.system.references service) :
    0 < (program.perform act).system.references service := by
  have ofServices {later : System Ticket} (same : later.services = program.system.services) :
      0 < later.references service := by
    rwa [System.references_of_services same]
  cases act with
  | context act => exact ofServices (program.apart_onContext act).services
  | owner act => exact ofServices (program.apart_onOwner act).services
  | outside host => exact used
  | work other worker =>
    simp only [Program.perform]
    split
    next stepped => rwa [(System.onlyPools_workerStep stepped).references]
    next => exact used
  | service act =>
    cases act with
    | start context config =>
      simp only [Program.perform, Program.onService]
      split
      next started =>
        obtain ⟨pool, _, rfl⟩ := System.started_service started
        exact Nat.lt_of_lt_of_le used
          (service_start program.system { context, config, pool } rfl service).2
      next => exact used
    | retain other =>
      exact Nat.lt_of_lt_of_le used (program.system.references_le_retain other service)
    | drop other =>
      have less := program.system.references_dropReference other service
      change 0 < (program.system.dropReference other).references service
      rw [less]
      split
      next same =>
        have more := Nat.lt_of_not_le fun last => stays ⟨same.symm, last⟩
        omega
      next => exact used
    | shutdown other =>
      exact Nat.lt_of_lt_of_eq used (program.system.references_shutdown other service).symm
  | implementation act =>
    cases act with
    | construct other =>
      exact Nat.lt_of_lt_of_eq used (program.system.references_construct other service).symm
    | moveConstruct other otherService imp =>
      exact Nat.lt_of_lt_of_eq used
        (program.system.references_moveConstruct other otherService imp service).symm
    | moveAssign other imp otherService source =>
      exact Nat.lt_of_lt_of_eq used
        (program.system.references_moveAssign other imp otherService source service).symm
    | destroy other imp =>
      exact Nat.lt_of_lt_of_eq used (program.system.references_destroy other imp service).symm
    | forget imp => exact used
    | call other imp call =>
      cases call with
      | submit request buffers =>
        simp only [Program.perform, Program.onImplementation, Program.onCall, Program.submit]
        split
        next => exact used
        next => rwa [(program.system.onlyPools_submit other imp request buffers _).references]
      | _ => exact ofServices (program.apart_onCall other imp rfl).services
  | file act => exact registered.used_onFile allowed stays used

end Program

end AsyncFiles
