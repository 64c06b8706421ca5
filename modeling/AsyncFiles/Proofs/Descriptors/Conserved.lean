import AsyncFiles.Proofs.Descriptors.Holdings
import AsyncFiles.Proofs.Questions

namespace AsyncFiles.Program

open Access Error Host

variable {program later : Program} {ended : List StateId}

theorem backed_of_tally
    (tally : ∀ raw, raw ≠ -1 → program.tally raw = (program.system.host.opened raw).toNat) :
    program.system.Backed := by
  intro raw number
  have counted := tally raw number
  rw [Program.tally] at counted
  omega

theorem Conserved.sound (conserved : program.Conserved) : program.system.Sound program.all :=
  ⟨backed_of_tally conserved.tally, conserved.books, conserved.borne⟩

structure Alike (program later : Program) : Prop where
  implementations : later.implementations = program.implementations
  files : later.files = program.files
  forgotten : later.forgotten = program.forgotten
  owners : later.owners = program.owners
  loose : later.loose = program.loose

theorem Alike.all (alike : program.Alike later) : later.all = program.all := by
  simp only [Program.all, alike.implementations, alike.files, alike.forgotten]

theorem Conserved.unwinds (conserved : program.Conserved)
    (unwinds : program.system.Unwinds later.system ended) (sound : later.system.Sound later.all)
    (owners : later.owners = program.owners) (loose : later.loose = program.loose)
    (homes : ∀ file ∈ later.files, file.implementation.owner = file.service)
    (bound : ∀ service, later.bound service ≤ later.system.references service) :
    program.Settles later (ended.map .state) where
  conserved :=
    { books := sound.books
      borne := sound.borne
      homes
      bound
      tally := fun raw number => by
        have before := conserved.tally raw number
        have balance := unwinds.holding raw number
        simp only [Program.tally, owned, spare, owners, loose] at before ⊢
        omega }
  closings := by
    obtain ⟨closed, sheds, own⟩ := unwinds.sheds
    refine ⟨closed, sheds, fun raw member => ?_⟩
    obtain ⟨state, among, held⟩ := own raw member
    exact ⟨.state state, List.mem_map_of_mem among, held⟩

theorem Conserved.still (conserved : program.Conserved)
    (unwinds : program.system.Unwinds later.system ended)
    (sound : later.system.Sound program.all) (alike : program.Alike later)
    (references : ∀ service, program.system.references service ≤ later.system.references service) :
    program.Settles later (ended.map .state) := by
  apply conserved.unwinds unwinds (alike.all ▸ sound) alike.owners alike.loose
  · rw [alike.files]
    exact conserved.homes
  · intro service
    rw [Program.bound, alike.files]
    exact Nat.le_trans (conserved.bound service) (references service)

theorem Conserved.busy (conserved : program.Conserved)
    (unwinds : program.system.Unwinds later.system [])
    (pools : program.system.OnlyPools later.system) (alike : program.Alike later) :
    program.Settles later [] := by
  apply conserved.still unwinds (conserved.sound.onlyPools unwinds pools) alike
  exact fun service => Nat.le_of_eq (pools.references service).symm

theorem Conserved.calm (conserved : program.Conserved)
    (unwinds : program.system.Unwinds later.system [])
    (services : later.system.services = program.system.services) (alike : program.Alike later) :
    program.Settles later [] := by
  refine conserved.busy unwinds (fun _ _ _ other => ?_) alike
  simp only [System.service?, services]

theorem Conserved.idle (conserved : program.Conserved) : program.Settles program [] :=
  conserved.calm (System.unwinds_of_states rfl (.refl _)) rfl ⟨rfl, rfl, rfl, rfl, rfl⟩

theorem Conserved.onContext (conserved : program.Conserved) (act : ContextAct) :
    program.Settles (program.onContext act) [] := by
  apply conserved.busy
  · apply System.unwinds_of_states
    all_goals
      cases act with
      | serve context =>
        simp only [Program.onContext]
        split
        all_goals first | rfl | exact .refl _
      | _ => first | rfl | exact .refl _
  · intro View view same other
    cases act with
    | serve context =>
      simp only [Program.onContext]
      split <;> rfl
    | _ => rfl
  · cases act with
    | serve context =>
      simp only [Program.onContext]
      split <;> exact ⟨rfl, rfl, rfl, rfl, rfl⟩
    | _ => exact ⟨rfl, rfl, rfl, rfl, rfl⟩

theorem service_start {Handler : Type} (system : System Handler) (found : Service Handler)
    (registry : found.registry = {}) (service : ServiceId) :
    ({ system with services := system.services ++ [found] } : System Handler).registryOf service =
        system.registryOf service ∧
      system.references service ≤
        ({ system with services := system.services ++ [found] } : System Handler).references
          service := by
  simp only [System.registryOf, System.references, System.service?]
  rcases Nat.lt_trichotomy service system.services.length with before | rfl | after
  · simp [List.getElem?_append_left before]
  · simp [registry]
  · have beyond : system.services.length + 1 ≤ service := after
    simp [List.getElem?_eq_none (Nat.le_of_lt after),
      List.getElem?_eq_none (l := system.services ++ [found]) (by simpa using beyond)]

theorem Conserved.onService (conserved : program.Conserved) {act : ServiceAct}
    (allowed : program.allows (.service act) = true) :
    program.Settles (program.onService act) (program.closers (.service act)) := by
  have sound := conserved.sound
  cases act with
  | start context config =>
    simp only [Program.onService]
    split
    next started =>
      obtain ⟨pool, _, rfl⟩ := System.started_service started
      have unwinds : program.system.Unwinds { program.system with
          services := program.system.services ++ [{ context, config, pool }] } [] :=
        System.unwinds_of_states rfl (.refl _)
      have fresh := service_start program.system { context, config, pool } rfl
      exact conserved.still unwinds
        (sound.unwinds unwinds (fun service => (fresh service).1) fun service => (fresh service).2)
        ⟨rfl, rfl, rfl, rfl, rfl⟩ fun service => (fresh service).2
    next => exact conserved.idle
  | retain service =>
    exact conserved.still (System.unwinds_of_states rfl (.refl _)) (sound.retain service)
      ⟨rfl, rfl, rfl, rfl, rfl⟩ (program.system.references_le_retain service)
  | drop service =>
    have spareOne : program.bound service < program.system.references service := by
      simpa [allows] using allowed
    refine conserved.unwinds (System.unwinds_dropReference sound.backed service)
      (sound.dropReference service) rfl rfl conserved.homes fun other => ?_
    have bounded := conserved.bound other
    have references := program.system.references_dropReference service other
    change program.bound other ≤ (program.system.dropReference service).references other
    by_cases same : other = service
    · subst same
      rw [if_pos rfl] at references
      omega
    · rw [if_neg same] at references
      omega
  | shutdown service =>
    exact conserved.still (System.unwinds_shutdown sound.backed service) (sound.shutdown service)
      ⟨rfl, rfl, rfl, rfl, rfl⟩
      fun other => Nat.le_of_eq (program.system.references_shutdown service other).symm

theorem Conserved.takes {system : System Ticket} {imp : Implementation} {handle : FileHandle}
    {loose : List FileHandle} (conserved : program.Conserved) (member : imp ∈ program.live)
    (used : 0 < program.system.references imp.owner)
    (adopts : program.system.Adopts system imp.state handle)
    (tally : ∀ raw, raw ≠ -1 →
      ({ program with system, loose } : Program).tally raw = (system.host.opened raw).toNat) :
    ({ program with system, loose } : Program).Conserved := by
  have sound := conserved.sound.adopts adopts (backed_of_tally tally) (mem_all_of_live member) used
  refine ⟨sound.books, sound.borne, conserved.homes, fun service => ?_, tally⟩
  rw [System.references_of_services adopts.services]
  exact conserved.bound service

section

variable {imp : Implementation}

theorem Conserved.onOpenPath (conserved : program.Conserved) (member : imp ∈ program.live)
    (used : 0 < program.system.references imp.owner) (path : Path) (args : OpenArgs) :
    program.Settles { program with system := (program.system.openFile imp path args).2 } [] := by
  have bound := conserved.books.bound imp (mem_all_of_live member)
  have filled := System.filled_openFile imp path args bound
  generalize program.system.openFile imp path args = outcome at filled
  cases filled with
  | opened adopts opens =>
    refine ⟨conserved.takes member used adopts fun raw number => ?_, [], opens.sheds, by simp⟩
    have before := conserved.tally raw number
    have more := adopts.holding raw number
    have wider := opens.count raw
    simp only [Program.tally, owned, spare] at before ⊢
    omega
  | failed error states services unmoved =>
    exact conserved.calm (System.unwinds_of_states states unmoved) services
      ⟨rfl, rfl, rfl, rfl, rfl⟩

theorem Conserved.onAssign (conserved : program.Conserved) (member : imp ∈ program.live)
    (used : 0 < program.system.references imp.owner) {handle : FileHandle}
    (spare : program.Spare handle) (service : ServiceId) :
    program.Settles (program.onCall service imp (.assign handle)) [] := by
  have bound := conserved.books.bound imp (mem_all_of_live member)
  have assigned := System.assigned_assign imp handle bound
  simp only [Program.onCall]
  generalize program.system.assign imp handle = outcome at assigned
  cases assigned with
  | @adopted later adopts host =>
    have unmoved : program.system.host.Unmoved later.host := host ▸ .refl _
    refine ⟨conserved.takes member used adopts fun raw number => ?_, [], unmoved.sheds, by simp⟩
    have before := conserved.tally raw number
    have more := adopts.holding raw number
    have given := spare_erase spare number
    rw [host]
    simp only [Program.tally, owned, Program.spare] at before given ⊢
    omega
  | refused error => exact conserved.idle

theorem Conserved.onRelease (conserved : program.Conserved) (service : ServiceId) :
    program.Settles (program.onCall service imp .release) [] := by
  have sound := conserved.sound.releaseState imp.state
  let released : Program :=
    { program with system := (program.system.releaseState imp.state).2 }
  change program.Settles (released.keep (program.system.releaseState imp.state).1) []
  have alike (handle : FileHandle) : (released.keep handle).system = released.system ∧
      (released.keep handle).all = program.all ∧ (released.keep handle).files = program.files ∧
      (released.keep handle).owners = program.owners := by
    simp only [keep]
    split <;> exact ⟨rfl, rfl, rfl, rfl⟩
  obtain ⟨system, all, files, owners⟩ := alike (program.system.releaseState imp.state).1
  refine ⟨⟨?_, ?_, ?_, fun service => ?_, fun raw number => ?_⟩, [], ?_, by simp⟩
  · rw [system, all]
    exact sound.books
  · rw [system, all]
    exact sound.borne
  · rw [files]
    exact conserved.homes
  · rw [system, Program.bound, files]
    exact conserved.bound service
  · have before := conserved.tally raw number
    have fewer := program.system.holding_releaseState imp.state number
    have kept := released.spare_keep (program.system.releaseState imp.state).1 number
    have same : released.spare raw = program.spare raw := rfl
    simp only [Program.tally, owned] at before ⊢
    rw [system, owners, kept, same]
    change _ = (program.system.host.opened raw).toNat
    change released.system.holding raw + _ = _ at fewer
    omega
  · rw [system]
    exact (Unmoved.refl program.system.host).sheds

theorem Conserved.onCall (conserved : program.Conserved) {service : ServiceId}
    {call : ImplementationCall}
    (allowed : program.allows (.implementation (.call service imp call)) = true)
    (proper : program.Proper (.implementation (.call service imp call))) :
    program.Settles (program.onCall service imp call)
      (program.closers (.implementation (.call service imp call))) := by
  simp only [allows, Bool.and_eq_true, decide_eq_true_eq, List.contains_iff_mem] at allowed
  obtain ⟨used, member⟩ := allowed
  have home : imp.owner = service := by
    cases call with
    | assign handle => exact proper.1
    | _ => exact proper
  rw [← home] at used
  cases call with
  | openPath path args => exact conserved.onOpenPath member used path args
  | assign handle => exact conserved.onAssign member used proper.2 service
  | close =>
    have unwinds := System.unwinds_closeState conserved.sound.backed imp.state
    exact conserved.still unwinds
      (conserved.sound.unwinds unwinds (fun _ => rfl) fun _ => Nat.le_refl _)
      ⟨rfl, rfl, rfl, rfl, rfl⟩ fun _ => Nat.le_refl _
  | release => exact conserved.onRelease service
  | cancel =>
    have services : (program.system.cancel imp).2.services = program.system.services := by
      simp only [System.cancel]
      split <;> rfl
    exact conserved.calm (program.system.unwinds_cancel imp) services ⟨rfl, rfl, rfl, rfl, rfl⟩
  | ask question =>
    have unmoved := (question.gentle_ask (program.system.handleOf imp)).unmoved program.system.host
    exact conserved.calm (System.unwinds_of_states rfl unmoved) rfl ⟨rfl, rfl, rfl, rfl, rfl⟩
  | submit request buffers =>
    simp only [Program.onCall, Program.submit]
    split
    next => exact conserved.idle
    next =>
      exact conserved.busy (program.system.unwinds_submit service imp request buffers _)
        (program.system.onlyPools_submit service imp request buffers _) ⟨rfl, rfl, rfl, rfl, rfl⟩

end

theorem Conserved.onImplementation (conserved : program.Conserved) {act : ImplementationAct}
    (allowed : program.allows (.implementation act) = true)
    (proper : program.Proper (.implementation act)) :
    program.Settles (program.onImplementation act) (program.closers (.implementation act)) := by
  have sound := conserved.sound
  have bound := conserved.bound
  cases act with
  | construct service =>
    have used : 0 < program.system.references service := by simpa [allows] using allowed
    refine conserved.unwinds (program.system.unwinds_construct service) (sound.construct used) rfl
      rfl
      conserved.homes fun other => ?_
    exact le_of_le_of_eq (bound other) (program.system.references_construct service other).symm
  | moveConstruct service otherService other =>
    simp only [allows, Bool.and_eq_true, decide_eq_true_eq, List.contains_iff_mem] at allowed
    obtain ⟨⟨used, _⟩, member⟩ := allowed
    obtain rfl : other.owner = otherService := proper
    have moved := (sound.perm (listed_erase member)).moveConstruct used
    refine conserved.unwinds (program.system.unwinds_moveConstruct service other.owner other) moved
      rfl rfl conserved.homes fun found => ?_
    exact le_of_le_of_eq (bound found)
      (program.system.references_moveConstruct service other.owner other found).symm
  | moveAssign service imp otherService other =>
    simp only [allows, Bool.and_eq_true, decide_eq_true_eq, List.contains_iff_mem] at allowed
    obtain ⟨⟨⟨_, used⟩, member⟩, otherMember⟩ := allowed
    obtain ⟨rfl, rfl⟩ : imp.owner = service ∧ other.owner = otherService := proper
    have moved := (sound.perm ((listed_erase member).trans
      ((listed_erase otherMember).cons imp))).moveAssign used
    refine conserved.unwinds
      (System.unwinds_moveAssign sound.backed imp.owner imp other.owner other)
      moved rfl rfl conserved.homes fun found => ?_
    exact le_of_le_of_eq (bound found)
      (program.system.references_moveAssign imp.owner imp other.owner other found).symm
  | destroy service imp =>
    simp only [allows, Bool.and_eq_true, decide_eq_true_eq, List.contains_iff_mem] at allowed
    obtain rfl : imp.owner = service := proper
    refine conserved.unwinds (System.unwinds_destroy sound.backed imp.owner imp)
      (sound.perm (listed_erase allowed.2)).destroy rfl rfl conserved.homes fun found => ?_
    exact le_of_le_of_eq (bound found)
      (program.system.references_destroy imp.owner imp found).symm
  | forget imp =>
    simp only [allows, List.contains_iff_mem] at allowed
    exact conserved.unwinds (System.unwinds_of_states rfl (.refl _))
      (sound.perm ((listed_erase allowed).trans (listed_forgotten imp).symm)) rfl rfl
      conserved.homes bound
  | call service imp call => exact conserved.onCall allowed proper

section

variable {service : ServiceId} {file other : File}

theorem Conserved.used_of_file (conserved : program.Conserved) (member : file ∈ program.files) :
    0 < program.system.references file.service := by
  calc
    0 < program.bound file.service := List.countP_pos_iff.mpr ⟨file, member, by simp⟩
    _ ≤ program.system.references file.service := conserved.bound file.service

theorem Conserved.onNew (conserved : program.Conserved)
    (used : 0 < program.system.references service) :
    program.Settles (program.onFile (.new service)) (program.closers (.file (.new service))) := by
  have sound := File.sound_new conserved.sound used
  refine conserved.unwinds (File.unwinds_new service program.system)
    (sound.perm (listed_file _).symm) rfl rfl ?_ fun found => ?_
  · rintro file (_ | ⟨_, member⟩)
    · rfl
    · exact conserved.homes file member
  · change (_ :: program.files).countP _ ≤ (File.new service program.system).2.references found
    rw [bound_cons, File.references_new used]
    exact Nat.add_le_add_right (conserved.bound found) _

theorem Conserved.onTake (conserved : program.Conserved) (member : file ∈ program.files) :
    program.Settles (program.onFile (.take file)) (program.closers (.file (.take file))) := by
  have home := conserved.homes file member
  have used := conserved.used_of_file member
  have sound := File.sound_take (conserved.sound.perm (listed_eraseFile member)) home used
  refine conserved.unwinds (file.unwinds_take program.system)
    (sound.perm ?_) rfl rfl ?_ fun found => ?_
  · exact ((listed_file _).trans ((listed_file _).cons _)).symm
  · rintro next (_ | ⟨_, _ | ⟨_, elsewhere⟩⟩)
    · rfl
    · exact home
    · exact conserved.homes next (List.mem_of_mem_erase elsewhere)
  · have bounded := conserved.bound found
    have fewer := bound_erase member found
    change (_ :: _ :: program.files.erase file).countP _ ≤
      (file.take program.system).2.2.references found
    rw [bound_cons, bound_cons, File.references_take used]
    rw [Program.bound] at bounded
    change _ + (if file.service = found then 1 else 0) +
      (if file.service = found then 1 else 0) ≤ _
    omega

theorem Conserved.onDrop (conserved : program.Conserved) (member : file ∈ program.files) :
    program.Settles (program.onFile (.drop file)) (program.closers (.file (.drop file))) := by
  have sound := File.sound_drop (conserved.sound.perm (listed_eraseFile member))
    (conserved.homes file member)
  refine conserved.unwinds (File.unwinds_drop conserved.sound.backed file) sound rfl rfl ?_
    fun found => ?_
  · exact fun next elsewhere => conserved.homes next (List.mem_of_mem_erase elsewhere)
  · have bounded := conserved.bound found
    have fewer := bound_erase member found
    have less := File.references_drop (conserved.used_of_file member) found
    change (program.files.erase file).countP _ ≤ (file.drop program.system).references found
    rw [Program.bound] at bounded
    omega

theorem Conserved.onMoveFrom (conserved : program.Conserved) (member : file ∈ program.files)
    (otherMember : other ∈ program.files.erase file) :
    program.Settles (program.onFile (.moveFrom file other))
      (program.closers (.file (.moveFrom file other))) := by
  have otherFile := List.mem_of_mem_erase otherMember
  have home := conserved.homes file member
  have otherHome := conserved.homes other otherFile
  have used := conserved.used_of_file otherFile
  have sound := File.sound_moveFrom (conserved.sound.perm ((listed_eraseFile member).trans
    ((listed_eraseFile otherMember).cons _))) home otherHome used
  refine conserved.unwinds (File.unwinds_moveFrom conserved.sound.backed file other)
    (sound.perm ?_) rfl rfl ?_ fun found => ?_
  · exact ((listed_file _).trans ((listed_file _).cons _)).symm
  · have owners := program.system.owner_moveAssign file.implementation other.implementation
    rw [home, otherHome] at owners
    rintro next (_ | ⟨_, _ | ⟨_, elsewhere⟩⟩)
    · exact owners
    · exact (program.system.owner_source_moveAssign _ _ _ _).trans otherHome
    · exact conserved.homes next (List.mem_of_mem_erase (List.mem_of_mem_erase elsewhere))
  · have bounded := conserved.bound found
    have fewer := bound_erase member found
    have fewest := bound_erase otherMember found
    have moved := File.references_moveFrom (conserved.used_of_file member) used found
    change (_ :: _ :: (program.files.erase file).erase other).countP _ ≤
      (file.moveFrom other program.system).2.2.references found
    rw [bound_cons, bound_cons]
    rw [Program.bound] at bounded
    change _ + (if other.service = found then 1 else 0) +
      (if other.service = found then 1 else 0) ≤ _
    omega

/-- A file that is made and opened is a file that is made, and then opened; if that fails it is
dropped again, with nothing to close. -/
theorem Conserved.onOpenNew (conserved : program.Conserved)
    (used : 0 < program.system.references service) (path : Path) (args : OpenArgs) :
    program.Settles (program.onFile (.openNew service path args)) [] := by
  let made := program.onFile (.new service)
  let file := (File.new service program.system).1
  have new : made.Conserved := (conserved.onNew used).conserved
  have host : made.system.host = program.system.host :=
    System.host_register program.system.addState.2 service program.system.states.length
  have live : file.implementation ∈ made.live := mem_live.mpr (.inr ⟨file, List.mem_cons_self, rfl⟩)
  have filled := System.filled_openFile file.implementation path args
    (new.books.bound _ (mem_all_of_live live))
  have opened := new.onOpenPath live (new.used_of_file List.mem_cons_self) path args
  simp only [Program.onFile]
  rcases File.openNew_cases service path args program.system with
    ⟨later, same, whole⟩ | ⟨error, later, same, whole⟩
  · rw [whole]
    change made.system.openFile file.implementation path args = _ at same
    rw [same] at opened
    obtain ⟨closed, sheds, own⟩ := opened.closings
    refine ⟨opened.conserved, closed, host ▸ sheds, fun raw member => ?_⟩
    obtain ⟨holder, none, _⟩ := own raw member
    cases none
  · rw [whole]
    change made.system.openFile file.implementation path args = _ at same
    rw [same] at opened filled
    cases filled with
    | failed _ states services unmoved =>
      -- The file gives its reference back, and that is not the last: its maker has one too.
      have referenced : 1 < later.references service := by
        have counted := File.references_new used service
        rw [if_pos rfl] at counted
        have same : later.references service =
            (File.new service program.system).2.references service :=
          System.references_of_services services service
        omega
      have empty : (later.state file.implementation.state).handle = .closed := by
        have fresh : program.system.states[program.system.states.length]? = none :=
          List.getElem?_eq_none (Nat.le_refl _)
        rw [System.state, states]
        rcases (File.unwinds_new service program.system).handle program.system.states.length with
          before | closed
        · exact before.trans (by rw [System.state, fresh]; rfl)
        · exact closed
      have kept : file ∈ ({ made with system := later } : Program).files := List.mem_cons_self
      have dropped := opened.conserved.onDrop kept
      have restored : ({ made with system := later } : Program).onFile (.drop file) =
          { program with system := file.drop later } := by
        simp only [Program.onFile, made, file, List.erase_cons_head]
      rw [restored] at dropped
      obtain ⟨closed, sheds, own⟩ := dropped.closings
      refine ⟨dropped.conserved, closed, Unmoved.then_sheds (host ▸ unmoved) sheds, ?_⟩
      intro raw member
      obtain ⟨holder, among, held⟩ := own raw member
      have alone : file.endedByDrop later = [] := File.endedByDrop_of_held referenced
      have natural := natural_of_opened ((sheds.mem raw).mp member).1
      simp only [closers, closedBy, alone, List.map_cons, List.map_nil, List.mem_singleton]
        at among
      rw [among] at held
      have none : (-1 : Int) = raw := congrArg FileHandle.raw (empty.symm.trans held)
      omega

theorem Conserved.onFile (conserved : program.Conserved) {act : FileAct}
    (allowed : program.allows (.file act) = true) :
    program.Settles (program.onFile act) (program.closers (.file act)) := by
  cases act with
  | new service => exact conserved.onNew (by simpa [allows] using allowed)
  | openNew service path args =>
    exact conserved.onOpenNew (by simpa [allows] using allowed) path args
  | take file => exact conserved.onTake (by simpa [allows] using allowed)
  | moveFrom file other =>
    simp only [allows, Bool.and_eq_true, List.contains_iff_mem] at allowed
    exact conserved.onMoveFrom allowed.1 allowed.2
  | drop file => exact conserved.onDrop (by simpa [allows] using allowed)

end

end AsyncFiles.Program
