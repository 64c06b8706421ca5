import AsyncFiles.Proofs.Completion.Waiting
import AsyncFiles.Proofs.Shutdown.Closings
import AsyncFiles.Proofs.Shutdown.Restaffed
import AsyncFiles.Proofs.Shutdown.Staffed

namespace AsyncFiles

open Access Error Host

theorem eq_of_countP_one {Element : Type} {holds : Element → Bool} {elements : List Element}
    {first second : Element} (once : elements.countP holds = 1) (member : first ∈ elements)
    (mine : holds first = true) (also : second ∈ elements) (theirs : holds second = true) :
    first = second := by
  rw [List.countP_eq_length_filter, List.length_eq_one_iff] at once
  obtain ⟨only, single⟩ := once
  have alone {element : Element} (known : element ∈ elements) (has : holds element = true) :
      element = only := by
    have kept := List.mem_filter.mpr ⟨known, has⟩
    rwa [single, List.mem_singleton] at kept
  rw [alone member mine, alone also theirs]

namespace Program

variable {program : Program} {service : ServiceId} {ticket : Nat} {act : Act}

/-- An operation was answered as aborted, and no service has it to do; its handler is called with
that answer if with any. -/
structure Rejected (program : Program) (ticket : Nat) (operation : Operation Ticket) : Prop where
  replied : program.Replied operation operation.aborted
  nowhere : ∀ service, program.system.queued service ticket = 0 ∧
    program.system.held service ticket = 0
  called : ∀ context invocation, (context, invocation) ∈ program.invoked →
    invocation.handler = some ticket →
      context = operation.context ∧ invocation.completion = some operation.aborted

theorem Accounted.rejected (accounted : program.Accounted) {start : Initiation}
    (found : program.initiated[ticket]? = some start)
    (replied : program.Replied start.operation start.operation.aborted) :
    program.Rejected ticket start.operation := by
  have own := accounted.numbered ticket start found
  have once := accounted.once ticket start found
  let calls (entry : ContextId × Invocation Ticket) : Bool :=
    entry.1 = start.operation.context && entry.2.handler = some ticket
  have answered : 0 < program.system.posted start.operation.context ticket ∨
      (start.operation.context, reply start.operation start.operation.aborted) ∈ program.invoked ∧
        0 < program.called start.operation.context ticket := by
    rcases replied with ⟨queue, present, member⟩ | called
    · refine .inl ?_
      simp only [System.posted, present, Option.map_some, Option.getD_some]
      exact List.countP_pos_iff.mpr ⟨_, member, by simp [reply, own]⟩
    · exact .inr ⟨called, List.countP_pos_iff.mpr ⟨_, called, by simp [reply, own]⟩⟩
  rw [places] at once
  refine ⟨replied, fun service => ?_, fun context invocation member mine => ?_⟩
  · by_cases home : service = start.service
    · subst home
      omega
    · exact accounted.with_own_service found home
  · have here : context = start.operation.context := by
      by_contra elsewhere
      have none := (accounted.in_own_context found elsewhere).2
      exact absurd (by simpa using mine) (List.countP_eq_zero.mp none _ member)
    subst here
    have counted : 0 < program.called start.operation.context ticket :=
      List.countP_pos_iff.mpr ⟨_, member, by simpa using mine⟩
    obtain ⟨called, _⟩ := answered.resolve_left (by omega)
    have single : program.invoked.countP calls = 1 := by
      change program.called start.operation.context ticket = 1
      omega
    have same := eq_of_countP_one single member (by simpa [calls] using mine) called
      (by simp [calls, reply, own])
    cases same
    exact ⟨rfl, rfl⟩

theorem submit_replied (accounted : program.Accounted) (staffed : program.system.Staffed)
    (down : program.system.isShutDown service = true) {found : Service Ticket}
    (present : program.system.service? service = some found) (imp : Implementation)
    (request : Request) (buffers : List Bytes) :
    let operation := program.operation found.context imp request buffers
    let later := program.submit service imp request buffers
    later.system.host = program.system.host ∧
      later.initiated = program.initiated ++ [⟨service, operation⟩] ∧
      later.Replied operation operation.aborted := by
  intro operation later
  have accountedLater : later.Accounted := accounted.submit service imp request buffers
  have running := staffed.of_service present
  rw [show found.shutDown = true by simpa [System.isShutDown, present] using down] at running
  have started : later.initiated = program.initiated ++ [⟨service, operation⟩] := by
    simp only [later, submit, present, operation]
  have system : later.system = ((program.system.workStarted found.context).deliver operation
      (.error .aborted) buffers).workFinished found.context := by
    simp only [later, submit, present, System.submit, running.refuses]
    rfl
  have queues : later.system.queues = program.system.queues.modify operation.context fun queue =>
      queue ++ [reply operation operation.aborted] := by
    rw [system, (System.quiet_workFinished _ found.context).queues, System.deliver,
      System.queues_post, System.queues_workStarted]
    rfl
  have bound : operation.context < program.system.queues.length := by
    have known := accountedLater.contexts ⟨service, operation⟩ (by simp [started])
    rwa [queues, List.length_modify] at known
  exact ⟨by rw [system]; rfl, started, replied_of_post bound queues⟩

def Abandons (program : Program) (service : ServiceId) (act : Act) : Prop :=
  0 < program.system.references service ∧ (program.step act).system.references service = 0

theorem Registered.retires_of_abandons (registered : program.Registered)
    (abandons : program.Abandons service act) :
    program.allows act = true ∧ program.Retires service act ∧
      act ≠ .service (.shutdown service) := by
  obtain ⟨used, gone⟩ := abandons
  simp only [step] at gone
  split at gone
  next allowed =>
    refine ⟨allowed, ?_, ?_⟩
    · by_contra stays
      have still := registered.used_perform allowed stays used
      omega
    · rintro rfl
      have same := program.system.references_shutdown service service
      change (program.system.shutdown service).references service = 0 at gone
      omega
  next => omega

/-- What a first shutdown makes of a program: the files of the service are closed, they and all
others stay where they are registered, and no other service is touched. -/
structure ClosesDown (program later : Program) (service : ServiceId) : Prop where
  empties : program.Empties later service
  all : later.all = program.all
  found : ∀ imp ∈ program.all,
    (later.system.registryOf imp.owner).get? imp.key = some imp.state
  registries : ∀ other, later.system.registryOf other = program.system.registryOf other
  others : ∀ other, other ≠ service → later.system.service? other = program.system.service? other

/-- What can be done with a service that is shut down. Synchronous calls, questions about the files
among them, give the same answers and come to the same, one or many, as if it stood in any other
way; an operation that is started with it is answered as aborted, without a call of the host, and
has no other fate; another shutdown does nothing; and with the last reference the files that are
registered then are closed. -/
structure Down (program : Program) (service : ServiceId) : Prop where
  answers : ∀ standing act, program.allows act = true →
    (program.restaff service standing).answer act = program.answer act
  calls : ∀ standing acts,
    program.Throughout (fun program act =>
      act.leisurely = true ∧ ¬ program.Retires service act) acts →
    (program.restaff service standing).run acts = (program.run acts).restaff service standing
  rejects : ∀ imp request buffers,
    let act := Act.implementation (.call service imp (.submit request buffers))
    program.allows act = true →
      (program.step act).system.host = program.system.host ∧
      ∃ operation, (program.step act).initiated = program.initiated ++ [⟨service, operation⟩] ∧
        operation.request = request ∧ operation.buffers = buffers ∧
        ∀ acts, ((program.step act).run acts).Rejected program.initiated.length operation
  again : program.step (.service (.shutdown service)) = program
  last : ∀ act, program.Abandons service act → program.Empties (program.step act) service

theorem Registered.closesDown (registered : program.Registered)
    (used : 0 < program.system.references service)
    (up : program.system.isShutDown service = false) :
    program.ClosesDown (program.step (.service (.shutdown service))) service := by
  have allowed : program.allows (.service (.shutdown service)) = true := by
    simpa [allows] using used
  have registries (other : ServiceId) :
      (program.system.shutdown service).registryOf other = program.system.registryOf other :=
    program.system.registryOf_shutdown service other
  rw [step, if_pos allowed]
  refine ⟨registered.empties allowed rfl fun _ => up, rfl, fun imp member => ?_, registries,
    fun other apart => ?_⟩
  · exact (congrArg (Registry.get? · imp.key) (registries imp.owner)).trans
      ((registered.books.entry imp).mpr member)
  · change (program.system.shutdown service).services[other]? = _
    rw [System.services_shutdown up, List.getElem?_modify_ne _ _ (Ne.symm apart)]
    rfl

theorem Registered.down (registered : program.Registered) (accounted : program.Accounted)
    (staffed : program.system.Staffed) (down : program.system.isShutDown service = true) :
    program.Down service where
  answers standing act allowed := answer_restaff allowed standing
  calls standing acts calls := restaff_run calls
  rejects imp request buffers := by
    intro act allowed
    have used : 0 < program.system.references service := by
      simp only [act, allows, Bool.and_eq_true, decide_eq_true_eq] at allowed
      exact allowed.1
    obtain ⟨found, present⟩ := System.service_of_references used
    obtain ⟨host, started, replied⟩ :=
      submit_replied accounted staffed down present imp request buffers
    have stepped : program.step act = program.submit service imp request buffers := by
      rw [step, if_pos allowed]
      rfl
    have next := accounted.step act
    rw [stepped] at next ⊢
    refine ⟨host, _, started, rfl, rfl, fun acts => ?_⟩
    have lasting := run_keeps (fun _ _ accounted allowed => Accounted.perform accounted allowed)
      next acts
    obtain ⟨more, grown⟩ := (program.submit service imp request buffers).initiated_run acts
    let start : Initiation := ⟨service, program.operation found.context imp request buffers⟩
    have recorded : ((program.submit service imp request buffers).run acts).initiated[
        program.initiated.length]? = some start := by
      rw [← grown, started]
      simp [start]
    exact lasting.rejected recorded (replied.run next acts)
  again := by
    simp only [step, Program.perform, Program.onService, System.shutdown, down, if_true]
    split <;> rfl
  last act abandons := by
    obtain ⟨allowed, retires, other⟩ := registered.retires_of_abandons abandons
    rw [step, if_pos allowed]
    exact registered.empties allowed retires fun same => absurd same other

/-- The first shutdown of a service closes its files and touches nothing else, and whatever is done
after it finds a service that is down. -/
theorem down_after_shutdown (host : Host) (before after : List Act) {service : ServiceId}
    (orderly : (fresh host).Throughout (fun program act => program.ByFile act ∨ program.AtHome act)
      (before ++ .service (.shutdown service) :: after))
    (used : 0 < ((fresh host).run before).system.references service)
    (up : ((fresh host).run before).system.isShutDown service = false) :
    let program := (fresh host).run before
    let later := program.step (.service (.shutdown service))
    program.ClosesDown later service ∧ (later.run after).Down service := by
  intro program later
  have registered : program.Registered :=
    ((registered_fresh host).run ((throughout_append before _).mp orderly).1).2
  have reached : later.run after =
      (fresh host).run (before ++ .service (.shutdown service) :: after) := by
    rw [run_append, run_cons]
  have lasting := ((registered_fresh host).run orderly).2
  have accounted := Accounted.run host (before ++ .service (.shutdown service) :: after)
  have staffed := staffed_run host (before ++ .service (.shutdown service) :: after)
  rw [← reached] at lasting accounted staffed
  have down : later.system.isShutDown service = true := by
    have allowed : program.allows (.service (.shutdown service)) = true := by
      simpa [allows] using used
    simp only [later, step, if_pos allowed]
    exact isShutDown_retired rfl (System.length_of_references used)
  exact ⟨registered.closesDown used up,
    lasting.down accounted staffed (isShutDown_run down after)⟩

end Program

def assigned (handle : FileHandle) : Act :=
  .implementation (.call 0 ⟨⟨1, 1⟩, 0, 0⟩ (.assign handle))

def withFile : List Act :=
  [.context .create, .service (.start 0 {})] ++ [.implementation (.construct 0), assigned ⟨0⟩]

theorem run_withFile : (Program.fresh (.fresh default)).run withFile =
    (served (.fresh default)).run [.implementation (.construct 0), assigned ⟨0⟩] := by
  rw [withFile, Program.run_append, run_served]

/-- Both descriptors are closed, the first by the shutdown and the second with the last reference.
-/
theorem closed_after_shutdown :
    let program := (Program.fresh (.fresh default)).run withFile
    let later := program.step (.service (.shutdown 0))
    program.descriptors 0 = [0] ∧ program.ClosesDown later 0 ∧
      (later.step (assigned ⟨1⟩)).descriptors 0 = [1] ∧
      (later.step (assigned ⟨1⟩)).Empties
        ((later.step (assigned ⟨1⟩)).step (.service (.drop 0))) 0 := by
  intro program later
  have orderly : (Program.fresh (.fresh default)).Throughout
      (fun program act => program.ByFile act ∨ program.AtHome act)
      (withFile ++ .service (.shutdown 0) :: [assigned ⟨1⟩]) := by
    apply Program.throughout_of_forall
    intro act member program
    simp only [withFile, assigned, List.cons_append, List.nil_append, List.mem_cons,
      List.not_mem_nil, or_false] at member
    rcases member with rfl | rfl | rfl | rfl | rfl | rfl
    all_goals simp [Program.ByFile, Program.AtHome, Program.passes]
  have used : 0 < program.system.references 0 := by
    simp only [program, run_withFile]
    decide
  have up : program.system.isShutDown 0 = false := by
    simp only [program, run_withFile]
    rfl
  obtain ⟨closes, down⟩ := Program.down_after_shutdown (.fresh default) withFile [assigned ⟨1⟩]
    orderly used up
  have abandons : (later.step (assigned ⟨1⟩)).Abandons 0 (.service (.drop 0)) := by
    simp only [later, program, run_withFile]
    exact ⟨by decide, rfl⟩
  refine ⟨?_, closes, ?_, down.last _ abandons⟩
  all_goals
    simp only [later, program, run_withFile]
    rfl

end AsyncFiles
