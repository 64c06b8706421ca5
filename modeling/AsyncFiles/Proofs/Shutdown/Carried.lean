import AsyncFiles.Proofs.Shutdown.Standing

/-!
Files keep their states until they end. A state that an implementation stands on is taken along by
every move, in use or forgotten, to whatever service; nobody stands on it any more only once it has
come to its end. So a service that retires ends the states that are with it at that time, and those
that were moved away stay as they are.
-/
namespace AsyncFiles.Program

open Access Error Host

variable {program : Program} {state : StateId} {imp other : Implementation} {file : File}

def Bears (program : Program) (state : StateId) : Prop := ∃ imp ∈ program.all, imp.state = state

theorem Bears.cases_of_perm {rest : List Implementation} (bears : program.Bears state)
    (same : program.all.Perm (imp :: rest)) :
    imp.state = state ∨ ∃ bearer ∈ rest, bearer.state = state := by
  obtain ⟨bearer, member, own⟩ := bears
  rcases List.mem_cons.mp (same.mem_iff.mp member) with rfl | elsewhere
  · exact .inl own
  · exact .inr ⟨bearer, elsewhere, own⟩

theorem bears_onImplementation (bears : program.Bears state) {act : ImplementationAct}
    (allowed : program.allows (.implementation act) = true) :
    (program.onImplementation act).Bears state ∨
      state ∈ program.endedBy (.implementation act) := by
  cases act with
  | construct service =>
    obtain ⟨bearer, member, own⟩ := bears
    exact .inl ⟨bearer, List.mem_cons_of_mem _ member, own⟩
  | moveConstruct service otherService other =>
    simp only [allows, Bool.and_eq_true, List.contains_iff_mem] at allowed
    refine .inl ?_
    rcases bears.cases_of_perm (listed_erase allowed.2) with own | ⟨bearer, member, own⟩
    · exact ⟨(program.system.moveConstruct service otherService other).1, List.mem_cons_self, own⟩
    · exact ⟨bearer, List.mem_cons_of_mem _ (List.mem_cons_of_mem _ member), own⟩
  | moveAssign service imp otherService other =>
    simp only [allows, Bool.and_eq_true, List.contains_iff_mem] at allowed
    have taken := (program.system.state_moveAssign service imp otherService other).1
    rcases bears.cases_of_perm ((listed_erase allowed.1.2).trans
      ((listed_erase allowed.2).cons imp)) with ended | ⟨bearer, member, own⟩
    · exact .inr (List.mem_singleton.mpr ended.symm)
    · refine .inl ?_
      rcases List.mem_cons.mp member with rfl | elsewhere
      · exact ⟨_, List.mem_cons_self, taken.trans own⟩
      · exact ⟨bearer, List.mem_cons_of_mem _ (List.mem_cons_of_mem _ elsewhere), own⟩
  | destroy service imp =>
    simp only [allows, Bool.and_eq_true, List.contains_iff_mem] at allowed
    rcases bears.cases_of_perm (listed_erase allowed.2) with ended | kept
    · exact .inr (List.mem_singleton.mpr ended.symm)
    · exact .inl kept
  | forget imp =>
    simp only [allows, List.contains_iff_mem] at allowed
    obtain ⟨bearer, member, own⟩ := bears
    have same : program.all.Perm (program.onImplementation (.forget imp)).all :=
      (listed_erase allowed).trans (listed_forgotten imp).symm
    exact .inl ⟨bearer, same.mem_iff.mp member, own⟩
  | call service imp call =>
    have all := (program.steady_onCall service imp call).all
    obtain ⟨bearer, member, own⟩ := bears
    exact .inl ⟨bearer, all ▸ member, own⟩

theorem bears_onFile (bears : program.Bears state) {act : FileAct}
    (allowed : program.allows (.file act) = true) :
    (program.onFile act).Bears state ∨ state ∈ program.endedBy (.file act) := by
  cases act with
  | new service =>
    obtain ⟨bearer, member, own⟩ := bears
    exact .inl ⟨bearer, (listed_file _).mem_iff.mpr (List.mem_cons_of_mem _ member), own⟩
  | openNew service path args =>
    obtain ⟨bearer, member, own⟩ := bears
    have steady := program.steady_opening service path args
    refine .inl ⟨bearer, ?_, own⟩
    rcases program.onFile_openNew service path args with same | same
    · rw [same, steady.all]
      exact (listed_file _).mem_iff.mpr (List.mem_cons_of_mem _ member)
    · have kept : ((program.opening service path args).onFile
          (.drop (File.new service program.system).1)).all = program.all := by
        simp only [all, onFile, steady.implementations, steady.files, steady.forgotten,
          List.erase_cons_head]
      rw [same, kept]
      exact member
  | take file =>
    simp only [allows, List.contains_iff_mem] at allowed
    let taken := (file.take program.system).1
    let left := (file.take program.system).2.1
    have made : (program.onFile (.take file)).all.Perm (taken.implementation ::
        left.implementation :: listed program.implementations (program.files.erase file)
          program.forgotten) :=
      (listed_file taken).trans ((listed_file left).cons _)
    refine .inl ?_
    rcases bears.cases_of_perm (listed_eraseFile allowed) with own | ⟨bearer, member, own⟩
    · exact ⟨taken.implementation, made.mem_iff.mpr List.mem_cons_self, own⟩
    · exact ⟨bearer, made.mem_iff.mpr (List.mem_cons_of_mem _ (List.mem_cons_of_mem _ member)), own⟩
  | moveFrom file other =>
    simp only [allows, Bool.and_eq_true, List.contains_iff_mem] at allowed
    let target := (file.moveFrom other program.system).1
    let source := (file.moveFrom other program.system).2.1
    have made : (program.onFile (.moveFrom file other)).all.Perm (target.implementation ::
        source.implementation :: listed program.implementations
          ((program.files.erase file).erase other) program.forgotten) :=
      (listed_file target).trans ((listed_file source).cons _)
    have taken := (program.system.state_moveAssign file.service file.implementation other.service
      other.implementation).1
    rcases bears.cases_of_perm ((listed_eraseFile allowed.1).trans
      ((listed_eraseFile allowed.2).cons _)) with ended | ⟨bearer, member, own⟩
    · exact .inr (ended ▸ List.mem_cons_self)
    · refine .inl ?_
      rcases List.mem_cons.mp member with rfl | elsewhere
      · exact ⟨target.implementation, made.mem_iff.mpr List.mem_cons_self, taken.trans own⟩
      · exact ⟨bearer,
          made.mem_iff.mpr (List.mem_cons_of_mem _ (List.mem_cons_of_mem _ elsewhere)), own⟩
  | drop file =>
    simp only [allows, List.contains_iff_mem] at allowed
    rcases bears.cases_of_perm (listed_eraseFile allowed) with ended | kept
    · exact .inr (ended ▸ List.mem_cons_self)
    · exact .inl kept

theorem bears_step (bears : program.Bears state) (act : Act) :
    (program.step act).Bears state ∨ state ∈ program.ended act := by
  simp only [step, ended]
  split
  next allowed =>
    cases act with
    | implementation act => exact bears_onImplementation bears allowed
    | file act => exact bears_onFile bears allowed
    | context | service | owner | work | outside =>
      obtain ⟨bearer, member, own⟩ := bears
      exact .inl ⟨bearer, (steady_perform allowed rfl).all ▸ member, own⟩
  next => exact .inl bears

theorem bears_run (bears : program.Bears state) {acts : List Act}
    (spared : ¬ program.EndsIn state acts) : (program.run acts).Bears state := by
  induction acts generalizing program with
  | nil => exact bears
  | cons act rest ih =>
    rw [endsIn_cons, not_or] at spared
    exact ih ((bears_step bears act).resolve_right spared.1) spared.2

theorem endsIn_append {first rest : List Act} :
    program.EndsIn state (first ++ rest) ↔
      program.EndsIn state first ∨ (program.run first).EndsIn state rest := by
  induction first generalizing program with
  | nil =>
    have never : ¬ program.EndsIn state [] := by
      rintro ⟨before, act, after, same, _⟩
      simp at same
    simp [never]
  | cons act first ih => rw [List.cons_append, endsIn_cons, endsIn_cons, ih, run_cons, or_assoc]

theorem changes_append (program : Program) (state : StateId) (first rest : List Act) :
    program.changes state (first ++ rest) =
      program.changes state first + (program.run first).changes state rest := by
  induction first generalizing program with
  | nil => simp [changes]
  | cons act first ih => rw [List.cons_append, changes, changes, ih, run_cons, Nat.add_assoc]

variable {service : ServiceId} {act : Act}

structure ShutsDown (program : Program) (service : ServiceId) (act : Act) : Prop where
  up : program.system.isShutDown service = false
  down : (program.step act).system.isShutDown service = true

theorem ShutsDown.retires (shuts : program.ShutsDown service act) :
    program.allows act = true ∧ program.Retires service act := by
  have up := shuts.up
  have down := shuts.down
  simp only [step] at down
  split at down
  next allowed =>
    refine ⟨allowed, ?_⟩
    by_contra stays
    rw [isShutDown_kept allowed stays, up] at down
    cases down
  next =>
    rw [up] at down
    cases down

theorem Registered.ended_iff (registered : program.Registered)
    (shuts : program.ShutsDown service act) (member : imp ∈ program.all) :
    imp.state ∈ program.ended act ↔ imp.owner = service := by
  obtain ⟨allowed, retires⟩ := shuts.retires
  have ends := registered.endedBy_perm allowed retires fun _ => shuts.up
  rw [ended, if_pos allowed, ends.mem_iff, registered.mem_registrants member]

end AsyncFiles.Program
