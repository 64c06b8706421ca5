import AsyncFiles.Proofs.Steady

namespace AsyncFiles.Program

open Access

variable {program later : Program} {service : ServiceId} {file other : File}

def Bounded (program : Program) : Prop :=
  ∀ service, program.bound service ≤ program.system.references service

theorem Bounded.used (bounded : program.Bounded) (member : file ∈ program.files) :
    0 < program.system.references file.service := by
  calc
    0 < program.bound file.service := List.countP_pos_iff.mpr ⟨file, member, by simp⟩
    _ ≤ program.system.references file.service := bounded file.service

theorem Bounded.used_twice (bounded : program.Bounded) (member : file ∈ program.files)
    (otherMember : other ∈ program.files.erase file) (same : other.service = file.service) :
    1 < program.system.references file.service := by
  have further : 0 < (program.files.erase file).countP fun found => found.service = file.service :=
    List.countP_pos_iff.mpr ⟨other, otherMember, by simpa using same⟩
  have fewer := bound_erase member file.service
  rw [if_pos rfl] at fewer
  calc
    1 < program.bound file.service := by
      rw [Program.bound]
      omega
    _ ≤ program.system.references file.service := bounded file.service

theorem Bounded.steady (bounded : program.Bounded) (steady : program.Steady later) :
    later.Bounded := by
  intro service
  rw [Program.bound, steady.files]
  exact steady.bound service (bounded service)

theorem Bounded.onImplementation (bounded : program.Bounded) (act : ImplementationAct) :
    (program.onImplementation act).Bounded := by
  intro found
  cases act with
  | construct service =>
    exact le_of_le_of_eq (bounded found)
      (program.system.references_construct service found).symm
  | moveConstruct service otherService other =>
    exact le_of_le_of_eq (bounded found)
      (program.system.references_moveConstruct service otherService other found).symm
  | moveAssign service imp otherService other =>
    exact le_of_le_of_eq (bounded found)
      (program.system.references_moveAssign service imp otherService other found).symm
  | destroy service imp =>
    exact le_of_le_of_eq (bounded found)
      (program.system.references_destroy service imp found).symm
  | forget imp => exact bounded found
  | call service imp call => exact bounded.steady (program.steady_onCall service imp call) found

theorem Bounded.onNew (bounded : program.Bounded) (used : 0 < program.system.references service) :
    (program.onFile (.new service)).Bounded := by
  intro found
  change (_ :: program.files).countP _ ≤ (File.new service program.system).2.references found
  rw [bound_cons, File.references_new used]
  exact Nat.add_le_add_right (bounded found) _

theorem Bounded.onTake (bounded : program.Bounded) (member : file ∈ program.files) :
    (program.onFile (.take file)).Bounded := by
  intro found
  have before := bounded found
  have fewer := bound_erase member found
  change (_ :: _ :: program.files.erase file).countP _ ≤
    (file.take program.system).2.2.references found
  rw [bound_cons, bound_cons, File.references_take (bounded.used member)]
  rw [Program.bound] at before
  change _ + (if file.service = found then 1 else 0) +
    (if file.service = found then 1 else 0) ≤ _
  omega

theorem Bounded.onDrop (bounded : program.Bounded) (member : file ∈ program.files) :
    (program.onFile (.drop file)).Bounded := by
  intro found
  have before := bounded found
  have fewer := bound_erase member found
  have less := File.references_drop (bounded.used member) found
  change (program.files.erase file).countP _ ≤ (file.drop program.system).references found
  rw [Program.bound] at before
  omega

theorem Bounded.onMoveFrom (bounded : program.Bounded) (member : file ∈ program.files)
    (otherMember : other ∈ program.files.erase file) :
    (program.onFile (.moveFrom file other)).Bounded := by
  intro found
  have otherFile := List.mem_of_mem_erase otherMember
  have before := bounded found
  have fewer := bound_erase member found
  have fewest := bound_erase otherMember found
  have moved := File.references_moveFrom (bounded.used member) (bounded.used otherFile) found
  change (_ :: _ :: (program.files.erase file).erase other).countP _ ≤
    (file.moveFrom other program.system).2.2.references found
  rw [bound_cons, bound_cons]
  rw [Program.bound] at before
  change _ + (if other.service = found then 1 else 0) +
    (if other.service = found then 1 else 0) ≤ _
  omega

theorem Bounded.onOpenNew (bounded : program.Bounded)
    (used : 0 < program.system.references service) (path : Path) (args : OpenArgs) :
    (program.onFile (.openNew service path args)).Bounded := by
  have opened := (bounded.onNew used).steady (program.steady_opening service path args)
  rcases program.onFile_openNew service path args with same | same
  · exact same ▸ opened
  · have mine :
        (File.new service program.system).1 ∈ (program.opening service path args).files := by
      rw [(program.steady_opening service path args).files]
      exact List.mem_cons_self
    exact same ▸ opened.onDrop mine

theorem Bounded.onFile (bounded : program.Bounded) {act : FileAct}
    (allowed : program.allows (.file act) = true) : (program.onFile act).Bounded := by
  cases act with
  | new service => exact bounded.onNew (by simpa [allows] using allowed)
  | openNew service path args =>
    exact bounded.onOpenNew (by simpa [allows] using allowed) path args
  | take file => exact bounded.onTake (by simpa [allows] using allowed)
  | moveFrom file other =>
    simp only [allows, Bool.and_eq_true, List.contains_iff_mem] at allowed
    exact bounded.onMoveFrom allowed.1 allowed.2
  | drop file => exact bounded.onDrop (by simpa [allows] using allowed)

theorem Bounded.perform (bounded : program.Bounded) {act : Act}
    (allowed : program.allows act = true) : (program.perform act).Bounded := by
  cases act with
  | implementation act => exact bounded.onImplementation act
  | file act => exact bounded.onFile allowed
  | _ => exact bounded.steady (steady_perform allowed rfl)

theorem Bounded.run (bounded : program.Bounded) (acts : List Act) : (program.run acts).Bounded :=
  run_keeps (fun _ _ bounded allowed => bounded.perform allowed) bounded acts

theorem bounded_run (host : Host) (acts : List Act) : ((fresh host).run acts).Bounded :=
  Bounded.run (fun service => by simp [fresh, Program.bound]) acts

end AsyncFiles.Program
