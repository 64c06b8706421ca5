import AsyncFiles.Proofs.Completion.Quiet
import AsyncFiles.Proofs.Program

namespace AsyncFiles

open Access Error Host

/-- An act that neither uses a context nor starts a service or an operation nor lets a worker go
on. -/
def Act.aside : Act → Bool
  | .context _ | .service (.start _ _) | .work _ _ => false
  | .implementation (.call _ _ (.submit _ _)) => false
  | _ => true

namespace Program

variable {program later : Program}

structure Still (program later : Program) : Prop where
  calm : program.system.Calm later.system
  initiated : later.initiated = program.initiated
  serving : later.serving = program.serving
  invoked : later.invoked = program.invoked

namespace Still

theorem refl (program : Program) : program.Still program := ⟨.refl _, rfl, rfl, rfl⟩

theorem of_calm {system : System Ticket} (calm : program.system.Calm system) :
    program.Still { program with system } := ⟨calm, rfl, rfl, rfl⟩

theorem withHost (program : Program) (host : Host) : program.Still (program.withHost host) :=
  of_calm (System.calm_host _ host)

theorem keep (still : program.Still later) (handle : FileHandle) :
    program.Still (later.keep handle) := by
  simp only [Program.keep]
  split
  · exact ⟨still.calm, still.initiated, still.serving, still.invoked⟩
  · exact still

theorem values (still : program.Still later) (implementations forgotten : List Implementation)
    (files : List File) (owners : List Owner) (loose : List FileHandle) :
    program.Still { later with implementations, forgotten, files, owners, loose } :=
  ⟨still.calm, still.initiated, still.serving, still.invoked⟩

end Still

theorem still_onCall (program : Program) (service : ServiceId) (imp : Implementation)
    {call : ImplementationCall}
    (aside : (Act.implementation (.call service imp call)).aside = true) :
    program.Still (program.onCall service imp call) := by
  cases call with
  | openPath path args => exact .of_calm (System.calm_openFile _ imp path args)
  | assign handle =>
    have calm := program.system.calm_assign imp handle
    simp only [onCall]
    split
    next same =>
      rw [same] at calm
      exact (Still.of_calm calm).values ..
    next same =>
      rw [same] at calm
      exact .of_calm calm
  | close => exact .of_calm (System.calm_closeState _ imp.state)
  | release => exact (Still.of_calm (System.calm_updateState _ _ _)).keep _
  | cancel => exact .of_calm (System.calm_cancel _ imp)
  | ask question => exact .withHost program _
  | submit request buffers => cases aside

theorem still_onFile (program : Program) (act : FileAct) : program.Still (program.onFile act) := by
  cases act with
  | new service => exact (Still.of_calm (File.calm_new service _)).values ..
  | openNew service path args =>
    have calm := File.calm_openNew service path args program.system
    simp only [onFile]
    split
    next same =>
      rw [same] at calm
      exact (Still.of_calm calm).values ..
    next same =>
      rw [same] at calm
      exact .of_calm calm
  | take file => exact (Still.of_calm (file.calm_take _)).values ..
  | moveFrom file other => exact (Still.of_calm (file.calm_moveFrom other _)).values ..
  | drop file => exact (Still.of_calm (file.calm_drop _)).values ..

theorem still_onOwner (program : Program) (act : OwnerAct) :
    program.Still (program.onOwner act) := by
  cases act with
  | wrap handle => exact (Still.refl program).values ..
  | release owner => exact ((Still.refl program).values ..).keep _
  | openPath | duplicate | reset =>
    simp only [onOwner]
    split <;> exact (Still.withHost program _).values ..
  | close | drop | discard => exact (Still.withHost program _).values ..

theorem still_perform (program : Program) {act : Act} (aside : act.aside = true) :
    program.Still (program.perform act) := by
  cases act with
  | context | work => cases aside
  | service act =>
    cases act with
    | start => cases aside
    | retain service => exact .of_calm (System.calm_retain _ service)
    | drop service => exact .of_calm (System.calm_dropReference _ service)
    | shutdown service => exact .of_calm (System.calm_shutdown _ service)
  | implementation act =>
    cases act with
    | construct service => exact (Still.of_calm (System.calm_construct _ service)).values ..
    | moveConstruct service otherService other =>
      exact (Still.of_calm (System.calm_moveConstruct _ service otherService other)).values ..
    | moveAssign service imp otherService other =>
      exact (Still.of_calm (System.calm_moveAssign _ service imp otherService other)).values ..
    | destroy service imp => exact (Still.of_calm (System.calm_destroy _ service imp)).values ..
    | forget imp => exact (Still.refl program).values ..
    | call service imp call => exact program.still_onCall service imp aside
  | file act => exact program.still_onFile act
  | owner act => exact program.still_onOwner act
  | outside host => exact (Still.withHost program host).values ..

end Program

end AsyncFiles
