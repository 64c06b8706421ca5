import AsyncFiles.Proofs.Transparent.LeftBehind
import AsyncFiles.Proofs.Transparent.Relocation

namespace AsyncFiles

open Access Error Host

namespace Relocation

variable {program : Program} {relocation : Relocation} {exchange : Exchange}

theorem begins (addressed : program.Addressed) (bounded : program.Bounded)
    (filed : program.system.Filed) (within : relocation.Within)
    (allowed : program.allows relocation.act = true)
    (listed : program.system.find? relocation.source.address = some relocation.source.state) :
    ∃ exchange, relocation.Begins program exchange := by
  cases relocation with
  | construct service source =>
    obtain rfl : source.owner = service := within
    exact begins_construct addressed allowed listed
  | assign service target source =>
    obtain ⟨owner, rfl⟩ : target.owner = service ∧ source.owner = service := within
    exact begins_assign addressed owner allowed listed
  | take file => exact begins_take addressed bounded allowed listed
  | moveFrom file source => exact begins_moveFrom addressed bounded filed allowed listed

theorem state_left (program : Program) (relocation : Relocation) :
    (relocation.left program).state = program.system.states.length := by
  cases relocation with
  | construct service source | take file => rfl
  | assign service target source =>
    exact (program.system.state_moveAssign service target service source).2
  | moveFrom file source =>
    exact (program.system.state_moveAssign file.service _ source.service _).2

theorem source_live (allowed : program.allows relocation.act = true) :
    relocation.source ∈ program.live := by
  rw [Program.mem_live]
  cases relocation with
  | construct service source =>
    simp only [act, Program.allows, Bool.and_eq_true, List.contains_iff_mem] at allowed
    exact .inl allowed.2
  | assign service target source =>
    simp only [act, Program.allows, Bool.and_eq_true, List.contains_iff_mem] at allowed
    exact .inl (List.mem_of_mem_erase allowed.2)
  | take file =>
    simp only [act, Program.allows, List.contains_iff_mem] at allowed
    exact .inr ⟨file, allowed, rfl⟩
  | moveFrom file source =>
    simp only [act, Program.allows, Bool.and_eq_true, List.contains_iff_mem] at allowed
    exact .inr ⟨source, List.mem_of_mem_erase allowed.2, rfl⟩

structure Transparent (relocation : Relocation) (program : Program) (exchange : Exchange) :
    Prop where
  /-- The two slots that have traded their places. -/
  service : exchange.service = relocation.service
  left : exchange.left = relocation.source.key
  right : exchange.right = (relocation.target program).key
  /-- The target stands for the source as it was, -/
  stayed : exchange.implementation (relocation.target program) = relocation.source
  /-- and the source for an implementation that has just been made. -/
  fresh : exchange.implementation (relocation.left program) = relocation.fresh program
  /-- Whatever happens next happens alike. -/
  goesOn : ∀ rest, (program.step relocation.act).Throughout (fun _ act => ¬ exchange.Strays act)
      rest → exchange.Agrees ((program.step relocation.act).run rest)
        ((program.run relocation.instead).run (rest.map exchange.act))
  apart : (relocation.target program).state ≠ (relocation.left program).state
  /-- What is done to the source at any later time changes neither the handle nor the source of
  another state, and ends no operation that was started before the move. -/
  leaves : ∀ rest act, ((program.step relocation.act).run rest).allows act = true →
    ((program.step relocation.act).run rest).Concerns (relocation.left program).state act →
      (∀ state, state ≠ (relocation.left program).state →
        (((program.step relocation.act).run rest).perform act).system.state state =
          ((program.step relocation.act).run rest).system.state state) ∧
      ∀ start ∈ program.initiated,
        (((program.step relocation.act).run rest).perform act).system.isCancelled
            start.operation =
          ((program.step relocation.act).run rest).system.isCancelled start.operation

/-- After any run, and however a file is moved, from an implementation or a file object that its
service has listed to another one of that service or to a file object of any service: the move is
transparent. -/
theorem transparent (host : Host) (acts : List Act) (relocation : Relocation)
    (within : relocation.Within)
    (allowed : ((Program.fresh host).run acts).allows relocation.act = true)
    (listed : ((Program.fresh host).run acts).system.find? relocation.source.address =
      some relocation.source.state) :
    ∃ exchange, relocation.Transparent ((Program.fresh host).run acts) exchange := by
  have addressed := Program.addressed_run host acts
  have founded := Program.founded_run host acts
  have bounded := Program.bounded_run host (acts ++ [relocation.act])
  obtain ⟨exchange, begins⟩ := begins addressed (Program.bounded_run host acts)
    (Program.filed_run host acts) within allowed listed
  have grounded := Program.Grounded.run host acts _ (source_live allowed)
  rw [Program.run_append, Program.run_cons, Program.run_nil] at bounded
  generalize (Program.fresh host).run acts = program at *
  have moved : (program.step relocation.act).Addressed := by
    rw [Program.step, if_pos allowed]
    exact (addressed.perform allowed).addressed
  have same := congrArg Implementation.state begins.stayed
  rw [Exchange.state_implementation] at same
  refine ⟨exchange, ?_⟩
  exact
    { service := begins.service
      left := begins.left
      right := begins.right
      stayed := begins.stayed
      fresh := begins.fresh
      goesOn := fun rest tame => (begins.corresponds.run moved tame).agrees
      apart := by
        rw [same, state_left]
        exact Nat.ne_of_lt grounded
      leaves := by
        intro rest act allowed concerns
        have later := bounded.run rest
        refine ⟨fun state apart => later.state_other allowed concerns apart, ?_⟩
        intro start member
        have older : start.operation.state ≠ (relocation.left program).state := by
          rw [state_left]
          exact Nat.ne_of_lt (founded start member)
        rw [System.isCancelled, System.isCancelled, later.state_other allowed concerns older] }

end Relocation

/-- The file of service 0's first implementation moves into a new one. -/
def moveOfFirst : Relocation := .construct 0 ⟨⟨1, 1⟩, 0, 0⟩

theorem run_sameKeys_self :
    (Program.fresh (.fresh default)).run sameKeys =
      ((served (.fresh default)).step (.service (.start 0 {}))).run
        [.implementation (.construct 0), .implementation (.construct 0),
          .implementation (.construct 1),
          .implementation (.call 0 ⟨⟨1, 1⟩, 0, 0⟩ (.assign ⟨0⟩))] := by
  have run := run_sameKeys []
  rwa [List.append_nil] at run

/-- A shutdown closes the file where it is after the move, as it would have done where it was. -/
theorem transparent_moveOfFirst :
    moveOfFirst.Within ∧
      ((Program.fresh (.fresh default)).run sameKeys).allows moveOfFirst.act = true ∧
      ((Program.fresh (.fresh default)).run sameKeys).system.find? (0, ⟨1, 1⟩) = some 0 ∧
      ((((Program.fresh (.fresh default)).run sameKeys).run moveOfFirst.instead).run
          [.service (.shutdown 0)]).system.states =
        ((((Program.fresh (.fresh default)).run sameKeys).step moveOfFirst.act).run
          [.service (.shutdown 0)]).system.states := by
  have allowed : ((Program.fresh (.fresh default)).run sameKeys).allows moveOfFirst.act = true := by
    rw [run_sameKeys_self, step_second]
    rfl
  have listed : ((Program.fresh (.fresh default)).run sameKeys).system.find? (0, ⟨1, 1⟩) =
      some 0 := by
    rw [run_sameKeys_self, step_second]
    rfl
  obtain ⟨exchange, transparent⟩ :=
    Relocation.transparent (.fresh default) sameKeys moveOfFirst rfl allowed listed
  have agrees := transparent.goesOn [.service (.shutdown 0)]
    (Program.throughout_of_forall (by simp [Exchange.Strays]))
  exact ⟨rfl, allowed, listed, agrees.states⟩

/-- The second implementation of service 0 moves into the one of service 1 that has the first one's
key; then service 0 is shut down. -/
def strayAndShutdown : List Act := [moveIntoForeign, .service (.shutdown 0)]

/-- If the file has moved the shutdown closes it. If it has stayed its slot is written by then, and
it is left open. -/
theorem not_transparent_strayed :
    moveOfFirst.Within ∧
      ((Program.fresh (.fresh default)).run sameKeys).allows moveOfFirst.act = true ∧
      ((Program.fresh (.fresh default)).run sameKeys).system.find? (0, ⟨1, 1⟩) = some 0 ∧
      (((((Program.fresh (.fresh default)).run sameKeys).step moveOfFirst.act).run
        strayAndShutdown).system.state 0).handle = .closed ∧
      (((((Program.fresh (.fresh default)).run sameKeys).run moveOfFirst.instead).run
        strayAndShutdown).system.state 0).handle = ⟨0⟩ := by
  rw [run_sameKeys_self, step_second]
  exact ⟨rfl, rfl, rfl, rfl, rfl⟩

end AsyncFiles
