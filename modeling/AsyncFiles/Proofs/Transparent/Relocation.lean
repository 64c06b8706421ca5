import AsyncFiles.Proofs.Bounded
import AsyncFiles.Proofs.Transparent.Handover

namespace AsyncFiles

open Access Error Host

inductive Relocation
  | construct (service : ServiceId) (source : Implementation)
  | assign (service : ServiceId) (target source : Implementation)
  | take (file : File)
  | moveFrom (file source : File)

namespace Relocation

def act : Relocation → Act
  | construct service source => .implementation (.moveConstruct service service source)
  | assign service target source => .implementation (.moveAssign service target service source)
  | take file => .file (.take file)
  | moveFrom file source => .file (.moveFrom file source)

/-- What a program does that does not move the file. The target ends here too, as its file is closed
by the move. -/
def instead : Relocation → List Act
  | construct service _ => [.implementation (.construct service)]
  | assign service target _ =>
    [.implementation (.destroy service target), .implementation (.construct service)]
  | take file => [.file (.new file.service)]
  | moveFrom file source => [.file (.drop file), .file (.new source.service)]

def service : Relocation → ServiceId
  | construct service _ | assign service _ _ => service
  | take file => file.service
  | moveFrom _ source => source.service

def source : Relocation → Implementation
  | construct _ source | assign _ _ source => source
  | take file => file.implementation
  | moveFrom _ source => source.implementation

/-- Implementations move within their service. A file object takes the service over with the file.
-/
def Within : Relocation → Prop
  | construct service source => source.owner = service
  | assign service target source => target.owner = service ∧ source.owner = service
  | take _ | moveFrom _ _ => True

/-- The implementation that has the file after the move, -/
def target (program : Program) : Relocation → Implementation
  | construct service source => (program.system.moveConstruct service service source).1
  | assign service target source => (program.system.moveAssign service target service source).1
  | take file => (file.take program.system).1.implementation
  | moveFrom file source => (file.moveFrom source program.system).1.implementation

/-- the source after it, -/
def left (program : Program) : Relocation → Implementation
  | construct service source => (program.system.moveConstruct service service source).2.1
  | assign service target source => (program.system.moveAssign service target service source).2.1
  | take file => (file.take program.system).2.1.implementation
  | moveFrom file source => (file.moveFrom source program.system).2.1.implementation

/-- and what has just been made if the file has not moved. -/
def fresh (program : Program) : Relocation → Implementation
  | construct service _ => (program.system.construct service).1
  | assign service target _ => ((program.system.destroy service target).construct service).1
  | take file => (File.new file.service program.system).1.implementation
  | moveFrom file source =>
    (File.new source.service (file.drop program.system)).1.implementation

structure Begins (relocation : Relocation) (program : Program) (exchange : Exchange) : Prop where
  service : exchange.service = relocation.service
  left : exchange.left = relocation.source.key
  right : exchange.right = (relocation.target program).key
  stayed : exchange.implementation (relocation.target program) = relocation.source
  fresh : exchange.implementation (relocation.left program) = relocation.fresh program
  corresponds : exchange.Corresponds (program.step relocation.act)
    (program.run relocation.instead)

variable {program : Program}

theorem begins_of_trades {relocation : Relocation} {exchange : Exchange}
    {system other : System Ticket} (service : exchange.service = relocation.service)
    (trades : exchange.Trades relocation.source (relocation.fresh program)
      (relocation.target program) (relocation.left program) system other)
    (corresponds : exchange.Corresponds (program.step relocation.act)
      (program.run relocation.instead)) : relocation.Begins program exchange where
  service
  left := trades.left_eq
  right := congrArg Prod.snd trades.there.symm
  stayed := trades.stayed
  fresh := trades.fresh
  corresponds

theorem begins_construct (addressed : program.Addressed) {source : Implementation}
    (allowed : program.allows (construct source.owner source).act = true)
    (listed : program.system.find? source.address = some source.state) :
    ∃ exchange, (construct source.owner source).Begins program exchange := by
  obtain ⟨exchange, service, trades⟩ :=
    Exchange.trades_moveConstruct (addressed.keyed.wellFormed source.owner) listed
  have keyed := (addressed.perform allowed).addressed.keyed
  have moved : program.step (construct source.owner source).act = program.perform _ :=
    if_pos allowed
  simp only [act, Program.allows, Bool.and_eq_true, decide_eq_true_eq, List.contains_iff_mem]
    at allowed
  have made : program.run (construct source.owner source).instead = program.perform _ :=
    if_pos (decide_eq_true allowed.1.1)
  refine ⟨exchange, begins_of_trades service trades ⟨_, ?_, .refl _⟩⟩
  rw [moved, made]
  exact trades.implementations keyed (List.perm_cons_erase allowed.2)

theorem begins_assign (addressed : program.Addressed) {target source : Implementation}
    (owner : target.owner = source.owner)
    (allowed : program.allows (assign source.owner target source).act = true)
    (listed : program.system.find? source.address = some source.state) :
    ∃ exchange, (assign source.owner target source).Begins program exchange := by
  have keyed := (addressed.perform allowed).addressed.keyed
  have moved : program.step (assign source.owner target source).act = program.perform _ :=
    if_pos allowed
  simp only [act, Program.allows, Bool.and_eq_true, decide_eq_true_eq, List.contains_iff_mem]
    at allowed
  obtain ⟨⟨⟨_, used⟩, member⟩, otherMember⟩ := allowed
  obtain ⟨exchange, service, trades⟩ := Exchange.trades_moveAssign (addressed.keyed.perm
    ((Program.listed_erase member).trans ((Program.listed_erase otherMember).cons target)))
    owner listed
  let destroyed := program.perform (.implementation (.destroy source.owner target))
  have ended : program.step (.implementation (.destroy source.owner target)) = destroyed :=
    if_pos (by simp [Program.allows, used, member])
  have stillUsed : 0 < destroyed.system.references source.owner :=
    Nat.lt_of_lt_of_eq used (program.system.references_destroy source.owner target _).symm
  have made : program.run (assign source.owner target source).instead =
      destroyed.perform (.implementation (.construct source.owner)) := by
    rw [instead, Program.run_cons, ended]
    exact if_pos (decide_eq_true stillUsed)
  refine ⟨exchange, begins_of_trades service trades ⟨_, ?_, .refl _⟩⟩
  rw [moved, made]
  exact trades.implementations keyed (List.perm_cons_erase otherMember)

theorem begins_take (addressed : program.Addressed) (bounded : program.Bounded) {file : File}
    (allowed : program.allows (take file).act = true)
    (listed : program.system.find? file.implementation.address = some file.implementation.state) :
    ∃ exchange, (take file).Begins program exchange := by
  have keyed := (addressed.perform allowed).addressed.keyed
  have moved : program.step (take file).act = program.perform _ := if_pos allowed
  simp only [act, Program.allows, List.contains_iff_mem] at allowed
  have made : program.run (take file).instead = program.perform _ :=
    if_pos (decide_eq_true (bounded.used allowed))
  obtain ⟨exchange, service, constructed⟩ :=
    Exchange.trades_moveConstruct (addressed.keyed.wellFormed _) listed
  rw [addressed.homes file allowed] at service constructed
  have trades := { constructed with twins := constructed.twins.retain file.service }
  refine ⟨exchange, begins_of_trades service trades ⟨_, ?_, .refl _⟩⟩
  rw [moved, made]
  exact trades.files keyed (List.perm_cons_erase allowed)

theorem hands (addressed : program.Addressed) (bounded : program.Bounded)
    (filed : program.system.Filed) {file source : File}
    (member : file ∈ program.files) (otherMember : source ∈ program.files.erase file)
    (listed : program.system.find? source.implementation.address =
      some source.implementation.state) :
    ∃ exchange : Exchange, exchange.service = source.service ∧
      exchange.Hands file source program.system := by
  have otherFile := List.mem_of_mem_erase otherMember
  have home := addressed.homes file member
  have otherHome := addressed.homes source otherFile
  by_cases within : file.service = source.service
  · have keyed := addressed.keyed.perm ((Program.listed_eraseFile member).trans
      ((Program.listed_eraseFile otherMember).cons _))
    exact Exchange.hands_within keyed home otherHome within
      (bounded.used_twice member otherMember within.symm) listed
  · exact Exchange.hands_across filed (addressed.keyed.wellFormed source.service) otherHome within
      (bounded.used otherFile) listed

theorem begins_moveFrom (addressed : program.Addressed) (bounded : program.Bounded)
    (filed : program.system.Filed) {file source : File}
    (allowed : program.allows (moveFrom file source).act = true)
    (listed : program.system.find? source.implementation.address =
      some source.implementation.state) :
    ∃ exchange, (moveFrom file source).Begins program exchange := by
  have keyed := (addressed.perform allowed).addressed.keyed
  have moved : program.step (moveFrom file source).act = program.perform _ := if_pos allowed
  simp only [act, Program.allows, Bool.and_eq_true, List.contains_iff_mem] at allowed
  obtain ⟨member, otherMember⟩ := allowed
  obtain ⟨exchange, service, next, trades, reordered⟩ :=
    hands addressed bounded filed member otherMember listed
  let dropped := program.perform (.file (.drop file))
  have known : program.allows (.file (.drop file)) = true := List.contains_iff_mem.mpr member
  have ended : program.step (.file (.drop file)) = dropped := if_pos known
  have stillUsed : 0 < dropped.system.references source.service :=
    (bounded.perform known).used otherMember
  have made : program.run (moveFrom file source).instead =
      dropped.perform (.file (.new source.service)) := by
    rw [instead, Program.run_cons, ended]
    exact if_pos (decide_eq_true stillUsed)
  have alongside := trades.files keyed (List.perm_cons_erase otherMember)
  refine ⟨exchange, begins_of_trades service trades ?_⟩
  rw [moved, made]
  exact ⟨_, alongside, _, reordered, rfl⟩

end Relocation

end AsyncFiles
