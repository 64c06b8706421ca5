import AsyncFiles.Proofs.Transparent.Corresponding

/-!
What a move of a file within its service does, beside what happens when the file stays and a new
implementation is made instead, in the place of the one that is moved into: the two have exchanged
the slots of the target and of the source.
-/
namespace AsyncFiles

open Access Error Host

namespace System

variable {Handler : Type} {system : System Handler} {service : ServiceId} {found : Service Handler}

theorem service_relist (present : system.service? service = some found)
    (registry : Registry StateId) :
    (system.relist service registry).service? service = some { found with registry } := by
  simp only [service?] at present
  simp [relist, updateRegistry, updateService, service?, present]

theorem registryOf_relist (present : system.service? service = some found)
    (registry : Registry StateId) :
    (system.relist service registry).registryOf service = registry := by
  rw [registryOf, service_relist present]
  rfl

theorem relist_relist (system : System Handler) (service : ServiceId)
    (first second : Registry StateId) :
    (system.relist service first).relist service second = system.relist service second := by
  simp only [relist, updateRegistry, updateService, List.modify_modify_eq]
  rfl

theorem updateRegistry_eq (present : system.service? service = some found)
    (change : Registry StateId → Registry StateId) : system.updateRegistry service change =
      system.relist service (change (system.registryOf service)) := by
  have home : system.registryOf service = found.registry := by simp [registryOf, present]
  rw [service?] at present
  have same : system.services.modify service (fun found =>
      { found with registry := change found.registry }) =
      system.services.modify service (fun found =>
        { found with registry := change (system.registryOf service) }) := by
    apply List.ext_getElem?
    intro index
    by_cases here : service = index
    · subst here
      simp [present, home]
    · simp [here]
  simp only [relist, updateRegistry, updateService, same]

theorem service_of_find? {key : RegistryKey} {state : StateId}
    (listed : system.find? (service, key) = some state) :
    ∃ found, system.service? service = some found := by
  cases present : system.service? service with
  | some found => exact ⟨found, rfl⟩
  | none => simp [find?, registryOf, present, Registry.get?_empty] at listed

theorem construct_eq (present : system.service? service = some found) :
    system.construct service =
      (⟨((system.registryOf service).insert system.states.length).1, service,
          system.states.length⟩,
        system.addState.2.relist service
          ((system.registryOf service).insert system.states.length).2) := by
  have known : system.addState.2.service? service = some found := present
  simp only [construct, register_eq known]
  rfl

theorem detach_eq {imp : Implementation} (present : system.service? imp.owner = some found) :
    system.detach imp.owner imp = (imp.state, { imp with state := system.states.length },
      system.addState.2.relist imp.owner
        ((system.registryOf imp.owner).replace imp.key system.states.length)) := by
  have known : system.addState.2.service? imp.owner = some found := present
  simp only [detach, if_true, updateRegistry_eq known]
  rfl

theorem moveConstruct_eq {source : Implementation}
    (present : system.service? source.owner = some found) :
    let registry := ((system.registryOf source.owner).replace source.key
      system.states.length).insert source.state
    system.moveConstruct source.owner source.owner source =
      (⟨registry.1, source.owner, source.state⟩, { source with state := system.states.length },
        system.addState.2.relist source.owner registry.2) := by
  have known : system.addState.2.service? source.owner = some found := present
  have listed := service_relist known
    ((system.registryOf source.owner).replace source.key system.states.length)
  simp only [moveConstruct, detach_eq present, register_eq listed, registryOf_relist known]
  rw [← relist, relist_relist]

theorem moveAssign_within {target source : Implementation}
    (present : system.service? source.owner = some found) :
    let registry := ((system.registryOf source.owner).replace source.key
      system.states.length).replace target.key source.state
    system.moveAssign source.owner target source.owner source =
      ({ target with state := source.state }, { source with state := system.states.length },
        (system.closeState target.state).2.addState.2.relist source.owner registry) := by
  have known : (system.closeState target.state).2.service? source.owner = some found := present
  have wider :
      (system.closeState target.state).2.addState.2.service? source.owner = some found := present
  have listed := service_relist wider
    ((system.registryOf source.owner).replace source.key system.states.length)
  have same : (system.closeState target.state).2.states.length = system.states.length :=
    length_closeState system target.state
  have home : (system.closeState target.state).2.registryOf source.owner =
    system.registryOf source.owner := rfl
  simp only [moveAssign_eq, takeOver, detach_eq known, if_true, same, home]
  rw [updateRegistry_eq listed, registryOf_relist wider, relist_relist]

theorem destroy_construct_eq {target : Implementation}
    (present : system.service? target.owner = some found) :
    let registry := ((system.registryOf target.owner).remove target.key).insert
      system.states.length
    (system.destroy target.owner target).construct target.owner =
      (⟨registry.1, target.owner, system.states.length⟩,
        (system.closeState target.state).2.addState.2.relist target.owner registry.2) := by
  have known : (system.closeState target.state).2.service? target.owner = some found := present
  have same : (system.closeState target.state).2.states.length = system.states.length :=
    length_closeState system target.state
  have destroyed : system.destroy target.owner target =
      (system.closeState target.state).2.relist target.owner
        ((system.registryOf target.owner).remove target.key) := by
    rw [destroy_eq, unlist, if_pos rfl, updateRegistry_eq known]
    rfl
  have listed := service_relist known ((system.registryOf target.owner).remove target.key)
  have length : ((system.closeState target.state).2.relist target.owner
      ((system.registryOf target.owner).remove target.key)).states.length =
    system.states.length := same
  rw [destroyed, construct_eq listed, registryOf_relist known, length]
  simp only [Prod.mk.injEq, true_and]
  exact (system.closeState target.state).2.addState.2.relist_relist target.owner _ _

end System

namespace Exchange

variable {Handler : Type} {exchange : Exchange} {source fresh target left : Implementation}
  {system other : System Handler}

/-- In the one system a file has moved from a source into a target and has left the source with
nothing. In the other one it has stayed with the source, and there is a fresh implementation. -/
structure Trades (exchange : Exchange) (source fresh target left : Implementation)
    (system other : System Handler) : Prop where
  there : target.address = (exchange.service, exchange.right)
  here : left.address = (exchange.service, exchange.left)
  stayed : exchange.implementation target = source
  fresh : exchange.implementation left = fresh
  twins : exchange.Twins system other

theorem trades_of_mirrors {found : Service Handler} {registry next : Registry StateId}
    {key : RegistryKey} (present : system.service? source.owner = some found)
    (same : exchange.service = source.owner) (left : exchange.left = source.key)
    (traded : exchange.key source.key = key) (mirrors : exchange.Mirrors registry next)
    (state : StateId) : exchange.Trades source ⟨key, source.owner, state⟩
      ⟨exchange.right, source.owner, source.state⟩ { source with state }
      (system.relist source.owner registry) (system.relist source.owner next) where
  there := congrArg (Prod.mk · exchange.right) same.symm
  here := Prod.ext same.symm left.symm
  stayed := by rw [← same, implementation_own, key_right, left, same]
  fresh := by
    have own := exchange.implementation_own source.key state
    rw [same, traded] at own
    exact own
  twins := by
    rw [← same] at present ⊢
    refine ⟨next, ?_, (system.relist_relist exchange.service registry next).symm⟩
    rwa [System.registryOf_relist present]

theorem trades_moveConstruct (wellFormed : (system.registryOf source.owner).WellFormed)
    (listed : system.find? source.address = some source.state) :
    ∃ exchange : Exchange, exchange.service = source.owner ∧
      exchange.Trades source (system.construct source.owner).1
        (system.moveConstruct source.owner source.owner source).1
        (system.moveConstruct source.owner source.owner source).2.1
        (system.moveConstruct source.owner source.owner source).2.2
        (system.construct source.owner).2 := by
  obtain ⟨found, present⟩ := System.service_of_find? listed
  have known : system.addState.2.service? source.owner = some found := present
  have own : (system.registryOf source.owner).get? source.key = some source.state := listed
  obtain ⟨exchange, service, left, right, key, mirrors⟩ :=
    Registry.mirrors_moveConstruct source.owner wellFormed own system.states.length
  rw [System.moveConstruct_eq present, System.construct_eq present, ← right]
  exact ⟨exchange, service, trades_of_mirrors known service left key mirrors system.states.length⟩

theorem trades_moveAssign {rest : List Implementation}
    (keyed : system.Keyed (target :: source :: rest)) (owner : target.owner = source.owner)
    (listed : system.find? source.address = some source.state) :
    ∃ exchange : Exchange, exchange.service = source.owner ∧
      exchange.Trades source ((system.destroy source.owner target).construct source.owner).1
        (system.moveAssign source.owner target source.owner source).1
        (system.moveAssign source.owner target source.owner source).2.1
        (system.moveAssign source.owner target source.owner source).2.2
        ((system.destroy source.owner target).construct source.owner).2 := by
  obtain ⟨found, present⟩ := System.service_of_find? listed
  obtain ⟨closed, filled⟩ :=
    Option.isSome_iff_exists.mp (keyed.filled target List.mem_cons_self)
  have own : (system.registryOf source.owner).get? source.key = some source.state := listed
  have also : (system.registryOf source.owner).get? target.key = some closed := owner ▸ filled
  have different : target.key ≠ source.key := by
    intro same
    exact keyed.address_ne List.mem_cons_self (Prod.ext owner.symm same.symm)
  obtain ⟨exchange, service, left, right, key, mirrors⟩ :=
    Registry.mirrors_moveAssign source.owner (keyed.wellFormed source.owner) own also different
      system.states.length
  have known :
      (system.closeState target.state).2.addState.2.service? source.owner = some found := present
  have instead := System.destroy_construct_eq (owner.symm ▸ present)
  rw [owner] at instead
  have trades := trades_of_mirrors known service left key mirrors system.states.length
  rw [right] at trades
  rw [System.moveAssign_within present, instead, owner]
  exact ⟨exchange, service, trades⟩

namespace Trades

variable (trades : exchange.Trades source fresh target left system other)
include trades

theorem left_eq : exchange.left = source.key := by
  have own : target.owner = exchange.service := congrArg Prod.fst trades.there
  have key : target.key = exchange.right := congrArg Prod.snd trades.there
  have same := congrArg Implementation.key trades.stayed
  rw [implementation, if_pos own] at same
  exact exchange.key_right.symm.trans (key ▸ same)

theorem beside {rest : List Implementation} (keyed : system.Keyed (target :: left :: rest))
    {imp : Implementation} (member : imp ∈ rest) : exchange.implementation imp = imp := by
  by_cases own : imp.owner = exchange.service
  · have position_ne {index : RegistryKey} (found : (system.find? (exchange.service, index)).isSome)
        (apart : imp.address ≠ (exchange.service, index)) :
        Registry.position imp.key ≠ Registry.position index := by
      obtain ⟨value, listed⟩ := Option.isSome_iff_exists.mp found
      obtain ⟨state, also⟩ := Option.isSome_iff_exists.mp
        (keyed.filled imp (List.mem_cons_of_mem _ (List.mem_cons_of_mem _ member)))
      have mine : (system.registryOf exchange.service).get? imp.key = some state := own ▸ also
      have theirs : (system.registryOf exchange.service).get? index = some value := listed
      exact Registry.position_ne mine theirs fun same => apart (Prod.ext own same)
    have offTarget := position_ne (trades.there ▸ keyed.filled target List.mem_cons_self)
      (trades.there ▸ keyed.address_ne (List.mem_cons_of_mem _ member))
    have offSource := position_ne
      (trades.here ▸ keyed.filled left (List.mem_cons_of_mem _ List.mem_cons_self))
      (trades.here ▸ keyed.tail.address_ne member)
    rw [implementation, if_pos own, key_beside offSource offTarget imp.key rfl]
  · exact if_neg own

theorem lists {implementations forgotten : List Implementation} {files : List File}
    (keyed : system.Keyed (target :: left :: Program.listed implementations files forgotten)) :
    implementations.map exchange.implementation = implementations ∧
      forgotten.map exchange.implementation = forgotten ∧
      files.map exchange.file = files := by
  have same (imp : Implementation) (member : imp ∈ Program.listed implementations files forgotten) :
      exchange.implementation imp = id imp := trades.beside keyed member
  simp only [Program.listed, List.mem_append] at same
  refine ⟨?_, ?_, ?_⟩
  · exact (List.map_congr_left fun imp member => same imp (.inl (.inl member))).trans
      (List.map_id _)
  · exact (List.map_congr_left fun imp member => same imp (.inr member)).trans (List.map_id _)
  · refine (List.map_congr_left fun file member => ?_).trans (List.map_id _)
    have kept := same file.implementation (.inl (.inr (List.mem_map_of_mem member)))
    exact congrArg (File.mk file.service) kept

end Trades

section

variable {program : Program} {system other : System Ticket}
  (trades : exchange.Trades source fresh target left system other)
include trades

theorem Trades.implementations {before rest : List Implementation}
    (keyed : system.Keyed (target :: left :: Program.listed rest program.files program.forgotten))
    (listed : before.Perm (source :: rest)) :
    exchange.Alongside { program with system, implementations := target :: left :: rest }
      { program with system := other, implementations := fresh :: before } := by
  obtain ⟨implementations, forgotten, files⟩ := trades.lists keyed
  have same : (fresh :: before).Perm ((target :: left :: rest).map exchange.implementation) := by
    rw [List.map_cons, List.map_cons, trades.stayed, trades.fresh, implementations]
    exact (listed.cons fresh).trans (.swap source fresh rest)
  exact
    { system := trades.twins
      implementations := same
      forgotten := .of_eq forgotten.symm
      files := .of_eq files.symm
      owners := rfl
      loose := rfl
      initiated := rfl
      serving := rfl
      invoked := rfl }

theorem Trades.files {before rest : List File} {service : ServiceId}
    (keyed : system.Keyed (Program.listed program.implementations
      (⟨service, target⟩ :: ⟨service, left⟩ :: rest) program.forgotten))
    (listed : before.Perm (⟨service, source⟩ :: rest)) :
    exchange.Alongside
      { program with system, files := ⟨service, target⟩ :: ⟨service, left⟩ :: rest }
      { program with system := other, files := ⟨service, fresh⟩ :: before } := by
  have relisted := keyed.perm ((Program.listed_file _).trans ((Program.listed_file _).cons _))
  obtain ⟨implementations, forgotten, files⟩ := trades.lists relisted
  have same : (⟨service, fresh⟩ :: before).Perm
      ((⟨service, target⟩ :: ⟨service, left⟩ :: rest).map exchange.file) := by
    have stayed : exchange.file ⟨service, target⟩ = ⟨service, source⟩ :=
      congrArg (File.mk service) trades.stayed
    have made : exchange.file ⟨service, left⟩ = ⟨service, fresh⟩ :=
      congrArg (File.mk service) trades.fresh
    rw [List.map_cons, List.map_cons, stayed, made, files]
    exact (listed.cons _).trans (.swap _ _ rest)
  exact
    { system := trades.twins
      implementations := .of_eq implementations.symm
      forgotten := .of_eq forgotten.symm
      files := same
      owners := rfl
      loose := rfl
      initiated := rfl
      serving := rfl
      invoked := rfl }

end

end Exchange

end AsyncFiles
