import AsyncFiles.Proofs.Moving.Steps

namespace AsyncFiles

open Access Error Host

namespace System

variable {Handler : Type} {system later : System Handler} {imp : Implementation}
  {listed rest next : List Implementation} {carried others : List StateId} {service : ServiceId}
  {moved : StateId}

/-- The registries hold the listed implementations; what is carried is in none of them. -/
structure Laid (system : System Handler) (listed : List Implementation) (carried : List StateId) :
    Prop where
  books : system.Books listed
  backed : system.Backed
  apart : (carried ++ listed.map Implementation.state).Nodup
  bound : ∀ state ∈ carried, state < system.states.length

section

variable (laid : system.Laid listed carried)
include laid

theorem Laid.perm (same : listed.Perm next) (alike : carried.Perm others) :
    system.Laid next others where
  books := laid.books.perm same
  backed := laid.backed
  apart := (alike.append (same.map Implementation.state)).nodup_iff.mp laid.apart
  bound state member := laid.bound state (alike.mem_iff.mpr member)

theorem Laid.unlisted {state : StateId} (member : state ∈ carried) :
    state ∉ listed.map Implementation.state := by
  intro also
  exact (List.nodup_append.mp laid.apart).2.2 state member state also rfl

theorem Laid.unwinds {ended : List StateId} (unwinds : system.Unwinds later ended)
    (registries : ∀ service, later.registryOf service = system.registryOf service) :
    later.Laid listed carried where
  books := laid.books.of_registries registries unwinds.grown
  backed := laid.backed.unwinds unwinds
  apart := laid.apart
  bound state member := Nat.lt_of_lt_of_le (laid.bound state member) unwinds.grown

end

theorem Laid.detach (laid : system.Laid (imp :: rest) carried) :
    (system.detach imp.owner imp).2.2.Laid ((system.detach imp.owner imp).2.1 :: rest)
      (imp.state :: carried) where
  books := books_detach laid.books
  backed := laid.backed.unwinds (system.unwinds_detach imp.owner imp)
  apart := by
    have fresh : system.states.length ∉ carried ++ (imp :: rest).map Implementation.state := by
      intro member
      rcases List.mem_append.mp member with early | late
      · exact Nat.lt_irrefl _ (laid.bound _ early)
      · exact fresh_of_bound laid.books.bound late
    have wider : (system.states.length :: (carried ++ (imp :: rest).map Implementation.state)).Nodup
        := List.nodup_cons.mpr ⟨fresh, laid.apart⟩
    change (imp.state :: carried ++ system.states.length :: rest.map Implementation.state).Nodup
    refine (List.Perm.nodup_iff ?_).mp wider
    rw [List.map_cons, List.cons_append]
    have emptied : (carried ++ imp.state :: rest.map Implementation.state).Perm
        (imp.state :: (carried ++ rest.map Implementation.state)) := List.perm_middle
    exact (emptied.cons _).trans
      ((List.Perm.swap ..).trans (List.perm_middle.symm.cons _))
  bound state member := by
    rw [states_detach]
    have wider : system.states.length ≤ system.addState.2.states.length := by simp [addState]
    rcases List.mem_cons.mp member with rfl | known
    · exact Nat.lt_of_lt_of_le (laid.books.bound imp List.mem_cons_self) wider
    · exact Nat.lt_of_lt_of_le (laid.bound state known) wider

theorem Laid.register (laid : system.Laid listed (moved :: carried))
    (known : service < system.services.length) :
    (system.register service moved).2.Laid
      ({ key := (system.register service moved).1, owner := service, state := moved } :: listed)
      carried := by
  obtain ⟨found, present⟩ := service_of_length known
  have states := states_register system service moved
  have host := host_register system service moved
  have books := laid.books.register present (laid.unlisted List.mem_cons_self)
    (laid.bound moved List.mem_cons_self)
  refine ⟨books, ?_, ?_, fun state member => ?_⟩
  · exact laid.backed.unwinds (unwinds_of_states states (host ▸ .refl system.host))
  · exact (List.perm_middle.nodup_iff).mpr laid.apart
  · rw [states]
    exact laid.bound state (List.mem_cons_of_mem _ member)

theorem Laid.store (laid : system.Laid (imp :: rest) (moved :: carried)) :
    (system.updateRegistry imp.owner fun registry => registry.replace imp.key moved).Laid
      ({ imp with state := moved } :: rest) carried where
  books := by
    have fresh := laid.unlisted List.mem_cons_self
    rw [List.map_cons, List.mem_cons, not_or] at fresh
    exact laid.books.rebind fresh.2 (laid.bound moved List.mem_cons_self)
  backed := laid.backed.unwinds (unwinds_of_states rfl (.refl _))
  apart := by
    have without : (moved :: carried ++ rest.map Implementation.state).Nodup :=
      laid.apart.sublist ((List.sublist_cons_self _ _).append_left _)
    exact (List.perm_middle.nodup_iff).mpr without
  bound state member := laid.bound state (List.mem_cons_of_mem _ member)

end System

namespace Moving

namespace Progress

/-- What a move has closed, or found closed, and will overwrite. -/
def emptied : Progress → List StateId
  | .leaving (some target) _ | .arriving (some target) _ _ => [target.state]
  | _ => []

end Progress

namespace Shared

variable {Handler : Type} {shared later : Shared Handler} {state : StateId}

structure Consistent (shared : Shared Handler) : Prop where
  laid : shared.system.Laid shared.listed shared.carried
  known : shared.service < shared.system.services.length
  own : ∀ progress ∈ shared.moves, ∀ imp ∈ progress.inHand, imp.owner = shared.service
  emptied : ∀ progress ∈ shared.moves, ∀ state ∈ progress.emptied,
    (shared.system.state state).handle = .closed

/-- A state that is listed with the service, or carried, or that holds nothing. -/
def Located (shared : Shared Handler) (state : StateId) : Prop :=
  (∃ imp ∈ shared.listed, imp.owner = shared.service ∧ imp.state = state) ∨
    state ∈ shared.carried ∨ (shared.system.state state).handle = .closed

inductive Shifts (shared later : Shared Handler) : Prop
  | rests (listed : shared.listed.Perm later.listed) (carried : shared.carried = later.carried)
      (states : later.system.states = shared.system.states)
      (host : later.system.host = shared.system.host)
      (registries : ∀ service, later.system.registryOf service = shared.system.registryOf service)
  | closes (closed : StateId) (listed : shared.listed.Perm later.listed)
      (carried : shared.carried.Perm later.carried)
      (system : later.system = (shared.system.closeState closed).2)
  | leaves (source : Implementation) (rest : List Implementation)
      (own : source.owner = shared.service) (before : shared.listed.Perm (source :: rest))
      (after : ((shared.system.detach shared.service source).2.1 :: rest).Perm later.listed)
      (carried : (source.state :: shared.carried).Perm later.carried)
      (system : later.system = (shared.system.detach shared.service source).2.2)
  | arrives (moved : StateId) (before : shared.carried.Perm (moved :: later.carried))
      (listed : List.Perm
        (⟨(shared.system.register shared.service moved).1, shared.service, moved⟩ :: shared.listed)
        later.listed)
      (system : later.system = (shared.system.register shared.service moved).2)
  | stores (moved : StateId) (target : Implementation) (rest : List Implementation)
      (own : target.owner = shared.service)
      (emptied : (shared.system.state target.state).handle = .closed)
      (before : shared.listed.Perm (target :: rest))
      (after : ({ target with state := moved } :: rest).Perm later.listed)
      (carried : shared.carried.Perm (moved :: later.carried))
      (system : later.system = shared.system.updateRegistry shared.service fun registry =>
        registry.replace target.key moved)

theorem perm_returned (target source : Implementation) (inHand idle : List Implementation) :
    (target :: source :: (inHand ++ idle)).Perm (inHand ++ target :: source :: idle) :=
  (List.perm_middle.trans (List.perm_middle.cons target)).symm

section

variable {progress : Progress} (underWay : progress ∈ shared.moves)
include underWay

theorem listed_perm :
    shared.listed.Perm (progress.inHand ++
      ((shared.moves.erase progress).flatMap Progress.inHand ++ shared.idle)) := by
  have moved := (List.perm_cons_erase underWay).flatMap_right Progress.inHand
  rw [List.flatMap_cons] at moved
  have whole := moved.append_right shared.idle
  rwa [List.append_assoc] at whole

theorem carried_perm :
    shared.carried.Perm
      (progress.carried ++ (shared.moves.erase progress).flatMap Progress.carried) := by
  have moved := (List.perm_cons_erase underWay).flatMap_right Progress.carried
  rwa [List.flatMap_cons] at moved

theorem Consistent.shifts_advance (consistent : shared.Consistent) :
    shared.Shifts (shared.advance progress) := by
  have listed := listed_perm underWay
  have carried := carried_perm underWay
  have own := consistent.own progress underWay
  cases progress with
  | closing target source =>
    refine .closes target.state ?_ carried rfl
    exact listed.trans (.swap source target _)
  | leaving target source =>
    refine .leaves source _ (own source List.mem_cons_self) listed (.of_eq ?_)
      (carried.cons source.state) rfl
    simp [Shared.listed, advance, Progress.inHand]
  | arriving target source moved =>
    cases target with
    | none =>
      refine .arrives moved carried ?_ rfl
      exact (listed.cons _).trans (perm_returned _ source _ shared.idle)
    | some target =>
      refine .stores moved target _ (own target (by simp [Progress.inHand]))
        (consistent.emptied _ underWay target.state List.mem_cons_self)
        (listed.trans (.swap target source _)) ?_ carried rfl
      exact perm_returned _ source _ shared.idle

end

theorem shifts_proceed (shared : Shared Handler) : shared.Shifts shared.proceed := by
  simp only [proceed]
  split
  next =>
    split
    next => exact .rests (.refl _) rfl rfl rfl fun _ => rfl
    next =>
      refine .rests (.refl _) rfl rfl rfl fun service => ?_
      exact shared.system.registryOf_updateService shared.service _ (by intro found; rfl) service
  next => exact .rests (.refl _) rfl rfl rfl fun _ => rfl
  next state rest _ => exact .closes state (.refl _) (.refl _) rfl
  next =>
    refine .rests (.refl _) rfl rfl rfl fun service => ?_
    exact shared.system.registryOf_updateService shared.service _ (by intro found; rfl) service
  next => exact .rests (.refl _) rfl rfl rfl fun _ => rfl

theorem Consistent.shifts (consistent : shared.Consistent) (event : Event) :
    shared.Shifts (shared.step event) := by
  cases event with
  | moveConstruct source =>
    simp only [step]
    split
    next idle =>
      refine .rests ?_ rfl rfl rfl fun _ => rfl
      have taken := (List.perm_cons_erase idle.1).append_left
        (shared.moves.flatMap Progress.inHand)
      exact taken.trans List.perm_middle
    next => exact .rests (.refl _) rfl rfl rfl fun _ => rfl
  | moveAssign target source =>
    simp only [step]
    split
    next idle =>
      refine .rests ?_ rfl rfl rfl fun _ => rfl
      have both := (List.perm_cons_erase idle.1).trans ((List.perm_cons_erase idle.2.1).cons target)
      have taken := both.append_left (shared.moves.flatMap Progress.inHand)
      exact taken.trans (perm_returned target source _ _).symm
    next => exact .rests (.refl _) rfl rfl rfl fun _ => rfl
  | advance progress =>
    simp only [step]
    split
    next underWay => exact consistent.shifts_advance underWay
    next => exact .rests (.refl _) rfl rfl rfl fun _ => rfl
  | proceed => exact shared.shifts_proceed

theorem service_step (shared : Shared Handler) (event : Event) :
    (shared.step event).service = shared.service := by
  cases event with
  | moveConstruct source | moveAssign target source =>
    simp only [step]
    split <;> rfl
  | advance progress =>
    simp only [step]
    split
    next =>
      cases progress with
      | arriving target source moved => cases target <;> rfl
      | _ => rfl
    next => rfl
  | proceed =>
    simp only [step, proceed]
    split
    next => split <;> rfl
    all_goals rfl

theorem Shifts.closes_or_same (shifts : shared.Shifts later) :
    (∃ closed, later.system = (shared.system.closeState closed).2) ∨
      later.system.host = shared.system.host ∧
        ∀ state, later.system.state state = shared.system.state state := by
  cases shifts with
  | rests _ _ states host _ =>
    exact .inr ⟨host, fun state => by rw [System.state, states, System.state]⟩
  | closes closed _ _ system => exact .inl ⟨closed, system⟩
  | leaves source _ _ _ _ _ system =>
    have states := shared.system.states_detach shared.service source
    rw [system]
    refine .inr ⟨shared.system.host_detach shared.service source, fun state => ?_⟩
    rw [System.state, states]
    exact shared.system.state_addState state
  | arrives moved _ _ system =>
    have states := System.states_register shared.system shared.service moved
    rw [system]
    refine .inr ⟨shared.system.host_register shared.service moved, fun state => ?_⟩
    rw [System.state, states, System.state]
  | stores _ _ _ _ _ _ _ _ system =>
    rw [system]
    exact .inr ⟨rfl, fun state => rfl⟩

theorem Shifts.handle (shifts : shared.Shifts later) (state : StateId) :
    (later.system.state state).handle = (shared.system.state state).handle ∨
      (later.system.state state).handle = .closed := by
  rcases shifts.closes_or_same with ⟨closed, system⟩ | ⟨_, same⟩
  · have handle := shared.system.handle_releaseState closed state
    rw [system]
    change ((shared.system.closeState closed).2.state state).handle = _ at handle
    rw [handle]
    split
    next => exact .inr rfl
    next => exact .inl rfl
  · exact .inl (congrArg FileState.handle (same state))

theorem Shifts.laid (shifts : shared.Shifts later)
    (laid : shared.system.Laid shared.listed shared.carried)
    (known : shared.service < shared.system.services.length) :
    later.system.Laid later.listed later.carried := by
  cases shifts with
  | rests listed carried states host registries =>
    have still := System.unwinds_of_states states (host ▸ .refl shared.system.host)
    exact carried ▸ (laid.unwinds still registries).perm listed (.refl _)
  | closes closed listed carried system =>
    rw [system]
    exact (laid.unwinds (System.unwinds_closeState laid.backed closed) fun _ => rfl).perm listed
      carried
  | leaves source rest own before after carried system =>
    have detached := (laid.perm before (.refl _)).detach
    rw [own] at detached
    rw [system]
    exact detached.perm after carried
  | arrives moved before listed system =>
    have registered := (laid.perm (.refl _) before).register known
    rw [system]
    exact registered.perm listed (.refl _)
  | stores moved target rest own _ before after carried system =>
    have stored := (laid.perm before carried).store
    rw [system, ← own]
    exact stored.perm after (.refl _)

theorem Shifts.located (shifts : shared.Shifts later) (same : later.service = shared.service)
    (located : shared.Located state) : later.Located state := by
  rcases located with ⟨imp, member, home, rfl⟩ | carried | closed
  · cases shifts with
    | rests listed _ _ _ _ => exact .inl ⟨imp, listed.mem_iff.mp member, home.trans same.symm, rfl⟩
    | closes _ listed _ _ => exact .inl ⟨imp, listed.mem_iff.mp member, home.trans same.symm, rfl⟩
    | leaves source rest own before after carried _ =>
      rcases List.mem_cons.mp (before.mem_iff.mp member) with rfl | known
      · exact .inr (.inl (carried.mem_iff.mp List.mem_cons_self))
      · have listed := after.mem_iff.mp (List.mem_cons_of_mem _ known)
        exact .inl ⟨imp, listed, home.trans same.symm, rfl⟩
    | arrives moved before listed _ =>
      have known := listed.mem_iff.mp (List.mem_cons_of_mem _ member)
      exact .inl ⟨imp, known, home.trans same.symm, rfl⟩
    | stores moved target rest own emptied before after _ system =>
      rcases List.mem_cons.mp (before.mem_iff.mp member) with rfl | known
      · exact .inr (.inr (by rw [system]; exact emptied))
      · have listed := after.mem_iff.mp (List.mem_cons_of_mem _ known)
        exact .inl ⟨imp, listed, home.trans same.symm, rfl⟩
  · cases shifts with
    | rests _ same _ _ _ => exact .inr (.inl (same ▸ carried))
    | closes _ _ same _ => exact .inr (.inl (same.mem_iff.mp carried))
    | leaves _ _ _ _ _ more _ =>
      exact .inr (.inl (more.mem_iff.mp (List.mem_cons_of_mem _ carried)))
    | arrives moved before listed _ =>
      rcases List.mem_cons.mp (before.mem_iff.mp carried) with rfl | still
      · exact .inl ⟨_, listed.mem_iff.mp List.mem_cons_self, same.symm, rfl⟩
      · exact .inr (.inl still)
    | stores moved target _ own _ _ after before _ =>
      rcases List.mem_cons.mp (before.mem_iff.mp carried) with rfl | still
      · exact .inl ⟨_, after.mem_iff.mp List.mem_cons_self, own.trans same.symm, rfl⟩
      · exact .inr (.inl still)
  · rcases shifts.handle state with unchanged | closed
    · exact .inr (.inr (unchanged.trans closed))
    · exact .inr (.inr closed)

theorem length_services_step (shared : Shared Handler) (event : Event) :
    (shared.step event).system.services.length = shared.system.services.length := by
  cases event with
  | moveConstruct source | moveAssign target source =>
    simp only [step]
    split <;> rfl
  | advance progress =>
    simp only [step]
    split
    next =>
      cases progress with
      | closing target source => rfl
      | leaving target source => exact shared.system.length_services_detach shared.service source
      | arriving target source moved =>
        cases target with
        | none => exact shared.system.length_services_register shared.service moved
        | some target => exact List.length_modify ..
    next => rfl
  | proceed =>
    simp only [step, proceed]
    split
    next =>
      split
      next => rfl
      next => exact List.length_modify ..
    next => rfl
    next => rfl
    next => exact List.length_modify ..
    next => rfl

theorem service_run (shared : Shared Handler) (events : List Event) :
    (shared.run events).service = shared.service := by
  induction events generalizing shared with
  | nil => rfl
  | cons event rest ih => exact (ih (shared.step event)).trans (shared.service_step event)

theorem length_services_run (shared : Shared Handler) (events : List Event) :
    (shared.run events).system.services.length = shared.system.services.length := by
  induction events generalizing shared with
  | nil => rfl
  | cons event rest ih => exact (ih (shared.step event)).trans (shared.length_services_step event)

theorem moves_proceed (shared : Shared Handler) : shared.proceed.moves = shared.moves := by
  simp only [proceed]
  split
  next => split <;> rfl
  all_goals rfl

theorem Consistent.own_step (consistent : shared.Consistent) {event : Event} :
    ∀ progress ∈ (shared.step event).moves, ∀ imp ∈ progress.inHand,
      imp.owner = shared.service := by
  have own := consistent.own
  cases event with
  | moveConstruct source =>
    simp only [step]
    split
    next idle =>
      simp only [List.forall_mem_cons]
      exact ⟨by simpa [Progress.inHand] using idle.2, own⟩
    next => exact own
  | moveAssign target source =>
    simp only [step]
    split
    next idle =>
      simp only [List.forall_mem_cons]
      exact ⟨by simpa [Progress.inHand] using idle.2.2, own⟩
    next => exact own
  | advance progress =>
    simp only [step]
    split
    next underWay =>
      have mine := own progress underWay
      have others : ∀ other ∈ shared.moves.erase progress, ∀ imp ∈ other.inHand,
          imp.owner = shared.service := fun other member => own other (List.mem_of_mem_erase member)
      cases progress with
      | closing target source =>
        refine List.forall_mem_cons.mpr ⟨fun imp member => mine imp ?_, others⟩
        simpa [Progress.inHand, or_comm] using member
      | leaving target source =>
        refine List.forall_mem_cons.mpr ⟨?_, others⟩
        simp only [Progress.inHand, List.forall_mem_cons] at mine ⊢
        exact mine
      | arriving target source moved => cases target <;> exact others
    next => exact own
  | proceed =>
    simp only [step, moves_proceed]
    exact own

theorem Consistent.emptied_step (consistent : shared.Consistent) {event : Event} :
    ∀ progress ∈ (shared.step event).moves, ∀ state ∈ progress.emptied,
      ((shared.step event).system.state state).handle = .closed := by
  have shifts := consistent.shifts event
  have still (state : StateId) (closed : (shared.system.state state).handle = .closed) :
      ((shared.step event).system.state state).handle = .closed := by
    rcases shifts.handle state with same | gone
    · exact same.trans closed
    · exact gone
  have kept : ∀ progress ∈ shared.moves, ∀ state ∈ progress.emptied,
      ((shared.step event).system.state state).handle = .closed :=
    fun progress underWay state member =>
      still state (consistent.emptied progress underWay state member)
  -- What was closed stays closed, so only what the event itself takes out is left to look at.
  cases event with
  | moveConstruct source =>
    revert kept
    simp only [step]
    split
    next =>
      intro kept
      exact List.forall_mem_cons.mpr ⟨by simp [Progress.emptied], kept⟩
    next => exact id
  | moveAssign target source =>
    revert kept
    simp only [step]
    split
    next =>
      intro kept
      exact List.forall_mem_cons.mpr ⟨by simp [Progress.emptied], kept⟩
    next => exact id
  | advance progress =>
    by_cases underWay : progress ∈ shared.moves
    · rw [step_advance underWay] at kept ⊢
      have others : ∀ other ∈ shared.moves.erase progress, ∀ state ∈ other.emptied,
          ((shared.advance progress).system.state state).handle = .closed :=
        fun other member => kept other (List.mem_of_mem_erase member)
      cases progress with
      | closing target source =>
        refine List.forall_mem_cons.mpr ⟨?_, others⟩
        simp only [Progress.emptied, List.forall_mem_singleton]
        exact (shared.system.handle_releaseState target.state target.state).trans (if_pos rfl)
      | leaving target source =>
        have mine := kept _ underWay
        exact List.forall_mem_cons.mpr ⟨by cases target <;> exact mine, others⟩
      | arriving target source moved => cases target <;> exact others
    · rw [show shared.step (.advance progress) = shared from if_neg underWay] at kept ⊢
      exact kept
  | proceed =>
    simp only [step, moves_proceed] at kept ⊢
    exact kept

theorem Consistent.step (consistent : shared.Consistent) (event : Event) :
    (shared.step event).Consistent where
  laid := (consistent.shifts event).laid consistent.laid consistent.known
  known := by
    rw [service_step, length_services_step]
    exact consistent.known
  own := by
    rw [service_step]
    exact consistent.own_step
  emptied := consistent.emptied_step

theorem Consistent.run (consistent : shared.Consistent) (events : List Event) :
    (shared.run events).Consistent := by
  induction events generalizing shared with
  | nil => exact consistent
  | cons event rest ih => exact ih (consistent.step event)

/-- The snapshot has every open state of the service that no move carries. -/
theorem Consistent.mem_registered_iff (consistent : shared.Consistent)
    (located : shared.Located state) (held : (shared.system.state state).handle ≠ .closed) :
    state ∈ shared.system.registered shared.service ↔ state ∉ shared.carried := by
  rw [consistent.laid.books.mem_registered]
  constructor
  · rintro ⟨imp, member, _, rfl⟩ carried
    exact consistent.laid.unlisted carried (List.mem_map_of_mem member)
  · intro uncarried
    rcases located with listed | carried | closed
    · exact listed
    · exact absurd carried uncarried
    · exact absurd closed held

end Shared

end Moving

end AsyncFiles
