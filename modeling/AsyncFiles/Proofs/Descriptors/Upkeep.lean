import AsyncFiles.Proofs.Descriptors.Books

namespace AsyncFiles

open Access Error Host

namespace System

variable {Handler : Type} {system later : System Handler} {service : ServiceId}
  {imp other : Implementation} {rest all next : List Implementation} {ended : List StateId}

structure Sound (system : System Handler) (all : List Implementation) : Prop where
  backed : system.Backed
  books : system.Books all
  borne : system.Borne all

theorem Borne.unwinds (borne : system.Borne all) (unwinds : system.Unwinds later ended)
    (passed : ∀ imp ∈ all, 0 < system.references imp.owner → imp.state ∈ ended ∨
      ∃ heir ∈ next, heir.state = imp.state ∧ 0 < later.references heir.owner) :
    later.Borne next := by
  intro state held
  rcases unwinds.handle state with same | closed
  · rw [same] at held
    obtain ⟨imp, member, rfl, used⟩ := borne state held
    rcases passed imp member used with last | heir
    · rw [same.symm.trans (unwinds.closed imp.state last)] at held
      cases held
    · exact heir
  · rw [closed] at held
    cases held

theorem Sound.perm (sound : system.Sound all) (same : all.Perm next) : system.Sound next where
  backed := sound.backed
  books := sound.books.perm same
  borne state held := by
    obtain ⟨imp, member, found⟩ := sound.borne state held
    exact ⟨imp, same.mem_iff.mp member, found⟩

theorem Sound.unwinds (sound : system.Sound all) (unwinds : system.Unwinds later ended)
    (registries : ∀ service, later.registryOf service = system.registryOf service)
    (references : ∀ service, system.references service ≤ later.references service) :
    later.Sound all where
  backed := sound.backed.unwinds unwinds
  books := sound.books.of_registries registries unwinds.grown
  borne := sound.borne.unwinds unwinds fun imp member used =>
    .inr ⟨imp, member, rfl, Nat.lt_of_lt_of_le used (references imp.owner)⟩

theorem Sound.construct (sound : system.Sound all) (held : 0 < system.references service) :
    (system.construct service).2.Sound ((system.construct service).1 :: all) where
  backed := sound.backed.unwinds (system.unwinds_construct service)
  books := books_construct sound.books held
  borne := sound.borne.unwinds (system.unwinds_construct service) fun imp member used => by
    refine .inr ⟨imp, List.mem_cons_of_mem _ member, rfl, ?_⟩
    rwa [references_construct]

theorem Sound.moveConstruct (sound : system.Sound (other :: rest))
    (held : 0 < system.references service) :
    (system.moveConstruct service other.owner other).2.2.Sound
      ((system.moveConstruct service other.owner other).1 ::
        (system.moveConstruct service other.owner other).2.1 :: rest) where
  backed := sound.backed.unwinds (system.unwinds_moveConstruct service other.owner other)
  books := books_moveConstruct sound.books held
  borne := by
    have references := system.references_moveConstruct service other.owner other
    apply sound.borne.unwinds (system.unwinds_moveConstruct service other.owner other)
    intro imp member used
    rw [← references imp.owner] at used
    rw [← references service] at held
    rcases List.mem_cons.mp member with rfl | elsewhere
    · exact .inr ⟨_, List.mem_cons_self, rfl, held⟩
    · exact .inr ⟨imp, List.mem_cons_of_mem _ (List.mem_cons_of_mem _ elsewhere), rfl, used⟩

theorem owner_moveAssign (system : System Handler) (imp other : Implementation) :
    (system.moveAssign imp.owner imp other.owner other).1.owner = other.owner := by
  simp only [System.moveAssign]
  split
  next same => exact same
  next => rfl

theorem owner_source_moveAssign (system : System Handler) (service : ServiceId)
    (imp : Implementation) (otherService : ServiceId) (other : Implementation) :
    (system.moveAssign service imp otherService other).2.1.owner = other.owner := by
  simp only [System.moveAssign]
  split <;> rfl

theorem Sound.moveAssign (sound : system.Sound (imp :: other :: rest))
    (held : 0 < system.references other.owner) :
    (system.moveAssign imp.owner imp other.owner other).2.2.Sound
      ((system.moveAssign imp.owner imp other.owner other).1 ::
        (system.moveAssign imp.owner imp other.owner other).2.1 :: rest) where
  backed := sound.backed.unwinds (unwinds_moveAssign sound.backed imp.owner imp other.owner other)
  books := books_moveAssign sound.books held
  borne := by
    have references := system.references_moveAssign imp.owner imp other.owner other
    apply sound.borne.unwinds (unwinds_moveAssign sound.backed imp.owner imp other.owner other)
    intro found member used
    rw [← references found.owner] at used
    rw [← references other.owner] at held
    rcases List.mem_cons.mp member with rfl | member
    · exact .inl (List.mem_singleton_self _)
    · rcases List.mem_cons.mp member with rfl | elsewhere
      · refine .inr ⟨_, List.mem_cons_self, (system.state_moveAssign _ _ _ _).1, ?_⟩
        rwa [owner_moveAssign]
      · exact .inr ⟨found, List.mem_cons_of_mem _ (List.mem_cons_of_mem _ elsewhere), rfl, used⟩

theorem Sound.destroy (sound : system.Sound (imp :: rest)) :
    (system.destroy imp.owner imp).Sound rest where
  backed := sound.backed.unwinds (unwinds_destroy sound.backed imp.owner imp)
  books := books_destroy sound.books
  borne := by
    apply sound.borne.unwinds (unwinds_destroy sound.backed imp.owner imp)
    intro found member used
    rw [← system.references_destroy imp.owner imp] at used
    rcases List.mem_cons.mp member with rfl | elsewhere
    · exact .inl (List.mem_singleton_self _)
    · exact .inr ⟨found, elsewhere, rfl, used⟩

theorem Sound.shutdown (sound : system.Sound all) (service : ServiceId) :
    (system.shutdown service).Sound all :=
  sound.unwinds (unwinds_shutdown sound.backed service) (system.registryOf_shutdown service)
    fun other => Nat.le_of_eq (system.references_shutdown service other).symm

theorem Sound.retain (sound : system.Sound all) (service : ServiceId) :
    (system.retain service).Sound all :=
  sound.unwinds (unwinds_of_states rfl (.refl _)) (system.registryOf_retain service)
    (system.references_le_retain service)

theorem Sound.dropReference (sound : system.Sound all) (service : ServiceId) :
    (system.dropReference service).Sound all where
  backed := sound.backed.unwinds (unwinds_dropReference sound.backed service)
  books := sound.books.of_registries (system.registryOf_dropReference service)
    (unwinds_dropReference sound.backed service).grown
  borne := by
    apply sound.borne.unwinds (unwinds_dropReference sound.backed service)
    intro imp member used
    have references := system.references_dropReference service imp.owner
    by_cases own : imp.owner = service
    · by_cases last : system.references service ≤ 1
      · refine .inl ?_
        rw [endedByDrop, if_pos last]
        exact sound.books.mem_registered.mpr ⟨imp, member, own, rfl⟩
      · rw [if_pos own, own] at references
        exact .inr ⟨imp, member, rfl, by rw [own]; omega⟩
    · rw [if_neg own] at references
      exact .inr ⟨imp, member, rfl, by rw [references]; exact used⟩

theorem Sound.adopts {handle : FileHandle} (sound : system.Sound all)
    (adopts : system.Adopts later imp.state handle) (backed : later.Backed) (member : imp ∈ all)
    (held : 0 < system.references imp.owner) : later.Sound all where
  backed := backed
  books := sound.books.of_registries (registryOf_of_services adopts.services)
    (Nat.le_of_eq adopts.length.symm)
  borne state shown := by
    rw [adopts.handles] at shown
    by_cases here : imp.state = state
    · exact ⟨imp, member, here, by rwa [references_of_services adopts.services]⟩
    · rw [if_neg here] at shown
      obtain ⟨found, known, same, used⟩ := sound.borne state shown
      exact ⟨found, known, same, by rwa [references_of_services adopts.services]⟩

theorem Sound.releaseState (sound : system.Sound all) (released : StateId) :
    (system.releaseState released).2.Sound all where
  backed raw number := by
    have counted := system.holding_releaseState released number
    have before := sound.backed raw number
    change _ ≤ (system.host.opened raw).toNat
    omega
  books := sound.books.of_registries (fun _ => rfl)
    (Nat.le_of_eq (length_closeState system released).symm)
  borne state shown := by
    rw [handle_releaseState] at shown
    split at shown
    next => cases shown
    next => exact sound.borne state shown

/-- Whatever of a service has nothing to do with its pool stays as it was. -/
def OnlyPools (system later : System Handler) : Prop :=
  ∀ (View : Type) (view : Service Handler → View),
    (∀ found pool, view { found with pool } = view found) →
      ∀ other, (later.service? other).map view = (system.service? other).map view

theorem OnlyPools.registryOf (pools : system.OnlyPools later) (service : ServiceId) :
    later.registryOf service = system.registryOf service := by
  simp only [System.registryOf]
  rw [pools _ Service.registry fun _ _ => rfl]

theorem OnlyPools.references (pools : system.OnlyPools later) (service : ServiceId) :
    later.references service = system.references service := by
  simp only [System.references]
  rw [pools _ Service.references fun _ _ => rfl]

theorem Sound.onlyPools (sound : system.Sound all) (unwinds : system.Unwinds later ended)
    (pools : system.OnlyPools later) : later.Sound all :=
  sound.unwinds unwinds pools.registryOf fun service => Nat.le_of_eq (pools.references service).symm

theorem onlyPools_updatePool (system : System Handler) (service : ServiceId)
    (change : Pool (Task Handler) → Pool (Task Handler)) :
    system.OnlyPools (system.updatePool service change) :=
  fun _ _ same other => system.view_updateService service _ (fun found => same found _) other

theorem onlyPools_submit (system : System Handler) (service : ServiceId) (imp : Implementation)
    (request : Request) (buffers : List Bytes) (handler : Handler) :
    system.OnlyPools (system.submit service imp request buffers handler) := by
  simp only [submit]
  split
  next => exact fun _ _ _ _ => rfl
  next found _ =>
    split
    next => exact onlyPools_updatePool (system.workStarted found.context) service _
    next => exact fun _ _ _ _ => rfl

theorem onlyPools_follow (system : System Handler) (service : ServiceId) (worker : Nat)
    (operation : Operation Handler) (attempt : Attempt) :
    system.OnlyPools (system.follow service worker operation attempt) := by
  cases attempt with
  | stalled call => exact system.onlyPools_updatePool service _
  | finished result buffers =>
    exact onlyPools_updatePool (system.deliver operation result buffers) service _

theorem onlyPools_workerStep {paused : Operation Handler → Bool} {worker : Nat}
    (stepped : system.workerStep? paused service worker = some later) : system.OnlyPools later := by
  simp only [workerStep?] at stepped
  split at stepped
  next => cases stepped
  next found present =>
    split at stepped
    next operation _ =>
      cases stepped
      simp only [checkToken]
      split
      next =>
        exact onlyPools_updatePool (system.deliver operation (.error .aborted) operation.buffers)
          service _
      next => exact system.onlyPools_updatePool service _
    next operation _ =>
      split at stepped
      next => cases stepped
      next =>
        cases stepped
        exact onlyPools_follow _ service worker operation _
    next operation call _ =>
      obtain ⟨⟨attempt, host⟩, _, rfl⟩ := Option.map_eq_some_iff.mp stepped
      exact onlyPools_follow { system with host } service worker operation attempt
    next context _ =>
      cases stepped
      exact onlyPools_updatePool (system.workFinished context) service _
    next =>
      cases stepped
      exact system.onlyPools_updatePool service _
    next =>
      split at stepped
      next =>
        cases stepped
        exact system.onlyPools_updatePool service _
      next =>
        obtain ⟨pool, _, rfl⟩ := Option.map_eq_some_iff.mp stepped
        exact system.onlyPools_updatePool service _

end System

namespace File

variable {Handler : Type} {system : System Handler} {file other : File}
  {rest all : List Implementation}

theorem sound_new {service : ServiceId} (sound : system.Sound all)
    (held : 0 < system.references service) :
    (File.new service system).2.Sound ((File.new service system).1.implementation :: all) :=
  (sound.construct held).retain service

theorem sound_take (sound : system.Sound (file.implementation :: rest))
    (home : file.implementation.owner = file.service) (held : 0 < system.references file.service) :
    (file.take system).2.2.Sound ((file.take system).1.implementation ::
      (file.take system).2.1.implementation :: rest) := by
  have moved := (sound.moveConstruct held).retain file.service
  rw [home] at moved
  exact moved

theorem sound_drop (sound : system.Sound (file.implementation :: rest))
    (home : file.implementation.owner = file.service) : (file.drop system).Sound rest := by
  have dropped := sound.destroy.dropReference file.service
  rw [home] at dropped
  exact dropped

theorem sound_moveFrom (sound : system.Sound (file.implementation :: other.implementation :: rest))
    (home : file.implementation.owner = file.service)
    (otherHome : other.implementation.owner = other.service)
    (held : 0 < system.references other.service) :
    (file.moveFrom other system).2.2.Sound ((file.moveFrom other system).1.implementation ::
      (file.moveFrom other system).2.1.implementation :: rest) := by
  rw [← otherHome] at held
  have moved := sound.moveAssign held
  rw [home, otherHome] at moved
  simp only [moveFrom]
  split
  next => exact moved
  next => exact (moved.retain other.service).dropReference file.service

theorem references_take (held : 0 < system.references file.service) (found : ServiceId) :
    (file.take system).2.2.references found =
      system.references found + (if file.service = found then 1 else 0) := by
  let moved := (system.moveConstruct file.service file.service file.implementation).2.2
  have same := system.references_moveConstruct file.service file.service file.implementation
  calc
    (file.take system).2.2.references found =
        moved.references found + (if file.service = found then 1 else 0) :=
      moved.references_retain (Nat.lt_of_lt_of_eq held (same file.service).symm) found
    _ = system.references found + (if file.service = found then 1 else 0) := by rw [same]

theorem references_drop (held : 0 < system.references file.service) (found : ServiceId) :
    (file.drop system).references found + (if file.service = found then 1 else 0) =
      system.references found := by
  have less := (system.destroy file.service file.implementation).references_dropReference
    file.service found
  rw [System.references_destroy] at less
  change ((system.destroy file.service file.implementation).dropReference
    file.service).references found + _ = _
  rw [less]
  by_cases here : found = file.service
  · subst here
    rw [if_pos rfl, if_pos rfl]
    omega
  · rw [if_neg here, if_neg (Ne.symm here), Nat.add_zero]

theorem references_moveFrom (held : 0 < system.references file.service)
    (otherHeld : 0 < system.references other.service) (found : ServiceId) :
    (file.moveFrom other system).2.2.references found + (if file.service = found then 1 else 0) =
      system.references found + (if other.service = found then 1 else 0) := by
  let moved := (system.moveAssign file.service file.implementation other.service
    other.implementation).2.2
  have same := system.references_moveAssign file.service file.implementation other.service
    other.implementation
  simp only [moveFrom]
  split
  next home => rw [same, home]
  next apart =>
    have more := moved.references_retain
      (Nat.lt_of_lt_of_eq otherHeld (same other.service).symm) found
    have less := (moved.retain other.service).references_dropReference file.service found
    rw [more, same] at less
    change ((moved.retain other.service).dropReference file.service).references found + _ = _
    rw [less]
    by_cases here : found = file.service
    · subst here
      rw [if_pos rfl, if_pos rfl]
      omega
    · rw [if_neg here, if_neg (Ne.symm here), Nat.add_zero]

end File

end AsyncFiles
