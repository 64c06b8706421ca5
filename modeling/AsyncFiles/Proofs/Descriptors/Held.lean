import AsyncFiles.Proofs.Descriptors.Owners
import AsyncFiles.Proofs.Outcome.Starts

namespace AsyncFiles

open Access Error Host

def At {Element : Type} (holds : Element → Bool) (elements : List Element) (index : Nat) : Prop :=
  ∃ found, elements[index]? = some found ∧ holds found = true

section

variable {Element : Type} {holds : Element → Bool} {elements : List Element}

theorem not_at_of_countP (none : elements.countP holds = 0) (index : Nat) :
    ¬ At holds elements index := by
  rintro ⟨found, located, has⟩
  exact List.countP_eq_zero.mp none found (List.mem_of_getElem? located) has

theorem at_of_countP (once : elements.countP holds = 1) : ∃! index, At holds elements index := by
  induction elements with
  | nil => simp at once
  | cons first rest ih =>
    rw [List.countP_cons] at once
    by_cases here : holds first = true
    · rw [if_pos here] at once
      refine ⟨0, ⟨first, rfl, here⟩, ?_⟩
      rintro (_ | index) found
      · rfl
      · exact absurd found (not_at_of_countP (by omega) index)
    · rw [if_neg here] at once
      obtain ⟨index, found, unique⟩ := ih once
      refine ⟨index + 1, found, ?_⟩
      rintro (_ | other) ⟨element, located, has⟩
      · cases located
        exact absurd has here
      · exact congrArg (· + 1) (unique other ⟨element, located, has⟩)

end

namespace Program

variable {program : Program} {raw : Int}

def Counted (program : Program) (raw : Int) : Holder → Prop
  | .owner index => At (fun owner => owner.handle.raw = raw) program.owners index
  | .state state => At (fun found => found.handle.raw = raw) program.system.states state
  | .caller index => At (fun handle => handle.raw = raw) program.loose index

theorem held_iff (number : raw ≠ -1) {holder : Holder} :
    program.held holder = ⟨raw⟩ ↔ program.Counted raw holder := by
  have closed : FileHandle.closed ≠ ⟨raw⟩ := fun same => number (congrArg FileHandle.raw same).symm
  have same (handle : FileHandle) : handle = ⟨raw⟩ ↔ handle.raw = raw := by
    cases handle
    simp
  cases holder with
  | owner index =>
    simp only [held, Counted, At, ← same]
    cases program.owners[index]? <;> simp [closed]
  | state state =>
    simp only [held, Counted, At, System.state, ← same]
    cases program.system.states[state]? <;> simp [closed]
  | caller index =>
    simp only [held, Counted, At, ← same]
    cases program.loose[index]? <;> simp [closed]

theorem counted_once (once : program.tally raw = 1) : ∃! holder, program.Counted raw holder := by
  simp only [Program.tally, owned, System.holding, spare] at once
  rcases Nat.eq_zero_or_pos (program.owners.countP fun owner => owner.handle.raw = raw) with
    unowned | owned
  · rcases Nat.eq_zero_or_pos
      (program.system.states.countP fun found => found.handle.raw = raw) with
      stateless | stated
    · obtain ⟨index, found, unique⟩ := at_of_countP
        (show program.loose.countP (fun handle => handle.raw = raw) = 1 by omega)
      refine ⟨.caller index, found, ?_⟩
      rintro (other | other | other) counted
      · exact absurd counted (not_at_of_countP unowned other)
      · exact absurd counted (not_at_of_countP stateless other)
      · exact congrArg Holder.caller (unique other counted)
    · obtain ⟨state, found, unique⟩ := at_of_countP
        (show program.system.states.countP (fun found => found.handle.raw = raw) = 1 by omega)
      refine ⟨.state state, found, ?_⟩
      rintro (other | other | other) counted
      · exact absurd counted (not_at_of_countP unowned other)
      · exact congrArg Holder.state (unique other counted)
      · exact absurd counted (not_at_of_countP (by omega) other)
  · obtain ⟨index, found, unique⟩ := at_of_countP
      (show program.owners.countP (fun owner => owner.handle.raw = raw) = 1 by omega)
    refine ⟨.owner index, found, ?_⟩
    rintro (other | other | other) counted
    · exact congrArg Holder.owner (unique other counted)
    · exact absurd counted (not_at_of_countP (by omega) other)
    · exact absurd counted (not_at_of_countP (by omega) other)

theorem Conserved.held_once (conserved : program.Conserved)
    (there : program.system.host.opened raw = true) : ∃! holder, program.held holder = ⟨raw⟩ := by
  have number : raw ≠ -1 := by
    have natural := natural_of_opened there
    omega
  have counted := conserved.tally raw number
  rw [there, Bool.toNat_true] at counted
  simpa only [held_iff number] using counted_once counted

theorem Conserved.opened_of_held (conserved : program.Conserved) {holder : Holder}
    (isOpen : (program.held holder).isOpen = true) :
    program.system.host.opened (program.held holder).raw = true := by
  cases holder with
  | owner index =>
    simp only [held] at isOpen ⊢
    cases located : program.owners[index]? with
    | none => simp [located, FileHandle.isOpen, FileHandle.closed] at isOpen
    | some owner =>
      rw [located] at isOpen
      exact conserved.opened_of_owner (List.mem_of_getElem? located) isOpen
  | state state => exact conserved.sound.backed.opened_of_handle state isOpen
  | caller index =>
    simp only [held] at isOpen ⊢
    cases located : program.loose[index]? with
    | none => simp [located, FileHandle.isOpen, FileHandle.closed] at isOpen
    | some handle =>
      rw [located] at isOpen
      exact conserved.opened_of_spare (.inr (List.mem_of_getElem? located)) isOpen

theorem Conserved.registered_once (conserved : program.Conserved) {state : StateId}
    (isOpen : (program.system.state state).handle.isOpen = true) :
    ∃! entry : ServiceId × RegistryKey,
      (program.system.registryOf entry.1).get? entry.2 = some state ∧
        0 < program.system.references entry.1 := by
  obtain ⟨imp, member, rfl, used⟩ := conserved.borne state isOpen
  refine ⟨(imp.owner, imp.key), ⟨(conserved.books.entry imp).mpr member, used⟩, ?_⟩
  rintro ⟨service, key⟩ ⟨present, _⟩
  have other := (conserved.books.entry ⟨key, service, imp.state⟩).mp present
  have same := List.inj_on_of_nodup_map conserved.books.nodup other member rfl
  rw [← same]

theorem Conserved.perform (conserved : program.Conserved) {act : Act}
    (allowed : program.allows act = true) (proper : program.Proper act) :
    program.Settles (program.perform act) (program.closers act) := by
  cases act with
  | context act => exact conserved.onContext act
  | service act => exact conserved.onService allowed
  | implementation act => exact conserved.onImplementation allowed proper
  | file act => exact conserved.onFile allowed
  | owner act => exact conserved.onOwner allowed proper
  | work service worker =>
    simp only [Program.perform]
    split
    next stepped =>
      exact conserved.busy (System.unwinds_workerStep stepped) (System.onlyPools_workerStep stepped)
        ⟨rfl, rfl, rfl, rfl, rfl⟩
    next => exact conserved.idle
  | outside host => exact conserved.outside proper

theorem conserved_fresh (host : Host) : (fresh host).Conserved where
  books :=
    { wellFormed := fun _ => Registry.wellFormed_empty
      entry := fun imp => by
        simp [System.registryOf, System.service?, fresh, Registry.get?_empty, all, listed]
      nodup := List.nodup_nil
      bound := by simp [fresh, all, listed] }
  borne state shown := by simp [fresh, System.state, FileHandle.isOpen, FileHandle.closed] at shown
  homes := by simp [fresh]
  bound service := by simp [fresh, bound]
  tally raw _ := by
    have counted := host.countP_openHandles raw
    simp only [Program.tally, owned, System.holding, spare, fresh, List.countP_nil] at counted ⊢
    omega

theorem Conserved.run (conserved : program.Conserved) {acts : List Act}
    (disciplined : program.Disciplined acts) : (program.run acts).Conserved := by
  induction acts generalizing program with
  | nil => exact conserved
  | cons act rest ih =>
    refine ih ?_ disciplined.2
    simp only [step]
    split
    next allowed => exact (conserved.perform allowed (disciplined.1 allowed)).conserved
    next => exact conserved

structure InOrder (program : Program) : Prop where
  /-- Every open descriptor has one holder. -/
  held_once : ∀ raw, program.system.host.opened raw = true → ∃! holder, program.held holder = ⟨raw⟩
  opened_of_held : ∀ holder, (program.held holder).isOpen = true →
    program.system.host.opened (program.held holder).raw = true
  registered_once : ∀ state, (program.system.state state).handle.isOpen = true →
    ∃! entry : ServiceId × RegistryKey,
      (program.system.registryOf entry.1).get? entry.2 = some state ∧
        0 < program.system.references entry.1
  /-- What the next act closes, the host closes by one call each; it was open, and held by someone
  whose file the act closes. -/
  closed_once : ∀ act, (program.allows act = true → program.Proper act) →
    ∃ closed, program.system.host.Sheds (program.step act).system.host closed ∧
      ∀ raw ∈ closed, ∃ holder ∈ program.closers act, program.held holder = ⟨raw⟩
  /-- Without owners and services, what is open is the caller's. -/
  nothing_left : program.owners = [] → (∀ service, program.system.references service = 0) →
    ∀ raw, program.system.host.opened raw = true → ⟨raw⟩ ∈ program.loose

theorem Conserved.inOrder (conserved : program.Conserved) : program.InOrder where
  held_once _ there := conserved.held_once there
  opened_of_held _ isOpen := conserved.opened_of_held isOpen
  registered_once _ isOpen := conserved.registered_once isOpen
  closed_once act proper := by
    simp only [step]
    split
    next allowed => exact (conserved.perform allowed (proper allowed)).closings
    next => exact ⟨[], (Unmoved.refl program.system.host).sheds, by simp⟩
  nothing_left ownerless released raw there := by
    have natural := natural_of_opened there
    have isOpen : (⟨raw⟩ : FileHandle).isOpen = true := by
      simp only [FileHandle.isOpen, ne_eq, decide_eq_true_eq]
      omega
    obtain ⟨holder, found, _⟩ := conserved.held_once there
    cases holder with
    | owner index =>
      simp only [held, ownerless, List.getElem?_nil, Option.getD_none] at found
      rw [← found] at isOpen
      cases isOpen
    | state state =>
      simp only [held] at found
      rw [← found] at isOpen
      obtain ⟨entry, ⟨_, used⟩, _⟩ := conserved.registered_once isOpen
      rw [released] at used
      cases used
    | caller index =>
      simp only [held] at found
      cases located : program.loose[index]? with
      | none =>
        rw [located] at found
        rw [← found] at isOpen
        cases isOpen
      | some handle =>
        rw [located] at found
        exact found ▸ List.mem_of_getElem? located

def openings (program : Program) (raw : Int) : List Act → Nat
  | [] => 0
  | act :: rest =>
    (if program.system.host.opened raw = false ∧
      (program.step act).system.host.opened raw = true then 1 else 0) +
      (program.step act).openings raw rest

theorem Conserved.closes_run (conserved : program.Conserved) {acts : List Act}
    (disciplined : program.Disciplined acts) (raw : Int) :
    (program.run acts).system.host.closes.count raw +
        ((program.run acts).system.host.opened raw).toNat =
      program.system.host.closes.count raw + (program.system.host.opened raw).toNat +
        program.openings raw acts := by
  induction acts generalizing program with
  | nil => rfl
  | cons act rest ih =>
    obtain ⟨closed, sheds, _⟩ := conserved.inOrder.closed_once act disciplined.1
    have single : program.Disciplined [act] := ⟨disciplined.1, trivial⟩
    have stepped : (program.step act).Conserved := conserved.run single
    have later := ih stepped disciplined.2
    have once := sheds.count raw
    rw [run_cons, later, openings]
    cases before : program.system.host.opened raw with
    | true =>
      cases after : (program.step act).system.host.opened raw <;>
        simp [before, after] at once ⊢ <;> omega
    | false =>
      cases after : (program.step act).system.host.opened raw <;>
        simp [before, after] at once ⊢ <;> omega

/-- In every state of a run in which implementations are used with their own services, and only what
is the caller's is given away, each open descriptor is held by exactly one owner, by exactly one
registered state or by the caller; its holder alone closes it, whatever the closing reports; and
when every owner and every service is gone, nothing is open but what the caller holds itself. Over
the whole run every number is closed once for each time it came to be open, unless it still is. -/
theorem descriptors_conserved (host : Host) (acts : List Act)
    (disciplined : (fresh host).Disciplined acts) :
    ((fresh host).run acts).InOrder ∧
      ∀ raw, ((fresh host).run acts).system.host.closes.count raw +
          (((fresh host).run acts).system.host.opened raw).toNat =
        host.closes.count raw + (host.opened raw).toNat + (fresh host).openings raw acts :=
  ⟨((conserved_fresh host).run disciplined).inOrder,
    fun raw => (conserved_fresh host).closes_run disciplined raw⟩

theorem disciplined_append (first rest : List Act) :
    program.Disciplined (first ++ rest) ↔
      program.Disciplined first ∧ (program.run first).Disciplined rest := by
  induction first generalizing program with
  | nil => simp [Disciplined]
  | cons act more ih => simp only [List.cons_append, Disciplined, ih, run_cons, and_assoc]

end Program

/-- The three standard streams come to their ends: one is assigned to a file that is forgotten, and
goes with the service; another is closed when its owner takes the third, and that when the owner is
dropped. -/
def settlement : List Act :=
  [.context .create, .service (.start 0 {})] ++
    [.implementation (.construct 0), .implementation (.call 0 ⟨⟨1, 1⟩, 0, 0⟩ (.assign ⟨0⟩)),
      .owner (.wrap ⟨1⟩), .owner (.reset ⟨⟨1⟩⟩ ⟨2⟩), .owner (.drop ⟨⟨2⟩⟩),
      .implementation (.forget ⟨⟨1, 1⟩, 0, 0⟩), .service (.drop 0)]

theorem nothing_open_after_settlement :
    (Program.fresh (.fresh default)).Disciplined settlement ∧
      ∀ raw, ((Program.fresh (.fresh default)).run settlement).system.host.opened raw = false := by
  have disciplined : (Program.fresh (.fresh default)).Disciplined settlement := by
    rw [settlement, Program.disciplined_append, run_served]
    refine ⟨⟨fun _ => trivial, fun _ => trivial, trivial⟩, ?_⟩
    refine ⟨fun _ => trivial, fun _ => ⟨rfl, .inr (by decide)⟩, fun _ => .inr (by decide),
      fun _ => .inr (by decide), fun _ => trivial, fun _ => trivial, fun _ => trivial, trivial⟩
  have inOrder := (Program.descriptors_conserved _ _ disciplined).1
  refine ⟨disciplined, fun raw => ?_⟩
  have left := inOrder.nothing_left
  rw [settlement, Program.run_append, run_served] at left ⊢
  cases there : (((served (.fresh default)).run _).system.host.opened raw) with
  | false => rfl
  | true =>
    have released (service : ServiceId) : ((served (.fresh default)).run
        [.implementation (.construct 0), .implementation (.call 0 ⟨⟨1, 1⟩, 0, 0⟩ (.assign ⟨0⟩)),
          .owner (.wrap ⟨1⟩), .owner (.reset ⟨⟨1⟩⟩ ⟨2⟩), .owner (.drop ⟨⟨2⟩⟩),
          .implementation (.forget ⟨⟨1, 1⟩, 0, 0⟩), .service (.drop 0)]).system.references service
            = 0 := by
      cases service <;> rfl
    have mine := left rfl released raw there
    cases mine

end AsyncFiles
