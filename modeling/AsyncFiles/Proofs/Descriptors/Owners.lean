import AsyncFiles.Proofs.Descriptors.Conserved

namespace AsyncFiles.Program

open Access Error Host

variable {program : Program}

theorem Conserved.opened_of_owner (conserved : program.Conserved) {owner : Owner}
    (member : owner ∈ program.owners) (isOpen : owner.handle.isOpen = true) :
    program.system.host.opened owner.handle.raw = true := by
  have number : owner.handle.raw ≠ -1 := by simpa [FileHandle.isOpen] using isOpen
  have counted := conserved.tally _ number
  have positive : 0 < program.owned owner.handle.raw :=
    List.countP_pos_iff.mpr ⟨owner, member, by simp⟩
  cases there : program.system.host.opened owner.handle.raw with
  | true => rfl
  | false =>
    rw [there, Bool.toNat_false, Program.tally] at counted
    omega

theorem Conserved.opened_of_spare (conserved : program.Conserved) {handle : FileHandle}
    (spare : program.Spare handle) (isOpen : handle.isOpen = true) :
    program.system.host.opened handle.raw = true := by
  have number : handle.raw ≠ -1 := by simpa [FileHandle.isOpen] using isOpen
  have counted := conserved.tally _ number
  have given := spare_erase spare number
  rw [if_pos rfl] at given
  cases there : program.system.host.opened handle.raw with
  | true => rfl
  | false =>
    rw [there, Bool.toNat_false, Program.tally] at counted
    omega

theorem Conserved.withHost (conserved : program.Conserved) (host : Host) {owners : List Owner}
    {loose : List FileHandle}
    (tally : ∀ raw, raw ≠ -1 → ({ program.withHost host with owners, loose } : Program).tally raw =
      (host.opened raw).toNat) :
    ({ program.withHost host with owners, loose } : Program).Conserved where
  books := conserved.books.of_registries (fun _ => rfl) (Nat.le_refl _)
  borne := conserved.borne
  homes := conserved.homes
  bound := conserved.bound
  tally := tally

theorem Conserved.sameHost (conserved : program.Conserved) {owners : List Owner}
    {loose : List FileHandle}
    (tally : ∀ raw, raw ≠ -1 → ({ program with owners, loose } : Program).tally raw =
      program.tally raw) :
    program.Settles { program with owners, loose } [] where
  conserved := conserved.withHost program.system.host fun raw number =>
    (tally raw number).trans (conserved.tally raw number)
  closings := ⟨[], (Unmoved.refl program.system.host).sheds, by simp⟩

def gain (program : Program) : Except FileError FileHandle × Host → Program
  | (.ok handle, host) => { program.withHost host with owners := ⟨handle⟩ :: program.owners }
  | (.error _, host) => program.withHost host

theorem onOwner_openPath (program : Program) (path : Path) (args : OpenArgs) :
    program.onOwner (.openPath path args) =
      program.gain (FileHandle.openPath path args program.system.host) := by
  simp only [onOwner, Owner.openPath]
  obtain ⟨result, host⟩ := FileHandle.openPath path args program.system.host
  cases result <;> rfl

theorem onOwner_duplicate (program : Program) (handle : FileHandle) :
    program.onOwner (.duplicate handle) = program.gain (handle.duplicate program.system.host) := by
  simp only [onOwner, Owner.duplicate]
  obtain ⟨result, host⟩ := handle.duplicate program.system.host
  cases result <;> rfl

theorem Conserved.gain (conserved : program.Conserved)
    {outcome : Except FileError FileHandle × Host} (yields : program.system.host.Yields outcome) :
    program.Settles (program.gain outcome) [] := by
  cases yields with
  | opened opens =>
    refine ⟨conserved.withHost _ fun raw number => ?_, [], opens.sheds, by simp⟩
    have before := conserved.tally raw number
    have wider := opens.count raw
    simp only [Program.tally, owned, spare, List.countP_cons, decide_eq_true_eq] at before ⊢
    change program.owners.countP _ + _ + program.system.holding raw + program.loose.countP _ = _
    omega
  | failed unmoved =>
    refine ⟨conserved.withHost _ fun raw number => ?_, [], unmoved.sheds, by simp⟩
    rw [unmoved.opened raw]
    exact conserved.tally raw number

section

variable {owner : Owner} {handle : FileHandle}

theorem Conserved.closes (conserved : program.Conserved) (member : owner ∈ program.owners)
    {host : Host} (shuts : program.system.host.Shuts host owner.handle) {owners : List Owner}
    {loose : List FileHandle}
    (counts : ∀ raw, raw ≠ -1 →
      ({ program with owners, loose } : Program).tally raw +
        (if owner.handle.raw = raw then 1 else 0) = program.tally raw) :
    program.Settles { program.withHost host with owners, loose }
      [.owner (program.owners.idxOf owner)] := by
  have own := conserved.opened_of_owner member
  refine ⟨conserved.withHost _ fun raw number => ?_, _, shuts.sheds own, fun raw shed => ?_⟩
  · have before := conserved.tally raw number
    have freed := shuts.count own number
    have fewer := counts raw number
    change ({ program with owners, loose } : Program).tally raw = _
    omega
  · refine ⟨_, List.mem_singleton_self _, ?_⟩
    simp only [held, List.getElem?_idxOf member, Option.getD_some]
    exact mem_shut shed

theorem tally_replace (member : owner ∈ program.owners) (next : Owner) (raw : Int) :
    ({ program with owners := next :: program.owners.erase owner } : Program).tally raw +
        (if owner.handle.raw = raw then 1 else 0) =
      program.tally raw + (if next.handle.raw = raw then 1 else 0) := by
  have fewer := owned_erase member raw
  simp only [Program.tally, owned, spare, List.countP_cons, decide_eq_true_eq] at fewer ⊢
  omega

theorem reset_cases (owner : Owner) (handle : FileHandle) (host : Host) :
    owner.reset handle host = (.ok (), ⟨handle⟩, (owner.handle.close host).2) ∨
      ∃ error, owner.reset handle host = (.error error, {}, (owner.handle.close host).2) := by
  simp only [Owner.reset, Owner.close]
  cases owner.handle.close host with
  | mk result later =>
    cases result with
    | ok done => exact .inl rfl
    | error error => exact .inr ⟨error, rfl⟩

theorem Conserved.onReset (conserved : program.Conserved) (member : owner ∈ program.owners)
    (spare : program.Spare handle) :
    program.Settles (program.onOwner (.reset owner handle))
      [.owner (program.owners.idxOf owner)] := by
  have shuts := program.system.host.shuts_close owner.handle
  simp only [Program.onOwner]
  rcases reset_cases owner handle program.system.host with same | ⟨error, same⟩
  · rw [same]
    apply conserved.closes member shuts
    intro raw number
    have replaced := tally_replace member ⟨handle⟩ raw
    have given := spare_erase spare number
    simp only [Program.tally, Program.spare] at replaced given ⊢
    change _ + _ + _ + _ = _
    change ({ program with owners := ⟨handle⟩ :: program.owners.erase owner } : Program).owned raw
      + _ + (program.loose.erase handle).countP _ + _ = _
    omega
  · rw [same]
    apply conserved.closes member shuts
    intro raw number
    have replaced := tally_replace member {} raw
    rw [if_neg (c := (({} : Owner).handle.raw = raw)) (Ne.symm number)] at replaced
    exact replaced

theorem Conserved.onRelease_owner (conserved : program.Conserved)
    (member : owner ∈ program.owners) :
    program.Settles (program.onOwner (.release owner)) [] := by
  change program.Settles
    (({ program with owners := {} :: program.owners.erase owner } : Program).keep owner.handle) []
  simp only [keep]
  split
  next =>
    apply conserved.sameHost
    intro raw number
    have replaced := tally_replace member {} raw
    rw [if_neg (c := (({} : Owner).handle.raw = raw)) (Ne.symm number)] at replaced
    simp only [Program.tally, Program.spare, List.countP_cons, decide_eq_true_eq] at replaced ⊢
    change ({ program with owners := {} :: program.owners.erase owner } : Program).owned raw
      + _ + _ = _
    omega
  next shut =>
    apply conserved.sameHost
    intro raw number
    have none : owner.handle.raw = -1 := by simpa [FileHandle.isOpen] using shut
    have replaced := tally_replace member {} raw
    rw [none, if_neg (Ne.symm number),
      if_neg (c := (({} : Owner).handle.raw = raw)) (Ne.symm number)] at replaced
    exact replaced

theorem Conserved.onDiscard (conserved : program.Conserved) (spare : program.Spare handle) :
    program.Settles (program.onOwner (.discard handle)) [.caller (program.loose.idxOf handle)] := by
  have shuts := program.system.host.shuts_close handle
  have own := conserved.opened_of_spare spare
  refine ⟨conserved.withHost _ fun raw number => ?_, _, shuts.sheds own, fun raw shed => ?_⟩
  · have before := conserved.tally raw number
    have freed := shuts.count own number
    have fewer := spare_erase spare number
    simp only [Program.tally, Program.spare] at before fewer ⊢
    change program.owned raw + program.system.holding raw +
      (program.loose.erase handle).countP _ = _
    omega
  · refine ⟨_, List.mem_singleton_self _, ?_⟩
    have same := mem_shut shed
    have natural := natural_of_opened (((shuts.sheds own).mem raw).mp shed).1
    have member : handle ∈ program.loose := by
      apply spare.resolve_left
      intro closed
      have none : raw = -1 := congrArg FileHandle.raw (same.symm.trans closed)
      omega
    simp only [held, List.getElem?_idxOf member, Option.getD_some]
    exact same

theorem Conserved.onOwner (conserved : program.Conserved) {act : OwnerAct}
    (allowed : program.allows (.owner act) = true) (proper : program.Proper (.owner act)) :
    program.Settles (program.onOwner act) (program.closers (.owner act)) := by
  cases act with
  | openPath path args =>
    rw [onOwner_openPath]
    exact conserved.gain (program.system.host.yields_openPath path args)
  | wrap handle =>
    apply conserved.sameHost
    intro raw number
    have spare : program.Spare handle := proper
    have given := spare_erase spare number
    simp only [Program.tally, Program.owned, Program.spare, List.countP_cons, decide_eq_true_eq]
      at given ⊢
    omega
  | duplicate handle =>
    rw [onOwner_duplicate]
    exact conserved.gain (program.system.host.yields_duplicate handle)
  | reset owner handle => exact conserved.onReset (by simpa [allows] using allowed) proper
  | release owner => exact conserved.onRelease_owner (by simpa [allows] using allowed)
  | close owner =>
    have member : owner ∈ program.owners := by simpa [allows] using allowed
    refine conserved.closes member (program.system.host.shuts_close owner.handle)
      fun raw number => ?_
    have replaced := tally_replace member {} raw
    rw [if_neg (c := (({} : Owner).handle.raw = raw)) (Ne.symm number)] at replaced
    exact replaced
  | drop owner =>
    have member : owner ∈ program.owners := by simpa [allows] using allowed
    refine conserved.closes member (program.system.host.shuts_close owner.handle)
      fun raw number => ?_
    have fewer := owned_erase member raw
    simp only [Program.tally, Program.owned] at fewer ⊢
    change _ + program.system.holding raw + program.spare raw + _ = _
    omega
  | discard handle => exact conserved.onDiscard proper

end

theorem Conserved.outside (conserved : program.Conserved) {host : Host}
    (proper : program.Proper (.outside host)) :
    program.Settles (program.perform (.outside host)) [] := by
  obtain ⟨wider, closes⟩ := proper
  refine ⟨conserved.withHost _ fun raw number => ?_, [],
    ⟨closes, List.nodup_nil, fun raw => ?_⟩, by simp⟩
  · have before := conserved.tally raw number
    have more := countP_newHandles wider raw
    simp only [Program.tally, Program.spare, List.countP_append] at before ⊢
    change program.owned raw + program.system.holding raw + (_ + program.loose.countP _) = _
    omega
  · cases there : program.system.host.opened raw with
    | true => simp [perform, Program.withHost, wider raw there]
    | false => simp

end AsyncFiles.Program
