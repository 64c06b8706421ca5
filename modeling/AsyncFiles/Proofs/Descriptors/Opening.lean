import AsyncFiles.Proofs.Cancellation.Histories
import AsyncFiles.Proofs.Descriptors.Adoption

namespace AsyncFiles

open Access Cancellation Error Host

/-- What is dead stays dead, unless the changes since its issue make up whole rounds. -/
theorem Cancellation.Token.dead_after (source : Source) (since rest : List Cancellation.Move)
    (dead : source.token.isCancelled (source.after since) = true) :
    source.token.isCancelled (source.after (since ++ rest)) = true ∨
      (0 < source.changes (since ++ rest) ∧ 2 ^ 63 ∣ source.changes (since ++ rest)) := by
  rw [or_iff_not_imp_left, Bool.not_eq_true]
  intro alive
  obtain ⟨live, _, rounds⟩ := (Token.live_after_iff source _).mp alive
  refine ⟨Nat.pos_of_ne_zero fun none => ?_, rounds⟩
  rw [Source.changes_append] at none
  have unchanged := (source.later_after since).unchanged (by omega)
  have still : source.token.isCancelled (source.after since) = false :=
    (Token.isCancelled_eq_false_iff _ _).mpr ⟨unchanged, by rw [unchanged]; exact live⟩
  rw [still] at dead
  cases dead

theorem FileError.path_withPath {error : FileError} {path : Path} (free : error.path = none) :
    (error.withPath path).path = some path := by
  simp [FileError.withPath, free]

theorem FileHandle.path_openPath {path : Path} {args : OpenArgs} {host later : Host}
    {error : FileError} (failed : FileHandle.openPath path args host = (.error error, later)) :
    error.path = some path := by
  simp only [FileHandle.openPath] at failed
  split at failed
  next =>
    cases failed
    exact FileError.path_withPath rfl
  next =>
    split at failed
    next =>
      cases failed
      exact FileError.path_withPath rfl
    next =>
      split at failed
      next => cases failed
      next =>
        cases failed
        exact FileError.path_withPath rfl

theorem FileHandle.openPath_unasked {path : Path} {args : OpenArgs} (host : Host)
    (senseless : args = .invalid ∨ path.hasNul = true) :
    ∃ error, FileHandle.openPath path args host = (.error error, host) := by
  rcases senseless with rfl | nul
  · exact ⟨_, rfl⟩
  · cases args with
    | invalid => exact ⟨_, rfl⟩
    | valid request => simp [FileHandle.openPath, nul]

namespace System

variable {Handler : Type}

/-- An opening, with what others do before the host is asked and before the new handle is taken
in. -/
def openAmid (system : System Handler) (first second : System Handler → System Handler)
    (imp : Implementation) (path : Path) (args : OpenArgs) :
    Except FileError Unit × System Handler :=
  if (system.handleOf imp).isOpen then (.error (FileError.alreadyOpen.withPath path), system)
  else match (first system).onHost (FileHandle.openPath path args) with
    | (.error error, system) => (.error error, system)
    | (.ok handle, system) => (second system).adoptOpened imp path handle

theorem openAmid_id (system : System Handler) (second : System Handler → System Handler) :
    system.openAmid id second = system.openDuring second := rfl

/-- What the others have left when an opening comes to its end, and the numbers that the host has
given to it: none unless it was asked and found a file. -/
inductive Amid (system : System Handler) (first second : System Handler → System Handler) :
    System Handler → List Int → Prop
  | early : Amid system first second system []
  | refused : Amid system first second (first system) []
  | opened {host : Host} {raw : Int} (opens : (first system).host.Opens host raw) :
      Amid system first second (second { first system with host }) [raw]

/-- Nothing is left of an opening but what the host notes of it: handles and sources are as the
others left them, and its own numbers were closed again. -/
structure GivesBack (left later : System Handler) (own : List Int) : Prop where
  others : later = { left with host := later.host }
  opened : ∀ raw, later.host.opened raw = (left.host.opened raw && !decide (raw ∈ own))

/-- A state has taken in a handle, with a live source; all else is as it was left. -/
structure TakesIn (left later : System Handler) (state : StateId) (handle : FileHandle) :
    Prop where
  present : handle.isOpen = true
  host : later.host = left.host
  taken : later.state state = ({ left.state state with handle } : FileState).revive
  others : ∀ other, other ≠ state → later.state other = left.state other
  services : later.services = left.services

variable {system left later : System Handler} {first second : System Handler → System Handler}
  {imp : Implementation} {path : Path} {args : OpenArgs}

theorem givesBack_of_unmoved {host : Host} (unmoved : left.host.Unmoved host) :
    left.GivesBack { left with host } [] where
  others := rfl
  opened raw := by simp [unmoved.opened raw]

theorem givesBack_close (left : System Handler) (handle : FileHandle) :
    left.GivesBack (left.onHost handle.close).2 [handle.raw] where
  others := rfl
  opened raw := by
    have shuts := left.host.shuts_close handle
    simp only [List.mem_singleton]
    exact shuts.opened raw

theorem takesIn_adopt {handle : FileHandle} {state : StateId} (natural : 0 ≤ handle.raw)
    (bound : state < left.states.length) (taken : left.adopt? state handle = some later) :
    left.TakesIn later state handle := by
  obtain ⟨next, adopted, rfl⟩ := Option.map_eq_some_iff.mp taken
  obtain ⟨installed, put, rfl⟩ := Option.map_eq_some_iff.mp adopted
  simp only [FileState.install?] at put
  split at put
  next => cases put
  next =>
    cases put
    have changed := left.state_updateState
      (fun _ => ({ left.state state with handle } : FileState).revive) bound
    refine ⟨?_, rfl, ?_, fun other apart => ?_, rfl⟩
    · have number : handle.raw ≠ -1 := by omega
      simpa [FileHandle.isOpen] using number
    · rw [changed, if_pos rfl]
    · rw [changed, if_neg (Ne.symm apart)]

inductive Ends (system : System Handler) (first second : System Handler → System Handler)
    (imp : Implementation) (path : Path) : Except FileError Unit × System Handler → Prop
  | failed {error : FileError} {left later : System Handler} {own : List Int}
    (amid : system.Amid first second left own) (named : error.path = some path)
    (givesBack : left.GivesBack later own) : Ends system first second imp path (.error error, later)
  | succeeded {left later : System Handler} {handle : FileHandle}
    (amid : system.Amid first second left [handle.raw])
    (takesIn : imp.state < left.states.length → left.TakesIn later imp.state handle) :
    Ends system first second imp path (.ok (), later)

theorem ends_openAmid (system : System Handler) (first second : System Handler → System Handler)
    (imp : Implementation) (path : Path) (args : OpenArgs) :
    system.Ends first second imp path (system.openAmid first second imp path args) := by
  simp only [openAmid, onHost]
  split
  next => exact .failed .early (FileError.path_withPath rfl) (givesBack_of_unmoved (.refl _))
  next =>
    have yields := (first system).host.yields_openPath path args
    cases asked : FileHandle.openPath path args (first system).host with
    | mk result host =>
      rw [asked] at yields
      cases yields with
      | failed unmoved =>
        exact .failed .refused (FileHandle.path_openPath asked) (givesBack_of_unmoved unmoved)
      | @opened handle _ opens =>
        simp only [adoptOpened]
        split
        next taken =>
          exact .succeeded (.opened opens) fun bound => takesIn_adopt opens.natural bound taken
        next =>
          exact .failed (.opened opens) (FileError.path_withPath rfl) (givesBack_close _ handle)

theorem GivesBack.restored {own : List Int} (givesBack : left.GivesBack later own)
    (amid : system.Amid id id left own) :
    later = { system with host := later.host } ∧
      ∀ raw, later.host.opened raw = system.host.opened raw := by
  have others := givesBack.others
  have opened := givesBack.opened
  cases amid with
  | early | refused => exact ⟨others, fun raw => by simp [opened raw]⟩
  | @opened host number opens =>
    refine ⟨others, fun raw => ?_⟩
    rw [opened raw, id_eq, opens.opened raw]
    by_cases own : raw = number
    · simp [own, show system.host.opened number = false from opens.fresh]
    · simp [own]

theorem openAmid_unasked
    (senseless : (system.handleOf imp).isOpen = true ∨ args = .invalid ∨ path.hasNul = true) :
    ∃ error left, system.openAmid first second imp path args = (.error error, left) ∧
      (left = system ∨ left = first system) := by
  by_cases present : (system.handleOf imp).isOpen = true
  · exact ⟨FileError.alreadyOpen.withPath path, system, by simp [openAmid, present], .inl rfl⟩
  · obtain ⟨error, asked⟩ :=
      FileHandle.openPath_unasked (first system).host (senseless.resolve_left present)
    exact ⟨error, first system, by simp [openAmid, present, onHost, asked], .inr rfl⟩

/-- An opening that fails says for which path, and leaves nothing of its own. Without others,
handles, sources and open numbers are as before the call; with others they are as the others left
them, the handle of one who was faster too, and the number that the opening itself was given is
closed. If something was open, the arguments are invalid or the path has a NUL, it fails before it
reaches the host. If it succeeds there is one number more, the implementation holds it with a live
source, and a token of the source that was dead before is dead still, unless the changes since its
issue make up whole rounds. -/
theorem opening_all_or_nothing (system : System Handler)
    (first second : System Handler → System Handler) (imp : Implementation) (path : Path)
    (flags : OpenFlags) (perms : FilePerms) (attrs : FileAttrs) :
    let args := OpenArgs.new flags perms attrs
    system.openFile imp path args = system.openAmid id id imp path args ∧
    (∀ error later, system.openFile imp path args = (.error error, later) →
      error.path = some path ∧ later = { system with host := later.host } ∧
        ∀ raw, later.host.opened raw = system.host.opened raw) ∧
    (∀ error later, system.openAmid first second imp path args = (.error error, later) →
      error.path = some path ∧
        ∃ left own, system.Amid first second left own ∧ left.GivesBack later own) ∧
    ((system.handleOf imp).isOpen = true ∨ args = .invalid ∨ path.hasNul = true →
      ∃ error left, system.openAmid first second imp path args = (.error error, left) ∧
        (left = system ∨ left = first system)) ∧
    (∀ later, system.openAmid first second imp path args = (.ok (), later) →
      ∃ left handle, system.Amid first second left [handle.raw] ∧
        (imp.state < left.states.length →
          left.TakesIn later imp.state handle ∧
          (later.state imp.state).source.destroyed = false ∧
          ∀ (source : Source) (since others : List Cancellation.Move),
            let before := (system.state imp.state).source
            source.after since = before →
            before.after others = (left.state imp.state).source →
            source.token.isCancelled before = true →
              let changes := source.changes (since ++ (others ++ [.reset]))
              source.token.isCancelled (later.state imp.state).source = true ∨
                (0 < changes ∧ 2 ^ 63 ∣ changes))) := by
  intro args
  refine ⟨rfl, fun error later failed => ?_, fun error later failed => ?_, openAmid_unasked,
    fun later succeeded => ?_⟩
  · have ends := system.ends_openAmid id id imp path args
    rw [show system.openAmid id id imp path args = (.error error, later) from failed] at ends
    cases ends with
    | failed amid named givesBack => exact ⟨named, givesBack.restored amid⟩
  · have ends := system.ends_openAmid first second imp path args
    rw [failed] at ends
    cases ends with
    | failed amid named givesBack => exact ⟨named, _, _, amid, givesBack⟩
  · have ends := system.ends_openAmid first second imp path args
    rw [succeeded] at ends
    cases ends with
    | @succeeded left _ handle amid takesIn =>
      refine ⟨left, handle, amid, fun bound => ?_⟩
      have taken := takesIn bound
      have revived : (later.state imp.state).source = (left.state imp.state).source.reset := by
        rw [taken.taken]
        rfl
      refine ⟨taken, ?_, fun source since others before between dead => ?_⟩
      · rw [revived]
        exact Source.destroyed_reset _
      · have last : source.after (since ++ (others ++ [.reset])) =
            (later.state imp.state).source := by
          rw [Source.after_append, Source.after_append, before, between, revived]
          rfl
        -- The revival is one more change of the source, after those of the other threads.
        rw [← last]
        exact Token.dead_after source since _ (before ▸ dead)

def shelf : System Unit where
  host :=
    { inodes :=
        [⟨.directory 0 [([0x66], 1)], .ofWord 0x1ed, default, default⟩,
          ⟨.regular .empty, .ofWord 0x1b6, default, default⟩]
      openFiles := []
      descriptors := []
      workingDirectory := 0
      umask := .ofWord 0x12
      now := default }
  states := [⟨.closed, ⟨1, true⟩⟩]

/-- Someone assigns a handle before the file that was opened is taken in. -/
def faster (system : System Unit) : System Unit := (system.assign ⟨⟨1, 1⟩, 0, 0⟩ ⟨7⟩).2

/-- One opening that loses to the assignment, and one that nobody disturbs. -/
theorem opening_shelf :
    (∃ error later,
      shelf.openAmid id faster ⟨⟨1, 1⟩, 0, 0⟩ ⟨[0x66]⟩ (.new .openExisting .none .none) =
        (.error error, later) ∧
      error.path = some ⟨[0x66]⟩ ∧
      ∃ left own, shelf.Amid id faster left own ∧ left.GivesBack later own) ∧
    (∃ later,
      shelf.openFile ⟨⟨1, 1⟩, 0, 0⟩ ⟨[0x66]⟩ (.new .openExisting .none .none) = (.ok (), later) ∧
      (later.state 0).source.destroyed = false ∧
      (⟨{}⟩ : Token).isCancelled (later.state 0).source = true) := by
  refine ⟨⟨_, _, rfl, ?_⟩, ⟨_, rfl, ?_⟩⟩
  · exact (opening_all_or_nothing shelf id faster ⟨⟨1, 1⟩, 0, 0⟩ ⟨[0x66]⟩ .openExisting .none
      .none).2.2.1 _ _ rfl
  · obtain ⟨left, handle, amid, won⟩ := (opening_all_or_nothing shelf id id ⟨⟨1, 1⟩, 0, 0⟩ ⟨[0x66]⟩
      .openExisting .none .none).2.2.2.2 _ rfl
    cases amid with
    | opened opens =>
      obtain ⟨_, live, tokens⟩ := won Nat.zero_lt_one
      refine ⟨live, ?_⟩
      rcases tokens {} [.destroy] [] rfl rfl (by decide) with dead | ⟨_, rounds⟩
      · exact dead
      · exact absurd rounds (by decide)

/-- All generations of the source have passed but one. -/
def worn : System Unit := { shelf with states := [⟨.closed, ⟨.ofNat 63 (2 ^ 63 - 1), true⟩⟩] }

/-- An opening revives a token of the first generation after the last; one that is overtaken ends
with a handle that it did not begin with. -/
theorem opening_revives :
    (∃ later,
      worn.openFile ⟨⟨1, 1⟩, 0, 0⟩ ⟨[0x66]⟩ (.new .openExisting .none .none) = (.ok (), later) ∧
      (⟨{}⟩ : Token).isCancelled (worn.state 0).source = true ∧
      (⟨{}⟩ : Token).isCancelled (later.state 0).source = false) ∧
    ∃ error later,
      shelf.openAmid id faster ⟨⟨1, 1⟩, 0, 0⟩ ⟨[0x66]⟩ (.new .openExisting .none .none) =
        (.error error, later) ∧
      (shelf.state 0).handle = .closed ∧ (later.state 0).handle = ⟨7⟩ :=
  ⟨⟨_, rfl, rfl, rfl⟩, ⟨_, _, rfl, rfl, rfl⟩⟩

end System

end AsyncFiles
