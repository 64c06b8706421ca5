import AsyncFiles.Handle.Owner
import AsyncFiles.Proofs.Transfers
import Mathlib.Data.List.Nodup
import Mathlib.Tactic.ByContra

namespace AsyncFiles

open Access Error Host

namespace Host

def opened (host : Host) (raw : Int) : Bool := (host.descriptor? raw).isSome

/-- The numbers that were given to the host to close, the latest in front. -/
def closes (host : Host) : List Int :=
  host.calls.filterMap fun
    | .close raw => some raw
    | _ => none

/-- The same numbers are open, and there were no closings. -/
structure Unmoved (host later : Host) : Prop where
  opened : ∀ raw, later.opened raw = host.opened raw
  closes : later.closes = host.closes

structure Opens (host later : Host) (raw : Int) : Prop where
  fresh : host.opened raw = false
  natural : 0 ≤ raw
  opened : ∀ other, later.opened other = (host.opened other || decide (other = raw))
  closes : later.closes = host.closes

/-- A handle was closed: its number is not open any more, and was given to the host unless it was no
number at all. -/
structure Shuts (host later : Host) (handle : FileHandle) : Prop where
  opened : ∀ raw, later.opened raw = (host.opened raw && !decide (raw = handle.raw))
  closes : later.closes = if handle.isOpen then handle.raw :: host.closes else host.closes

/-- The numbers that were closed, one call for each: those that were open and are not any more. -/
structure Sheds (host later : Host) (closed : List Int) : Prop where
  closes : later.closes = closed ++ host.closes
  nodup : closed.Nodup
  mem : ∀ raw, raw ∈ closed ↔ host.opened raw = true ∧ later.opened raw = false

variable {host middle later : Host} {raw : Int} {handle : FileHandle}

theorem natural_of_opened (there : host.opened raw = true) : 0 ≤ raw := by
  by_contra negative
  simp [opened, descriptor?, Int.lt_of_not_ge negative] at there

theorem opened_closed (host : Host) : host.opened (-1) = false := by
  simp [opened, descriptor?]

theorem opened_of_descriptors (same : later.descriptors = host.descriptors) (raw : Int) :
    later.opened raw = host.opened raw := by
  simp only [opened, descriptor?, same]

theorem closes_note (host : Host) {call : Call} (other : ∀ raw, call ≠ .close raw) :
    (host.note call).closes = host.closes := by
  simp only [closes, note]
  cases call with
  | close raw => exact absurd rfl (other raw)
  | _ => rfl

theorem Unmoved.refl (host : Host) : host.Unmoved host := ⟨fun _ => rfl, rfl⟩

theorem Unmoved.trans (first : host.Unmoved middle) (second : middle.Unmoved later) :
    host.Unmoved later :=
  ⟨fun raw => (second.opened raw).trans (first.opened raw), second.closes.trans first.closes⟩

theorem Unmoved.then_opens (first : host.Unmoved middle) (second : middle.Opens later raw) :
    host.Opens later raw where
  fresh := (first.opened raw).symm.trans second.fresh
  natural := second.natural
  opened other := by rw [second.opened, first.opened]
  closes := second.closes.trans first.closes

theorem Kept.unmoved (kept : host.Kept later) : host.Unmoved later :=
  ⟨opened_of_descriptors kept.descriptors, by rw [closes, kept.calls, closes]⟩

theorem unmoved_note (host : Host) (call : Call) (other : ∀ raw, call ≠ .close raw) :
    host.Unmoved (host.note call) :=
  ⟨opened_of_descriptors rfl, host.closes_note other⟩

theorem Unmoved.sheds (unmoved : host.Unmoved later) : host.Sheds later [] where
  closes := unmoved.closes
  nodup := List.nodup_nil
  mem raw := by simp [unmoved.opened raw]

theorem Unmoved.then_sheds {closed : List Int} (first : host.Unmoved middle)
    (second : middle.Sheds later closed) : host.Sheds later closed where
  closes := by rw [second.closes, first.closes]
  nodup := second.nodup
  mem raw := by rw [second.mem, first.opened]

theorem Opens.sheds (opens : host.Opens later raw) : host.Sheds later [] where
  closes := opens.closes
  nodup := List.nodup_nil
  mem other := by
    rw [opens.opened other]
    cases host.opened other <;> simp

theorem Shuts.sheds (shuts : host.Shuts later handle)
    (own : handle.isOpen = true → host.opened handle.raw = true) :
    host.Sheds later (if handle.isOpen then [handle.raw] else []) where
  closes := by
    rw [shuts.closes]
    split <;> rfl
  nodup := by
    split
    next => simp
    next => exact List.nodup_nil
  mem raw := by
    rw [shuts.opened raw]
    split
    next isOpen =>
      by_cases same : raw = handle.raw
      · simp [same, own isOpen]
      · simp [same]
    next closed =>
      have none : handle.raw = -1 := by simpa [FileHandle.isOpen] using closed
      by_cases same : raw = -1
      · simp [same, none, host.opened_closed]
      · simp [same, none]

theorem Opens.count (opens : host.Opens later raw) (other : Int) :
    (later.opened other).toNat =
      (host.opened other).toNat + (if raw = other then 1 else 0) := by
  rw [opens.opened other]
  by_cases same : raw = other
  · simp [← same, opens.fresh]
  · simp [same, Ne.symm same]

theorem Shuts.count (shuts : host.Shuts later handle)
    (own : handle.isOpen = true → host.opened handle.raw = true) {other : Int}
    (number : other ≠ -1) :
    (later.opened other).toNat + (if handle.raw = other then 1 else 0) =
      (host.opened other).toNat := by
  rw [shuts.opened other]
  by_cases same : handle.raw = other
  · have there := own (by simpa [FileHandle.isOpen, same] using number)
    rw [same] at there
    simp [same, there]
  · simp [same, Ne.symm same]

theorem mem_shut (shed : raw ∈ if handle.isOpen then [handle.raw] else []) : handle = ⟨raw⟩ := by
  split at shed
  next => rw [List.mem_singleton.mp shed]
  next => cases shed

theorem Sheds.count {closed : List Int} (sheds : host.Sheds later closed) (raw : Int) :
    later.closes.count raw =
      (if host.opened raw = true ∧ later.opened raw = false then 1 else 0) +
        host.closes.count raw := by
  rw [sheds.closes, List.count_append, sheds.nodup.count]
  simp only [sheds.mem]

/-- Where nothing is opened, what is closed first is not closed again. -/
theorem Sheds.trans {first second : List Int} (before : host.Sheds middle first)
    (after : middle.Sheds later second)
    (narrowed : ∀ raw, middle.opened raw = true → host.opened raw = true)
    (narrows : ∀ raw, later.opened raw = true → middle.opened raw = true) :
    host.Sheds later (second ++ first) where
  closes := by rw [after.closes, before.closes, List.append_assoc]
  nodup := by
    refine List.nodup_append.mpr ⟨after.nodup, before.nodup, ?_⟩
    rintro raw late _ early rfl
    have there := ((after.mem raw).mp late).1
    rw [((before.mem raw).mp early).2] at there
    cases there
  mem raw := by
    rw [List.mem_append, after.mem, before.mem]
    cases between : middle.opened raw with
    | true => simp [narrowed raw between]
    | false =>
      cases last : later.opened raw with
      | true => exact absurd (narrows raw last) (by simp [between])
      | false => simp

theorem shuts_close (host : Host) (handle : FileHandle) :
    host.Shuts (handle.close host).2 handle := by
  simp only [FileHandle.close]
  split
  next isOpen =>
    have noted : (host.note (.close handle.raw)).closes = handle.raw :: host.closes := rfl
    have same (raw : Int) : (host.note (.close handle.raw)).opened raw = host.opened raw := rfl
    simp only [FileHandle.lifted, close]
    split
    next absent =>
      refine ⟨fun raw => ?_, by simp [isOpen, noted]⟩
      by_cases here : raw = handle.raw
      · simpa [here, opened] using absent
      · simp [here, same]
    next index present =>
      have natural : ¬ handle.raw < 0 := by
        intro negative
        simp [descriptor?, negative] at present
      have freed (reports : List (Option Errno)) (raw : Int) :
          opened { (host.note (.close handle.raw)) with
            descriptors := host.descriptors.set handle.raw.toNat none, reports } raw =
          (host.opened raw && !decide (raw = handle.raw)) := by
        by_cases negative : raw < 0
        · simp [opened, descriptor?, negative]
        · by_cases here : raw = handle.raw
          · subst here
            by_cases bound : handle.raw.toNat < host.descriptors.length
            all_goals simp [opened, descriptor?, natural, bound]
          · have apart : handle.raw.toNat ≠ raw.toNat := by omega
            simp [opened, descriptor?, negative, here, List.getElem?_set_ne apart]
      split
      all_goals
        exact ⟨freed _, by rw [if_pos isOpen]; rfl⟩
  next closed =>
    have none : handle.raw = -1 := by simpa [FileHandle.isOpen] using closed
    refine ⟨fun raw => ?_, by simp [closed]⟩
    by_cases here : raw = -1
    · simp [here, none, host.opened_closed]
    · simp [here, none]

theorem opens_addDescriptor (host : Host) (index : Nat) :
    host.Opens (host.addDescriptor index).2 (host.addDescriptor index).1 := by
  have free : host.opened (lowestFree host.descriptors : Nat) = false := by
    unfold opened descriptor? lowestFree
    simp only [Int.toNat_natCast]
    split
    next => rfl
    next =>
      cases located : host.descriptors[host.descriptors.findIdx Option.isNone]? with
      | none => rfl
      | some found =>
        obtain ⟨bound, rfl⟩ := List.getElem?_eq_some_iff.mp located
        have empty := List.findIdx_getElem (p := Option.isNone) (w := bound)
        simpa using empty
  refine ⟨free, Int.natCast_nonneg _, fun other => ?_, rfl⟩
  by_cases negative : other < 0
  · have apart : other ≠ (lowestFree host.descriptors : Nat) := by omega
    simp [opened, descriptor?, negative, addDescriptor, apart]
  · obtain ⟨number, rfl⟩ := Int.eq_ofNat_of_zero_le (Int.not_lt.mp negative)
    simp only [opened, descriptor?, addDescriptor, negative, if_false, Int.toNat_natCast]
    by_cases here : number = lowestFree host.descriptors
    · subst here
      split
      next bound => simp [bound]
      next beyond =>
        have last : lowestFree host.descriptors = host.descriptors.length :=
          Nat.le_antisymm List.findIdx_le_length (Nat.le_of_not_lt beyond)
        simp [last]
    · have apart : ((number : Nat) : Int) ≠ (lowestFree host.descriptors : Nat) := by omega
      split
      next => simp [List.getElem?_set_ne (Ne.symm here), apart]
      next beyond =>
        have last : lowestFree host.descriptors = host.descriptors.length :=
          Nat.le_antisymm List.findIdx_le_length (Nat.le_of_not_lt beyond)
        rw [last] at here apart
        rcases Nat.lt_or_gt_of_ne here with before | after
        · simp [List.getElem?_append_left before, last, apart]
        · have outside : (host.descriptors ++ [some index])[number]? = none :=
            List.getElem?_eq_none (by simp; omega)
          simp [outside, List.getElem?_eq_none (Nat.le_of_lt after), last, apart]

theorem opens_addOpenFile (host : Host) (file : OpenFile) :
    host.Opens (host.addOpenFile file).2 (host.addOpenFile file).1 := by
  have wider : host.Unmoved { host with openFiles := host.openFiles ++ [file] } :=
    ⟨opened_of_descriptors rfl, rfl⟩
  exact wider.then_opens (opens_addDescriptor _ host.openFiles.length)

theorem unmoved_truncate (host : Host) (inode : Nat) : host.Unmoved (host.truncate inode) := by
  simp only [truncate]
  split
  next =>
    split
    next => exact ⟨opened_of_descriptors rfl, rfl⟩
    next => exact .refl host
  next => exact .refl host

theorem opens_openInode (host : Host) (request : OpenRequest) (inode : Nat) :
    host.Opens (host.openInode request inode).2 (host.openInode request inode).1 := by
  simp only [openInode]
  refine Unmoved.then_opens ?_ (opens_addOpenFile _ _)
  split
  next => exact host.unmoved_truncate inode
  next => exact .refl host

theorem unmoved_setEntries (host : Host) (directory parent : Nat)
    (entries : List (FileName × Nat)) :
    host.Unmoved (host.setEntries directory parent entries) := by
  simp only [setEntries]
  split
  next => exact .refl host
  next => exact ⟨opened_of_descriptors rfl, rfl⟩

theorem unmoved_link (host : Host) (directory parent : Nat) (entries : List (FileName × Nat))
    (name : FileName) (node : Node) (mode : FilePerms) :
    host.Unmoved (host.link directory parent entries name node mode).2 := by
  refine Unmoved.trans ?_ (unmoved_setEntries _ directory parent _)
  exact ⟨opened_of_descriptors rfl, rfl⟩

inductive Yields {Error : Type} (host : Host) : Except Error FileHandle × Host → Prop
  | opened {handle : FileHandle} {later : Host} (opens : host.Opens later handle.raw) :
      Yields host (.ok handle, later)
  | failed {error : Error} {later : Host} (unmoved : host.Unmoved later) :
      Yields host (.error error, later)

inductive Numbers (host : Host) : Except Errno Nat × Host → Prop
  | opened {number : Nat} {later : Host} (opens : host.Opens later number) :
      Numbers host (.ok number, later)
  | failed {errno : Errno} {later : Host} (unmoved : host.Unmoved later) :
      Numbers host (.error errno, later)

theorem numbers_openExisting (noted : host.Unmoved middle) (request : OpenRequest) (inode : Nat) :
    host.Numbers (middle.openExisting request inode) := by
  simp only [openExisting]
  split
  next => exact .failed noted
  next => exact .opened (noted.then_opens (middle.opens_openInode request inode))

theorem numbers_openPath (host : Host) (path : Path) (request : OpenRequest) :
    host.Numbers (host.openPath path request) := by
  have noted := host.unmoved_note (.openPath path request) (by intro raw same; cases same)
  simp only [openPath]
  split
  next => exact .failed noted
  next => exact numbers_openExisting noted request _
  next directory entries parent name _ =>
    split
    next => exact .failed noted
    next =>
      split
      next => exact .failed noted
      next =>
        split
        next => exact .failed noted
        next => exact numbers_openExisting noted request _
      next =>
        split
        next =>
          exact .opened ((noted.trans (unmoved_link _ directory parent entries name _ _)).then_opens
            (opens_openInode _ _ _))
        next => exact .failed noted

theorem numbers_duplicate (host : Host) (raw : Int) : host.Numbers (host.duplicate raw) := by
  have noted := host.unmoved_note (.duplicate raw) (by intro raw same; cases same)
  simp only [duplicate]
  split
  next => exact .failed noted
  next index _ => exact .opened (noted.then_opens (opens_addDescriptor _ index))

theorem yields_openPath (host : Host) (path : Path) (args : OpenArgs) :
    host.Yields (FileHandle.openPath path args host) := by
  simp only [FileHandle.openPath]
  split
  next => exact .failed (.refl host)
  next request =>
    split
    next => exact .failed (.refl host)
    next =>
      have numbers := host.numbers_openPath path request
      generalize host.openPath path request = outcome at numbers
      cases numbers with
      | opened opens => exact .opened opens
      | failed unmoved => exact .failed unmoved

theorem yields_duplicate (host : Host) (handle : FileHandle) :
    host.Yields (handle.duplicate host) := by
  simp only [FileHandle.duplicate]
  split
  next =>
    have numbers := host.numbers_duplicate handle.raw
    generalize host.duplicate handle.raw = outcome at numbers
    cases numbers with
    | opened opens => exact .opened opens
    | failed unmoved => exact .failed unmoved
  next => exact .failed (.refl host)

end Host

theorem Request.Reaches.unmoved {host later : Host} {attempt : Attempt}
    (reaches : Request.Reaches host attempt later) : host.Unmoved later := by
  cases reaches with
  | called call transfers kept => exact (host.unmoved_note call transfers).trans kept.unmoved
  | refused error buffers result other same =>
    rw [same]
    exact .refl host

theorem Request.unmoved_attempt (request : Request) (handle : FileHandle) (buffers : List Bytes)
    (host : Host) : host.Unmoved (request.attempt handle buffers host).2 :=
  (request.reaches_attempt handle buffers host).unmoved

theorem Attempt.unmoved_resume {buffers : List Bytes} {call : Stalled} {host later : Host}
    {attempt : Attempt} (resumed : Attempt.resume? buffers call host = some (attempt, later)) :
    host.Unmoved later := by
  simp only [Attempt.resume?] at resumed
  split at resumed
  next => cases resumed
  all_goals
    next progressed =>
      have unmoved := (Host.kept_resume progressed).unmoved
      cases resumed
      exact unmoved

end AsyncFiles
