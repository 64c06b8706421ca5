import AsyncFiles.Handle.Metadata
import AsyncFiles.Proofs.Regular.Exact
import AsyncFiles.Proofs.Time.Instants

namespace AsyncFiles

open Error Host Time

namespace Time

theorem FileTime.toStamp_nanos (time : FileTime) :
    0 ≤ time.toStamp.nanos ∧ time.toStamp.nanos < 1000000000 := by
  have within := time.toUnixTimestamp_lt
  simp only [toStamp]
  omega

theorem FileTime.toStamp_unmarked (time : FileTime) :
    time.toStamp.nanos ≠ Stamp.leaveNanos ∧ time.toStamp.nanos ≠ Stamp.presentNanos := by
  have within := time.toStamp_nanos
  simp only [Stamp.leaveNanos, Stamp.presentNanos]
  omega

theorem FileTime.ofStamp?_toStamp (time : FileTime) :
    FileTime.ofStamp? time.toStamp = some time := by
  have sum := time.toUnixTimestamp_sum
  have within := time.toUnixTimestamp_lt
  obtain ⟨lowest, highest⟩ := time.fits
  have seconds : (Int64.ofInt time.toUnixTimestamp.1).toInt = time.toUnixTimestamp.1 :=
    Int64.toInt_ofInt_of_le (by omega) (by omega)
  have nanos : (max 0 (min (time.toUnixTimestamp.2 : Int) 999999999)).toNat =
      time.toUnixTimestamp.2 := by omega
  rw [ofStamp?, toStamp, seconds, nanos]
  exact time.ofUnixTimestamp?_toUnixTimestamp

/-- A field after times were given for it, the last of them last. -/
def Stamp.after (previous : Stamp) (given : List FileTime) : Stamp :=
  (given.getLast?.map FileTime.toStamp).getD previous

theorem Stamp.after_cons (previous : Stamp) (time : FileTime) (given : List FileTime) :
    previous.after (time :: given) = time.toStamp.after given := by
  rw [after, after, List.getLast?_cons]
  cases given.getLast? <;> rfl

theorem Stamp.ofStamp?_after (previous : Stamp) (given : List FileTime) :
    FileTime.ofStamp? (previous.after given) = given.getLast?.or (FileTime.ofStamp? previous) := by
  cases last : given.getLast? with
  | none => simp [after, last]
  | some time => simp [after, last, FileTime.ofStamp?_toStamp]

theorem Stamp.applied?_stampFor (time : Option FileTime) (present previous : Stamp) :
    (FileHandle.stampFor time).applied? present previous = some (previous.after time.toList) := by
  cases time with
  | none => rfl
  | some time =>
    obtain ⟨leaves, takesPresent⟩ := time.toStamp_unmarked
    change time.toStamp.applied? present previous = some time.toStamp
    rw [applied?, if_neg leaves, if_neg takesPresent, if_pos time.toStamp_nanos]

end Time

namespace Host

def Inode.stamped (inode : Inode) (requests : List FileTimes) : Inode :=
  { inode with
    accessed := inode.accessed.after (requests.filterMap FileTimes.lastAccess)
    modified := inode.modified.after (requests.filterMap FileTimes.lastWrite) }

theorem filterMap_request (field : FileTimes → Option FileTime) (times : FileTimes) :
    [times].filterMap field = (field times).toList := by
  cases given : field times <;> simp [given]

theorem getLast?_request (field : FileTimes → Option FileTime) (times : FileTimes) :
    ([times].filterMap field).getLast? = field times := by
  cases given : field times <;> simp [given]

theorem Inode.stamped_nil (inode : Inode) : inode.stamped [] = inode := rfl

theorem Inode.stamped_cons (inode : Inode) (times : FileTimes) (rest : List FileTimes) :
    inode.stamped (times :: rest) = (inode.stamped [times]).stamped rest := by
  have each (field : FileTimes → Option FileTime) (previous : Stamp) :
      previous.after ((times :: rest).filterMap field) =
        (previous.after ([times].filterMap field)).after (rest.filterMap field) := by
    cases given : field times with
    | none => simp [given, Stamp.after]
    | some time =>
      simp only [List.filterMap_cons, given, List.filterMap_nil, Stamp.after_cons]
      rfl
  simp only [stamped, each]

def behind? (host : Host) (raw : Int) : Option Nat :=
  (host.resolve raw).toOption.map fun found => found.2.1.inode

/-- The same host but for its log and for what has become of inodes. -/
structure Retimed (host later : Host) (becomes : Nat → Inode → Inode) : Prop where
  others : later = { host with inodes := later.inodes, calls := later.calls }
  inodes (number : Nat) : later.inodes[number]? = host.inodes[number]?.map (becomes number)

variable {host middle later : Host} {raw : Int} {index : Nat} {file : OpenFile} {inode : Inode}
  {becomes next : Nat → Inode → Inode}

theorem Retimed.resolve (retimed : host.Retimed later becomes) (raw : Int) :
    later.resolve raw = (host.resolve raw).map fun found =>
      (found.1, found.2.1, becomes found.2.1.inode found.2.2) := by
  have descriptor : later.descriptor? raw = host.descriptor? raw := by
    rw [retimed.others]
    rfl
  have openFiles : later.openFiles = host.openFiles := by
    rw [retimed.others]
  simp only [Host.resolve, descriptor, openFiles, inode?, retimed.inodes]
  cases host.descriptor? raw with
  | none => rfl
  | some index =>
    cases opened : host.openFiles[index]? with
    | none => simp only [opened]; rfl
    | some file =>
      simp only [opened]
      cases host.inodes[file.inode]? <;> rfl

theorem Retimed.behind? (retimed : host.Retimed later becomes) (raw : Int) :
    later.behind? raw = host.behind? raw := by
  rw [Host.behind?, retimed.resolve, Host.behind?]
  cases host.resolve raw <;> rfl

theorem Retimed.trans (first : host.Retimed middle becomes) (second : middle.Retimed later next) :
    host.Retimed later fun number inode => next number (becomes number inode) where
  others := by rw [second.others, first.others]
  inodes number := by
    rw [second.inodes, first.inodes, Option.map_map]
    rfl

theorem behind?_of_resolve (found : host.resolve raw = .ok (index, file, inode)) :
    host.behind? raw = some file.inode := by
  rw [behind?, found]
  rfl

theorem resolve_of_behind? (stands : (host.behind? raw).isSome = true) :
    ∃ index file inode, host.resolve raw = .ok (index, file, inode) := by
  cases found : host.resolve raw with
  | error errno => simp [behind?, found, Except.toOption] at stands
  | ok opened => exact ⟨opened.1, opened.2.1, opened.2.2, rfl⟩

theorem retimed_set (found : host.resolve raw = .ok (index, file, inode))
    (requests : List FileTimes) (calls : List Call) :
    host.Retimed
      { host with inodes := host.inodes.set file.inode (inode.stamped requests), calls }
      fun number inode =>
        if host.behind? raw = some number then inode.stamped requests else inode where
  others := rfl
  inodes number := by
    obtain ⟨_, _, present⟩ := resolve_ok found
    have there : host.inodes[file.inode]? = some inode := present
    simp only [behind?_of_resolve found, Option.some.injEq, List.getElem?_set]
    by_cases own : file.inode = number
    · subst own
      obtain ⟨bound, same⟩ := List.getElem?_eq_some_iff.mp there
      simp [bound, same]
    · simp [own]

end Host

namespace FileHandle

variable {host later : Host} {handle : FileHandle} {index : Nat} {file : OpenFile} {inode : Inode}
  {times : FileTimes}

/-- What the host is asked for when times are to be set: nothing if none is given. -/
def timesCalls (handle : FileHandle) (times : FileTimes) : List Call :=
  if times.lastAccess.isNone && times.lastWrite.isNone then []
  else [.changeTimes handle.raw (stampFor times.lastAccess) (stampFor times.lastWrite)]

theorem setTimes_open (found : host.resolve handle.raw = .ok (index, file, inode))
    (times : FileTimes) :
    ∃ later, handle.setTimes times host = (.ok (), later) ∧
      later.calls = handle.timesCalls times ++ host.calls ∧
      host.Retimed later fun number inode =>
        if host.behind? handle.raw = some number then inode.stamped [times] else inode := by
  obtain ⟨_, _, present⟩ := resolve_ok found
  simp only [setTimes, timesCalls, isOpen_of_resolve found, Bool.not_true, Bool.false_eq_true,
    if_false]
  split
  next nothing =>
    have untouched : inode.stamped [times] = inode := by
      simp only [Bool.and_eq_true, Option.isNone_iff_eq_none] at nothing
      simp [Inode.stamped, Stamp.after, nothing.1, nothing.2]
    have same : host.inodes.set file.inode (inode.stamped [times]) = host.inodes := by
      rw [untouched]
      exact set_same present
    have retimed := retimed_set found [times] host.calls
    rw [same] at retimed
    exact ⟨host, rfl, rfl, retimed⟩
  next =>
    refine ⟨_, ?_, rfl, retimed_set found [times] (.changeTimes handle.raw
      (stampFor times.lastAccess) (stampFor times.lastWrite) :: host.calls)⟩
    have resolved (call : Call) : (host.note call).resolve handle.raw = .ok (index, file, inode) :=
      found
    simp only [changeTimes, resolved, Stamp.applied?_stampFor, lifted, lift, Inode.stamped,
      filterMap_request]
    rfl

theorem times_open (found : host.resolve handle.raw = .ok (index, file, inode)) :
    (handle.times host).1 = .ok
      { creation := none
        lastAccess := FileTime.ofStamp? inode.accessed
        lastWrite := FileTime.ofStamp? inode.modified } := by
  have asked : (host.stat handle.raw).1 = .ok inode := by
    rw [Host.stat, found]
    rfl
  simp only [times, statWith, stat, isOpen_of_resolve found, if_true, lifted, asked]
  rfl

theorem times_retimed {becomes : Nat → Inode → Inode} {requests : List FileTimes}
    (found : host.resolve handle.raw = .ok (index, file, inode))
    (retimed : host.Retimed later becomes)
    (own : becomes file.inode inode = inode.stamped requests) :
    (handle.times later).1 = .ok
      { creation := none
        lastAccess := (requests.filterMap FileTimes.lastAccess).getLast?.or
          (FileTime.ofStamp? inode.accessed)
        lastWrite := (requests.filterMap FileTimes.lastWrite).getLast?.or
          (FileTime.ofStamp? inode.modified) } := by
  have stands : later.resolve handle.raw = .ok (index, file, inode.stamped requests) := by
    rw [retimed.resolve, found, ← own]
    rfl
  rw [times_open stands]
  simp only [Inode.stamped, Stamp.ofStamp?_after]

/-- Requests one after another, each through its own handle, with what each comes to. -/
def setTimesEach : List (FileHandle × FileTimes) → Host → List (Except FileError Unit) × Host
  | [], host => ([], host)
  | (handle, times) :: rest, host =>
    let (result, host) := handle.setTimes times host
    let (results, host) := setTimesEach rest host
    (result :: results, host)

def concerning (host : Host) (number : Nat) (requests : List (FileHandle × FileTimes)) :
    List FileTimes :=
  requests.filterMap fun request =>
    if host.behind? request.1.raw = some number then some request.2 else none

theorem concerning_cons (host : Host) (number : Nat) (request : FileHandle × FileTimes)
    (rest : List (FileHandle × FileTimes)) :
    concerning host number (request :: rest) =
      if host.behind? request.1.raw = some number then
        request.2 :: concerning host number rest
      else concerning host number rest := by
  simp only [concerning, List.filterMap_cons]
  split <;> simp_all

theorem retimed_setTimesEach (requests : List (FileHandle × FileTimes))
    (opened : ∀ request ∈ requests, (host.behind? request.1.raw).isSome = true) :
    ∃ later, setTimesEach requests host = (requests.map fun _ => .ok (), later) ∧
      host.Retimed later fun number inode => inode.stamped (concerning host number requests) := by
  induction requests generalizing host with
  | nil => exact ⟨host, rfl, rfl, fun number => by simp [concerning, Inode.stamped_nil]⟩
  | cons request rest ih =>
    obtain ⟨handle, times⟩ := request
    obtain ⟨index, file, inode, found⟩ :=
      resolve_of_behind? (opened (handle, times) List.mem_cons_self)
    obtain ⟨middle, asked, -, first⟩ := setTimes_open found times
    obtain ⟨later, followed, second⟩ := ih fun request member => by
      rw [first.behind?]
      exact opened request (List.mem_cons_of_mem _ member)
    refine ⟨later, by simp only [setTimesEach, asked, followed, List.map_cons], ?_⟩
    have same (number : Nat) : concerning middle number rest = concerning host number rest := by
      simp only [concerning, first.behind?]
    have becomes : (fun (number : Nat) (inode : Inode) =>
        inode.stamped (concerning host number ((handle, times) :: rest))) =
        fun number inode => (if host.behind? handle.raw = some number then inode.stamped [times]
          else inode).stamped (concerning middle number rest) := by
      funext number inode
      rw [concerning_cons, same]
      split
      next => exact inode.stamped_cons times _
      next => rfl
    rw [becomes]
    exact first.trans second

/-- Setting times is exact. A request on an open file succeeds; afterwards each time that was given
reads as given and each other as before, no creation time is reported, and nothing else in the host
has changed. A time is sent with nanoseconds within a second, which no marker has. After any
requests, through any handles of open files, each field of a file reads as the last time given for
it; so requests that give each field of each file the same times in the same order come to the
same, however they are mixed. -/
theorem times_exact (found : host.resolve handle.raw = .ok (index, file, inode)) :
    ∃ before, (handle.times host).1 = .ok before ∧
      (∀ times : FileTimes, ∃ later,
        handle.setTimes times host = (.ok (), later) ∧
        (handle.times later).1 = .ok
          { creation := none
            lastAccess := times.lastAccess.or before.lastAccess
            lastWrite := times.lastWrite.or before.lastWrite } ∧
        later.calls = handle.timesCalls times ++ host.calls ∧
        host.Retimed later fun number inode =>
          if file.inode = number then inode.stamped [times] else inode) ∧
      (∀ time : FileTime,
        0 ≤ (stampFor (some time)).nanos ∧ (stampFor (some time)).nanos < 1000000000 ∧
        (stampFor (some time)).nanos ≠ Stamp.leaveNanos ∧
        (stampFor (some time)).nanos ≠ Stamp.presentNanos) ∧
      ∀ requests : List (FileHandle × FileTimes),
        (∀ request ∈ requests, (host.behind? request.1.raw).isSome = true) →
        ∃ later,
          setTimesEach requests host = (requests.map fun _ => .ok (), later) ∧
          (handle.times later).1 = .ok
            { creation := none
              lastAccess := ((concerning host file.inode requests).filterMap
                FileTimes.lastAccess).getLast?.or before.lastAccess
              lastWrite := ((concerning host file.inode requests).filterMap
                FileTimes.lastWrite).getLast?.or before.lastWrite } ∧
          later = { host with inodes := later.inodes, calls := later.calls } ∧
          ∀ others : List (FileHandle × FileTimes),
            (∀ request ∈ others, (host.behind? request.1.raw).isSome = true) →
            (∀ number, ∀ field ∈ [FileTimes.lastAccess, FileTimes.lastWrite],
              (concerning host number others).filterMap field =
                (concerning host number requests).filterMap field) →
            (setTimesEach others host).2.inodes = later.inodes := by
  have own := behind?_of_resolve found
  refine ⟨_, times_open found, fun times => ?_, fun time => ?_, fun requests opened => ?_⟩
  · obtain ⟨later, asked, calls, retimed⟩ := setTimes_open found times
    simp only [own, Option.some.injEq] at retimed
    refine ⟨later, asked, ?_, calls, retimed⟩
    rw [times_retimed found retimed (if_pos rfl), getLast?_request, getLast?_request]
  · exact ⟨time.toStamp_nanos.1, time.toStamp_nanos.2, time.toStamp_unmarked⟩
  · obtain ⟨later, asked, retimed⟩ := retimed_setTimesEach requests opened
    refine ⟨later, asked, times_retimed found retimed rfl, retimed.others,
      fun others also same => ?_⟩
    obtain ⟨last, followed, retimedAlso⟩ := retimed_setTimesEach others also
    rw [followed]
    refine List.ext_getElem? fun number => ?_
    rw [retimedAlso.inodes, retimed.inodes]
    simp only [Inode.stamped, same number _ (List.mem_cons_self ..),
      same number FileTimes.lastWrite (by simp)]

/-- One file that two descriptors stand for, and a pipe. -/
def dated : Host where
  inodes :=
    [⟨.regular .empty, .ofWord 0x1b6, ⟨7, 5⟩, ⟨7, 5⟩⟩,
      ⟨.pipe {}, .ofWord 0x180, ⟨7, 5⟩, ⟨7, 5⟩⟩]
  openFiles := [⟨0, true, false, 0⟩, ⟨1, true, true, 0⟩]
  descriptors := [some 0, some 1, some 0]
  workingDirectory := 0
  umask := .ofWord 0x12
  now := default

/-- The last moment before 1970, the first and the last that a file can record, and one for the pipe
in between. -/
theorem times_dated :
    ∃ later,
      setTimesEach
        [(⟨0⟩, { lastWrite := some ⟨-1⟩ }), (⟨1⟩, { lastWrite := some ⟨3⟩ }),
          (⟨2⟩, { lastAccess := some ⟨Int64.minValue⟩, creation := some ⟨9⟩ }),
          (⟨0⟩, { lastWrite := some ⟨Int64.maxValue⟩ })] dated =
        ([.ok (), .ok (), .ok (), .ok ()], later) ∧
      ((⟨2⟩ : FileHandle).times later).1 = .ok
        { creation := none
          lastAccess := some ⟨Int64.minValue⟩
          lastWrite := some ⟨Int64.maxValue⟩ } := by
  obtain ⟨before, -, -, -, each⟩ := @times_exact dated ⟨2⟩ _ _ _ rfl
  obtain ⟨later, asked, reported, -⟩ := each
    [(⟨0⟩, { lastWrite := some ⟨-1⟩ }), (⟨1⟩, { lastWrite := some ⟨3⟩ }),
      (⟨2⟩, { lastAccess := some ⟨Int64.minValue⟩, creation := some ⟨9⟩ }),
      (⟨0⟩, { lastWrite := some ⟨Int64.maxValue⟩ })] (by decide)
  exact ⟨later, asked, reported⟩

end FileHandle

end AsyncFiles
