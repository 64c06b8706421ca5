import AsyncFiles.Proofs.InOrder.Performed

/-!
Transfers that wait at a pipe. On hosts that are alike a transfer waits on both or on neither. Once
it waits it goes on only when an end of the pipe is closed or someone else uses the pipe.
-/
namespace AsyncFiles

open Access Error Host

namespace Host

variable {host other later : Host} {raw : Int} {call : Stalled}

theorem piped_of_node {inode : Nat} {found : Inode} {pipe : Pipe}
    (present : host.inode? inode = some found) (node : found.node = .pipe pipe) :
    host.Piped inode := by
  rw [piped_iff present, node]
  rfl

theorem pipeBehind?_eq_some {file inode : Nat} {pipe : Pipe} :
    host.pipeBehind? file = some (inode, pipe) ↔ ∃ opened found,
      host.openFiles[file]? = some opened ∧ opened.inode = inode ∧
        host.inode? inode = some found ∧ found.node = .pipe pipe := by
  simp only [pipeBehind?, node?]
  constructor
  · intro behind
    split at behind
    next => cases behind
    next opened present =>
      split at behind
      next held node =>
        cases behind
        obtain ⟨found, there, node⟩ := Option.map_eq_some_iff.mp node
        exact ⟨opened, found, present, rfl, there, node⟩
      next => cases behind
  · rintro ⟨opened, found, present, rfl, there, node⟩
    simp [present, there, node]

section

variable {file inode : Nat} {pipe : Pipe} (behind : host.pipeBehind? file = some (inode, pipe))

include behind

theorem stuck_reading (fed : host.hasWriter inode = true) (empty : pipe.isEmpty = true)
    (count : Nat) : host.resume? (.reading file count) = none := by
  simp only [resume?, Stalled.file, behind, fed, empty, Bool.and_self, if_true]

theorem stuck_writing (heard : host.hasReader inode = true) (full : pipe.isFull = true)
    (rest : Bytes) (sent : Nat) : host.resume? (.writing file rest sent) = none := by
  simp only [resume?, Stalled.file, behind, heard, full, Bool.not_true, Bool.false_eq_true,
    if_false, if_true]

end

theorem Alike.stuck (alike : host.Alike other) (ends : host.SameEnds other)
    (stuck : host.resume? call = none) : other.resume? call = none := by
  have behind : other.pipeBehind? call.file = host.pipeBehind? call.file := by
    simp only [pipeBehind?, node?, Host.inode?, alike.inodes, alike.openFiles]
  simp only [resume?, behind] at stuck ⊢
  split
  next => rfl
  next inode pipe found =>
    obtain ⟨_, _, _, _, present, node⟩ := pipeBehind?_eq_some.mp found
    have piped := piped_of_node present node
    simp only [found] at stuck
    rw [ends.hasReader piped, ends.hasWriter piped]
    cases call with
    | reading file count =>
      simp only at stuck ⊢
      split at stuck
      next waits => rw [if_pos waits]
      next => cases stuck
    | writing file rest sent =>
      simp only at stuck ⊢
      split at stuck
      next => cases stuck
      next read =>
        rw [if_neg read]
        split at stuck
        next full => rw [if_pos full]
        next => split at stuck <;> cases stuck

abbrev AlikeStalls : Option (Stalled × Host) → Option (Stalled × Host) → Prop :=
  Option.Rel fun first second => second.1 = first.1 ∧ first.2.Alike second.2

theorem Alike.setPipe (alike : host.Alike other) (inode : Nat) (pipe : Pipe) :
    (host.setPipe inode pipe).Alike (other.setPipe inode pipe) :=
  ⟨congrArg (fun inodes : List Inode =>
      inodes.modify inode fun found => { found with node := .pipe pipe }) alike.inodes,
    alike.openFiles, alike.grants, alike.now⟩

theorem Alike.engage (alike : host.Alike other) (file : Nat) :
    (host.engage file).Alike (other.engage file) :=
  ⟨alike.inodes, alike.openFiles, alike.grants, alike.now⟩

theorem Alike.stallReading (alike : host.Alike other)
    (descriptor : other.descriptor? raw = host.descriptor? raw) (ends : host.SameEnds other)
    (count : Nat) : AlikeStalls (host.stallReading? raw count) (other.stallReading? raw count) := by
  simp only [stallReading?, alike.resolve descriptor]
  split
  next => exact .none
  next index file inode found =>
    split
    next pipe node =>
      rw [ends.hasWriter (piped_of_node (resolve_ok found).2.2 node)]
      split
      next => exact .some ⟨rfl, (alike.note _ _).engage index⟩
      next => exact .none
    next => exact .none

theorem Alike.stallWriting (alike : host.Alike other)
    (descriptor : other.descriptor? raw = host.descriptor? raw) (ends : host.SameEnds other)
    (data : Bytes) : AlikeStalls (host.stallWriting? raw data) (other.stallWriting? raw data) := by
  simp only [stallWriting?, alike.resolve descriptor]
  split
  next => exact .none
  next index file inode found =>
    split
    next pipe node =>
      rw [ends.hasReader (piped_of_node (resolve_ok found).2.2 node)]
      split
      next =>
        split
        next => exact .none
        next => exact .some ⟨rfl, ((alike.note _ _).setPipe _ _).engage index⟩
      next => exact .none
    next => exact .none

structure Halts (host : Host) (call : Stalled) (later : Host) : Prop where
  ends : host.SameEnds later
  descriptors : later.descriptors = host.descriptors
  stuck : later.resume? call = none

theorem sameEnds_setPipe {inode : Nat} (piped : host.Piped inode) (pipe : Pipe) :
    host.SameEnds (host.setPipe inode pipe) := by
  refine ⟨rfl, ?_, fun _ _ _ _ => .rfl⟩
  apply List.ext_getElem?
  intro position
  simp only [setPipe, List.getElem?_map, List.getElem?_modify]
  by_cases here : inode = position
  · subst here
    rw [Piped, List.getElem?_map] at piped
    obtain ⟨found, present, stream⟩ := Option.map_eq_some_iff.mp piped
    simpa [present, Node.isStream] using stream
  · simp [here]

theorem halts_reading {count : Nat} (stalled : host.stallReading? raw count = some (call, later)) :
    host.Halts call later := by
  simp only [stallReading?] at stalled
  split at stalled
  next => cases stalled
  next index file inode found =>
    obtain ⟨descriptor, opened, present⟩ := resolve_ok found
    split at stalled
    next pipe node =>
      split at stalled
      next waits =>
        cases stalled
        have noted : (host.note (.read raw count none)).descriptor? raw = some index := descriptor
        have ends := (SameKinds.noted host (.read raw count none)).sameEnds.trans
          (sameEnds_engage noted)
        have behind : ((host.note (.read raw count none)).engage index).pipeBehind? index =
          some (file.inode, pipe) :=
            pipeBehind?_eq_some.mpr ⟨file, inode, opened, rfl, present, node⟩
        simp only [Bool.and_eq_true] at waits
        have fed := (ends.hasWriter (piped_of_node present node)).trans waits.2
        exact ⟨ends, rfl, stuck_reading behind fed waits.1.2 count⟩
      next => cases stalled
    next => cases stalled

theorem halts_writing {data : Bytes} (stalled : host.stallWriting? raw data = some (call, later)) :
    host.Halts call later := by
  simp only [stallWriting?] at stalled
  split at stalled
  next => cases stalled
  next index file inode found =>
    obtain ⟨descriptor, opened, present⟩ := resolve_ok found
    split at stalled
    next pipe node =>
      split at stalled
      next heard =>
        split at stalled
        next => cases stalled
        next more =>
          cases stalled
          have piped := piped_of_node present node
          have full : (pipe.put data).2.isFull = true := Pipe.put_isFull (by simpa using more)
          let noted := host.note (.write raw data none)
          let filled := noted.setPipe file.inode (pipe.put data).2
          have stream : noted.Piped file.inode := piped
          have own : filled.descriptor? raw = some index := descriptor
          have ends : host.SameEnds (filled.engage index) :=
            ((SameKinds.noted host _).sameEnds.trans (sameEnds_setPipe stream _)).trans
              (sameEnds_engage own)
          have behind : (filled.engage index).pipeBehind? index =
              some (file.inode, (pipe.put data).2) := by
            refine pipeBehind?_eq_some.mpr
              ⟨file, { inode with node := .pipe (pipe.put data).2 }, opened, rfl, ?_, rfl⟩
            have there : host.inodes[file.inode]? = some inode := present
            simp [filled, noted, setPipe, engage, Host.inode?, note, there]
          have read : (filled.engage index).hasReader file.inode = true := by
            rw [Bool.and_eq_true] at heard
            rw [ends.hasReader piped, heard.2]
          exact ⟨ends, rfl, stuck_writing behind read full _ _⟩
      next => cases stalled
    next => cases stalled

end Host

namespace Request

variable {host other : Host} {handle : FileHandle}

/-- An attempt waits at a pipe and cannot go on, or it does what the request does directly. -/
theorem attempt_cases (request : Request) (handle : FileHandle) (buffers : List Bytes)
    (host : Host) :
    (∃ call later, request.attempt handle buffers host = (.stalled call, later) ∧
        host.Halts call later) ∨
      request.attempt handle buffers host =
        (.finished (request.perform handle buffers host).1
            (request.perform handle buffers host).2.1,
          (request.perform handle buffers host).2.2) := by
  cases stalls : request.stall? handle buffers host with
  | none => exact .inr (by simp only [attempt, stalls])
  | some begun =>
    obtain ⟨call, later⟩ := begun
    refine .inl ⟨call, later, by simp only [attempt, stalls], ?_⟩
    simp only [stall?] at stalls
    split at stalls
    next => exact halts_reading stalls
    next => exact halts_writing stalls
    next => cases stalls

theorem sameEnds_attempt (request : Request) (handle : FileHandle) (buffers : List Bytes)
    (host : Host) : host.SameEnds (request.attempt handle buffers host).2 := by
  rcases request.attempt_cases handle buffers host with ⟨call, later, stalled, halts⟩ | finished
  · rw [stalled]
    exact halts.ends
  · rw [finished]
    exact (request.sameKinds_perform handle buffers host).sameEnds

theorem descriptors_attempt (request : Request) (handle : FileHandle) (buffers : List Bytes)
    (host : Host) : (request.attempt handle buffers host).2.descriptors = host.descriptors := by
  rcases request.attempt_cases handle buffers host with ⟨call, later, stalled, halts⟩ | finished
  · rw [stalled]
    exact halts.descriptors
  · rw [finished]
    exact (request.sameKinds_perform handle buffers host).descriptors

theorem attempt_alike (alike : host.Alike other)
    (descriptor : other.descriptor? handle.raw = host.descriptor? handle.raw)
    (ends : host.SameEnds other) (request : Request) (buffers : List Bytes) :
    (request.attempt handle buffers other).1 = (request.attempt handle buffers host).1 ∧
      (request.attempt handle buffers host).2.Alike
        (request.attempt handle buffers other).2 := by
  have stalls : AlikeStalls (request.stall? handle buffers host)
      (request.stall? handle buffers other) := by
    simp only [stall?]
    split
    next => exact alike.stallReading descriptor ends _
    next => exact alike.stallWriting descriptor ends _
    next => exact .none
  obtain ⟨result, left, later⟩ := perform_alike alike descriptor ends request buffers
  simp only [attempt]
  generalize request.stall? handle buffers host = first at stalls ⊢
  generalize request.stall? handle buffers other = second at stalls ⊢
  cases stalls with
  | none => exact ⟨by rw [result, left], later⟩
  | some same => exact ⟨congrArg Attempt.stalled same.1, same.2⟩

theorem attempt_shut (shut : host.descriptor? handle.raw = none) (request : Request)
    (buffers : List Bytes) :
    request.attempt handle buffers host =
      (.finished (request.perform handle buffers host).1
          (request.perform handle buffers host).2.1,
        (request.perform handle buffers host).2.2) := by
  have resolved : host.resolve handle.raw = .error .badDescriptor := by
    simp only [resolve, shut]
  have never : request.stall? handle buffers host = none := by
    simp only [stall?, stallReading?, stallWriting?, resolved]
    split <;> rfl
  simp only [attempt, never]

end Request

end AsyncFiles
