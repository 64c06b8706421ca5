import AsyncFiles.Proofs.Passing.Steps

namespace AsyncFiles

open Error Host

def moved {ε : Type} : Except ε Nat → Nat
  | .ok count => count
  | .error _ => 0

namespace Host

/-- What a transfer at an offset leaves, against one that sought the offset first: the one leaves
all positions, the other moves that of one open file. All else is the same, but for the calls that
the host was asked. -/
structure Beside (host aside after : Host) (index position : Nat) : Prop where
  stays : aside.openFiles = host.openFiles
  moves : after.openFiles = host.openFiles.modify index fun file => { file with position }
  same : aside = { after with openFiles := aside.openFiles, calls := aside.calls }

def sought (host : Host) (raw : Int) (index offset : Nat) : Host :=
  (host.note (.seek raw .begin offset)).setPosition index offset

variable {host later : Host} {raw : Int} {index : Nat} {file : OpenFile} {inode : Inode}
  {content : Content}

theorem Beside.inodes {aside after : Host} {position : Nat}
    (beside : host.Beside aside after index position) : aside.inodes = after.inodes := by
  rw [beside.same]

theorem resolve_sought (found : host.resolve raw = .ok (index, file, inode)) (offset : Nat) :
    (host.sought raw index offset).resolve raw =
      .ok (index, { file with position := offset }, inode) := by
  have noted : (host.note (.seek raw .begin offset)).resolve raw = .ok (index, file, inode) := found
  exact resolve_setPosition noted offset

section

variable (host : Host) (raw : Int) (index offset : Nat) (first second : Call)

theorem beside_note :
    host.Beside (host.note first) ((host.sought raw index offset).note second) index offset :=
  ⟨rfl, rfl, rfl⟩

variable (grants : List Grant) (number : Nat) (next : Inode)

theorem beside_spent :
    host.Beside (host.spent first grants number next)
      ((host.sought raw index offset).spent second grants number next) index offset :=
  ⟨rfl, rfl, rfl⟩

theorem beside_moved (position : Nat) :
    host.Beside (host.spent first grants number next)
      (((host.sought raw index offset).spent second grants number next).setPosition index position)
      index position where
  stays := rfl
  moves := List.modify_modify_eq _ _ index host.openFiles
  same := rfl

end

section

variable (found : host.resolve raw = .ok (index, file, inode))
  (regular : inode.node = .regular content)

include found regular

theorem read_beside (count offset : Nat) :
    ∃ result aside after, host.read raw count (some offset) = (result, aside) ∧
      (host.sought raw index offset).read raw count none = (result, after) ∧
      host.Beside aside after index (offset + moved (result.map List.length)) := by
  have same : (host.sought raw index offset).takeGrant =
      (host.takeGrant.1, { host.sought raw index offset with grants := host.takeGrant.2.grants }) :=
    takeGrant_of_grants rfl
  have direct := read_steps found regular count (some offset)
  have moved := read_steps (resolve_sought found offset) regular count none
  simp only [same, Option.getD_some, Option.getD_none] at direct moved
  rw [direct, moved]
  split
  · exact ⟨_, _, _, rfl, rfl, host.beside_note ..⟩
  split
  · exact ⟨_, _, _, rfl, rfl, host.beside_note ..⟩
  split
  · exact ⟨_, _, _, rfl, rfl, host.beside_note ..⟩
  split
  · exact ⟨_, _, _, rfl, rfl, host.beside_spent ..⟩
  · exact ⟨_, _, _, rfl, rfl, host.beside_moved ..⟩

theorem write_beside (data : Bytes) (offset : Nat) :
    ∃ result aside after, host.write raw data (some offset) = (result, aside) ∧
      (host.sought raw index offset).write raw data none = (result, after) ∧
      host.Beside aside after index (offset + moved result) := by
  have same : (host.sought raw index offset).takeGrant =
      (host.takeGrant.1, { host.sought raw index offset with grants := host.takeGrant.2.grants }) :=
    takeGrant_of_grants rfl
  have direct := write_steps found regular data (some offset)
  have moved := write_steps (resolve_sought found offset) regular data none
  simp only [same, Option.getD_some, Option.getD_none] at direct moved
  rw [direct, moved]
  split
  · exact ⟨_, _, _, rfl, rfl, host.beside_note ..⟩
  split
  · exact ⟨_, _, _, rfl, rfl, host.beside_note ..⟩
  split
  · exact ⟨_, _, _, rfl, rfl, host.beside_note ..⟩
  split
  · exact ⟨_, _, _, rfl, rfl, host.beside_spent ..⟩
  · exact ⟨_, _, _, rfl, rfl, host.beside_moved ..⟩

end

end Host

namespace FileHandle

variable {host : Host} {handle : FileHandle} {index : Nat} {file : OpenFile} {inode : Inode}
  {content : Content}

theorem moved_received (buffers : List Bytes) (data : Bytes) :
    moved (received buffers data).1 = data.length := by
  cases data with
  | nil =>
    simp only [received]
    split <;> rfl
  | cons => rfl

theorem refused_tooFar (opened : handle.isOpen = true) {offset : Nat} (far : maxOffset < offset) :
    (∀ buffers, handle.readSome buffers (some offset) host = (.error tooFar, buffers, host)) ∧
    (∀ buffers, handle.writeSome buffers (some offset) host = (.error tooFar, host)) ∧
    handle.setSize offset host = (.error tooFar, host) := by
  have refused : checkOffset (some offset) = .error tooFar := if_pos far
  refine ⟨fun buffers => ?_, fun buffers => ?_, ?_⟩
  · simp [readSome, opened, refused]
  · simp [writeSome, opened, refused]
  · simp [setSize, opened, far]

section

variable (found : host.resolve handle.raw = .ok (index, file, inode))
  (regular : inode.node = .regular content)

include found regular

theorem seek_sought {offset : Nat} (within : offset ≤ maxOffset) :
    handle.seek .begin offset host = (.ok offset, host.sought handle.raw index offset) := by
  have noted : (host.note (.seek handle.raw .begin offset)).resolve handle.raw =
      .ok (index, file, inode) := found
  have natural : ¬ (offset : Int) < 0 := by omega
  simp [seek, isOpen_of_resolve found, Host.seek, noted, regular, natural, Nat.not_lt.mpr within,
    lifted, lift, Except.mapError, sought]

theorem readSome_beside (buffers : List Bytes) {offset : Nat} (within : offset ≤ maxOffset) :
    ∃ result filled aside after,
      handle.readSome buffers (some offset) host = (result, filled, aside) ∧
      handle.readSome buffers none (host.sought handle.raw index offset) =
        (result, filled, after) ∧
      host.Beside aside after index (offset + moved result) := by
  have opened := isOpen_of_resolve found
  have direct : checkOffset (some offset) = .ok () := if_neg (Nat.not_lt.mpr within)
  have bare : checkOffset none = .ok () := rfl
  obtain ⟨result, aside, after, given, again, beside⟩ :=
    read_beside found regular (Buffers.capacity buffers) offset
  simp only [readSome, opened, direct, bare, given, again, Bool.not_true, Bool.false_eq_true,
    if_false]
  cases result with
  | error errno => exact ⟨_, _, aside, after, rfl, rfl, beside⟩
  | ok data =>
    have counted : moved ((.ok data : Except Errno Bytes).map List.length) =
        moved (received buffers data).1 := (moved_received buffers data).symm
    rw [counted] at beside
    exact ⟨_, _, aside, after, rfl, rfl, beside⟩

theorem writeSome_beside (buffers : List Bytes) {offset : Nat} (within : offset ≤ maxOffset) :
    ∃ result aside after,
      handle.writeSome buffers (some offset) host = (result, aside) ∧
      handle.writeSome buffers none (host.sought handle.raw index offset) = (result, after) ∧
      host.Beside aside after index (offset + moved result) := by
  have opened := isOpen_of_resolve found
  have direct : checkOffset (some offset) = .ok () := if_neg (Nat.not_lt.mpr within)
  have bare : checkOffset none = .ok () := rfl
  obtain ⟨result, aside, after, taken, again, beside⟩ :=
    write_beside found regular (Buffers.gather buffers) offset
  simp only [writeSome, opened, direct, bare, taken, again, Bool.not_true, Bool.false_eq_true,
    if_false, lifted]
  cases result with
  | error errno => exact ⟨_, aside, after, rfl, rfl, beside⟩
  | ok count => exact ⟨_, aside, after, rfl, rfl, beside⟩

theorem seek_fails {origin : Origin} {offset : Int} {error : FileError} {later : Host}
    (failed : handle.seek origin offset host = (.error error, later)) :
    later = host.note (.seek handle.raw origin offset) := by
  have noted : (host.note (.seek handle.raw origin offset)).resolve handle.raw =
      .ok (index, file, inode) := found
  obtain ⟨target, sought⟩ : ∃ target : Int, host.seek handle.raw origin offset =
      if target < 0 ∨ (maxOffset : Int) < target then
        (.error .invalid, host.note (.seek handle.raw origin offset))
      else
        (.ok target.toNat,
          (host.note (.seek handle.raw origin offset)).setPosition index target.toNat) := by
    simp only [Host.seek, noted, regular]
    exact ⟨_, rfl⟩
  simp only [seek, isOpen_of_resolve found, sought, Bool.not_true, Bool.false_eq_true, if_false]
    at failed
  split at failed
  next => exact (congrArg Prod.snd failed).symm
  next => cases congrArg Prod.fst failed

/-- Transfers at an offset and transfers at the position agree. What a read or a write at an offset
comes to is what it comes to after seeking there, and the file and the buffers with it; only that
the position stays. Offsets past the largest are refused with everything as it was, and a seek that
fails leaves the position. -/
theorem positional_as_sequential :
    (∀ offset, offset ≤ maxOffset → ∃ sought,
      handle.seek .begin offset host = (.ok offset, sought) ∧
      (∀ buffers, ∃ result filled aside after,
        handle.readSome buffers (some offset) host = (result, filled, aside) ∧
        handle.readSome buffers none sought = (result, filled, after) ∧
        host.Beside aside after index (offset + moved result)) ∧
      ∀ buffers, ∃ result aside after,
        handle.writeSome buffers (some offset) host = (result, aside) ∧
        handle.writeSome buffers none sought = (result, after) ∧
        host.Beside aside after index (offset + moved result)) ∧
    (∀ offset, maxOffset < offset → tooFar.kind = .invalidArgument ∧
      (∀ buffers, handle.readSome buffers (some offset) host = (.error tooFar, buffers, host)) ∧
      (∀ buffers, handle.writeSome buffers (some offset) host = (.error tooFar, host)) ∧
      handle.setSize offset host = (.error tooFar, host)) ∧
    ∀ origin offset error later, handle.seek origin offset host = (.error error, later) →
      later = host.note (.seek handle.raw origin offset) := by
  refine ⟨fun offset within => ?_, fun offset far => ?_, fun _ _ _ _ failed => ?_⟩
  · exact ⟨_, seek_sought found regular within,
      fun buffers => readSome_beside found regular buffers within,
      fun buffers => writeSome_beside found regular buffers within⟩
  · exact ⟨rfl, refused_tooFar (isOpen_of_resolve found) far⟩
  · exact seek_fails found regular failed

end

/-- On the open file of five bytes, two buffers read from its fourth byte on, a byte written behind
its end, and an offset that no file has. -/
theorem positional_fiveBytes :
    (∃ sought filled aside after,
      (⟨0⟩ : FileHandle).readSome [[9], [9, 9]] (some 3) fiveBytes = (.ok 2, filled, aside) ∧
      (⟨0⟩ : FileHandle).seek .begin 3 fiveBytes = (.ok 3, sought) ∧
      (⟨0⟩ : FileHandle).readSome [[9], [9, 9]] none sought = (.ok 2, filled, after) ∧
      aside.openFiles = [⟨0, true, true, 3⟩] ∧ after.openFiles = [⟨0, true, true, 5⟩]) ∧
    (∃ sought aside after,
      (⟨0⟩ : FileHandle).writeSome [[8]] (some 7) fiveBytes = (.ok 1, aside) ∧
      (⟨0⟩ : FileHandle).seek .begin 7 fiveBytes = (.ok 7, sought) ∧
      (⟨0⟩ : FileHandle).writeSome [[8]] none sought = (.ok 1, after) ∧
      aside.openFiles = [⟨0, true, true, 3⟩] ∧ after.openFiles = [⟨0, true, true, 8⟩] ∧
      aside.inodes = after.inodes) ∧
    (⟨0⟩ : FileHandle).setSize (maxOffset + 1) fiveBytes = (.error tooFar, fiveBytes) := by
  obtain ⟨agree, far, -⟩ := @positional_as_sequential fiveBytes ⟨0⟩ _ _ _ _ rfl rfl
  refine ⟨?_, ?_, (far (maxOffset + 1) (Nat.lt_succ_self _)).2.2.2⟩
  · obtain ⟨sought, moved, reads, -⟩ := agree 3 (by decide)
    obtain ⟨result, filled, aside, after, direct, again, beside⟩ := reads [[9], [9, 9]]
    obtain rfl : result = .ok 2 := (congrArg Prod.fst direct).symm
    exact ⟨sought, filled, aside, after, direct, moved, again, beside.stays, beside.moves⟩
  · obtain ⟨sought, moved, -, writes⟩ := agree 7 (by decide)
    obtain ⟨result, aside, after, direct, again, beside⟩ := writes [[8]]
    obtain rfl : result = .ok 1 := (congrArg Prod.fst direct).symm
    exact ⟨sought, aside, after, direct, moved, again, beside.stays, beside.moves,
      beside.inodes⟩

end FileHandle

end AsyncFiles
