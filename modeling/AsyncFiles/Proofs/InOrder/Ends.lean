import AsyncFiles.Proofs.Completion.Quiet
import AsyncFiles.Proofs.Pool.Balance
import AsyncFiles.Proofs.Transfers

namespace AsyncFiles

open Access Error Host Time

namespace Host

/-- The inode that an open file stands on, and what it is open for. -/
def OpenFile.standing (file : OpenFile) : Nat × Bool × Bool :=
  (file.inode, file.readable, file.writable)

/-- A descriptor stands for the open file, or a call still uses it. -/
def Live (host : Host) (index : Nat) : Prop :=
  some index ∈ host.descriptors ∨ index ∈ host.engaged

def Piped (host : Host) (inode : Nat) : Prop :=
  (host.inodes.map fun inode => inode.node.isStream)[inode]? = some true

def Plain (host : Host) (raw : Int) : Prop :=
  ∀ index file inode, host.resolve raw = .ok (index, file, inode) → inode.node.isStream = false

/-- The same inodes are pipes, and the same of their ends are open. -/
structure SameEnds (host later : Host) : Prop where
  files : later.openFiles.map OpenFile.standing = host.openFiles.map OpenFile.standing
  nodes : later.inodes.map (fun inode => inode.node.isStream) =
    host.inodes.map fun inode => inode.node.isStream
  live : ∀ index file, host.openFiles[index]? = some file → host.Piped file.inode →
    (later.Live index ↔ host.Live index)

variable {host middle later : Host} {raw : Int}

theorem resolve_ok {index : Nat} {file : OpenFile} {inode : Inode}
    (found : host.resolve raw = .ok (index, file, inode)) : host.descriptor? raw = some index ∧
      host.openFiles[index]? = some file ∧ host.inode? file.inode = some inode := by
  simp only [resolve] at found
  split at found
  next => cases found
  next _ descriptor =>
    split at found
    next => cases found
    next _ opened =>
      split at found
      next => cases found
      next _ present =>
        cases found
        exact ⟨descriptor, opened, present⟩

theorem getElem_of_descriptor {index : Nat} (found : host.descriptor? raw = some index) :
    host.descriptors[raw.toNat]? = some (some index) := by
  simp only [descriptor?] at found
  split at found
  · cases found
  · simpa [Option.join_eq_some_iff] using found

theorem piped_iff {inode : Nat} {found : Inode} (present : host.inode? inode = some found) :
    host.Piped inode ↔ found.node.isStream = true := by
  simp only [Piped, List.getElem?_map, show host.inodes[inode]? = some found from present,
    Option.map_some, Option.some.injEq]

theorem plain_of_none (shut : host.descriptor? raw = none) : host.Plain raw := by
  intro index file inode found
  rw [(resolve_ok found).1] at shut
  cases shut

theorem standing_getElem
    (files : later.openFiles.map OpenFile.standing = host.openFiles.map OpenFile.standing)
    {index : Nat} {file : OpenFile} (found : later.openFiles[index]? = some file) :
    ∃ before, host.openFiles[index]? = some before ∧ before.standing = file.standing := by
  have same := congrArg (fun files : List (Nat × Bool × Bool) => files[index]?) files
  simp only [List.getElem?_map, found, Option.map_some] at same
  exact Option.map_eq_some_iff.mp same.symm

namespace SameEnds

theorem refl (host : Host) : host.SameEnds host := ⟨rfl, rfl, fun _ _ _ _ => .rfl⟩

theorem piped (same : host.SameEnds later) (inode : Nat) :
    later.Piped inode ↔ host.Piped inode := by
  simp only [Piped, same.nodes]

theorem symm (same : host.SameEnds later) : later.SameEnds host := by
  refine ⟨same.files.symm, same.nodes.symm, fun index file found piped => ?_⟩
  obtain ⟨before, was, standing⟩ := standing_getElem same.files found
  have own : before.inode = file.inode := congrArg Prod.fst standing
  rw [same.piped, ← own] at piped
  exact (same.live index before was piped).symm

theorem trans (first : host.SameEnds middle) (second : middle.SameEnds later) :
    host.SameEnds later := by
  refine ⟨second.files.trans first.files, second.nodes.trans first.nodes,
    fun index file found piped => ?_⟩
  obtain ⟨after, is, standing⟩ := standing_getElem first.files.symm found
  have own : after.inode = file.inode := congrArg Prod.fst standing
  have still : middle.Piped after.inode := by
    rw [first.piped, own]
    exact piped
  exact (second.live index after is still).trans (first.live index file found piped)

theorem any_live {open_ : OpenFile → Bool} :
    host.liveOpenFiles.any open_ = true ↔
      ∃ index file, host.Live index ∧ host.openFiles[index]? = some file ∧ open_ file = true := by
  simp only [liveOpenFiles, List.any_eq_true, List.mem_filterMap, List.mem_append, Live, id]
  constructor
  · rintro ⟨file, ⟨index, live, found⟩, holds⟩
    exact ⟨index, file, by simpa using live, found, holds⟩
  · rintro ⟨index, file, live, found, holds⟩
    exact ⟨file, ⟨index, by simpa using live, found⟩, holds⟩

theorem any_mono (same : host.SameEnds later) {inode : Nat} (piped : host.Piped inode)
    (access : Bool × Bool → Bool) (holds : (host.liveOpenFiles.any fun file =>
      file.inode = inode && access (file.readable, file.writable)) = true) :
    (later.liveOpenFiles.any fun file =>
      file.inode = inode && access (file.readable, file.writable)) = true := by
  obtain ⟨index, file, live, found, holds⟩ := any_live.mp holds
  obtain ⟨after, is, standing⟩ := standing_getElem same.files.symm found
  have own : file.inode = inode := by
    rw [Bool.and_eq_true, decide_eq_true_eq] at holds
    exact holds.1
  refine any_live.mpr ⟨index, after, (same.live index file found (own ▸ piped)).mpr live, is, ?_⟩
  rw [← holds]
  simp only [OpenFile.standing, Prod.mk.injEq] at standing
  rw [standing.1, standing.2.1, standing.2.2]

theorem hasReader (same : host.SameEnds later) {inode : Nat} (piped : host.Piped inode) :
    later.hasReader inode = host.hasReader inode :=
  Bool.eq_iff_iff.mpr ⟨same.symm.any_mono ((same.piped inode).mpr piped) Prod.fst,
    same.any_mono piped Prod.fst⟩

theorem hasWriter (same : host.SameEnds later) {inode : Nat} (piped : host.Piped inode) :
    later.hasWriter inode = host.hasWriter inode :=
  Bool.eq_iff_iff.mpr ⟨same.symm.any_mono ((same.piped inode).mpr piped) Prod.snd,
    same.any_mono piped Prod.snd⟩

theorem note (same : host.SameEnds later) (call : Call) :
    (host.note call).SameEnds (later.note call) := ⟨same.files, same.nodes, same.live⟩

end SameEnds

theorem Plain.of_sameEnds (plain : host.Plain raw) (same : host.SameEnds later)
    (descriptor : later.descriptor? raw = host.descriptor? raw) : later.Plain raw := by
  intro index file inode found
  obtain ⟨known, opened, present⟩ := resolve_ok found
  obtain ⟨before, was, standing⟩ := standing_getElem same.files opened
  have own : before.inode = file.inode := congrArg Prod.fst standing
  have nodes := congrArg (fun nodes : List Bool => nodes[file.inode]?) same.nodes
  simp only [List.getElem?_map, show later.inodes[file.inode]? = some inode from present,
    Option.map_some] at nodes
  obtain ⟨old, there, stream⟩ := Option.map_eq_some_iff.mp nodes.symm
  rw [← stream]
  refine plain index before old ?_
  simp only [resolve, ← descriptor, known, was, own,
    show host.inode? file.inode = some old from there]

theorem sameEnds_close (plain : host.Plain raw) : host.SameEnds (host.close raw).2 := by
  have freed {shut : Nat} (found : host.descriptor? raw = some shut) {later : Host}
      (openFiles : later.openFiles = host.openFiles) (inodes : later.inodes = host.inodes)
      (engaged : later.engaged = host.engaged)
      (descriptors : later.descriptors = host.descriptors.set raw.toNat none) :
      host.SameEnds later := by
    refine ⟨by rw [openFiles], by rw [inodes], fun index file opened piped => ?_⟩
    have other : shut ≠ index := by
      rintro rfl
      obtain ⟨inode, present, stream⟩ : ∃ inode, host.inode? file.inode = some inode ∧
          inode.node.isStream = true := by simpa [Piped, inode?] using piped
      have resolved : host.resolve raw = .ok (shut, file, inode) := by
        simp only [resolve, found, opened, present]
      rw [plain shut file inode resolved] at stream
      cases stream
    simp only [Live, descriptors, engaged]
    refine or_congr_left ⟨fun member => ?_, fun member => ?_⟩
    · exact (List.mem_or_eq_of_mem_set member).resolve_right (Option.some_ne_none index)
    · obtain ⟨position, there⟩ := List.mem_iff_getElem?.mp member
      have apart : raw.toNat ≠ position := by
        rintro rfl
        rw [getElem_of_descriptor found] at there
        exact other (Option.some.inj (Option.some.inj there))
      exact List.mem_iff_getElem?.mpr ⟨position, (List.getElem?_set_ne apart).trans there⟩
  simp only [Host.close]
  split
  next => exact ⟨rfl, rfl, fun _ _ _ _ => .rfl⟩
  next shut found =>
    split
    all_goals exact freed found rfl rfl rfl rfl

theorem sameEnds_engage {index : Nat} (found : host.descriptor? raw = some index) :
    host.SameEnds (host.engage index) := by
  refine ⟨rfl, rfl, fun other file _ _ => ?_⟩
  have member := List.mem_of_getElem? (getElem_of_descriptor found)
  simp only [Live, engage, List.mem_cons]
  constructor
  · rintro (held | rfl | used)
    · exact .inl held
    · exact .inl member
    · exact .inr used
  · exact Or.imp_right .inr

structure SameKinds (host later : Host) : Prop where
  files : later.openFiles.map OpenFile.standing = host.openFiles.map OpenFile.standing
  nodes : later.inodes.map (fun inode => inode.node.isStream) =
    host.inodes.map fun inode => inode.node.isStream
  descriptors : later.descriptors = host.descriptors
  engaged : later.engaged = host.engaged

namespace SameKinds

theorem refl (host : Host) : host.SameKinds host := ⟨rfl, rfl, rfl, rfl⟩

theorem noted (host : Host) (call : Call) : host.SameKinds (host.note call) :=
  ⟨rfl, rfl, rfl, rfl⟩

theorem trans (first : host.SameKinds middle) (second : middle.SameKinds later) :
    host.SameKinds later :=
  ⟨second.files.trans first.files, second.nodes.trans first.nodes,
    second.descriptors.trans first.descriptors, second.engaged.trans first.engaged⟩

theorem sameEnds (same : host.SameKinds later) : host.SameEnds later :=
  ⟨same.files, same.nodes, fun index _ _ _ => by rw [Live, same.descriptors, same.engaged, Live]⟩

theorem setInode {inode : Nat} {found value : Inode} (present : host.inode? inode = some found)
    (same : value.node.isStream = found.node.isStream) :
    host.SameKinds (host.setInode inode value) := by
  refine ⟨rfl, ?_, rfl, rfl⟩
  rw [Host.setInode, List.map_set, same]
  exact set_same (by rw [List.getElem?_map, show host.inodes[inode]? = some found from present,
    Option.map_some])

theorem setPosition (host : Host) (index position : Nat) :
    host.SameKinds (host.setPosition index position) := by
  refine ⟨?_, rfl, rfl, rfl⟩
  apply map_modify_of_same
  exact fun _ => rfl

theorem takeGrant (host : Host) : host.SameKinds host.takeGrant.2 := by
  simp only [Host.takeGrant]
  split
  · exact .refl host
  · exact ⟨rfl, rfl, rfl, rfl⟩

theorem resizedBy (host : Host) (grant : Grant) (inode : Nat) :
    host.SameKinds (host.resizedBy grant inode) := by
  simp only [Host.resizedBy]
  split
  next size found _ present =>
    split
    next content regular => exact setInode present (by simp only [regular]; rfl)
    next => exact .refl host
  next => exact .refl host

theorem granted (host : Host) (grant : Grant) (inode : Nat) :
    host.SameKinds (host.takeGrant.2.resizedBy grant inode) :=
  (takeGrant host).trans (resizedBy _ grant inode)

end SameKinds

theorem SameEnds.granted (ends : host.SameEnds later) (grant : Grant) (inode : Nat) :
    (host.takeGrant.2.resizedBy grant inode).SameEnds
      (later.takeGrant.2.resizedBy grant inode) :=
  (SameKinds.granted host grant inode).sameEnds.symm.trans
    (ends.trans (SameKinds.granted later grant inode).sameEnds)

theorem Node.take_isStream {node left : Node} {position count : Nat} {fed : Bool} {data : Bytes}
    (taken : node.take position count fed = .ok (data, left)) : left.isStream = node.isStream := by
  unfold Node.take at taken
  split at taken
  · cases taken; rfl
  · cases taken
  · split at taken
    · cases taken
    · cases taken; rfl
  · cases taken; rfl
  · cases taken; rfl

theorem Node.put_isStream {node left : Node} {position count : Nat} {heard : Bool} {data : Bytes}
    (put : node.put position data heard = .ok (count, left)) : left.isStream = node.isStream := by
  unfold Node.put at put
  split at put
  · cases put; rfl
  · cases put
  · split at put
    · cases put
    · simp only at put
      split at put
      · cases put
      · cases put; rfl
  · cases put
  · cases put; rfl

theorem sameKinds_read (host : Host) (raw : Int) (count : Nat) (offset : Option Nat) :
    host.SameKinds (host.read raw count offset).2 := by
  have noted := SameKinds.noted host (.read raw count offset)
  simp only [read]
  split
  next => exact noted
  next index file inode _ =>
    split
    next => exact noted
    split
    next => exact noted
    split
    next => exact noted
    split
    next => exact noted
    have granted := fun grant => noted.trans (.granted _ grant file.inode)
    split
    next => exact granted _
    next => exact granted _
    next found _ present =>
      split
      next => exact granted _
      next data node taken =>
        have same : { found with node }.node.isStream = found.node.isStream :=
          Node.take_isStream taken
        have moved := (granted _).trans (.setInode present same)
        dsimp only
        split
        next => exact moved.trans (.setPosition ..)
        next => exact moved

theorem sameKinds_write (host : Host) (raw : Int) (data : Bytes) (offset : Option Nat) :
    host.SameKinds (host.write raw data offset).2 := by
  have noted := SameKinds.noted host (.write raw data offset)
  simp only [write]
  split
  next => exact noted
  next index file inode _ =>
    split
    next => exact noted
    split
    next => exact noted
    split
    next => exact noted
    split
    next => exact noted
    have granted := fun grant => noted.trans (.granted _ grant file.inode)
    split
    next => exact granted _
    next => exact granted _
    next found _ present =>
      split
      next => exact granted _
      next count node put =>
        have same (modified : Stamp) :
            { found with node, modified }.node.isStream = found.node.isStream :=
          Node.put_isStream put
        have moved := fun modified => (granted _).trans (.setInode present (same modified))
        dsimp only
        split
        next => exact (moved _).trans (.setPosition ..)
        next => exact moved _

end Host

end AsyncFiles
