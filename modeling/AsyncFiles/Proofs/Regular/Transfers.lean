import AsyncFiles.Proofs.InOrder.Ends
import AsyncFiles.Proofs.Pool.Balance
import AsyncFiles.Proofs.Regular.Buffers

namespace AsyncFiles.Host

open Error

structure SameFiles (host later : Host) : Prop where
  inodes : later.inodes = host.inodes
  openFiles : later.openFiles = host.openFiles
  descriptors : later.descriptors = host.descriptors

structure Advances (host later : Host) (index count : Nat) : Prop where
  openFiles : later.openFiles = host.openFiles.modify index fun file =>
    { file with position := file.position + count }
  descriptors : later.descriptors = host.descriptors

def stride (offset : Option Nat) (count : Nat) : Nat := if offset.isNone then count else 0

def settle (host : Host) (index position : Nat) (offset : Option Nat) (count : Nat) : Host :=
  if offset.isNone then host.setPosition index (position + count) else host

/-- As much of some data as a grant lets go. -/
def Grant.clip (grant : Grant) (data : Bytes) : Bytes :=
  match grant.limit with
  | none => data
  | some limit => data.take limit

variable {host asked later : Host} {raw : Int} {index : Nat} {file : OpenFile} {inode : Inode}
  {content : Content} {offset : Option Nat}

theorem takeGrant_note (host : Host) (call : Call) :
    ∃ asked, (host.note call).takeGrant = (host.takeGrant.1, asked) ∧ host.SameFiles asked := by
  simp only [takeGrant, note]
  split <;> exact ⟨_, rfl, rfl, rfl, rfl⟩

theorem resizedBy_of_none {grant : Grant} (unresized : grant.resized = none) (number : Nat) :
    host.resizedBy grant number = host := by
  simp only [resizedBy, unresized]

theorem takeGrant_found (found : host.resolve raw = .ok (index, file, inode))
    (unresized : host.takeGrant.1.resized = none) (call : Call) :
    ∃ asked, (host.note call).takeGrant = (host.takeGrant.1, asked) ∧ host.SameFiles asked ∧
      asked.inode? file.inode = some inode ∧
      asked.resizedBy host.takeGrant.1 file.inode = asked := by
  obtain ⟨asked, granted, same⟩ := host.takeGrant_note call
  obtain ⟨_, _, present⟩ := resolve_ok found
  have standing : asked.inode? file.inode = some inode := by
    rw [← present, inode?, inode?, same.inodes]
  exact ⟨asked, granted, same, standing, resizedBy_of_none unresized file.inode⟩

theorem setInode_same {number : Nat} (present : host.inode? number = some inode) :
    host.setInode number inode = host := by
  have same : host.inodes.set number inode = host.inodes := set_same present
  simp only [setInode, same]

@[simp] theorem inodes_settle (host : Host) (index position count : Nat) (offset : Option Nat) :
    (host.settle index position offset count).inodes = host.inodes := by
  simp only [settle]
  split <;> rfl

theorem resolve_setPosition (found : host.resolve raw = .ok (index, file, inode))
    (position : Nat) :
    (host.setPosition index position).resolve raw = .ok (index, { file with position }, inode) := by
  obtain ⟨listed, opened, present⟩ := resolve_ok found
  have same : (host.setPosition index position).descriptor? raw = some index := listed
  have moved : (host.setPosition index position).openFiles[index]? =
      some { file with position } := by simp [setPosition, opened]
  have standing : (host.setPosition index position).inode? file.inode = some inode := present
  simp only [resolve, same, moved, standing]

theorem advances_zero (openFiles : later.openFiles = host.openFiles)
    (descriptors : later.descriptors = host.descriptors) : host.Advances later index 0 where
  openFiles := by
    refine List.ext_getElem? fun other => ?_
    rw [List.getElem?_modify, openFiles]
    cases host.openFiles[other]? <;> simp
  descriptors := descriptors

theorem stride_zero (offset : Option Nat) : stride offset 0 = 0 := by
  cases offset <;> rfl

theorem advances_settle (openFiles : asked.openFiles = host.openFiles)
    (descriptors : asked.descriptors = host.descriptors)
    (opened : host.openFiles[index]? = some file) (offset : Option Nat) (count : Nat) :
    host.Advances (asked.settle index (offset.getD file.position) offset count) index
      (stride offset count) := by
  cases offset with
  | none =>
    refine ⟨List.ext_getElem? fun other => ?_, descriptors⟩
    simp only [settle, setPosition, stride, openFiles, List.getElem?_modify, Option.isNone_none,
      if_true, Option.getD_none]
    by_cases own : index = other
    · subst own
      simp [opened]
    · simp [own]
  | some offset => exact advances_zero openFiles descriptors

section

variable (found : host.resolve raw = .ok (index, file, inode))
  (regular : inode.node = .regular content)

include found regular

theorem read_regular (readable : file.readable = true) {count : Nat}
    (unresized : host.takeGrant.1.resized = none) (unrefused : host.takeGrant.1.refusal = none)
    (within : offset.getD file.position + count ≤ maxOffset) :
    ∃ data later, host.read raw count offset = (.ok data, later) ∧
      data = content.read (offset.getD file.position) (host.takeGrant.1.shorten count) ∧
      later.inodes = host.inodes ∧ host.Advances later index (stride offset data.length) := by
  obtain ⟨_, opened, present⟩ := resolve_ok found
  have resolved : (host.note (.read raw count offset)).resolve raw = .ok (index, file, inode) :=
    found
  rcases Nat.eq_zero_or_pos count with rfl | wanted
  -- Where nothing is wanted the call is over before it takes a grant.
  · have nothing : host.takeGrant.1.shorten 0 = 0 := Nat.le_zero.mp (Grant.shorten_le _ 0)
    refine ⟨[], host.note (.read raw 0 offset), ?_, ?_, rfl, ?_⟩
    · simp only [read, resolved, regular, Node.isStream, readable, Bool.false_and, Bool.not_true,
        Bool.false_eq_true, if_false, if_true]
    · simp [nothing, Content.read]
    · rw [List.length_nil, stride_zero]
      exact advances_zero rfl rfl
  · obtain ⟨asked, granted, same, standing, unmoved⟩ :=
      takeGrant_found found unresized (.read raw count offset)
    have kept : asked.setInode file.inode { inode with node := .regular content } = asked := by
      rw [← regular]
      exact setInode_same standing
    have room : ¬ maxOffset < offset.getD file.position + count := Nat.not_lt.mpr within
    refine ⟨content.read (offset.getD file.position) (host.takeGrant.1.shorten count),
      asked.settle index (offset.getD file.position) offset
        (content.read (offset.getD file.position) (host.takeGrant.1.shorten count)).length,
      ?_, rfl, ?_, ?_⟩
    · simp [read, resolved, regular, Node.isStream, readable, Nat.ne_of_gt wanted, room, granted,
        unmoved, unrefused, standing, Node.take, kept, Node.keepsPosition, settle]
    · exact (inodes_settle ..).trans same.inodes
    · exact advances_settle same.openFiles same.descriptors opened offset _

theorem write_regular (writable : file.writable = true) {data : Bytes}
    (unresized : host.takeGrant.1.resized = none) (unrefused : host.takeGrant.1.refusal = none)
    (within : offset.getD file.position + data.length ≤ maxOffset) :
    ∃ later, host.write raw data offset = (.ok (host.takeGrant.1.clip data).length, later) ∧
      (∃ modified, later.inodes = host.inodes.set file.inode
        { inode with
          node := .regular
            (content.write (offset.getD file.position) (host.takeGrant.1.clip data)), modified }) ∧
      (data = [] → later.inodes = host.inodes) ∧
      host.Advances later index (stride offset (host.takeGrant.1.clip data).length) := by
  obtain ⟨_, opened, present⟩ := resolve_ok found
  have resolved : (host.note (.write raw data offset)).resolve raw = .ok (index, file, inode) :=
    found
  by_cases empty : data = []
  · subst empty
    have nothing : host.takeGrant.1.clip [] = [] := by
      simp only [Grant.clip]
      split <;> simp
    refine ⟨host.note (.write raw [] offset), ?_, ⟨inode.modified, ?_⟩, fun _ => rfl, ?_⟩
    · simp only [write, resolved, regular, Node.isStream, writable, nothing, Bool.false_and,
        Bool.not_true, Bool.false_eq_true, if_false, if_true, List.isEmpty_nil, List.length_nil]
    · rw [nothing, show content.write (offset.getD file.position) [] = content from rfl, ← regular]
      exact (set_same present).symm
    · rw [nothing, List.length_nil, stride_zero]
      exact advances_zero rfl rfl
  · obtain ⟨asked, granted, same, standing, unmoved⟩ :=
      takeGrant_found found unresized (.write raw data offset)
    have room : ¬ maxOffset < offset.getD file.position + data.length := Nat.not_lt.mpr within
    refine ⟨(asked.setInode file.inode
      { inode with
        node := .regular
          (content.write (offset.getD file.position) (host.takeGrant.1.clip data))
        modified := asked.present }).settle index (offset.getD file.position) offset
      (host.takeGrant.1.clip data).length, ?_, ⟨asked.present, ?_⟩,
      fun nothing => absurd nothing empty, ?_⟩
    · cases limited : host.takeGrant.1.limit <;>
        simp [write, resolved, regular, Node.isStream, writable, empty, room, granted, unmoved,
          unrefused, standing, Node.put, Node.keepsPosition, Grant.clip, settle, limited]
    · rw [inodes_settle, setInode, same.inodes]
    · refine advances_settle ?_ ?_ opened offset _
      · exact same.openFiles
      · exact same.descriptors

end

end AsyncFiles.Host
