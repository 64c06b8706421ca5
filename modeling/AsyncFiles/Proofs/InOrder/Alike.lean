import AsyncFiles.Proofs.InOrder.Ends

/-!
What a transfer depends on: the descriptor that it goes through, the files, and what the host
grants. On hosts that agree on these it has the same result and leaves the same files, whatever
other descriptors there are.
-/
namespace AsyncFiles

open Access Error Host Time

namespace Host

/-- The same files with the same contents, the same open files with the same positions. -/
structure Alike (host other : Host) : Prop where
  inodes : other.inodes = host.inodes
  openFiles : other.openFiles = host.openFiles
  grants : other.grants = host.grants
  now : other.now = host.now

variable {host other : Host} {raw : Int}

namespace Alike

theorem refl (host : Host) : host.Alike host := ⟨rfl, rfl, rfl, rfl⟩

theorem trans {later : Host} (first : host.Alike other) (second : other.Alike later) :
    host.Alike later :=
  ⟨second.inodes.trans first.inodes, second.openFiles.trans first.openFiles,
    second.grants.trans first.grants, second.now.trans first.now⟩

theorem note (alike : host.Alike other) (call otherCall : Call) :
    (host.note call).Alike (other.note otherCall) :=
  ⟨alike.inodes, alike.openFiles, alike.grants, alike.now⟩

theorem resolve (alike : host.Alike other)
    (descriptor : other.descriptor? raw = host.descriptor? raw) :
    other.resolve raw = host.resolve raw := by
  simp only [Host.resolve, inode?, descriptor, alike.inodes, alike.openFiles]

theorem inode? (alike : host.Alike other) (inode : Nat) : other.inode? inode = host.inode? inode :=
  congrArg (fun inodes : List Inode => inodes[inode]?) alike.inodes

theorem setInode (alike : host.Alike other) (inode : Nat) (value : Inode) :
    (host.setInode inode value).Alike (other.setInode inode value) :=
  ⟨congrArg (fun inodes : List Inode => inodes.set inode value) alike.inodes, alike.openFiles,
    alike.grants, alike.now⟩

theorem setPosition (alike : host.Alike other) (index position : Nat) :
    (host.setPosition index position).Alike (other.setPosition index position) :=
  ⟨alike.inodes,
    congrArg (fun files : List OpenFile => files.modify index fun file => { file with position })
      alike.openFiles,
    alike.grants, alike.now⟩

theorem takeGrant (alike : host.Alike other) :
    other.takeGrant.1 = host.takeGrant.1 ∧ host.takeGrant.2.Alike other.takeGrant.2 := by
  simp only [Host.takeGrant, alike.grants]
  split
  · exact ⟨rfl, alike⟩
  · exact ⟨rfl, alike.inodes, alike.openFiles, rfl, alike.now⟩

theorem resizedBy (alike : host.Alike other) (grant : Grant) (inode : Nat) :
    (host.resizedBy grant inode).Alike (other.resizedBy grant inode) := by
  simp only [Host.resizedBy, alike.inode?]
  split
  · split
    · exact alike.setInode ..
    · exact alike
  · exact alike

end Alike

/-- Only of a pipe it matters whether someone could still write to it. -/
theorem Node.take_congr {node : Node} {fed other : Bool}
    (same : node.isStream = true → other = fed) (position count : Nat) :
    node.take position count other = node.take position count fed := by
  cases node with
  | pipe held => rw [same rfl]
  | device device => cases device <;> rfl
  | _ => rfl

theorem Node.put_congr {node : Node} {heard other : Bool}
    (same : node.isStream = true → other = heard) (position : Nat) (data : Bytes) :
    node.put position data other = node.put position data heard := by
  cases node with
  | pipe held => rw [same rfl]
  | device device => cases device <;> rfl
  | _ => rfl

theorem Alike.read (alike : host.Alike other)
    (descriptor : other.descriptor? raw = host.descriptor? raw)
    (ends : host.SameEnds other) (count : Nat) (offset : Option Nat) :
    (other.read raw count offset).1 = (host.read raw count offset).1 ∧
      (host.read raw count offset).2.Alike (other.read raw count offset).2 := by
  have noted := alike.note (.read raw count offset) (.read raw count offset)
  have resolved : (other.note (.read raw count offset)).resolve raw =
    (host.note (.read raw count offset)).resolve raw := alike.resolve descriptor
  simp only [Host.read, resolved]
  split
  next => exact ⟨rfl, noted⟩
  next index file inode found =>
    split
    next => exact ⟨rfl, noted⟩
    split
    next => exact ⟨rfl, noted⟩
    split
    next => exact ⟨rfl, noted⟩
    split
    next => exact ⟨rfl, noted⟩
    obtain ⟨sameGrant, taken⟩ := noted.takeGrant
    have granted := taken.resizedBy (host.note (.read raw count offset)).takeGrant.1 file.inode
    simp only [sameGrant, granted.inode?]
    split
    next => exact ⟨rfl, granted⟩
    next => exact ⟨rfl, granted⟩
    next later _ present =>
      have fed (stream : later.node.isStream = true) :=
        ((ends.note (.read raw count offset)).granted
          (host.note (.read raw count offset)).takeGrant.1 file.inode).hasWriter
            ((piped_iff present).mpr stream)
      rw [Node.take_congr fed]
      split
      next => exact ⟨rfl, granted⟩
      next data node _ =>
        have moved := granted.setInode file.inode { later with node }
        dsimp only
        split
        next => exact ⟨rfl, moved.setPosition ..⟩
        next => exact ⟨rfl, moved⟩

theorem Alike.write (alike : host.Alike other)
    (descriptor : other.descriptor? raw = host.descriptor? raw)
    (ends : host.SameEnds other) (data : Bytes) (offset : Option Nat) :
    (other.write raw data offset).1 = (host.write raw data offset).1 ∧
      (host.write raw data offset).2.Alike (other.write raw data offset).2 := by
  have noted := alike.note (.write raw data offset) (.write raw data offset)
  have resolved : (other.note (.write raw data offset)).resolve raw =
    (host.note (.write raw data offset)).resolve raw := alike.resolve descriptor
  simp only [Host.write, resolved]
  split
  next => exact ⟨rfl, noted⟩
  next index file inode found =>
    split
    next => exact ⟨rfl, noted⟩
    split
    next => exact ⟨rfl, noted⟩
    split
    next => exact ⟨rfl, noted⟩
    split
    next => exact ⟨rfl, noted⟩
    obtain ⟨sameGrant, taken⟩ := noted.takeGrant
    have granted := taken.resizedBy (host.note (.write raw data offset)).takeGrant.1 file.inode
    simp only [sameGrant, granted.inode?]
    split
    next => exact ⟨rfl, granted⟩
    next => exact ⟨rfl, granted⟩
    next later _ present =>
      have heard (stream : later.node.isStream = true) :=
        ((ends.note (.write raw data offset)).granted
          (host.note (.write raw data offset)).takeGrant.1 file.inode).hasReader
            ((piped_iff present).mpr stream)
      rw [Node.put_congr heard]
      split
      next => exact ⟨rfl, granted⟩
      next count node _ =>
        have moved := fun modified => granted.setInode file.inode { later with node, modified }
        have present : Host.present _ = Host.present _ := congrArg FileTime.toStamp granted.now
        dsimp only
        rw [present]
        split
        next => exact ⟨rfl, (moved _).setPosition ..⟩
        next => exact ⟨rfl, moved _⟩

end Host

end AsyncFiles
