import AsyncFiles.Proofs.Regular.Exact

/-!
One transfer at the position of a regular file, whatever it meets: someone else may have resized the
file, the host may refuse, and it may let go less than was asked for. A read then gives bytes of the
file as it finds it, a write puts a first part of its bytes there, and either moves the position by
as many.
-/
namespace AsyncFiles.Host

open Error

def OpenFile.moved (file : OpenFile) (count : Nat) : OpenFile :=
  { file with position := file.position + count }

def OnFile (host : Host) (raw : Int) (file : OpenFile) (content : Content) : Prop :=
  ∃ index inode, host.resolve raw = .ok (index, file, inode) ∧ inode.node = .regular content

def Undisturbed (host : Host) : Prop := ∀ grant ∈ host.grants, grant.resized = none

/-- Transfers are interrupted or shortened and nothing else. -/
structure Obliging (host : Host) : Prop where
  undisturbed : host.Undisturbed
  unrefused : ∀ grant ∈ host.grants, grant.refusal = none ∨ grant.refusal = some .interrupted

/-- The content that someone else may have left before a transfer. -/
structure Leaves (host : Host) (content left : Content) : Prop where
  resized : left = content ∨ ∃ size, left = content.resize size
  undisturbed : host.Undisturbed → left = content

/-- The position moved by so many bytes, the file holds some content now, and nothing else changed
but what transfers use up. -/
structure Passes (host later : Host) (raw : Int) (file : OpenFile) (count : Nat)
    (left : Content) : Prop where
  onFile : later.OnFile raw (file.moved count) left
  inodes : ∀ other, other ≠ file.inode → later.inodes[other]? = host.inodes[other]?
  workingDirectory : later.workingDirectory = host.workingDirectory
  grants : ∀ grant ∈ later.grants, grant ∈ host.grants

/-- A transfer was refused. On an obliging host that happens where no offset is as large. -/
structure Refuses (host later : Host) (raw : Int) (file : OpenFile) (content left : Content)
    (count : Nat) (able : Bool) : Prop where
  leaves : host.Leaves content left
  passes : host.Passes later raw file 0 left
  cause : host.Obliging → able = true → maxOffset < file.position + count

/-- A read gave some bytes of the file as it found it, and none only at its end. -/
structure Gives (host later : Host) (raw : Int) (file : OpenFile) (content left : Content)
    (count : Nat) (data : Bytes) : Prop where
  leaves : host.Leaves content left
  passes : host.Passes later raw file data.length left
  bytes : data = left.read file.position data.length
  few : data.length ≤ count
  ends : data = [] → left.size ≤ file.position

structure Takes (host later : Host) (raw : Int) (file : OpenFile) (content left : Content)
    (data : Bytes) (count : Nat) : Prop where
  leaves : host.Leaves content left
  passes : host.Passes later raw file count (left.write file.position (data.take count))
  few : count ≤ data.length
  within : file.position + data.length ≤ maxOffset

def Grant.resize (grant : Grant) (content : Content) : Content :=
  match grant.resized with
  | none => content
  | some size => content.resize size

def Inode.holding (inode : Inode) (content : Content) : Inode :=
  { inode with node := .regular content }

/-- The host after a call that took a grant, with an inode as the call has left it. -/
def spent (host : Host) (call : Call) (grants : List Grant) (number : Nat) (next : Inode) : Host :=
  { host.note call with grants, inodes := host.inodes.set number next }

variable {host asked later : Host} {raw : Int} {index count : Nat} {file : OpenFile}
  {inode next : Inode} {content left : Content}

theorem moved_moved (file : OpenFile) (first second : Nat) :
    (file.moved first).moved second = file.moved (first + second) := by
  simp only [OpenFile.moved, Nat.add_assoc]

theorem takeGrant_mem (host : Host) : host.takeGrant.1 ∈ host.grants ∨ host.takeGrant.1 = {} := by
  simp only [takeGrant]
  split
  next => exact .inr rfl
  next grant rest dropped =>
    exact .inl ((List.dropWhile_sublist _).subset (dropped ▸ List.mem_cons_self))

theorem takeGrant_of_grants (same : later.grants = host.grants) :
    later.takeGrant = (host.takeGrant.1, { later with grants := host.takeGrant.2.grants }) := by
  simp only [takeGrant, same]
  split
  next =>
    rw [← same]
  next => rfl

theorem takeGrant_fewer (host : Host) : ∀ grant ∈ host.takeGrant.2.grants, grant ∈ host.grants := by
  simp only [takeGrant]
  split
  next => exact fun _ member => member
  next first rest dropped =>
    exact fun grant member =>
      (List.dropWhile_sublist _).subset (dropped ▸ List.mem_cons_of_mem _ member)

theorem takeGrant_refusal (host : Host) : host.takeGrant.1.refusal ≠ some .interrupted := by
  simp only [takeGrant]
  split
  next =>
    intro refused
    cases refused
  next grant rest dropped =>
    have head := List.head?_dropWhile_not
      (fun grant : Grant => decide (grant.refusal = some Errno.interrupted)) host.grants
    rw [dropped] at head
    simpa using head

theorem Undisturbed.takeGrant (undisturbed : host.Undisturbed) :
    host.takeGrant.1.resized = none := by
  rcases host.takeGrant_mem with member | fresh
  · exact undisturbed _ member
  · rw [fresh]

theorem Obliging.takeGrant (obliging : host.Obliging) : host.takeGrant.1.refusal = none := by
  rcases host.takeGrant_mem with member | fresh
  · exact (obliging.unrefused _ member).resolve_right host.takeGrant_refusal
  · rw [fresh]

theorem leaves_self (host : Host) (content : Content) : host.Leaves content content :=
  ⟨.inl rfl, fun _ => rfl⟩

theorem leaves_resize (host : Host) (content : Content) :
    host.Leaves content (host.takeGrant.1.resize content) where
  resized := by
    simp only [Grant.resize]
    split
    next => exact .inl rfl
    next size _ => exact .inr ⟨size, rfl⟩
  undisturbed undisturbed := by simp only [Grant.resize, undisturbed.takeGrant]

theorem Passes.undisturbed (passes : host.Passes later raw file count left)
    (undisturbed : host.Undisturbed) : later.Undisturbed :=
  fun grant member => undisturbed grant (passes.grants grant member)

theorem Passes.obliging (passes : host.Passes later raw file count left)
    (obliging : host.Obliging) : later.Obliging :=
  ⟨passes.undisturbed obliging.undisturbed,
    fun grant member => obliging.unrefused grant (passes.grants grant member)⟩

theorem holding_regular (inode : Inode) (content : Content) :
    (inode.holding content).node = .regular content := rfl

theorem resizedBy_regular {number : Nat} (present : host.inode? number = some inode)
    (regular : inode.node = .regular content) (grant : Grant) :
    host.resizedBy grant number =
      host.setInode number (inode.holding (grant.resize content)) := by
  cases resized : grant.resized with
  | none =>
    rw [resizedBy_of_none resized]
    simp only [Inode.holding, Grant.resize, resized, ← regular]
    exact (setInode_same present).symm
  | some size => simp only [resizedBy, resized, present, regular, Inode.holding, Grant.resize]

theorem resolve_advances (found : host.resolve raw = .ok (index, file, inode))
    (advances : host.Advances later index count)
    (put : later.inodes = host.inodes.set file.inode next) :
    later.resolve raw = .ok (index, file.moved count, next) := by
  obtain ⟨listed, opened, present⟩ := resolve_ok found
  have descriptor : later.descriptor? raw = some index := by
    rw [← listed, descriptor?, descriptor?, advances.descriptors]
  have moved : later.openFiles[index]? = some (file.moved count) := by
    rw [advances.openFiles, List.getElem?_modify, opened]
    simp [OpenFile.moved]
  have bound : file.inode < host.inodes.length := (List.getElem?_eq_some_iff.mp present).1
  have inode : later.inode? (file.moved count).inode = some next := by
    rw [inode?, put]
    simp [OpenFile.moved, bound]
  simp only [resolve, descriptor, moved, inode]

theorem passes_note (on : host.OnFile raw file content) (call : Call) :
    host.Passes (host.note call) raw file 0 content where
  onFile := on
  inodes _ _ := rfl
  workingDirectory := rfl
  grants _ member := member

theorem refuses_note (on : host.OnFile raw file content) (call : Call) {able : Bool}
    (cause : able = true → maxOffset < file.position + count) :
    host.Refuses (host.note call) raw file content content count able :=
  ⟨leaves_self host content, passes_note on call, fun _ => cause⟩

section

variable (found : host.resolve raw = .ok (index, file, inode))

include found

theorem inode_spent (call : Call) (grants : List Grant) (next : Inode) :
    (host.spent call grants file.inode next).inode? file.inode = some next := by
  have bound : file.inode < host.inodes.length :=
    (List.getElem?_eq_some_iff.mp (resolve_ok found).2.2).1
  simp [spent, inode?, bound]

theorem takeGrant_resized (regular : inode.node = .regular content) (call : Call) :
    ∃ asked, (host.note call).takeGrant = (host.takeGrant.1, asked) ∧
      asked.resizedBy host.takeGrant.1 file.inode =
        host.spent call host.takeGrant.2.grants file.inode
          (inode.holding (host.takeGrant.1.resize content)) := by
  have present : ({ host.note call with grants := host.takeGrant.2.grants } : Host).inode?
      file.inode = some inode := (resolve_ok found).2.2
  exact ⟨_, takeGrant_of_grants rfl, resizedBy_regular present regular _⟩

variable {grants : List Grant} (fewer : ∀ grant ∈ grants, grant ∈ host.grants)
  (regular : next.node = .regular left) (call : Call)

include fewer regular

theorem passes_refused :
    host.Passes (host.spent call grants file.inode next) raw file 0 left where
  onFile := ⟨index, next, resolve_advances found (advances_zero rfl rfl) rfl, regular⟩
  inodes _ apart := List.getElem?_set_ne (Ne.symm apart)
  workingDirectory := rfl
  grants := fewer

omit regular in
theorem refuses_spent {errno : Errno} {able : Bool} (content : Content)
    (refusal : host.takeGrant.1.refusal = some errno) :
    host.Refuses
      (host.spent call grants file.inode (inode.holding (host.takeGrant.1.resize content))) raw file
      content (host.takeGrant.1.resize content) count able where
  leaves := host.leaves_resize content
  passes := passes_refused found fewer (holding_regular inode _) call
  cause obliging := by
    rw [obliging.takeGrant] at refusal
    cases refusal

theorem passes_moved (count : Nat) :
    host.Passes
      ((host.spent call grants file.inode next).setPosition index (file.position + count)) raw file
      count left where
  onFile := by
    have openFiles : (host.spent call grants file.inode next).openFiles = host.openFiles := rfl
    have descriptors : (host.spent call grants file.inode next).descriptors = host.descriptors :=
      rfl
    have advances := advances_settle openFiles descriptors (resolve_ok found).2.1 none count
    exact ⟨index, next, resolve_advances found advances rfl, regular⟩
  inodes _ apart := List.getElem?_set_ne (Ne.symm apart)
  workingDirectory := rfl
  grants := fewer

end

theorem read_length_read (content : Content) (position count : Nat) :
    content.read position (content.read position count).length = content.read position count := by
  simp [Content.read]

theorem Grant.shorten_pos (grant : Grant) (wanted : 0 < count) : 0 < grant.shorten count := by
  simp only [shorten]
  split <;> omega

@[simp] theorem setInode_spent (host : Host) (call : Call) (grants : List Grant) (number : Nat)
    (first second : Inode) :
    (host.spent call grants number first).setInode number second =
      host.spent call grants number second := by
  simp [spent, setInode]

theorem Grant.clip_eq_take (grant : Grant) (data : Bytes) :
    grant.clip data = data.take (grant.clip data).length := by
  simp only [clip]
  split <;> simp

theorem Grant.length_clip (grant : Grant) (data : Bytes) :
    (grant.clip data).length ≤ data.length := by
  rw [clip_eq_take]
  exact List.length_take_le' ..

section

variable (found : host.resolve raw = .ok (index, file, inode))
  (regular : inode.node = .regular content)

include found regular

theorem read_steps (count : Nat) (offset : Option Nat) :
    host.read raw count offset =
      let call := Call.read raw count offset
      let left := host.takeGrant.1.resize content
      let asked := host.spent call host.takeGrant.2.grants file.inode (inode.holding left)
      let data := left.read (offset.getD file.position) (host.takeGrant.1.shorten count)
      if file.readable = false then (.error .badDescriptor, host.note call)
      else if count = 0 then (.ok [], host.note call)
      else if maxOffset < offset.getD file.position + count then (.error .invalid, host.note call)
      else match host.takeGrant.1.refusal with
        | some errno => (.error errno, asked)
        | none =>
          (.ok data, asked.settle index (offset.getD file.position) offset data.length) := by
  have noted : (host.note (.read raw count offset)).resolve raw = .ok (index, file, inode) := found
  obtain ⟨asked, granted, resized⟩ := takeGrant_resized found regular (.read raw count offset)
  have standing := inode_spent found (.read raw count offset) host.takeGrant.2.grants
  cases refusal : host.takeGrant.1.refusal <;>
    simp [read, noted, regular, Node.isStream, granted, resized, refusal, standing, Inode.holding,
      Node.take, Node.keepsPosition, settle]

theorem write_steps (data : Bytes) (offset : Option Nat) :
    host.write raw data offset =
      let call := Call.write raw data offset
      let left := host.takeGrant.1.resize content
      let asked := host.spent call host.takeGrant.2.grants file.inode
      let placed := host.takeGrant.1.clip data
      let written : Inode :=
        { inode with
          node := .regular (left.write (offset.getD file.position) placed)
          modified := host.present }
      if file.writable = false then (.error .badDescriptor, host.note call)
      else if data = [] then (.ok 0, host.note call)
      else if maxOffset < offset.getD file.position + data.length then
        (.error .invalid, host.note call)
      else match host.takeGrant.1.refusal with
        | some errno => (.error errno, asked (inode.holding left))
        | none =>
          (.ok placed.length,
            (asked written).settle index (offset.getD file.position) offset placed.length) := by
  have noted : (host.note (.write raw data offset)).resolve raw = .ok (index, file, inode) := found
  obtain ⟨asked, granted, resized⟩ := takeGrant_resized found regular (.write raw data offset)
  have standing := inode_spent found (.write raw data offset) host.takeGrant.2.grants
  have present : ∀ next, (host.spent (.write raw data offset) host.takeGrant.2.grants file.inode
      next).present = host.present := fun _ => rfl
  cases refusal : host.takeGrant.1.refusal <;> cases limited : host.takeGrant.1.limit <;>
    simp [write, noted, regular, Node.isStream, granted, resized, refusal, limited, standing,
      present, Inode.holding, Node.put, Node.keepsPosition, settle, Grant.clip]

end

theorem refuses_or_gives (on : host.OnFile raw file content) (wanted : 0 < count) :
    (∃ errno later left, host.read raw count none = (.error errno, later) ∧
      host.Refuses later raw file content left count file.readable) ∨
    ∃ data later left, host.read raw count none = (.ok data, later) ∧
      host.Gives later raw file content left count data := by
  have noted := on
  obtain ⟨index, inode, found, regular⟩ := on
  have fewer := host.takeGrant_fewer
  have steps := read_steps found regular count none
  simp only [Option.getD_none, if_neg (Nat.ne_of_gt wanted)] at steps
  -- Access and offset are looked at before the call takes a grant.
  split at steps
  next locked =>
    exact .inl ⟨_, _, content, steps,
      refuses_note noted _ fun able => absurd able (Bool.eq_false_iff.mp locked)⟩
  split at steps
  next far => exact .inl ⟨_, _, content, steps, refuses_note noted _ fun _ => far⟩
  split at steps
  next errno refusal =>
    exact .inl ⟨_, _, _, steps, refuses_spent found fewer _ content refusal⟩
  next =>
    have whole := read_length_read (host.takeGrant.1.resize content) file.position
      (host.takeGrant.1.shorten count)
    refine .inr ⟨_, _, _, steps, host.leaves_resize content,
      passes_moved found fewer rfl _ _, whole.symm, ?_, ?_⟩
    · rw [Content.length_read]
      exact Nat.le_trans (Nat.min_le_left ..) (Grant.shorten_le _ count)
    · intro nothing
      have counted := congrArg List.length nothing
      have lets := host.takeGrant.1.shorten_pos wanted
      rw [Content.length_read, List.length_nil] at counted
      omega

theorem refuses_or_takes (on : host.OnFile raw file content) {data : Bytes} (unsent : data ≠ []) :
    (∃ errno later left, host.write raw data none = (.error errno, later) ∧
      host.Refuses later raw file content left data.length file.writable) ∨
    ∃ count later left, host.write raw data none = (.ok count, later) ∧
      host.Takes later raw file content left data count := by
  have noted := on
  obtain ⟨index, inode, found, regular⟩ := on
  have fewer := host.takeGrant_fewer
  have steps := write_steps found regular data none
  simp only [Option.getD_none, if_neg unsent] at steps
  split at steps
  next locked =>
    exact .inl ⟨_, _, content, steps,
      refuses_note noted _ fun able => absurd able (Bool.eq_false_iff.mp locked)⟩
  split at steps
  next far => exact .inl ⟨_, _, content, steps, refuses_note noted _ fun _ => far⟩
  next near =>
  split at steps
  next errno refusal =>
    exact .inl ⟨_, _, _, steps, refuses_spent found fewer _ content refusal⟩
  next =>
    have clipped := host.takeGrant.1.clip_eq_take data
    rw [clipped, List.length_take_of_le (host.takeGrant.1.length_clip data)] at steps
    exact .inr ⟨_, _, _, steps, host.leaves_resize content, passes_moved found fewer rfl _ _,
      host.takeGrant.1.length_clip data, Nat.not_lt.mp near⟩

end AsyncFiles.Host
