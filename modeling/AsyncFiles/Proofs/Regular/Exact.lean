import AsyncFiles.Proofs.Regular.Transfers

namespace AsyncFiles

open Error Host

namespace Host.Content

variable (content : Content) (position count : Nat) (data : Bytes)

@[simp] theorem length_read :
    (content.read position count).length = min count (content.size - position) := by
  simp only [read, List.length_map, List.length_range]

theorem getElem?_read {i : Nat} (given : i < min count (content.size - position)) :
    (content.read position count)[i]? = some (content.byte (position + i)) := by
  simp only [read, List.getElem?_map, List.getElem?_range given, Option.map_some]

theorem size_write :
    (content.write position data).size =
      if data = [] then content.size else max content.size (position + data.length) := by
  cases data <;> rfl

theorem byte_write_within {i : Nat} (placed : i < data.length) :
    some ((content.write position data).byte (position + i)) = data[i]? := by
  cases data with
  | nil => exact absurd placed (Nat.not_lt_zero i)
  | cons first rest =>
    have inside : i < rest.length + 1 := placed
    simp [write, inside]

theorem byte_write_outside {i : Nat} (outside : i < position ∨ position + data.length ≤ i) :
    (content.write position data).byte i = content.byte i := by
  cases data with
  | nil => rfl
  | cons first rest =>
    have beside : ¬(position ≤ i ∧ i < position + (first :: rest).length) := by omega
    exact if_neg beside

end Host.Content

/-- Some bytes of a file, from a position on, were laid over the buffers that one transfer uses. -/
structure Scattered (content : Content) (position count : Nat) (buffers filled : List Bytes) :
    Prop where
  lengths : filled.map List.length = buffers.map List.length
  bytes (i : Nat) : (Buffers.gather filled)[i]? =
    if i < count then some (content.byte (position + i)) else (Buffers.gather buffers)[i]?
  unused : filled.drop Buffers.maxBuffers = buffers.drop Buffers.maxBuffers

/-- The bytes of the buffers that one transfer uses were put into a file. -/
structure Gathered (content : Content) (position : Nat) (buffers : List Bytes)
    (written : Content) : Prop where
  size : written.size =
    if Buffers.capacity buffers = 0 then content.size
    else max content.size (position + Buffers.capacity buffers)
  bytes (i : Nat) : i < Buffers.capacity buffers →
    some (written.byte (position + i)) = (Buffers.gather buffers)[i]?
  others (i : Nat) : i < position ∨ position + Buffers.capacity buffers ≤ i →
    written.byte i = content.byte i
  gap (i : Nat) : content.size ≤ i → i < position → written.byte i = 0

theorem scattered_scatter (content : Content) (position : Nat) (buffers : List Bytes) :
    Scattered content position (min (Buffers.capacity buffers) (content.size - position)) buffers
      (Buffers.scatter buffers (content.read position (Buffers.capacity buffers))) := by
  have counted := content.length_read position (Buffers.capacity buffers)
  have fits : (content.read position (Buffers.capacity buffers)).length ≤
      Buffers.capacity buffers := counted ▸ Nat.min_le_left ..
  refine ⟨Buffers.scatter_lengths _ _, fun i => ?_, Buffers.drop_scatter_of_fits fits⟩
  rw [Buffers.gather_scatter fits, List.getElem?_append, counted]
  split
  next given => exact content.getElem?_read position _ given
  next beyond =>
    rw [List.getElem?_drop, Nat.add_sub_cancel' (Nat.not_lt.mp beyond)]

theorem gathered_write (content : Content) (position : Nat) (buffers : List Bytes) :
    Gathered content position buffers (content.write position (Buffers.gather buffers)) where
  size := by
    simp only [content.size_write, Buffers.capacity, List.length_eq_zero_iff]
  bytes _ placed := content.byte_write_within position _ placed
  others _ outside := content.byte_write_outside position _ outside
  gap i past before := by
    rw [content.byte_write_outside position _ (.inl before)]
    exact content.zero_beyond i past

namespace FileHandle

variable {host : Host} {handle : FileHandle} {buffers : List Bytes} {offset : Option Nat}
  {index : Nat} {file : OpenFile} {inode : Inode} {content : Content}

theorem isOpen_of_resolve (found : host.resolve handle.raw = .ok (index, file, inode)) :
    handle.isOpen = true := by
  obtain ⟨listed, -⟩ := resolve_ok found
  by_contra shut
  have closed : handle.raw = -1 := by simpa [isOpen] using shut
  rw [closed] at listed
  cases listed

theorem checkOffset_of_le {position : Nat} (within : offset.getD position ≤ maxOffset) :
    checkOffset offset = .ok () := by
  cases offset with
  | none => rfl
  | some offset => exact if_neg (Nat.not_lt.mpr within)

theorem received_read (content : Content) (position : Nat) (buffers : List Bytes) :
    received buffers (content.read position (Buffers.capacity buffers)) =
      (if Buffers.capacity buffers = 0 then .ok 0
        else if content.size ≤ position then .error .endOfFile
        else .ok (min (Buffers.capacity buffers) (content.size - position)),
        Buffers.scatter buffers (content.read position (Buffers.capacity buffers))) := by
  have counted := content.length_read position (Buffers.capacity buffers)
  by_cases nothing : content.read position (Buffers.capacity buffers) = []
  · rw [nothing, Buffers.scatter_nil]
    rw [nothing, List.length_nil] at counted
    by_cases full : Buffers.capacity buffers = 0
    · simp [received, full, Buffers.scatter_nil]
    · have past : content.size ≤ position := by omega
      simp [received, full, past, Nat.pos_of_ne_zero full]
  · have given : 0 < min (Buffers.capacity buffers) (content.size - position) :=
      counted ▸ List.length_pos_iff.mpr nothing
    have room : Buffers.capacity buffers ≠ 0 := by omega
    have before : ¬ content.size ≤ position := by omega
    simp [received, nothing, room, before]

section

variable (found : host.resolve handle.raw = .ok (index, file, inode))
  (regular : inode.node = .regular content)
  (within : offset.getD file.position + Buffers.capacity buffers ≤ maxOffset)

include found regular within

theorem readSome_regular (readable : file.readable = true)
    (unresized : host.takeGrant.1.resized = none) (unrefused : host.takeGrant.1.refusal = none) :
    ∃ data later,
      handle.readSome buffers offset host =
        ((received buffers data).1, (received buffers data).2, later) ∧
      data = content.read (offset.getD file.position)
        (host.takeGrant.1.shorten (Buffers.capacity buffers)) ∧
      later.inodes = host.inodes ∧ host.Advances later index (stride offset data.length) := by
  obtain ⟨data, later, gave, taken, kept, moved⟩ :=
    read_regular found regular readable unresized unrefused within
  have checked := checkOffset_of_le (Nat.le_trans (Nat.le_add_right _ _) within)
  refine ⟨data, later, ?_, taken, kept, moved⟩
  simp only [readSome, isOpen_of_resolve found, checked, gave, Bool.not_true, Bool.false_eq_true,
    if_false]

theorem writeSome_regular (writable : file.writable = true)
    (unresized : host.takeGrant.1.resized = none) (unrefused : host.takeGrant.1.refusal = none) :
    ∃ later,
      handle.writeSome buffers offset host =
        (.ok (host.takeGrant.1.clip (Buffers.gather buffers)).length, later) ∧
      (∃ modified, later.inodes = host.inodes.set file.inode
        { inode with
          node := .regular (content.write (offset.getD file.position)
            (host.takeGrant.1.clip (Buffers.gather buffers))), modified }) ∧
      (Buffers.gather buffers = [] → later.inodes = host.inodes) ∧
      host.Advances later index
        (stride offset (host.takeGrant.1.clip (Buffers.gather buffers)).length) := by
  obtain ⟨later, took, placed⟩ :=
    write_regular found regular writable unresized unrefused within
  have checked := checkOffset_of_le (Nat.le_trans (Nat.le_add_right _ _) within)
  refine ⟨later, ?_, placed⟩
  simp only [writeSome, isOpen_of_resolve found, checked, took, Bool.not_true,
    Bool.false_eq_true, if_false]
  rfl

end

/-- Reading scatters and writing gathers exactly, with or without an offset: the first 64 buffers
and no other, as many bytes as they have room for and the file has, and nothing else. -/
theorem scattered_and_gathered
    (found : host.resolve handle.raw = .ok (index, file, inode))
    (regular : inode.node = .regular content) (granted : host.takeGrant.1 = {})
    (within : offset.getD file.position + Buffers.capacity buffers ≤ maxOffset) :
    (file.readable = true → ∃ filled later,
      handle.readSome buffers offset host =
        (if Buffers.capacity buffers = 0 then .ok 0
          else if content.size ≤ offset.getD file.position then .error .endOfFile
          else .ok (min (Buffers.capacity buffers) (content.size - offset.getD file.position)),
          filled, later) ∧
      Scattered content (offset.getD file.position)
        (min (Buffers.capacity buffers) (content.size - offset.getD file.position))
        buffers filled ∧
      later.inodes = host.inodes ∧
      host.Advances later index (stride offset
        (min (Buffers.capacity buffers) (content.size - offset.getD file.position)))) ∧
    (file.writable = true → ∃ written modified later,
      handle.writeSome buffers offset host = (.ok (Buffers.capacity buffers), later) ∧
      Gathered content (offset.getD file.position) buffers written ∧
      later.inodes =
        host.inodes.set file.inode { inode with node := .regular written, modified } ∧
      (Buffers.capacity buffers = 0 → later.inodes = host.inodes) ∧
      host.Advances later index (stride offset (Buffers.capacity buffers))) := by
  have unresized : host.takeGrant.1.resized = none := by rw [granted]
  have unrefused : host.takeGrant.1.refusal = none := by rw [granted]
  have unshortened : host.takeGrant.1.shorten (Buffers.capacity buffers) =
      Buffers.capacity buffers := by rw [granted]; rfl
  have unclipped : host.takeGrant.1.clip (Buffers.gather buffers) = Buffers.gather buffers := by
    rw [granted]; rfl
  constructor
  · intro readable
    obtain ⟨data, later, gave, taken, kept, moved⟩ :=
      readSome_regular found regular within readable unresized unrefused
    rw [unshortened] at taken
    rw [taken, received_read] at gave
    rw [taken, content.length_read] at moved
    exact ⟨_, later, gave, scattered_scatter content _ buffers, kept, moved⟩
  · intro writable
    obtain ⟨later, took, ⟨modified, put⟩, unchanged, moved⟩ :=
      writeSome_regular found regular within writable unresized unrefused
    rw [unclipped] at took put moved
    exact ⟨_, modified, later, took, gathered_write content _ buffers, put,
      fun empty => unchanged (List.length_eq_zero_iff.mp empty), moved⟩

/-- An open file of five bytes, at its fourth. -/
def fiveBytes : Host where
  inodes := [⟨.regular (Content.empty.write 0 [1, 2, 3, 4, 5]), .ofWord 0x1b6, default, default⟩]
  openFiles := [⟨0, true, true, 3⟩]
  descriptors := [some 0]
  workingDirectory := 0
  umask := .ofWord 0x12
  now := default

/-- Its last two bytes read over buffers of which two are empty, and the bytes of 65 buffers
written behind its end. -/
theorem transfers_fiveBytes :
    (∃ filled later,
      (⟨0⟩ : FileHandle).readSome [[], [9], [], [9, 9]] none fiveBytes = (.ok 2, filled, later) ∧
      (Buffers.gather filled)[1]? = some 5 ∧ (Buffers.gather filled)[2]? = some 9 ∧
      later.openFiles = [⟨0, true, true, 5⟩]) ∧
    (∃ written later,
      (⟨0⟩ : FileHandle).writeSome (List.replicate 65 [8]) (some 7) fiveBytes = (.ok 64, later) ∧
      later.node? 0 = some (.regular written) ∧ written.size = 71 ∧
      written.byte 4 = 5 ∧ written.byte 6 = 0 ∧ written.byte 70 = 8 ∧
      later.openFiles = [⟨0, true, true, 3⟩]) := by
  constructor
  · obtain ⟨filled, later, gave, scattered, -, moved⟩ :=
      (@scattered_and_gathered fiveBytes ⟨0⟩ [[], [9], [], [9, 9]] none _ _ _ _ rfl rfl rfl
        (by decide)).1 rfl
    exact ⟨filled, later, gave, scattered.bytes 1, scattered.bytes 2, moved.openFiles⟩
  · obtain ⟨written, modified, later, took, gathered, put, -, moved⟩ :=
      (@scattered_and_gathered fiveBytes ⟨0⟩ (List.replicate 65 [8]) (some 7) _ _ _ _ rfl rfl rfl
        (by decide)).2 rfl
    refine ⟨written, later, took, ?_, gathered.size, gathered.others 4 (.inl (by decide)),
      gathered.gap 6 (by decide) (by decide), Option.some.inj (gathered.bytes 63 (by decide)),
      moved.openFiles⟩
    rw [node?, inode?, put]
    rfl

end FileHandle

end AsyncFiles
