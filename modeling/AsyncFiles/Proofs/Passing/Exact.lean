import AsyncFiles.Proofs.Passing.Loops

namespace AsyncFiles

open Error Host

/-- Writing all of some data put a first part of it at the position, and all of it unless a write
took nothing or was refused. -/
structure Host.Written (host later : Host) (raw : Int) (file : OpenFile) (content : Content)
    (data sent : Bytes) (halt : Halt) : Prop where
  writing : Writing raw file content data host sent halt later
  isPrefix : sent <+: data
  complete_iff : halt = .complete ↔ sent = data
  calls : later.calls.length ≤ host.calls.length + data.length
  passes : ∃ left, host.Passes later raw file sent.length left
  undisturbed : host.Undisturbed →
    host.Passes later raw file sent.length (content.write file.position sent)
  unrefused : host.Obliging → file.writable = true → file.position + data.length ≤ maxOffset →
    ∀ errno, halt ≠ .refused errno

/-- On an obliging host reading gave all that was wanted, or all that was there. -/
structure Host.Exhausted (content : Content) (file : OpenFile) (count : Nat) (data : Bytes)
    (halt : Halt) : Prop where
  bytes : data = content.read file.position count
  halts : halt = if count ≤ content.size - file.position then .complete else .nothing
  position : (file.moved data.length).position =
    if count ≤ content.size - file.position then file.position + count
    else max file.position content.size

/-- Reading until a count is reached gave what the reads found, in order. -/
structure Host.Collected (host later : Host) (raw : Int) (file : OpenFile) (content : Content)
    (count : Nat) (data : Bytes) (halt : Halt) : Prop where
  reading : Reading raw file content count host data halt later
  length_le : data.length ≤ count
  complete_iff : halt = .complete ↔ data.length = count
  calls : later.calls.length ≤ host.calls.length + count
  passes : ∃ left, host.Passes later raw file data.length left
  undisturbed : host.Undisturbed → host.Passes later raw file data.length content ∧
    data = content.read file.position data.length
  exhausted : host.Obliging → file.readable = true → file.position + count ≤ maxOffset →
    Exhausted content file count data halt

section

variable {host later : Host} {raw : Int} {file : OpenFile} {content : Content} {count : Nat}
  {data sent : Bytes} {halt : Halt}

theorem Host.Writing.written (writing : Writing raw file content data host sent halt later)
    (on : host.OnFile raw file content) : host.Written later raw file content data sent halt :=
  ⟨writing, writing.isPrefix.1, writing.isPrefix.2, writing.calls, writing.passes on,
    writing.undisturbed on, writing.unrefused⟩

theorem Host.Reading.exhausted (reading : Reading raw file content count host data halt later)
    (on : host.OnFile raw file content) (obliging : host.Obliging) (readable : file.readable = true)
    (within : file.position + count ≤ maxOffset) : Exhausted content file count data halt := by
  obtain ⟨-, piece, ends⟩ := reading.undisturbed on obliging.undisturbed
  obtain ⟨few, whole⟩ := reading.length_le
  have counted := content.length_read file.position data.length
  rw [← piece] at counted
  cases halt with
  | complete =>
    rw [whole.mp rfl] at piece counted
    refine ⟨piece, (if_pos (by omega)).symm, ?_⟩
    rw [if_pos (by omega), whole.mp rfl]
    rfl
  | nothing =>
    have short : data.length ≠ count := fun same => nomatch whole.mpr same
    have past := ends rfl
    -- The run ended at the end of the file, so asking for all of it would have given no more.
    have all : content.read file.position data.length = content.read file.position count := by
      rw [← Nat.add_sub_cancel' few, content.read_add]
      simp [Content.read, Nat.sub_eq_zero_of_le past]
    refine ⟨piece.trans all, (if_neg (by omega)).symm, ?_⟩
    rw [if_neg (by omega), OpenFile.moved]
    dsimp only
    omega
  | refused errno => exact absurd rfl (reading.unrefused obliging readable within errno)

theorem Host.Reading.collected (reading : Reading raw file content count host data halt later)
    (on : host.OnFile raw file content) : host.Collected later raw file content count data halt :=
  ⟨reading, reading.length_le.1, reading.length_le.2, reading.calls, reading.passes on,
    fun undisturbed =>
      ⟨(reading.undisturbed on undisturbed).1, (reading.undisturbed on undisturbed).2.1⟩,
    reading.exhausted on⟩

end

namespace FileHandle

variable {host : Host} {handle : FileHandle} {file : OpenFile} {content : Content}

theorem size_onFile (on : host.OnFile handle.raw file content) :
    handle.size host = (.ok content.size, host.note (.stat handle.raw)) := by
  have opened := on.isOpen
  obtain ⟨index, inode, found, regular⟩ := on
  simp [size, statWith, stat, opened, lifted, lift, Host.stat, found, regular, Except.map,
    Except.mapError, Node.size]

theorem writeAll_written (on : host.OnFile handle.raw file content) (data : Bytes) :
    ∃ sent halt later,
      handle.writeAll data host = (halt.outcome (.error (.ofKind .noSpace)), later) ∧
      host.Written later handle.raw file content data sent halt := by
  obtain ⟨sent, halt, later, drained, writing⟩ := writing_drain on (Nat.le_refl data.length)
  exact ⟨sent, halt, later, drained, writing.written on⟩

theorem readAll_collected (on : host.OnFile handle.raw file content) :
    ∃ data halt later,
      handle.readAll host = ((halt.outcome (.ok ())).map fun _ => data, later) ∧
      (host.note (.stat handle.raw)).Collected later handle.raw file content content.size data
        halt := by
  have noted : (host.note (.stat handle.raw)).OnFile handle.raw file content := on
  obtain ⟨data, halt, later, collected, reading⟩ :=
    reading_collect noted (Nat.le_refl content.size)
  refine ⟨data, halt, later, ?_, reading.collected noted⟩
  simp only [readAll, size_onFile on, collected]

/-- The three loops over transfers end, whatever the transfers come to. Data is written once, in
order and in one piece from the position, as far as it is written at all. A buffer is filled exactly
when enough bytes are left, and otherwise has at its front what there was. A file is read as far as
it was long when it was asked, and less far only where a read found the end. -/
theorem loops_exact (on : host.OnFile handle.raw file content) :
    (∀ data, ∃ sent halt later,
      handle.writeAll data host = (halt.outcome (.error (.ofKind .noSpace)), later) ∧
      host.Written later handle.raw file content data sent halt) ∧
    (∀ buffer, ∃ data halt later,
      handle.readExact buffer host =
        (halt.outcome (.error .endOfFile), data ++ buffer.drop data.length, later) ∧
      host.Collected later handle.raw file content buffer.length data halt) ∧
    ∃ data halt later,
      handle.size host = (.ok content.size, host.note (.stat handle.raw)) ∧
      handle.readAll host = ((halt.outcome (.ok ())).map fun _ => data, later) ∧
      (host.note (.stat handle.raw)).Collected later handle.raw file content content.size data
        halt := by
  refine ⟨writeAll_written on, fun buffer => ?_, ?_⟩
  · obtain ⟨data, halt, later, filled, reading⟩ := reading_fill on (Nat.le_refl buffer.length)
    exact ⟨data, halt, later, filled, reading.collected on⟩
  · obtain ⟨data, halt, later, read, collected⟩ := readAll_collected on
    exact ⟨data, halt, later, size_onFile on, read, collected⟩

/-- The open file of five bytes at its fourth, on a host that moves one byte, interrupts, and moves
one byte again. -/
def oneByOne : Host :=
  { fiveBytes with
    grants := [{ limit := some 1 }, { refusal := some .interrupted }, { limit := some 1 }] }

theorem loops_oneByOne :
    (∃ later, (⟨0⟩ : FileHandle).writeAll [8, 9] oneByOne = (.ok (), later) ∧
      later.OnFile 0 ⟨0, true, true, 5⟩
        ((Content.empty.write 0 [1, 2, 3, 4, 5]).write 3 [8, 9])) ∧
    (∃ later, (⟨0⟩ : FileHandle).readExact [7, 7, 7] oneByOne =
        (.error .endOfFile, [4, 5, 7], later) ∧
      ∃ left, later.OnFile 0 ⟨0, true, true, 5⟩ left) ∧
    ∃ later, (⟨0⟩ : FileHandle).readAll oneByOne = (.ok [4, 5], later) := by
  have on : oneByOne.OnFile 0 ⟨0, true, true, 3⟩ (Content.empty.write 0 [1, 2, 3, 4, 5]) :=
    ⟨0, _, rfl, rfl⟩
  have obliging : oneByOne.Obliging := by constructor <;> simp [Undisturbed, oneByOne]
  obtain ⟨writes, fills, data, halt, later, -, collects, collected⟩ :=
    @loops_exact oneByOne ⟨0⟩ _ _ on
  refine ⟨?_, ?_, later, ?_⟩
  · obtain ⟨sent, halt, later, wrote, written⟩ := writes [8, 9]
    have whole : halt = .complete := by
      cases halt with
      | complete => rfl
      | nothing => cases congrArg Prod.fst wrote
      | refused errno => cases congrArg Prod.fst wrote
    obtain rfl := written.complete_iff.mp whole
    rw [whole] at wrote
    exact ⟨later, wrote, (written.undisturbed obliging.undisturbed).onFile⟩
  · obtain ⟨data, halt, later, filled, found⟩ := fills [7, 7, 7]
    obtain ⟨bytes, halts, -⟩ := found.exhausted obliging rfl (by decide)
    obtain ⟨left, passes⟩ := found.passes
    subst bytes halts
    exact ⟨later, filled, left, passes.onFile⟩
  · have obliges := (passes_note on (.stat 0)).obliging obliging
    obtain ⟨bytes, halts, -⟩ := collected.exhausted obliges rfl (by decide)
    subst bytes halts
    exact collects

/-- A file of five bytes that was opened and moved to its eighth. -/
def beyond : Host := { fiveBytes with openFiles := [⟨0, true, true, 7⟩] }

/-- Where the position is past the end of the file, filling a buffer leaves it there. -/
theorem readExact_beyond :
    ((⟨0⟩ : FileHandle).readExact [9] beyond).1 = .error .endOfFile ∧
    ((⟨0⟩ : FileHandle).size ((⟨0⟩ : FileHandle).readExact [9] beyond).2.2).1 = .ok 5 ∧
    ((⟨0⟩ : FileHandle).position ((⟨0⟩ : FileHandle).readExact [9] beyond).2.2).1 = .ok 7 :=
  ⟨rfl, rfl, rfl⟩

end FileHandle

end AsyncFiles
