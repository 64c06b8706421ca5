import AsyncFiles.Handle.WholeFile
import AsyncFiles.Proofs.Passing.Runs

namespace AsyncFiles

open Error Host

theorem Error.FileError.isEndOfFile_ofErrno (errno : Errno) :
    (FileError.ofErrno errno).isEndOfFile = false := by
  have category : Category.ofErrno errno ≠ .unexpectedEnd := by
    unfold Category.ofErrno
    repeat' apply iteInduction (motive := (· ≠ Category.unexpectedEnd)) <;> intro _
    all_goals exact nofun
  have other : ErrorKind.ofCategory (Category.ofErrno errno) ≠ .endOfFile := by
    cases named : Category.ofErrno errno <;> simp_all [ErrorKind.ofCategory]
  have sharper : ErrorKind.ofErrno? errno ≠ some .endOfFile := by
    unfold ErrorKind.ofErrno?
    repeat' apply iteInduction (motive := (· ≠ some ErrorKind.endOfFile)) <;> intro _
    all_goals exact nofun
  have kind : (FileError.ofErrno errno).kind ≠ .endOfFile := by
    change (ErrorKind.ofErrno? errno).getD (ErrorKind.ofCategory (Category.ofErrno errno)) ≠ _
    cases known : ErrorKind.ofErrno? errno with
    | none => exact other
    | some kind => exact fun same => sharper (known.trans (congrArg some same))
  exact decide_eq_false kind

/-- What a run comes to for its caller, who says what it means that a transfer moved nothing. -/
def Host.Halt.outcome (nothing : Except FileError Unit) : Halt → Except FileError Unit
  | .complete => .ok ()
  | .nothing => nothing
  | .refused errno => .error (.ofErrno errno)

theorem Host.OnFile.isOpen {host : Host} {handle : FileHandle} {file : OpenFile}
    {content : Content} (on : host.OnFile handle.raw file content) : handle.isOpen = true := by
  obtain ⟨index, inode, found, -⟩ := on
  exact FileHandle.isOpen_of_resolve found

namespace FileHandle

variable {host later : Host} {handle : FileHandle} {file : OpenFile} {content : Content}
  {buffer data : Bytes} {fuel : Nat}

theorem capacity_single (buffer : Bytes) : Buffers.capacity [buffer] = buffer.length := by
  simp [Buffers.capacity, Buffers.gather, Buffers.maxBuffers]

theorem gather_single (data : Bytes) : Buffers.gather [data] = data := by
  simp [Buffers.gather, Buffers.maxBuffers]

section

variable (opened : handle.isOpen = true)

include opened

theorem readSome_refused {errno : Errno}
    (called : host.read handle.raw buffer.length none = (.error errno, later)) :
    handle.readSome [buffer] none host = (.error (.ofErrno errno), [buffer], later) := by
  simp [readSome, opened, checkOffset, capacity_single, called]

theorem readSome_ended (wanted : 0 < buffer.length)
    (called : host.read handle.raw buffer.length none = (.ok [], later)) :
    handle.readSome [buffer] none host = (.error .endOfFile, [buffer], later) := by
  simp [readSome, opened, checkOffset, capacity_single, called, received, wanted]

theorem readSome_gave (given : data ≠ [])
    (called : host.read handle.raw buffer.length none = (.ok data, later)) :
    handle.readSome [buffer] none host =
      (.ok data.length, [data ++ buffer.drop data.length], later) := by
  have few := read_length called
  simp [readSome, opened, checkOffset, capacity_single, called, received, given, Buffers.scatter,
    List.take_of_length_le few]

theorem writeSome_called {result : Except Errno Nat}
    (called : host.write handle.raw data none = (result, later)) :
    handle.writeSome [data] none host = (lift result, later) := by
  simp [writeSome, opened, checkOffset, gather_single, called, lifted]

end

theorem reading_fill (on : host.OnFile handle.raw file content) (enough : buffer.length ≤ fuel) :
    ∃ data halt later,
      handle.fill fuel buffer host =
        (halt.outcome (.error .endOfFile), data ++ buffer.drop data.length, later) ∧
      Reading handle.raw file content buffer.length host data halt later := by
  induction fuel generalizing buffer host file content with
  | zero =>
    obtain rfl := List.length_eq_zero_iff.mp (Nat.le_zero.mp enough)
    exact ⟨[], .complete, host, rfl, .complete⟩
  | succ fuel ih =>
    by_cases empty : buffer = []
    · subst empty
      exact ⟨[], .complete, host, rfl, .complete⟩
    have wanted : 0 < buffer.length := List.length_pos_iff.mpr empty
    rcases refuses_or_gives on wanted with
      ⟨errno, later, left, called, refuses⟩ | ⟨data, middle, left, called, gives⟩
    · refine ⟨[], .refused errno, later, ?_, .refused wanted called refuses⟩
      simp [fill, empty, readSome_refused on.isOpen called, Halt.outcome]
    by_cases nothing : data = []
    · subst nothing
      refine ⟨[], .nothing, middle, ?_, .nothing wanted called gives⟩
      simp [fill, empty, readSome_ended on.isOpen wanted called, Halt.outcome]
    · have given : 0 < data.length := List.length_pos_iff.mpr nothing
      -- A read that gave something leaves less to be filled, for which the fuel lasts.
      have shorter : (buffer.drop data.length).length ≤ fuel := by
        rw [List.length_drop]
        omega
      obtain ⟨more, halt, later, filled, reading⟩ := ih gives.passes.onFile shorter
      rw [List.length_drop] at reading
      refine ⟨data ++ more, halt, later, ?_, .more nothing called gives reading⟩
      simp [fill, empty, readSome_gave on.isOpen nothing called, filled, List.drop_drop]

theorem reading_collect {size : Nat} (on : host.OnFile handle.raw file content)
    (enough : size ≤ fuel) :
    ∃ data halt later,
      handle.collect fuel size host =
        ((halt.outcome (.ok ())).map fun _ => data, later) ∧
      Reading handle.raw file content size host data halt later := by
  induction fuel generalizing size host file content with
  | zero =>
    obtain rfl := Nat.le_zero.mp enough
    exact ⟨[], .complete, host, rfl, .complete⟩
  | succ fuel ih =>
    rcases Nat.eq_zero_or_pos size with rfl | wanted
    · exact ⟨[], .complete, host, rfl, .complete⟩
    have blank : (List.replicate size (0 : UInt8)).length = size := List.length_replicate
    have positive : size ≠ 0 := Nat.ne_of_gt wanted
    rcases refuses_or_gives on wanted with
      ⟨errno, later, left, called, refuses⟩ | ⟨data, middle, left, called, gives⟩
    · refine ⟨[], .refused errno, later, ?_, .refused wanted called refuses⟩
      rw [← blank] at called
      simp [collect, positive, readSome_refused on.isOpen called, FileError.isEndOfFile_ofErrno,
        Halt.outcome, Except.map]
    by_cases nothing : data = []
    · subst nothing
      refine ⟨[], .nothing, middle, ?_, .nothing wanted called gives⟩
      rw [← blank] at called wanted
      simp [collect, positive, readSome_ended on.isOpen wanted called, Halt.outcome, Except.map,
        FileError.isEndOfFile, FileError.endOfFile, FileError.ofKind]
    · have given : 0 < data.length := List.length_pos_iff.mpr nothing
      have fewer : size - data.length ≤ fuel := by omega
      obtain ⟨more, halt, later, collected, reading⟩ := ih gives.passes.onFile fewer
      refine ⟨data ++ more, halt, later, ?_, .more nothing called gives reading⟩
      rw [← blank] at called
      cases halt <;>
        simp [collect, positive, readSome_gave on.isOpen nothing called, collected, Halt.outcome,
          Except.map]

theorem writing_drain (on : host.OnFile handle.raw file content) (enough : data.length ≤ fuel) :
    ∃ sent halt later,
      handle.drain fuel data host = (halt.outcome (.error (.ofKind .noSpace)), later) ∧
      Writing handle.raw file content data host sent halt later := by
  induction fuel generalizing data host file content with
  | zero =>
    obtain rfl := List.length_eq_zero_iff.mp (Nat.le_zero.mp enough)
    exact ⟨[], .complete, host, rfl, .complete⟩
  | succ fuel ih =>
    by_cases empty : data = []
    · subst empty
      exact ⟨[], .complete, host, rfl, .complete⟩
    have unsent : 0 < data.length := List.length_pos_iff.mpr empty
    rcases refuses_or_takes on empty with
      ⟨errno, later, left, called, refuses⟩ | ⟨count, middle, left, called, takes⟩
    · refine ⟨[], .refused errno, later, ?_, .refused empty called refuses⟩
      simp [drain, empty, writeSome_called on.isOpen called, lift, Except.mapError, Halt.outcome]
    rcases Nat.eq_zero_or_pos count with rfl | taken
    · refine ⟨[], .nothing, middle, ?_, .nothing empty called takes⟩
      simp [drain, empty, writeSome_called on.isOpen called, lift, Except.mapError, Halt.outcome]
    · have shorter : (data.drop count).length ≤ fuel := by
        rw [List.length_drop]
        omega
      obtain ⟨sent, halt, later, drained, writing⟩ := ih takes.passes.onFile shorter
      refine ⟨data.take count ++ sent, halt, later, ?_, .more taken called takes writing⟩
      obtain ⟨less, rfl⟩ := Nat.exists_eq_succ_of_ne_zero (Nat.ne_of_gt taken)
      simp [drain, empty, writeSome_called on.isOpen called, lift, Except.mapError, drained]

end FileHandle

end AsyncFiles
