import AsyncFiles.Proofs.Passing.Steps

namespace AsyncFiles.Host

open Error

namespace Content

theorem read_add (content : Content) (position first second : Nat) :
    content.read position (first + second) =
      content.read position first ++ content.read (position + first) second := by
  rcases Nat.le_total first (content.size - position) with within | beyond
  · have counted : min (first + second) (content.size - position) =
        first + min second (content.size - (position + first)) := by omega
    simp only [read, counted, Nat.min_eq_left within, List.range_add, List.map_append, List.map_map]
    simp [Function.comp_def, Nat.add_assoc]
  · have counted : min (first + second) (content.size - position) = content.size - position := by
      omega
    have nothing : content.size - (position + first) = 0 := by omega
    simp [read, counted, nothing, Nat.min_eq_right beyond]

theorem write_append (content : Content) (position : Nat) (first second : Bytes) :
    (content.write position first).write (position + first.length) second =
      content.write position (first ++ second) := by
  have sizes : ((content.write position first).write (position + first.length) second).size =
      (content.write position (first ++ second)).size := by
    simp only [size_write, List.append_eq_nil_iff, List.length_append]
    by_cases nothing : first = []
    · simp [nothing]
    · have positive : 0 < first.length := List.length_pos_iff.mpr nothing
      simp only [nothing, false_and, if_false]
      split
      next empty => simp [empty]
      next => omega
  refine Content.ext sizes (funext fun i => ?_)
  -- A byte stands before the data, in its first part, in its second, or behind it.
  by_cases before : i < position
  · rw [byte_write_outside _ _ _ (.inl (by omega)), byte_write_outside _ _ _ (.inl before),
      byte_write_outside _ _ _ (.inl before)]
  · obtain ⟨k, rfl⟩ := Nat.exists_eq_add_of_le (Nat.not_lt.mp before)
    by_cases early : k < first.length
    · rw [byte_write_outside _ _ second (.inl (by omega))]
      apply Option.some.inj
      rw [byte_write_within _ _ _ early, byte_write_within _ _ _ (by simp; omega),
        List.getElem?_append_left early]
    · obtain ⟨j, rfl⟩ := Nat.exists_eq_add_of_le (Nat.not_lt.mp early)
      by_cases late : j < second.length
      · apply Option.some.inj
        rw [byte_write_within _ _ (first ++ second) (by simp; omega), ← Nat.add_assoc,
          byte_write_within _ _ _ late, List.getElem?_append_right (Nat.le_add_right ..),
          Nat.add_sub_cancel_left]
      · rw [byte_write_outside _ _ second (.inr (by omega)),
          byte_write_outside _ _ first (.inr (by omega)),
          byte_write_outside _ _ (first ++ second) (.inr (by simp; omega))]

end Content

inductive Halt
  | complete
  | nothing
  | refused (errno : Errno)

/-- Reads until all that is wanted is there, or one finds the end, or one is refused. -/
inductive Reading (raw : Int) :
    OpenFile → Content → Nat → Host → Bytes → Halt → Host → Prop
  | complete {file : OpenFile} {content : Content} {host : Host} :
    Reading raw file content 0 host [] .complete host
  | nothing {file : OpenFile} {content left : Content} {count : Nat} {host later : Host}
    (wanted : 0 < count) (called : host.read raw count none = (.ok [], later))
    (gives : host.Gives later raw file content left count []) :
    Reading raw file content count host [] .nothing later
  | refused {file : OpenFile} {content left : Content} {count : Nat} {host later : Host}
    {errno : Errno} (wanted : 0 < count)
    (called : host.read raw count none = (.error errno, later))
    (refuses : host.Refuses later raw file content left count file.readable) :
    Reading raw file content count host [] (.refused errno) later
  | more {file : OpenFile} {content left : Content} {count : Nat} {host middle later : Host}
    {first rest : Bytes} {halt : Halt} (given : first ≠ [])
    (called : host.read raw count none = (.ok first, middle))
    (gives : host.Gives middle raw file content left count first)
    (next : Reading raw (file.moved first.length) left (count - first.length) middle rest halt
      later) :
    Reading raw file content count host (first ++ rest) halt later

/-- Writes until all data is written, or one takes nothing, or one is refused. -/
inductive Writing (raw : Int) :
    OpenFile → Content → Bytes → Host → Bytes → Halt → Host → Prop
  | complete {file : OpenFile} {content : Content} {host : Host} :
    Writing raw file content [] host [] .complete host
  | nothing {file : OpenFile} {content left : Content} {data : Bytes} {host later : Host}
    (unsent : data ≠ []) (called : host.write raw data none = (.ok 0, later))
    (takes : host.Takes later raw file content left data 0) :
    Writing raw file content data host [] .nothing later
  | refused {file : OpenFile} {content left : Content} {data : Bytes} {host later : Host}
    {errno : Errno} (unsent : data ≠ [])
    (called : host.write raw data none = (.error errno, later))
    (refuses : host.Refuses later raw file content left data.length file.writable) :
    Writing raw file content data host [] (.refused errno) later
  | more {file : OpenFile} {content left : Content} {data sent : Bytes} {count : Nat}
    {host middle later : Host} {halt : Halt} (taken : 0 < count)
    (called : host.write raw data none = (.ok count, middle))
    (takes : host.Takes middle raw file content left data count)
    (next : Writing raw (file.moved count) (left.write file.position (data.take count))
      (data.drop count) middle sent halt later) :
    Writing raw file content data host (data.take count ++ sent) halt later

variable {host later middle : Host} {raw : Int} {file : OpenFile} {content left : Content}
  {count : Nat} {data sent : Bytes} {halt : Halt}

theorem Passes.refl (on : host.OnFile raw file content) : host.Passes host raw file 0 content where
  onFile := on
  inodes _ _ := rfl
  workingDirectory := rfl
  grants _ member := member

theorem Passes.trans {final : Content} {further : Nat}
    (first : host.Passes middle raw file count left)
    (second : middle.Passes later raw (file.moved count) further final) :
    host.Passes later raw file (count + further) final where
  onFile := moved_moved file count further ▸ second.onFile
  inodes other apart := (second.inodes other apart).trans (first.inodes other apart)
  workingDirectory := second.workingDirectory.trans first.workingDirectory
  grants grant member := first.grants grant (second.grants grant member)

theorem calls_read {result : Except Errno Bytes}
    (called : host.read raw count none = (result, later)) :
    later.calls.length = host.calls.length + 1 := by
  have kept := (host.kept_read raw count none).calls
  rw [called] at kept
  exact congrArg List.length kept

theorem calls_write {result : Except Errno Nat}
    (called : host.write raw data none = (result, later)) :
    later.calls.length = host.calls.length + 1 := by
  have kept := (host.kept_write raw data none).calls
  rw [called] at kept
  exact congrArg List.length kept

namespace Reading

theorem calls (reading : Reading raw file content count host data halt later) :
    later.calls.length ≤ host.calls.length + count := by
  induction reading with
  | complete => exact Nat.le_refl _
  | nothing wanted called gives => rw [calls_read called]; omega
  | refused wanted called refuses => rw [calls_read called]; omega
  | more given called gives _ ih =>
    rw [calls_read called] at ih
    have positive := List.length_pos_iff.mpr given
    have few := gives.few
    omega

theorem length_le (reading : Reading raw file content count host data halt later) :
    data.length ≤ count ∧ (halt = .complete ↔ data.length = count) := by
  induction reading with
  | complete => simp
  | nothing wanted called gives => simp [Nat.ne_of_lt wanted]
  | refused wanted called refuses => simp [Nat.ne_of_lt wanted]
  | more given called gives _ ih =>
    have few := gives.few
    rw [ih.2, List.length_append]
    omega

theorem passes (reading : Reading raw file content count host data halt later)
    (on : host.OnFile raw file content) : ∃ left, host.Passes later raw file data.length left := by
  induction reading with
  | complete => exact ⟨_, .refl on⟩
  | nothing wanted called gives => exact ⟨_, gives.passes⟩
  | refused wanted called refuses => exact ⟨_, refuses.passes⟩
  | more given called gives _ ih =>
    obtain ⟨left, passes⟩ := ih gives.passes.onFile
    rw [List.length_append]
    exact ⟨left, gives.passes.trans passes⟩

theorem undisturbed (reading : Reading raw file content count host data halt later)
    (on : host.OnFile raw file content) (undisturbed : host.Undisturbed) :
    host.Passes later raw file data.length content ∧
      data = content.read file.position data.length ∧
      (halt = .nothing → content.size ≤ file.position + data.length) := by
  induction reading with
  | complete => exact ⟨.refl on, rfl, nofun⟩
  | nothing wanted called gives =>
    have same := gives.leaves.undisturbed undisturbed
    exact ⟨same ▸ gives.passes, rfl, fun _ => same ▸ gives.ends rfl⟩
  | refused wanted called refuses =>
    have same := refuses.leaves.undisturbed undisturbed
    exact ⟨same ▸ refuses.passes, rfl, nofun⟩
  | @more file content left count host middle later first rest halt given called gives _ ih =>
    have same := gives.leaves.undisturbed undisturbed
    obtain ⟨passes, onwards, ends⟩ := ih gives.passes.onFile (gives.passes.undisturbed undisturbed)
    rw [same] at passes onwards ends
    have here := gives.bytes
    rw [same] at here
    rw [List.length_append]
    refine ⟨(same ▸ gives.passes).trans passes, ?_, fun nothing => ?_⟩
    · rw [content.read_add, ← here]
      exact congrArg (first ++ ·) onwards
    · rw [← Nat.add_assoc]
      exact ends nothing

theorem unrefused (reading : Reading raw file content count host data halt later)
    (obliging : host.Obliging) (readable : file.readable = true)
    (within : file.position + count ≤ maxOffset) (errno : Errno) : halt ≠ .refused errno := by
  induction reading with
  | complete => exact nofun
  | nothing wanted called gives => exact nofun
  | refused wanted called refuses =>
    exact absurd (refuses.cause obliging readable) (Nat.not_lt.mpr within)
  | more given called gives _ ih =>
    have few := gives.few
    refine ih (gives.passes.obliging obliging) readable ?_
    simp only [OpenFile.moved]
    omega

end Reading

namespace Writing

theorem calls (writing : Writing raw file content data host sent halt later) :
    later.calls.length ≤ host.calls.length + data.length := by
  induction writing with
  | complete => exact Nat.le_refl _
  | nothing unsent called takes =>
    have positive := List.length_pos_iff.mpr unsent
    rw [calls_write called]
    omega
  | refused unsent called refuses =>
    have positive := List.length_pos_iff.mpr unsent
    rw [calls_write called]
    omega
  | more taken called takes _ ih =>
    rw [calls_write called, List.length_drop] at ih
    have few := takes.few
    omega

theorem isPrefix (writing : Writing raw file content data host sent halt later) :
    sent <+: data ∧ (halt = .complete ↔ sent = data) := by
  induction writing with
  | complete => simp
  | nothing unsent called takes => simp [Ne.symm unsent]
  | refused unsent called refuses => simp [Ne.symm unsent]
  | @more file content left data sent count host middle later halt taken called takes _ ih =>
    have split := List.take_append_drop count data
    refine ⟨?_, ih.2.trans ⟨fun whole => by rw [whole, split], fun whole => ?_⟩⟩
    · conv_rhs => rw [← split]
      exact (List.prefix_append_right_inj _).mpr ih.1
    · exact List.append_cancel_left (whole.trans split.symm)

theorem passes (writing : Writing raw file content data host sent halt later)
    (on : host.OnFile raw file content) : ∃ left, host.Passes later raw file sent.length left := by
  induction writing with
  | complete => exact ⟨_, .refl on⟩
  | nothing unsent called takes => exact ⟨_, takes.passes⟩
  | refused unsent called refuses => exact ⟨_, refuses.passes⟩
  | more taken called takes _ ih =>
    obtain ⟨left, passes⟩ := ih takes.passes.onFile
    rw [List.length_append, List.length_take_of_le takes.few]
    exact ⟨left, takes.passes.trans passes⟩

theorem undisturbed (writing : Writing raw file content data host sent halt later)
    (on : host.OnFile raw file content) (undisturbed : host.Undisturbed) :
    host.Passes later raw file sent.length (content.write file.position sent) := by
  induction writing with
  | complete => exact .refl on
  | nothing unsent called takes =>
    have same := takes.leaves.undisturbed undisturbed
    exact same ▸ takes.passes
  | refused unsent called refuses =>
    have same := refuses.leaves.undisturbed undisturbed
    exact same ▸ refuses.passes
  | @more file content left data sent count host middle later halt taken called takes _ ih =>
    have same := takes.leaves.undisturbed undisturbed
    have passes := ih takes.passes.onFile (takes.passes.undisturbed undisturbed)
    have counted := List.length_take_of_le takes.few
    rw [same] at passes
    rw [← content.write_append, List.length_append, counted]
    exact (same ▸ takes.passes).trans passes

theorem within (writing : Writing raw file content data host sent .complete later)
    (start : file.position ≤ maxOffset) : file.position + data.length ≤ maxOffset := by
  cases writing with
  | complete => exact start
  | more taken called takes next => exact takes.within

theorem unrefused (writing : Writing raw file content data host sent halt later)
    (obliging : host.Obliging) (writable : file.writable = true)
    (within : file.position + data.length ≤ maxOffset) (errno : Errno) : halt ≠ .refused errno := by
  induction writing with
  | complete => exact nofun
  | nothing unsent called takes => exact nofun
  | refused unsent called refuses =>
    exact absurd (refuses.cause obliging writable) (Nat.not_lt.mpr within)
  | more taken called takes _ ih =>
    have few := takes.few
    refine ih (takes.passes.obliging obliging) writable ?_
    simp only [OpenFile.moved, List.length_drop]
    omega

end Writing

end AsyncFiles.Host
