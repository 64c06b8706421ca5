import AsyncFiles.Proofs.Passing.Exact
import AsyncFiles.Proofs.WholeFiles.Opening
import AsyncFiles.Proofs.WholeFiles.Tidy

namespace AsyncFiles

open Access Error Host

namespace Host

def Holds (host : Host) (path : Path) (content : Content) : Prop :=
  ∃ number, host.lookup path = .ok number ∧ host.node? number = some (.regular content)

def AtMostFile (host : Host) (path : Path) : Prop :=
  ∀ number, host.lookup path = .ok number → ∃ content, host.node? number = some (.regular content)

theorem Content.size_placed (data : Bytes) : (empty.write 0 data).size = data.length := by
  rw [size_write]
  split
  next nothing => simp [nothing, empty]
  next => simp [empty]

theorem Content.read_placed (data : Bytes) (position : Nat) :
    (empty.write 0 data).read position data.length = data.drop position := by
  refine List.ext_getElem? fun i => ?_
  by_cases inside : i < data.length - position
  · have placed := byte_write_within empty 0 data (i := position + i) (by omega)
    rw [getElem?_read _ _ _ (by rw [size_placed]; omega), List.getElem?_drop, ← placed,
      Nat.zero_add]
  · rw [List.getElem?_eq_none (by rw [length_read, size_placed]; omega),
      List.getElem?_eq_none (by rw [List.length_drop]; omega)]

variable {host later : Host} {path : Path} {raw : Int} {file : OpenFile} {content left : Content}
  {count number : Nat}

theorem OnFile.node (on : host.OnFile raw file content) :
    host.node? file.inode = some (.regular content) := by
  obtain ⟨index, inode, found, regular⟩ := on
  simp [node?, (resolve_ok found).2.2, regular]

theorem Passes.holds (passes : host.Passes later raw file count left)
    (on : host.OnFile raw file content) (named : host.lookup path = .ok file.inode) :
    later.Holds path left :=
  ⟨file.inode, lookup_leads (leads_of_regular on.node passes.inodes passes.workingDirectory) named,
    passes.onFile.node⟩

theorem Holds.of_inodes (holds : host.Holds path content) (inodes : later.inodes = host.inodes)
    (workingDirectory : later.workingDirectory = host.workingDirectory) :
    later.Holds path content := by
  obtain ⟨number, named, regular⟩ := holds
  have leads := leads_of_regular regular (fun other _ => by rw [inodes]) workingDirectory
  exact ⟨number, lookup_leads leads named, by rw [← regular, node?, node?, inode?, inode?, inodes]⟩

theorem Obliging.of_grants (obliging : host.Obliging) (same : later.grants = host.grants) :
    later.Obliging := by
  obtain ⟨undisturbed, unrefused⟩ := obliging
  constructor <;> simpa only [Undisturbed, same]

end Host

theorem Owner.drop_keeps (owner : Owner) (host : Host) :
    (owner.drop host).inodes = host.inodes ∧
      (owner.drop host).workingDirectory = host.workingDirectory ∧
      (owner.drop host).grants = host.grants := by
  simp only [Owner.drop, Owner.close, FileHandle.close]
  split
  next =>
    simp only [FileHandle.lifted, Host.close]
    split
    next => exact ⟨rfl, rfl, rfl⟩
    next =>
      split
      all_goals exact ⟨rfl, rfl, rfl⟩
  next => exact ⟨rfl, rfl, rfl⟩

namespace FileHandle

variable {host : Host} {handle : FileHandle} {file : OpenFile} {content : Content} {path : Path}

theorem readAll_obliging (on : host.OnFile handle.raw file content) (obliging : host.Obliging)
    (readable : file.readable = true) (within : file.position + content.size ≤ maxOffset) :
    ∃ later, handle.readAll host = (.ok (content.read file.position content.size), later) := by
  obtain ⟨data, halt, later, read, collected⟩ := readAll_collected on
  obtain ⟨bytes, halts, -⟩ :=
    collected.exhausted ((passes_note on _).obliging obliging) readable within
  refine ⟨later, ?_⟩
  rw [read, halts, ← bytes]
  split <;> rfl

theorem seek_begin (on : host.OnFile handle.raw file content) {target : Nat}
    (within : target ≤ maxOffset) :
    ∃ later, handle.seek .begin target host = (.ok target, later) ∧
      later.OnFile handle.raw { file with position := target } content ∧
      later.grants = host.grants := by
  have shown := on.isOpen
  obtain ⟨index, inode, found, regular⟩ := on
  have noted : (host.note (.seek handle.raw .begin target)).resolve handle.raw =
      .ok (index, file, inode) := found
  have natural : ¬ (target : Int) < 0 := by omega
  refine ⟨(host.note (.seek handle.raw .begin target)).setPosition index target, ?_,
    ⟨index, inode, resolve_setPosition noted target, regular⟩, rfl⟩
  simp [seek, shown, Host.seek, noted, regular, natural, Nat.not_lt.mpr within, lifted, lift,
    Except.mapError]

end FileHandle

namespace WholeFile

variable {path : Path} {data : Bytes} {host later : Host} {content : Content}

theorem writeFile_holds (obliging : host.Obliging) (free : host.AtMostFile path)
    (wrote : writeFile path data host = (.ok (), later)) :
    later.Holds path (Content.empty.write 0 data) ∧ later.Obliging ∧ data.length ≤ maxOffset ∧
      path.hasNul = false := by
  obtain ⟨request, args, creates, shared, truncates⟩ : ∃ request, writeArgs = .valid request ∧
      request.create = true ∧ request.exclusive = false ∧ request.truncate = true :=
    ⟨_, rfl, rfl, rfl, rfl⟩
  simp only [writeFile, Owner.openPath, FileHandle.openPath, args] at wrote
  by_cases nul : path.hasNul = true
  · simp [nul] at wrote
  · simp only [nul, Bool.false_eq_true, if_false] at wrote
    cases asked : host.openPath path request with
    | mk result middle =>
      cases result with
      | error errno => simp [asked] at wrote
      | ok raw =>
        obtain ⟨number, opens⟩ := openPath_creates free creates shared truncates asked
        obtain ⟨sent, halt, last, filled, written⟩ :=
          @FileHandle.writeAll_written middle ⟨raw⟩ _ _ opens.onFile data
        simp only [asked, filled, Prod.mk.injEq] at wrote
        obtain ⟨succeeded, rfl⟩ := wrote
        have whole : halt = .complete := by
          cases halt with
          | complete => rfl
          | nothing => cases succeeded
          | refused errno => cases succeeded
        obtain rfl := written.complete_iff.mp whole
        subst whole
        have serving := obliging.of_grants opens.grants
        have passes := written.undisturbed serving.undisturbed
        obtain ⟨inodes, workingDirectory, grants⟩ := Owner.drop_keeps ⟨⟨raw⟩⟩ last
        have holds := passes.holds opens.onFile opens.named
        refine ⟨holds.of_inodes inodes workingDirectory, (passes.obliging serving).of_grants grants,
          ?_, Bool.eq_false_iff.mpr nul⟩
        have within := written.writing.within (Nat.zero_le _)
        rwa [Nat.zero_add] at within

theorem readArgs_reads : ∃ request, readArgs = .valid request ∧
    request.access.canRead = true ∧ request.truncate = false ∧
    (request.create && request.exclusive) = false :=
  ⟨_, rfl, rfl, rfl, rfl⟩

theorem openPath_holds (holds : host.Holds path content) (plain : path.hasNul = false)
    {request : OpenRequest} (kept : request.truncate = false)
    (shared : (request.create && request.exclusive) = false) :
    ∃ handle opened number, FileHandle.openPath path (.valid request) host = (.ok handle, opened) ∧
      host.OpensFile opened path request handle.raw number content := by
  obtain ⟨number, named, regular⟩ := holds
  obtain ⟨raw, opened, asked, opens⟩ := openPath_named named regular shared
  rw [if_neg (by simp [kept])] at opens
  refine ⟨⟨raw⟩, opened, number, ?_, opens⟩
  simp [FileHandle.openPath, plain, asked]

theorem readFile_holds (holds : host.Holds path content) (plain : path.hasNul = false)
    (obliging : host.Obliging) (within : content.size ≤ maxOffset) :
    (readFile path host).1 = .ok (content.read 0 content.size) := by
  obtain ⟨request, args, reads, kept, shared⟩ := readArgs_reads
  obtain ⟨handle, opened, number, asked, opens⟩ := openPath_holds holds plain kept shared
  obtain ⟨later, read⟩ := FileHandle.readAll_obliging opens.onFile
    (obliging.of_grants opens.grants) reads (by rwa [Nat.zero_add])
  simp [readFile, Owner.openPath, args, asked, read, attachPath, Except.mapError]

theorem fromUTF8_toUTF8 (text : String) : String.fromUTF8? text.toUTF8 = some text :=
  dif_pos text.isValidUTF8

theorem toUTF8_fromUTF8 {bytes : ByteArray} {text : String}
    (decoded : String.fromUTF8? bytes = some text) : text.toUTF8 = bytes := by
  simp only [String.fromUTF8?] at decoded
  split at decoded
  next =>
    cases decoded
    rfl
  next => cases decoded

/-- Some data stands under a path: it is read there as bytes, as text where it is text, and from any
position on from which the host has offsets for as many bytes. -/
structure Stands (host : Host) (path : Path) (data : Bytes) : Prop where
  bytes : (readFile path host).1 = .ok data
  text : ∀ text : String, text.toUTF8.data.toList = data → (readText path host).1 = .ok text
  garbled : (∀ text : String, text.toUTF8.data.toList ≠ data) →
    ∃ error, (readText path host).1 = .error error ∧ error.path = some path
  onwards : ∀ request : OpenRequest, request.access.canRead = true → request.truncate = false →
    (request.create && request.exclusive) = false →
    ∃ handle opened, FileHandle.openPath path (.valid request) host = (.ok handle, opened) ∧
      ∀ position, position + data.length ≤ maxOffset → ∃ sought last,
        handle.seek .begin position opened = (.ok position, sought) ∧
        handle.readAll sought = (.ok (data.drop position), last)

theorem stands_of_holds (holds : host.Holds path (Content.empty.write 0 data))
    (plain : path.hasNul = false) (obliging : host.Obliging) (within : data.length ≤ maxOffset) :
    Stands host path data := by
  have bytes : (readFile path host).1 = .ok data := by
    have read := readFile_holds holds plain obliging (by rwa [Content.size_placed])
    rwa [Content.size_placed, Content.read_placed, List.drop_zero] at read
  have reading : ∃ later, readFile path host = (.ok data, later) := ⟨_, Prod.ext bytes rfl⟩
  obtain ⟨later, read⟩ := reading
  refine ⟨bytes, fun text same => ?_, fun never => ?_, fun request reads kept shared => ?_⟩
  · have decoded : String.fromUTF8? ⟨data.toArray⟩ = some text := by
      rw [← same]
      exact fromUTF8_toUTF8 text
    simp only [readText, read, decoded]
  · simp only [readText, read]
    split
    next text decoded => exact absurd (by rw [toUTF8_fromUTF8 decoded]) (never text)
    next => exact ⟨_, rfl, rfl⟩
  · obtain ⟨handle, opened, number, asked, opens⟩ := openPath_holds holds plain kept shared
    refine ⟨handle, opened, asked, fun position inside => ?_⟩
    obtain ⟨sought, moved, on, grants⟩ :=
      FileHandle.seek_begin opens.onFile (Nat.le_trans (Nat.le_add_right ..) inside)
    obtain ⟨last, rest⟩ := FileHandle.readAll_obliging on
      (obliging.of_grants (grants.trans opens.grants)) reads (by rwa [Content.size_placed])
    refine ⟨sought, last, moved, ?_⟩
    rwa [Content.size_placed, Content.read_placed] at rest

/-- Whole files round-trip: what is written to a path, whatever regular file stood there or none,
is read there. No call on whole files leaves a descriptor open, and its errors carry the path. -/
theorem whole_files_round_trip (host : Host) (path : Path) (data : Bytes) :
    (∀ later, host.Obliging → host.AtMostFile path →
      writeFile path data host = (.ok (), later) → Stands later path data) ∧
    Tidy path host (readFile path host) ∧ Tidy path host (readText path host) ∧
    Tidy path host (writeFile path data host) := by
  refine ⟨fun later obliging free wrote => ?_, tidy_readFile path host, tidy_readText path host,
    tidy_writeFile path data host⟩
  obtain ⟨holds, serving, within, plain⟩ := writeFile_holds obliging free wrote
  exact stands_of_holds holds plain serving within

/-- A directory with one file of five bytes, on a host that moves one byte, interrupts, and then
moves everything. -/
def shelf : Host where
  inodes :=
    [⟨.directory 0 [([0x66], 1)], .ofWord 0x1ed, default, default⟩,
      ⟨.regular (Content.empty.write 0 [1, 2, 3, 4, 5]), .ofWord 0x1b6, default, default⟩]
  openFiles := []
  descriptors := []
  workingDirectory := 0
  umask := .ofWord 0x12
  now := default
  grants := [{ limit := some 1 }, { refusal := some .interrupted }]

/-- Two letters are written over the five bytes. They are read again, as bytes, as text and from the
second on; nothing is left open. -/
theorem round_trip_shelf :
    ∃ later, writeFile ⟨[0x66]⟩ [0x68, 0x69] shelf = (.ok (), later) ∧
      (readFile ⟨[0x66]⟩ later).1 = .ok [0x68, 0x69] ∧
      (readText ⟨[0x66]⟩ later).1 = .ok "hi" ∧
      (∃ handle opened sought last,
        FileHandle.openPath ⟨[0x66]⟩ readArgs later = (.ok handle, opened) ∧
        handle.seek .begin 1 opened = (.ok 1, sought) ∧
        handle.readAll sought = (.ok [0x69], last)) ∧
      ∀ raw, later.opened raw = false := by
  have obliging : shelf.Obliging := by constructor <;> simp [Undisturbed, shelf]
  have free : shelf.AtMostFile ⟨[0x66]⟩ := by
    intro number named
    cases named
    exact ⟨_, rfl⟩
  have wrote : writeFile ⟨[0x66]⟩ [0x68, 0x69] shelf =
      (.ok (), (writeFile ⟨[0x66]⟩ [0x68, 0x69] shelf).2) := Prod.ext rfl rfl
  obtain ⟨round, -, -, tidy⟩ := whole_files_round_trip shelf ⟨[0x66]⟩ [0x68, 0x69]
  have stands := round _ obliging free wrote
  obtain ⟨request, args, reads, kept, shared⟩ := readArgs_reads
  obtain ⟨handle, opened, asked, onwards⟩ := stands.onwards request reads kept shared
  obtain ⟨sought, last, moved, rest⟩ := onwards 1 (by decide)
  refine ⟨_, wrote, stands.bytes, stands.text "hi" rfl,
    ⟨handle, opened, sought, last, args ▸ asked, moved, rest⟩, fun raw => ?_⟩
  rw [tidy.opened]
  simp [Host.opened, descriptor?, shelf]

/-- The last position but one is sought, but the host has no offsets for two bytes from there on. -/
theorem readAll_far :
    ∃ later handle opened sought error last,
      writeFile ⟨[0x66]⟩ [0x68, 0x69] shelf = (.ok (), later) ∧
      FileHandle.openPath ⟨[0x66]⟩ readArgs later = (.ok handle, opened) ∧
      handle.seek .begin (maxOffset - 1 : Nat) opened = (.ok (maxOffset - 1), sought) ∧
      handle.readAll sought = (.error error, last) ∧ error.kind = .invalidArgument :=
  ⟨_, _, _, _, _, _, rfl, rfl, rfl, rfl, rfl⟩

end WholeFile

end AsyncFiles
