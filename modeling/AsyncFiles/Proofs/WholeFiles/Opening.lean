import AsyncFiles.Proofs.Passing.Steps
import AsyncFiles.Proofs.WholeFiles.Lookup

namespace AsyncFiles.Host

open Access Error

/-- A path was opened: the descriptor stands at the beginning of the regular file that the path
names now. -/
structure OpensFile (host later : Host) (path : Path) (request : OpenRequest) (raw : Int)
    (number : Nat) (content : Content) : Prop where
  onFile : later.OnFile raw
    { inode := number, readable := request.access.canRead, writable := request.access.canWrite }
    content
  named : later.lookup path = .ok number
  grants : later.grants = host.grants

variable {host later : Host} {path : Path} {request : OpenRequest} {raw : Int} {number : Nat}
  {file : OpenFile} {content left : Content}

theorem leads_of_regular (regular : host.node? number = some (.regular content))
    (others : ∀ other, other ≠ number → later.inodes[other]? = host.inodes[other]?)
    (workingDirectory : later.workingDirectory = host.workingDirectory) : host.Leads later where
  directory other parent entries present := by
    have apart : other ≠ number := by
      rintro rfl
      rw [present] at regular
      cases regular
    refine ⟨[], ?_⟩
    rw [List.append_nil, ← present]
    simp only [node?, inode?, others other apart]
  workingDirectory := workingDirectory

theorem descriptor_addDescriptor (host : Host) (index : Nat) :
    (host.addDescriptor index).2.descriptor? (host.addDescriptor index).1 = some index := by
  simp only [addDescriptor, descriptor?, Int.toNat_natCast]
  by_cases within : lowestFree host.descriptors < host.descriptors.length
  · simp [within]
  · have last : lowestFree host.descriptors = host.descriptors.length :=
      Nat.le_antisymm List.findIdx_le_length (Nat.le_of_not_lt within)
    simp [last]

theorem onFile_addOpenFile (file : OpenFile)
    (regular : host.node? file.inode = some (.regular content)) :
    (host.addOpenFile file).2.OnFile (host.addOpenFile file).1 file content := by
  obtain ⟨inode, present, kind⟩ := Option.map_eq_some_iff.mp regular
  refine ⟨host.openFiles.length, inode, ?_, kind⟩
  have descriptor := descriptor_addDescriptor
    { host with openFiles := host.openFiles ++ [file] } host.openFiles.length
  have opened : (host.addOpenFile file).2.openFiles[host.openFiles.length]? = some file := by
    simp [addOpenFile, addDescriptor]
  have standing : (host.addOpenFile file).2.inode? file.inode = some inode := present
  simp only [resolve, addOpenFile] at opened standing ⊢
  simp only [descriptor, opened, standing]

theorem truncate_eq (regular : host.node? number = some (.regular content)) :
    ∃ inode, host.inode? number = some inode ∧ host.truncate number = host.setInode number
      { inode with node := .regular .empty, modified := host.present } := by
  obtain ⟨inode, present, kind⟩ := Option.map_eq_some_iff.mp regular
  exact ⟨inode, present, by simp only [truncate, present, kind]⟩

theorem truncate_regular (regular : host.node? number = some (.regular content)) :
    host.Leads (host.truncate number) ∧
      (host.truncate number).node? number = some (.regular .empty) ∧
      (host.truncate number).grants = host.grants := by
  obtain ⟨inode, present, emptied⟩ := truncate_eq regular
  have bound : number < host.inodes.length := (List.getElem?_eq_some_iff.mp present).1
  rw [emptied]
  refine ⟨leads_of_regular regular (fun other apart => ?_) rfl, ?_, rfl⟩
  · exact List.getElem?_set_ne (Ne.symm apart)
  · simp [node?, inode?, setInode, bound]

theorem addOpenFile_keeps (host : Host) (file : OpenFile) :
    host.Leads (host.addOpenFile file).2 ∧ (host.addOpenFile file).2.grants = host.grants :=
  ⟨⟨(Leads.refl host).directory, rfl⟩, rfl⟩

theorem openInode_regular (regular : host.node? number = some (.regular content))
    (request : OpenRequest) (named : host.lookup path = .ok number) :
    host.OpensFile (host.openInode request number).2 path request (host.openInode request number).1
      number (if request.truncate then .empty else content) := by
  simp only [openInode]
  split
  next truncates =>
    obtain ⟨leads, emptied, kept⟩ := truncate_regular regular
    obtain ⟨further, grants⟩ := (host.truncate number).addOpenFile_keeps
      { inode := number, readable := request.access.canRead, writable := request.access.canWrite }
    exact ⟨onFile_addOpenFile _ emptied, lookup_leads (leads.trans further) named,
      grants.trans kept⟩
  next =>
    obtain ⟨leads, grants⟩ := host.addOpenFile_keeps
      { inode := number, readable := request.access.canRead, writable := request.access.canWrite }
    exact ⟨onFile_addOpenFile _ regular, lookup_leads leads named, grants⟩

theorem not_isDirectory (regular : host.node? number = some (.regular content)) :
    host.isDirectory number = false := by
  simp only [isDirectory, regular]

theorem openExisting_regular (regular : host.node? number = some (.regular content))
    (shared : (request.create && request.exclusive) = false) :
    host.openExisting request number =
      (.ok (host.openInode request number).1, (host.openInode request number).2) := by
  simp [openExisting, admits, shared, not_isDirectory regular]

theorem openPath_known (named : host.lookup path = .ok number)
    (regular : host.node? number = some (.regular content)) (request : OpenRequest) :
    host.openPath path request =
      (host.note (.openPath path request)).openExisting request number := by
  have placing : (host.note (.openPath path request)).place path = host.place path := rfl
  simp only [lookup] at named
  simp only [openPath, placing]
  cases placed : host.place path with
  | error errno => simp [placed, bind, Except.bind] at named
  | ok place =>
    cases place with
    | known found =>
      simp only [placed, bind, Except.bind, Except.ok.injEq] at named
      subst named
      rfl
    | named directory entries parent name =>
      simp only [placed, bind, Except.bind] at named
      cases listed : findEntry entries name with
      | error errno => simp [listed] at named
      | ok entry =>
        cases entry with
        | none => simp [listed] at named
        | some found =>
          simp only [listed] at named
          split at named
          next => cases named
          next fits =>
            cases named
            have cut : path.endsInSlash = false := by
              simpa [not_isDirectory regular] using fits
            simp [cut, listed]

theorem openPath_named (named : host.lookup path = .ok number)
    (regular : host.node? number = some (.regular content))
    (shared : (request.create && request.exclusive) = false) :
    ∃ raw later, host.openPath path request = (.ok raw, later) ∧
      host.OpensFile later path request raw number
        (if request.truncate then .empty else content) := by
  have standing : (host.note (.openPath path request)).node? number = some (.regular content) :=
    regular
  have opens := openInode_regular standing request named
  refine ⟨_, _, ?_, opens.onFile, opens.named, opens.grants⟩
  rw [openPath_known named regular, openExisting_regular standing shared]

section

variable {directory parent : Nat} {entries : List (FileName × Nat)} {name : FileName}

theorem findEntry_new (absent : findEntry entries name = .ok none) (number : Nat) :
    findEntry (entries ++ [(name, number)]) name = .ok (some number) := by
  simp only [findEntry] at absent ⊢
  split at absent
  next => cases absent
  next short =>
    have nobody : (entries.find? fun entry => entry.1 = name) = none := by simpa using absent
    simp [short, List.find?_append, nobody]

theorem link_eq (standing : host.node? directory = some (.directory parent entries))
    (name : FileName) (node : Node) (mode : FilePerms) :
    ∃ home added : Inode, host.inode? directory = some home ∧ added.node = node ∧
      host.link directory parent entries name node mode =
        (host.inodes.length,
          { host with
            inodes := (host.inodes ++ [added]).set directory
              { home with
                node := .directory parent (entries ++ [(name, host.inodes.length)]) } }) := by
  obtain ⟨home, present, -⟩ := Option.map_eq_some_iff.mp standing
  have bound : directory < host.inodes.length := (List.getElem?_eq_some_iff.mp present).1
  let added : Inode := ⟨node, mode.diff host.umask, host.present, host.present⟩
  have kept : (host.inodes ++ [added])[directory]? = some home :=
    (List.getElem?_append_left bound).trans present
  refine ⟨home, added, present, rfl, ?_⟩
  simp only [link, addInode, setEntries, inode?, added, kept, setInode]

theorem link_new (standing : host.node? directory = some (.directory parent entries))
    (name : FileName) (node : Node) (mode : FilePerms) :
    ∃ linked, host.link directory parent entries name node mode = (host.inodes.length, linked) ∧
      host.Leads linked ∧
      linked.node? directory =
        some (.directory parent (entries ++ [(name, host.inodes.length)])) ∧
      linked.node? host.inodes.length = some node ∧ linked.grants = host.grants := by
  obtain ⟨home, added, present, kind, made⟩ := link_eq standing name node mode
  have bound : directory < host.inodes.length := (List.getElem?_eq_some_iff.mp present).1
  have apart : directory ≠ host.inodes.length := Nat.ne_of_lt bound
  refine ⟨_, made, ⟨fun other above listed there => ?_, rfl⟩, ?_, ?_, rfl⟩
  · by_cases here : directory = other
    · subst here
      rw [standing] at there
      cases there
      refine ⟨[(name, host.inodes.length)], ?_⟩
      simp [node?, inode?, Nat.lt_succ_of_lt bound]
    · obtain ⟨inode, found, -⟩ := Option.map_eq_some_iff.mp there
      have within : other < host.inodes.length := (List.getElem?_eq_some_iff.mp found).1
      refine ⟨[], ?_⟩
      rw [List.append_nil, ← there]
      simp only [node?, inode?, List.getElem?_set_ne here, List.getElem?_append_left within]
  · simp [node?, inode?, Nat.lt_succ_of_lt bound]
  · simp only [node?, inode?, List.getElem?_set_ne apart]
    simp [kind]

theorem lookup_link (placed : host.place path = .ok (.named directory entries parent name))
    (absent : findEntry entries name = .ok none) (cut : path.endsInSlash = false) (node : Node)
    (mode : FilePerms) :
    ∃ linked, host.link directory parent entries name node mode = (host.inodes.length, linked) ∧
      linked.lookup path = .ok host.inodes.length ∧
      linked.node? host.inodes.length = some node ∧ linked.grants = host.grants := by
  have standing := (place_leads (Leads.refl host) placed).1
  obtain ⟨linked, made, leads, grown, added, grants⟩ := link_new standing name node mode
  refine ⟨linked, made, ?_, added, grants⟩
  have reached := (place_leads leads placed).2 _ grown
  simp [lookup, reached, bind, Except.bind, findEntry_new absent, cut]

end

theorem openPath_creates
    (regular : ∀ number, host.lookup path = .ok number →
      ∃ content, host.node? number = some (.regular content))
    (creates : request.create = true) (free : request.exclusive = false)
    (truncates : request.truncate = true) {number : Nat}
    (opened : host.openPath path request = (.ok number, later)) :
    ∃ inode, host.OpensFile later path request number inode .empty := by
  cases named : host.lookup path with
  | ok inode =>
    obtain ⟨content, kind⟩ := regular inode named
    have shared : (request.create && request.exclusive) = false := by simp [free]
    obtain ⟨raw, last, opens, found⟩ := openPath_named named kind shared
    rw [opens] at opened
    cases opened
    rw [if_pos truncates] at found
    exact ⟨inode, found⟩
  | error errno =>
    have placing : (host.note (.openPath path request)).place path = host.place path := rfl
    simp only [openPath, placing] at opened
    simp only [lookup] at named
    cases placed : host.place path with
    | error errno => simp [placed] at opened
    | ok place =>
      cases place with
      | known found => simp [placed, bind, Except.bind] at named
      | named directory entries parent name =>
        simp only [placed, creates, Bool.true_and] at opened
        simp only [placed, bind, Except.bind] at named
        split at opened
        next => cases opened
        next cut =>
          cases listed : findEntry entries name with
          | error errno => simp [listed] at opened
          | ok entry =>
            cases entry with
            | some found => simp [listed, cut] at named
            | none =>
              -- Only a name that is free is given to a new file; all else went through the lookup.
              have noted : (host.note (.openPath path request)).place path =
                  .ok (.named directory entries parent name) := placed
              obtain ⟨linked, made, finds, added, grants⟩ := lookup_link noted listed
                (Bool.eq_false_iff.mpr cut) (.regular .empty) request.mode
              simp only [listed, made, if_true] at opened
              cases opened
              have opens := openInode_regular added { request with truncate := false } finds
              exact ⟨_, opens.onFile, opens.named, opens.grants.trans grants⟩

end AsyncFiles.Host
