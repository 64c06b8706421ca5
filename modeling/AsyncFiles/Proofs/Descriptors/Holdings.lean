import AsyncFiles.Proofs.Descriptors.Upkeep
import Mathlib.Data.List.Nodup

/-!
Who holds a descriptor in a program. An owner holds one, a state may hold one, and some are the
caller's. A program keeps its discipline when it uses each implementation with the service that owns
it, and gives away and closes only what is its own.
-/
namespace AsyncFiles

open Access Error Host

inductive Holder
  | owner (index : Nat)
  | state (state : StateId)
  | caller (index : Nat)
  deriving DecidableEq

namespace Program

variable {program later : Program}

def held (program : Program) : Holder → FileHandle
  | .owner index => ((program.owners[index]?).getD {}).handle
  | .state state => (program.system.state state).handle
  | .caller index => (program.loose[index]?).getD .closed

/-- A handle that the caller may give away or close: one of its own, or one of no file. -/
def Spare (program : Program) (handle : FileHandle) : Prop :=
  handle = .closed ∨ handle ∈ program.loose

/-- Each implementation is used with its owner, what is given away is the caller's, and nobody else
closes anything. -/
def Proper (program : Program) : Act → Prop
  | .implementation (.moveConstruct _ otherService other) => other.owner = otherService
  | .implementation (.moveAssign service imp otherService other) =>
    imp.owner = service ∧ other.owner = otherService
  | .implementation (.destroy service imp) => imp.owner = service
  | .implementation (.call service imp (.assign handle)) =>
    imp.owner = service ∧ program.Spare handle
  | .implementation (.call service imp _) => imp.owner = service
  | .owner (.wrap handle) | .owner (.reset _ handle) | .owner (.discard handle) =>
    program.Spare handle
  | .outside host =>
    (∀ raw, program.system.host.opened raw = true → host.opened raw = true) ∧
      host.closes = program.system.host.closes
  | _ => True

def Disciplined (program : Program) : List Act → Prop
  | [] => True
  | act :: rest =>
    (program.allows act = true → program.Proper act) ∧ (program.step act).Disciplined rest

def closedBy (program : Program) : Act → List StateId
  | .service (.shutdown service) => program.system.endedByShutdown service
  | .service (.drop service) => program.system.endedByDrop service
  | .implementation (.moveAssign _ imp _ _) | .implementation (.destroy _ imp)
  | .implementation (.call _ imp .close) => [imp.state]
  | .file (.moveFrom file other) =>
    file.implementation.state :: file.endedByMove other program.system
  | .file (.drop file) => file.implementation.state :: file.endedByDrop program.system
  | _ => []

def closers (program : Program) : Act → List Holder
  | .owner (.reset owner _) | .owner (.close owner) | .owner (.drop owner) =>
    [.owner (program.owners.idxOf owner)]
  | .owner (.discard handle) => [.caller (program.loose.idxOf handle)]
  | act => (program.closedBy act).map .state

def owned (program : Program) (raw : Int) : Nat :=
  program.owners.countP fun owner => owner.handle.raw = raw

def spare (program : Program) (raw : Int) : Nat :=
  program.loose.countP fun handle => handle.raw = raw

def tally (program : Program) (raw : Int) : Nat :=
  program.owned raw + program.system.holding raw + program.spare raw

def listed (implementations : List Implementation) (files : List File)
    (forgotten : List Implementation) : List Implementation :=
  implementations ++ files.map File.implementation ++ forgotten

def all (program : Program) : List Implementation :=
  listed program.implementations program.files program.forgotten

structure Conserved (program : Program) : Prop where
  books : program.system.Books program.all
  borne : program.system.Borne program.all
  homes : ∀ file ∈ program.files, file.implementation.owner = file.service
  bound : ∀ service, program.bound service ≤ program.system.references service
  tally : ∀ raw, raw ≠ -1 → program.tally raw = (program.system.host.opened raw).toNat

structure Settles (program later : Program) (closers : List Holder) : Prop where
  conserved : later.Conserved
  closings : ∃ closed, program.system.host.Sheds later.system.host closed ∧
    ∀ raw ∈ closed, ∃ holder ∈ closers, program.held holder = ⟨raw⟩

section

variable {imp : Implementation} {file : File} {implementations forgotten : List Implementation}
  {files : List File}

theorem listed_erase (member : imp ∈ implementations) :
    (listed implementations files forgotten).Perm
      (imp :: listed (implementations.erase imp) files forgotten) :=
  ((List.perm_cons_erase member).append_right _).append_right _

theorem listed_forgotten (imp : Implementation) :
    (listed implementations files (imp :: forgotten)).Perm
      (imp :: listed implementations files forgotten) :=
  List.perm_middle

theorem listed_file (file : File) :
    (listed implementations (file :: files) forgotten).Perm
      (file.implementation :: listed implementations files forgotten) :=
  List.perm_middle.append_right forgotten

theorem listed_eraseFile (member : file ∈ files) :
    (listed implementations files forgotten).Perm
      (file.implementation :: listed implementations (files.erase file) forgotten) := by
  have moved := ((List.perm_cons_erase member).map File.implementation).append_left implementations
  exact (moved.append_right forgotten).trans (listed_file file)

theorem mem_all_of_live (member : imp ∈ program.live) : imp ∈ program.all :=
  List.mem_append_left _ member

theorem bound_cons (file : File) (files : List File) (service : ServiceId) :
    (file :: files).countP (fun found => found.service = service) =
      files.countP (fun found => found.service = service) +
        (if file.service = service then 1 else 0) := by
  simp [List.countP_cons]

theorem bound_erase (member : file ∈ files) (service : ServiceId) :
    (files.erase file).countP (fun found => found.service = service) +
        (if file.service = service then 1 else 0) =
      files.countP (fun found => found.service = service) := by
  rw [(List.perm_cons_erase member).countP_eq, bound_cons]

theorem owned_erase {owner : Owner} (member : owner ∈ program.owners) (raw : Int) :
    (program.owners.erase owner).countP (fun found => found.handle.raw = raw) +
      (if owner.handle.raw = raw then 1 else 0) = program.owned raw := by
  rw [owned, (List.perm_cons_erase member).countP_eq, List.countP_cons]
  simp

theorem spare_erase {handle : FileHandle} (spare : program.Spare handle) {raw : Int}
    (number : raw ≠ -1) :
    (program.loose.erase handle).countP (fun found => found.raw = raw) +
      (if handle.raw = raw then 1 else 0) = program.spare raw := by
  by_cases member : handle ∈ program.loose
  · rw [Program.spare, (List.perm_cons_erase member).countP_eq, List.countP_cons]
    simp
  · have closed : handle = .closed := spare.resolve_right member
    have apart : handle.raw ≠ raw := by
      rw [closed]
      exact Ne.symm number
    rw [List.erase_of_not_mem member, if_neg apart]
    rfl

theorem spare_keep (program : Program) (handle : FileHandle) {raw : Int} (number : raw ≠ -1) :
    (program.keep handle).spare raw = program.spare raw + (if handle.raw = raw then 1 else 0) := by
  simp only [keep]
  split
  next => simp [spare, List.countP_cons]
  next shut =>
    have none : handle.raw = -1 := by simpa [FileHandle.isOpen] using shut
    rw [none, if_neg (Ne.symm number), Nat.add_zero]

end

end Program

namespace Host

variable {host later : Host}

theorem mem_openHandles {handle : FileHandle} :
    handle ∈ host.openHandles ↔ host.opened handle.raw = true := by
  simp only [openHandles, List.mem_map, List.mem_filter, List.mem_range]
  constructor
  · rintro ⟨raw, ⟨_, there⟩, rfl⟩
    exact there
  · intro there
    have natural := natural_of_opened there
    obtain ⟨raw, same⟩ := Int.eq_ofNat_of_zero_le natural
    refine ⟨raw, ⟨?_, by rwa [← same]⟩, by rw [← same]⟩
    by_contra beyond
    simp [opened, descriptor?, same, List.getElem?_eq_none (Nat.le_of_not_lt beyond)] at there

theorem nodup_openHandles (host : Host) : host.openHandles.Nodup := by
  refine List.Nodup.map ?_ (List.nodup_range.filter _)
  intro first second same
  exact Int.ofNat.inj (congrArg FileHandle.raw same)

theorem countP_of_nodup {handles : List FileHandle} (nodup : handles.Nodup) (raw : Int) :
    handles.countP (fun handle => handle.raw = raw) =
      if (⟨raw⟩ : FileHandle) ∈ handles then 1 else 0 := by
  rw [← nodup.count, List.count]
  apply List.countP_congr
  intro handle _
  cases handle
  simp

theorem countP_openHandles (host : Host) (raw : Int) :
    host.openHandles.countP (fun handle => handle.raw = raw) = (host.opened raw).toNat := by
  rw [countP_of_nodup host.nodup_openHandles]
  simp only [mem_openHandles]
  cases host.opened raw <;> rfl

theorem countP_newHandles (wider : ∀ raw, host.opened raw = true → later.opened raw = true)
    (raw : Int) :
    (host.newHandles later).countP (fun handle => handle.raw = raw) + (host.opened raw).toNat =
      (later.opened raw).toNat := by
  have nodup : (host.newHandles later).Nodup := later.nodup_openHandles.filter _
  have member : (⟨raw⟩ : FileHandle) ∈ host.newHandles later ↔
      later.opened raw = true ∧ host.opened raw = false := by
    rw [newHandles, List.mem_filter, mem_openHandles]
    simp [opened]
  rw [countP_of_nodup nodup]
  simp only [member]
  cases before : host.opened raw with
  | true => simp [wider raw before]
  | false => cases later.opened raw <;> simp

end Host

end AsyncFiles
