import AsyncFiles.Handle.WholeFile
import AsyncFiles.Proofs.Descriptors.Opening

/-!
What whole-file calls leave behind. The calls on a handle open and close nothing and their errors
carry no path. So a call that opens a path, does something with the handle and closes it again
leaves the same descriptors open, and each of its errors carries the path.
-/
namespace AsyncFiles

open Access Error Host

/-- A call opened and closed nothing, and its error carries no path. -/
structure Plain {α : Type} (host : Host) (outcome : Except FileError α × Host) : Prop where
  unmoved : host.Unmoved outcome.2
  bare : ∀ error, outcome.1 = .error error → error.path = none

/-- A call left the same descriptors open, and its error carries the path. -/
structure Tidy {α : Type} (path : Path) (host : Host) (outcome : Except FileError α × Host) :
    Prop where
  opened : ∀ raw, outcome.2.opened raw = host.opened raw
  path : ∀ error, outcome.1 = .error error → error.path = some path

section

variable {α β : Type} {path : Path} {host middle later : Host} {error : FileError}

theorem plain_refused (host : Host) (bare : error.path = none) :
    Plain host ((.error error, host) : Except FileError α × Host) where
  unmoved := .refl host
  bare other same := by
    cases same
    exact bare

theorem plain_ok (host : Host) (value : α) :
    Plain host ((.ok value, host) : Except FileError α × Host) where
  unmoved := .refl host
  bare other same := by cases same

theorem Plain.fails (plain : Plain host ((.error error, later) : Except FileError α × Host)) :
    Plain host ((.error error, later) : Except FileError β × Host) where
  unmoved := plain.unmoved
  bare other same := by
    cases same
    exact plain.bare error rfl

theorem Plain.then {result : Except FileError α} {outcome : Except FileError β × Host}
    (first : Plain host (result, middle)) (second : Plain middle outcome) : Plain host outcome :=
  ⟨first.unmoved.trans second.unmoved, second.bare⟩

theorem Tidy.fails (tidy : Tidy path host ((.error error, later) : Except FileError α × Host)) :
    Tidy path host ((.error error, later) : Except FileError β × Host) where
  opened := tidy.opened
  path other same := by
    cases same
    exact tidy.path error rfl

end

namespace FileHandle

theorem bare_lift {α : Type} {result : Except Errno α} {error : FileError}
    (failed : lift result = .error error) : error.path = none := by
  cases result with
  | ok value => cases failed
  | error errno =>
    cases failed
    rfl

theorem plain_size (handle : FileHandle) (host : Host) : Plain host (handle.size host) := by
  simp only [size, statWith, stat]
  split
  next =>
    refine ⟨host.unmoved_note (.stat handle.raw) (by intro raw same; cases same), ?_⟩
    intro error failed
    cases found : lift (host.stat handle.raw).1 with
    | ok inode => simp [lifted, found, Except.map] at failed
    | error other =>
      simp only [lifted, found, Except.map, Except.error.injEq] at failed
      exact failed ▸ bare_lift found
  next => exact plain_refused host rfl

theorem bare_checkOffset {offset : Option Nat} {error : FileError}
    (beyond : checkOffset offset = .error error) : error.path = none := by
  rw [Request.checkOffset_error beyond]
  rfl

theorem plain_readSome (handle : FileHandle) (buffers : List Bytes) (offset : Option Nat)
    (host : Host) :
    Plain host
      ((handle.readSome buffers offset host).1, (handle.readSome buffers offset host).2.2) where
  unmoved := (Request.reaches_read handle buffers offset host).unmoved
  bare error failed := by
    simp only [readSome] at failed
    split at failed
    next =>
      cases failed
      rfl
    next =>
      split at failed
      next beyond =>
        cases failed
        exact bare_checkOffset beyond
      next =>
        split at failed
        next =>
          cases failed
          rfl
        next =>
          simp only [received] at failed
          split at failed <;> cases failed
          rfl

theorem plain_writeSome (handle : FileHandle) (buffers : List Bytes) (offset : Option Nat)
    (host : Host) : Plain host (handle.writeSome buffers offset host) where
  unmoved := (Request.reaches_write handle buffers offset host).unmoved
  bare error failed := by
    simp only [writeSome] at failed
    split at failed
    next =>
      cases failed
      rfl
    next =>
      split at failed
      next beyond =>
        cases failed
        exact bare_checkOffset beyond
      next => exact bare_lift failed

theorem plain_collect (handle : FileHandle) (fuel size : Nat) (host : Host) :
    Plain host (handle.collect fuel size host) := by
  induction fuel generalizing size host with
  | zero => exact plain_ok host []
  | succ fuel ih =>
    simp only [collect]
    split
    next => exact plain_ok host []
    next =>
      have plain := handle.plain_readSome [List.replicate size 0] none host
      split
      next error buffers middle read =>
        rw [read] at plain
        split
        next => exact plain.then (plain_ok middle [])
        next => exact plain.fails
      next count buffers middle read =>
        rw [read] at plain
        have further := ih (size - count) middle
        split
        next rest =>
          rw [rest] at further
          exact plain.then further
        next rest =>
          rw [rest] at further
          exact (plain.then further).then (plain_ok _ _)

theorem plain_drain (handle : FileHandle) (fuel : Nat) (data : Bytes) (host : Host) :
    Plain host (handle.drain fuel data host) := by
  induction fuel generalizing data host with
  | zero => exact plain_ok host ()
  | succ fuel ih =>
    simp only [drain]
    split
    next => exact plain_ok host ()
    next =>
      have plain := handle.plain_writeSome [data] none host
      split
      next wrote =>
        rw [wrote] at plain
        exact plain.fails
      next wrote =>
        rw [wrote] at plain
        exact plain.then (plain_refused _ rfl)
      next wrote =>
        rw [wrote] at plain
        exact plain.then (ih _ _)

theorem plain_readAll (handle : FileHandle) (host : Host) : Plain host (handle.readAll host) := by
  have plain := handle.plain_size host
  simp only [readAll]
  split
  next failed =>
    rw [failed] at plain
    exact plain.fails
  next size middle found =>
    rw [found] at plain
    exact plain.then (handle.plain_collect size size middle)

end FileHandle

namespace WholeFile

variable {α : Type} {path : Path} {args : OpenArgs} {host middle last : Host} {owner : Owner}

theorem tidy_refused {error : FileError}
    (failed : Owner.openPath path args host = (.error error, middle)) :
    Tidy path host ((.error error, middle) : Except FileError α × Host) := by
  have yields := host.yields_openPath path args
  simp only [Owner.openPath] at failed
  cases asked : FileHandle.openPath path args host with
  | mk result later =>
    rw [asked] at yields failed
    cases yields with
    | opened opens => cases failed
    | failed unmoved =>
      cases failed
      refine ⟨unmoved.opened, fun other same => ?_⟩
      cases same
      exact FileHandle.path_openPath asked

theorem tidy_dropped {result : Except FileError α}
    (opened : Owner.openPath path args host = (.ok owner, middle))
    (plain : Plain middle (result, last)) :
    Tidy path host (attachPath path result, owner.drop last) := by
  have yields := host.yields_openPath path args
  simp only [Owner.openPath] at opened
  cases asked : FileHandle.openPath path args host with
  | mk found later =>
    rw [asked] at yields opened
    cases yields with
    | failed unmoved => cases opened
    | @opened handle later opens =>
      cases opened
      have shuts := last.shuts_close handle
      refine ⟨fun raw => ?_, fun error failed => ?_⟩
      · change (handle.close last).2.opened raw = host.opened raw
        rw [shuts.opened, plain.unmoved.opened, opens.opened]
        by_cases own : raw = handle.raw
        · simp [own, opens.fresh]
        · simp [own]
      · cases result with
        | ok value => cases failed
        | error other =>
          cases failed
          exact FileError.path_withPath (plain.bare other rfl)

theorem tidy_readFile (path : Path) (host : Host) : Tidy path host (readFile path host) := by
  simp only [readFile]
  split
  next failed => exact tidy_refused failed
  next owner middle opened => exact tidy_dropped opened (owner.handle.plain_readAll middle)

theorem tidy_writeFile (path : Path) (data : Bytes) (host : Host) :
    Tidy path host (writeFile path data host) := by
  simp only [writeFile]
  split
  next failed => exact tidy_refused failed
  next owner middle opened =>
    exact tidy_dropped opened (owner.handle.plain_drain data.length data middle)

theorem tidy_readText (path : Path) (host : Host) : Tidy path host (readText path host) := by
  have tidy := tidy_readFile path host
  simp only [readText]
  split
  next failed =>
    rw [failed] at tidy
    exact tidy.fails
  next read =>
    rw [read] at tidy
    split
    next => exact ⟨tidy.opened, fun other same => by cases same⟩
    next =>
      refine ⟨tidy.opened, fun other same => ?_⟩
      cases same
      rfl

end WholeFile

end AsyncFiles
