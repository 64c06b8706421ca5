import AsyncFiles.Proofs.InOrder.Stage
import AsyncFiles.Proofs.Questions

namespace AsyncFiles

open Access Error Host

namespace Host

variable {host other : Host} {α : Type}

/-- The same host, which may have been asked for the same in another order. -/
def Reordered (host other : Host) : Prop :=
  ∃ calls, calls.Perm host.calls ∧ other = host.relog calls

theorem Reordered.refl (host : Host) : host.Reordered host := ⟨host.calls, .refl _, rfl⟩

theorem Unlogged.reordered {call : Host → α × Host} (unlogged : Unlogged call)
    (same : host.Reordered other) :
    ∃ later, (call host).2.Reordered later ∧ call other = ((call host).1, later) := by
  obtain ⟨calls, perm, rfl⟩ := same
  obtain ⟨added, called⟩ := unlogged host
  have own := congrArg (fun outcome => outcome.2.calls) (called host.calls)
  refine ⟨_, ⟨added ++ calls, ?_, rfl⟩, called calls⟩
  exact (perm.append_left added).trans (.of_eq own.symm)

theorem unlogged_close (raw : Int) : Unlogged fun host => host.close raw := by
  refine fun host => ⟨[.close raw], fun calls => ?_⟩
  have same : ((host.note (.close raw)).relog (.close raw :: calls)).descriptor? raw =
    (host.note (.close raw)).descriptor? raw := rfl
  simp only [close, relog_note, same]
  cases (host.note (.close raw)).descriptor? raw with
  | none => rfl
  | some index =>
    dsimp only [relog, note]
    cases host.reports.head?.join <;> rfl

theorem unlogged_duplicate (raw : Int) : Unlogged fun host => host.duplicate raw := by
  refine fun host => ⟨[.duplicate raw], fun calls => ?_⟩
  have same : ((host.note (.duplicate raw)).relog (.duplicate raw :: calls)).descriptor? raw =
    (host.note (.duplicate raw)).descriptor? raw := rfl
  simp only [duplicate, relog_note, same]
  cases (host.note (.duplicate raw)).descriptor? raw <;> rfl

theorem relog_truncate (host : Host) (calls : List Call) (inode : Nat) :
    (host.relog calls).truncate inode = (host.truncate inode).relog calls := by
  simp only [truncate, relog_inode]
  cases host.inode? inode with
  | none => rfl
  | some found =>
    dsimp only
    cases found.node <;> rfl

theorem relog_openInode (host : Host) (calls : List Call) (request : OpenRequest) (inode : Nat) :
    (host.relog calls).openInode request inode =
      ((host.openInode request inode).1, (host.openInode request inode).2.relog calls) := by
  simp only [openInode, relog_truncate]
  split <;> rfl

theorem relog_openExisting (host : Host) (calls : List Call) (request : OpenRequest)
    (inode : Nat) : (host.relog calls).openExisting request inode =
      ((host.openExisting request inode).1, (host.openExisting request inode).2.relog calls) := by
  have same : (host.relog calls).admits request inode = host.admits request inode := rfl
  simp only [openExisting, same, relog_openInode]
  cases host.admits request inode <;> rfl

theorem relog_link (host : Host) (calls : List Call) (directory parent : Nat)
    (entries : List (FileName × Nat)) (name : FileName) (node : Node) (mode : FilePerms) :
    (host.relog calls).link directory parent entries name node mode =
      ((host.link directory parent entries name node mode).1,
        (host.link directory parent entries name node mode).2.relog calls) := by
  have linked (added : Host) (listed : List (FileName × Nat)) :
      (added.relog calls).setEntries directory parent listed =
        (added.setEntries directory parent listed).relog calls := by
    simp only [setEntries, relog_inode]
    cases added.inode? directory <;> rfl
  simp only [link, ← linked]
  rfl

theorem unlogged_openPath (path : Path) (request : OpenRequest) :
    Unlogged fun host => host.openPath path request := by
  refine fun host => ⟨[.openPath path request], fun calls => ?_⟩
  have placed (noted : Host) : (noted.relog (.openPath path request :: calls)).place path =
    noted.place path := rfl
  have directories (noted : Host) (inode : Nat) :
    (noted.relog (.openPath path request :: calls)).isDirectory inode = noted.isDirectory inode :=
      rfl
  simp only [openPath, relog_note, placed]
  cases (host.note (.openPath path request)).place path with
  | error errno => rfl
  | ok place =>
    cases place with
    | known inode => exact relog_openExisting ..
    | named directory entries parent name =>
      dsimp only
      split
      next => rfl
      cases findEntry entries name with
      | error errno => rfl
      | ok found =>
        cases found with
        | some inode =>
          simp only [directories, relog_openExisting]
          split <;> rfl
        | none =>
          simp only [relog_link, relog_openInode]
          split <;> rfl

theorem relog_stallReading (host : Host) (calls : List Call) (raw : Int) (count : Nat) :
    (host.relog calls).stallReading? raw count =
      (host.stallReading? raw count).map
        (Prod.map id fun later => later.relog (.read raw count none :: calls)) := by
  have fed (inode : Nat) : (host.relog calls).hasWriter inode = host.hasWriter inode := rfl
  simp only [stallReading?, relog_resolve, fed]
  cases host.resolve raw with
  | error errno => rfl
  | ok target =>
    obtain ⟨index, file, inode⟩ := target
    dsimp only
    split
    next => split <;> rfl
    next => rfl

theorem relog_stallWriting (host : Host) (calls : List Call) (raw : Int) (data : Bytes) :
    (host.relog calls).stallWriting? raw data =
      (host.stallWriting? raw data).map
        (Prod.map id fun later => later.relog (.write raw data none :: calls)) := by
  have heard (inode : Nat) : (host.relog calls).hasReader inode = host.hasReader inode := rfl
  simp only [stallWriting?, relog_resolve, heard]
  cases host.resolve raw with
  | error errno => rfl
  | ok target =>
    obtain ⟨index, file, inode⟩ := target
    dsimp only
    split
    next =>
      split
      next => split <;> rfl
      next => rfl
    next => rfl

theorem relog_resume (host : Host) (calls : List Call) (call : Stalled) :
    (host.relog calls).resume? call =
      (host.resume? call).map (Prod.map id fun later => later.relog calls) := by
  have behind (file : Nat) : (host.relog calls).pipeBehind? file = host.pipeBehind? file := rfl
  have fed (inode : Nat) : (host.relog calls).hasWriter inode = host.hasWriter inode := rfl
  have heard (inode : Nat) : (host.relog calls).hasReader inode = host.hasReader inode := rfl
  simp only [resume?, behind, fed, heard]
  cases host.pipeBehind? call.file with
  | none => rfl
  | some found =>
    obtain ⟨inode, pipe⟩ := found
    cases call with
    | reading file count =>
      dsimp only
      split <;> rfl
    | writing file rest sent =>
      dsimp only
      split
      next => rfl
      split
      next => rfl
      split <;> rfl

theorem closed_eq (host : Host) (raw : Int) : (host.close raw).2 =
    { host with
      calls := .close raw :: host.calls
      descriptors := if (host.descriptor? raw).isSome then host.descriptors.set raw.toNat none
        else host.descriptors
      reports := if (host.descriptor? raw).isSome then host.reports.tail else host.reports } := by
  have same : (host.note (.close raw)).descriptor? raw = host.descriptor? raw := rfl
  simp only [close, same]
  cases host.descriptor? raw with
  | none => rfl
  | some index =>
    dsimp only [note]
    cases host.reports.head?.join <;> rfl

theorem reordered_close (host : Host) (first second : Int) :
    ((host.close first).2.close second).2.Reordered ((host.close second).2.close first).2 := by
  by_cases same : first = second
  · rw [same]
    exact .refl _
  · have kept := host.descriptor_close first second
    have still := host.descriptor_close second first
    rw [if_neg (Ne.symm same)] at kept
    rw [if_neg same] at still
    have swapped : (host.descriptors.set second.toNat none).set first.toNat none =
        (host.descriptors.set first.toNat none).set second.toNat none := by
      by_cases here : first.toNat = second.toNat
      · rw [here]
      · exact (List.set_comm _ _ here).symm
    rw [closed_eq (host.close first).2, closed_eq (host.close second).2, kept, still,
      closed_eq host first, closed_eq host second]
    refine ⟨.close first :: .close second :: host.calls, .swap .., ?_⟩
    cases (host.descriptor? first).isSome <;> cases (host.descriptor? second).isSome
    · rfl
    · rfl
    · rfl
    · simp only [if_true, swapped]
      rfl

end Host

namespace FileHandle

theorem reordered_close (first second : FileHandle) (host : Host) :
    (second.close (first.close host).2).2.Reordered (first.close (second.close host).2).2 := by
  simp only [close]
  cases first.isOpen with
  | false =>
    cases second.isOpen with
    | false => exact .refl _
    | true => exact .refl _
  | true =>
    cases second.isOpen with
    | false => exact .refl _
    | true => exact host.reordered_close first.raw second.raw

theorem unlogged_close (handle : FileHandle) : Unlogged handle.close := by
  intro host
  obtain ⟨added, called⟩ := Host.unlogged_close handle.raw host
  simp only [close]
  cases handle.isOpen with
  | true => exact ⟨added, fun calls => by simp only [if_true, lifted, called]⟩
  | false => exact ⟨[], fun calls => rfl⟩

theorem unlogged_duplicate (handle : FileHandle) : Unlogged handle.duplicate := by
  intro host
  obtain ⟨added, called⟩ := Host.unlogged_duplicate handle.raw host
  simp only [duplicate]
  cases handle.isOpen with
  | true =>
    refine ⟨added, fun calls => ?_⟩
    simp only [if_true, called]
    rcases host.duplicate handle.raw with ⟨errno | raw, later⟩ <;> rfl
  | false => exact ⟨[], fun calls => rfl⟩

theorem unlogged_openPath (path : Path) (args : OpenArgs) : Unlogged (openPath path args) := by
  intro host
  cases args with
  | invalid => exact ⟨[], fun calls => rfl⟩
  | valid request =>
    obtain ⟨added, called⟩ := Host.unlogged_openPath path request host
    simp only [openPath]
    cases path.hasNul with
    | true => exact ⟨[], fun calls => rfl⟩
    | false =>
      refine ⟨added, fun calls => ?_⟩
      simp only [called]
      rcases host.openPath path request with ⟨errno | raw, later⟩ <;> rfl

end FileHandle

namespace Request

variable (request : Request) (handle : FileHandle) (buffers : List Bytes)

theorem relog_perform (host : Host) : ∃ added, ∀ calls,
    request.perform handle buffers (host.relog calls) =
      ((request.perform handle buffers host).1, (request.perform handle buffers host).2.1,
        (request.perform handle buffers host).2.2.relog (added ++ calls)) := by
  simp only [perform]
  cases request.direction with
  | read => exact handle.relog_readSome buffers request.offset host
  | write =>
    obtain ⟨added, called⟩ := handle.unlogged_writeSome buffers request.offset host
    exact ⟨added, fun calls => by simp only [called]⟩

theorem relog_stall : ∃ added, ∀ (host : Host) calls,
    request.stall? handle buffers (host.relog calls) =
      (request.stall? handle buffers host).map
        (Prod.map id fun later => later.relog (added ++ calls)) := by
  obtain ⟨direction, offset⟩ := request
  cases offset with
  | some offset => exact ⟨[], fun host calls => by simp only [stall?, Option.map_none]⟩
  | none =>
    cases direction with
    | read => exact ⟨[_], fun host calls => host.relog_stallReading calls _ _⟩
    | write => exact ⟨[_], fun host calls => host.relog_stallWriting calls _ _⟩

theorem unlogged_attempt : Unlogged (request.attempt handle buffers) := by
  intro host
  obtain ⟨waited, stalls⟩ := request.relog_stall handle buffers
  obtain ⟨added, performs⟩ := request.relog_perform handle buffers host
  simp only [attempt, stalls, performs]
  cases request.stall? handle buffers host with
  | some found => exact ⟨waited, fun calls => rfl⟩
  | none => exact ⟨added, fun calls => rfl⟩

end Request

theorem Attempt.relog_resume (buffers : List Bytes) (call : Stalled) (host : Host)
    (calls : List Call) : Attempt.resume? buffers call (host.relog calls) =
      (Attempt.resume? buffers call host).map (Prod.map id fun later => later.relog calls) := by
  simp only [Attempt.resume?, Host.relog_resume]
  rcases host.resume? call with _ | ⟨stalled | data | result, later⟩ <;> rfl

theorem Attempt.reordered_resume {host other : Host} (same : host.Reordered other)
    (buffers : List Bytes) (call : Stalled) :
    Option.Rel (fun outcome next => next.1 = outcome.1 ∧ outcome.2.Reordered next.2)
      (Attempt.resume? buffers call host) (Attempt.resume? buffers call other) := by
  obtain ⟨calls, perm, rfl⟩ := same
  have own := Attempt.relog_resume buffers call host host.calls
  rw [Attempt.relog_resume]
  cases went : Attempt.resume? buffers call host with
  | none => exact .none
  | some found =>
    rw [show host.relog host.calls = host from rfl, went, Option.map_some, Option.some.injEq]
      at own
    have asked : found.2.calls = host.calls :=
      congrArg (fun outcome : Attempt × Host => outcome.2.calls) own
    exact .some ⟨rfl, calls, perm.trans (.of_eq asked.symm), rfl⟩

end AsyncFiles
