import AsyncFiles.Proofs.Program
import AsyncFiles.Proofs.Descriptors.Table

/-!
Questions about the file behind a handle. They open and close nothing, and since no call looks at
the record of the calls before it, hosts that differ in their records answer them alike.
-/
namespace AsyncFiles

open Access Error Host Time

namespace Host

variable {α β : Type} {host other : Host} {call : Host → α × Host}

def relog (host : Host) (calls : List Call) : Host := { host with calls }

/-- A call that adds to the record and does not look at it. -/
def Unlogged (call : Host → α × Host) : Prop :=
  ∀ host, ∃ added, ∀ calls,
    call (host.relog calls) = ((call host).1, (call host).2.relog (added ++ calls))

/-- A call that opens and closes nothing, and does not look at the record. -/
structure Gentle (call : Host → α × Host) : Prop where
  unmoved : ∀ host : Host, host.Unmoved (call host).2
  unlogged : Unlogged call

theorem Gentle.settled (result : α) : Gentle fun host => (result, host) :=
  ⟨Unmoved.refl, fun _ => ⟨[], fun _ => rfl⟩⟩

theorem Gentle.congr {next : Host → α × Host} (gentle : Gentle call)
    (same : ∀ host, next host = call host) : Gentle next :=
  (funext same : next = call) ▸ gentle

theorem Gentle.map (gentle : Gentle call) (view : α → β) :
    Gentle fun host => (view (call host).1, (call host).2) := by
  refine ⟨gentle.unmoved, fun host => ?_⟩
  obtain ⟨added, called⟩ := gentle.unlogged host
  exact ⟨added, fun calls => by simp only [called]⟩

/-- The record of two calls, one after the other, is that of the second on top of the first's. -/
theorem Gentle.bind {next : α → Host → β × Host} (gentle : Gentle call)
    (after : ∀ result, Gentle (next result)) :
    Gentle fun host => next (call host).1 (call host).2 := by
  refine ⟨fun host => (gentle.unmoved host).trans ((after _).unmoved _), fun host => ?_⟩
  obtain ⟨added, called⟩ := gentle.unlogged host
  obtain ⟨more, followed⟩ := (after (call host).1).unlogged (call host).2
  refine ⟨more ++ added, fun calls => ?_⟩
  simp only [called, followed, List.append_assoc]

theorem Gentle.ite {next : Host → α × Host} {condition : Prop} [Decidable condition]
    (first : Gentle call) (second : Gentle next) :
    Gentle fun host => if condition then call host else next host := by
  by_cases holds : condition
  · simpa only [if_pos holds] using first
  · simpa only [if_neg holds] using second

theorem Gentle.lifted {call : Host → Except Errno α × Host} (gentle : Gentle call) :
    Gentle fun host => FileHandle.lifted (call host) :=
  gentle.map FileHandle.lift

section

variable (host : Host) (calls : List Call)

theorem relog_note (call : Call) :
    (host.relog calls).note call = (host.note call).relog (call :: calls) := rfl

theorem relog_resolve (raw : Int) : (host.relog calls).resolve raw = host.resolve raw := rfl

theorem relog_present : (host.relog calls).present = host.present := rfl

theorem relog_inode (inode : Nat) : (host.relog calls).inode? inode = host.inode? inode := rfl

theorem relog_hasWriter (inode : Nat) :
    (host.relog calls).hasWriter inode = host.hasWriter inode := rfl

theorem relog_hasReader (inode : Nat) :
    (host.relog calls).hasReader inode = host.hasReader inode := rfl

theorem relog_takeGrant :
    (host.relog calls).takeGrant = (host.takeGrant.1, host.takeGrant.2.relog calls) := by
  simp only [takeGrant, relog]
  cases host.grants.dropWhile _ <;> rfl

theorem relog_resizedBy (grant : Grant) (inode : Nat) :
    (host.relog calls).resizedBy grant inode = (host.resizedBy grant inode).relog calls := by
  simp only [resizedBy, relog_inode]
  cases grant.resized with
  | none => rfl
  | some size =>
    cases host.inode? inode with
    | none => rfl
    | some found =>
      dsimp only
      cases found.node <;> rfl

end

theorem gentle_stat (raw : Int) : Gentle fun host => host.stat raw where
  unmoved host := host.unmoved_note _ (by simp)
  unlogged _ := ⟨[.stat raw], fun _ => rfl⟩

theorem gentle_changeMode (raw : Int) (perms : FilePerms) :
    Gentle fun host => host.changeMode raw perms where
  unmoved host := by
    refine (host.unmoved_note (.changeMode raw perms) (by simp)).trans (Kept.unmoved ?_)
    simp only [changeMode]
    split <;> exact ⟨rfl, rfl⟩
  unlogged host := by
    refine ⟨[.changeMode raw perms], fun calls => ?_⟩
    simp only [changeMode, relog_note, relog_resolve]
    cases (host.note (.changeMode raw perms)).resolve raw <;> rfl

theorem gentle_changeTimes (raw : Int) (accessed modified : Stamp) :
    Gentle fun host => host.changeTimes raw accessed modified where
  unmoved host := by
    refine (host.unmoved_note (.changeTimes raw accessed modified) (by simp)).trans
      (Kept.unmoved ?_)
    simp only [changeTimes]
    split
    next => exact .refl _
    next => split <;> exact ⟨rfl, rfl⟩
  unlogged host := by
    refine ⟨[.changeTimes raw accessed modified], fun calls => ?_⟩
    simp only [changeTimes, relog_note, relog_resolve, relog_present]
    cases (host.note (.changeTimes raw accessed modified)).resolve raw with
    | error errno => rfl
    | ok found =>
      dsimp only
      split <;> rfl

theorem gentle_changeSize (raw : Int) (size : Nat) :
    Gentle fun host => host.changeSize raw size where
  unmoved host := by
    refine (host.unmoved_note (.changeSize raw size) (by simp)).trans (Kept.unmoved ?_)
    simp only [changeSize]
    split
    next => exact .refl _
    next =>
      split
      next => split <;> exact ⟨rfl, rfl⟩
      next => exact .refl _
  unlogged host := by
    refine ⟨[.changeSize raw size], fun calls => ?_⟩
    simp only [changeSize, relog_note, relog_resolve]
    cases (host.note (.changeSize raw size)).resolve raw with
    | error errno => rfl
    | ok found =>
      obtain ⟨index, file, inode⟩ := found
      dsimp only
      split
      next => split <;> rfl
      next => rfl

theorem gentle_seek (raw : Int) (origin : Origin) (offset : Int) :
    Gentle fun host => host.seek raw origin offset where
  unmoved host := by
    refine (host.unmoved_note (.seek raw origin offset) (by simp)).trans (Kept.unmoved ?_)
    simp only [seek]
    split
    next => exact .refl _
    next =>
      split
      next => exact .refl _
      next => exact .refl _
      next =>
        cases origin
        all_goals
          dsimp only
          split <;> exact ⟨rfl, rfl⟩
  unlogged host := by
    refine ⟨[.seek raw origin offset], fun calls => ?_⟩
    simp only [seek, relog_note, relog_resolve]
    cases (host.note (.seek raw origin offset)).resolve raw with
    | error errno => rfl
    | ok found =>
      obtain ⟨index, file, inode⟩ := found
      dsimp only
      split
      next => rfl
      next => rfl
      next =>
        cases origin
        all_goals
          dsimp only
          split <;> rfl

theorem unlogged_read (raw : Int) (count : Nat) (offset : Option Nat) :
    Unlogged fun host => host.read raw count offset := by
  refine fun host => ⟨[.read raw count offset], fun calls => ?_⟩
  simp only [read, relog_note, relog_resolve, relog_takeGrant, relog_resizedBy, relog_inode,
    relog_hasWriter]
  cases (host.note (.read raw count offset)).resolve raw with
  | error errno => rfl
  | ok target =>
    obtain ⟨index, file, inode⟩ := target
    dsimp only
    split
    next => rfl
    split
    next => rfl
    split
    next => rfl
    split
    next => rfl
    split
    next => rfl
    next => rfl
    next later _ present =>
      cases later.node.take _ _ _ with
      | error errno => rfl
      | ok moved =>
        dsimp only
        split <;> rfl

theorem unlogged_write (raw : Int) (data : Bytes) (offset : Option Nat) :
    Unlogged fun host => host.write raw data offset := by
  refine fun host => ⟨[.write raw data offset], fun calls => ?_⟩
  simp only [write, relog_note, relog_resolve, relog_takeGrant, relog_resizedBy, relog_inode,
    relog_hasReader]
  cases (host.note (.write raw data offset)).resolve raw with
  | error errno => rfl
  | ok target =>
    obtain ⟨index, file, inode⟩ := target
    dsimp only
    split
    next => rfl
    split
    next => rfl
    split
    next => rfl
    split
    next => rfl
    split
    next => rfl
    next => rfl
    next later _ present =>
      cases later.node.put _ _ _ with
      | error errno => rfl
      | ok moved =>
        dsimp only
        split <;> rfl

end Host

namespace FileHandle

variable (handle : FileHandle)

theorem relog_readSome (handle : FileHandle) (buffers : List Bytes) (offset : Option Nat)
    (host : Host) : ∃ added, ∀ calls, handle.readSome buffers offset (host.relog calls) =
      ((handle.readSome buffers offset host).1, (handle.readSome buffers offset host).2.1,
        (handle.readSome buffers offset host).2.2.relog (added ++ calls)) := by
  obtain ⟨added, called⟩ :=
    Host.unlogged_read handle.raw (Buffers.capacity buffers) offset host
  simp only [readSome]
  cases handle.isOpen with
  | false => exact ⟨[], fun calls => rfl⟩
  | true =>
    cases checkOffset offset with
    | error error => exact ⟨[], fun calls => rfl⟩
    | ok =>
      refine ⟨added, fun calls => ?_⟩
      simp only [called]
      generalize host.read handle.raw (Buffers.capacity buffers) offset = outcome
      rcases outcome with ⟨errno | data, later⟩ <;> rfl

theorem unlogged_writeSome (handle : FileHandle) (buffers : List Bytes) (offset : Option Nat) :
    Unlogged (handle.writeSome buffers offset) := by
  intro host
  obtain ⟨added, called⟩ :=
    Host.unlogged_write handle.raw (Buffers.gather buffers) offset host
  simp only [writeSome]
  cases handle.isOpen with
  | false => exact ⟨[], fun calls => rfl⟩
  | true =>
    cases checkOffset offset with
    | error error => exact ⟨[], fun calls => rfl⟩
    | ok => exact ⟨added, fun calls => congrArg lifted (called calls)⟩

theorem gentle_readSome (buffers : List Bytes) (offset : Option Nat) :
    Gentle fun host => (((handle.readSome buffers offset host).1,
      (handle.readSome buffers offset host).2.1), (handle.readSome buffers offset host).2.2) where
  unmoved host := (Request.reaches_read handle buffers offset host).unmoved
  unlogged host := by
    obtain ⟨added, called⟩ := handle.relog_readSome buffers offset host
    exact ⟨added, fun calls => by simp only [called]⟩

theorem gentle_writeSome (buffers : List Bytes) (offset : Option Nat) :
    Gentle (handle.writeSome buffers offset) where
  unmoved host := (Request.reaches_write handle buffers offset host).unmoved
  unlogged := handle.unlogged_writeSome buffers offset

theorem gentle_stat : Gentle handle.stat :=
  .ite (Host.gentle_stat handle.raw).lifted (.settled _)

theorem gentle_statWith {α : Type} (view : Inode → α) : Gentle (handle.statWith view) :=
  handle.gentle_stat.map fun result => result.map view

theorem gentle_setSize (size : Nat) : Gentle (handle.setSize size) :=
  .ite (.settled _) (.ite (.settled _) (Host.gentle_changeSize handle.raw size).lifted)

theorem gentle_seek (origin : Origin) (offset : Int) : Gentle (handle.seek origin offset) :=
  .ite (.settled _) (Host.gentle_seek handle.raw origin offset).lifted

theorem gentle_setPermissions (perms : FilePerms) (change : Change) :
    Gentle (handle.setPermissions perms change) := by
  have changed (perms : FilePerms) :
      Gentle fun host => lifted (host.changeMode handle.raw perms) :=
    (Host.gentle_changeMode handle.raw perms).lifted
  have after (current : Except FileError FilePerms) : Gentle fun host => match current with
      | .error error => (.error error, host)
      | .ok current => lifted (host.changeMode handle.raw (change.apply current perms)) := by
    cases current with
    | error error => exact .settled _
    | ok current => exact changed _
  refine .ite (.settled _) (.ite (changed perms) ?_)
  refine (Gentle.bind (handle.gentle_statWith Inode.perms) after).congr fun host => ?_
  simp only [permissions]
  rcases handle.statWith Inode.perms host with ⟨error | current, later⟩ <;> rfl

theorem gentle_setAttributes (attrs : FileAttrs) (change : Change) :
    Gentle (handle.setAttributes attrs change) :=
  .ite (.settled _) (.ite (.settled _) (handle.gentle_statWith _))

theorem gentle_setTimes (times : FileTimes) : Gentle (handle.setTimes times) :=
  .ite (.settled _) (.ite (.settled _) (Host.gentle_changeTimes handle.raw _ _).lifted)

theorem gentle_collect (fuel size : Nat) : Gentle (handle.collect fuel size) := by
  -- On the reads that are left: each is followed by the reads of the rest.
  induction fuel generalizing size with
  | zero => exact .settled _
  | succ fuel ih =>
    have after (outcome : Except FileError Nat × List Bytes) : Gentle fun host =>
        match outcome with
        | (.error error, _) => (if error.isEndOfFile then .ok [] else .error error, host)
        | (.ok count, buffers) =>
          ((handle.collect fuel (size - count) host).1.map (buffers.flatten.take count ++ ·),
            (handle.collect fuel (size - count) host).2) := by
      rcases outcome with ⟨error | count, buffers⟩
      · exact .settled _
      · exact (ih (size - count)).map _
    have filled := handle.gentle_readSome [List.replicate size 0] none
    refine .ite (.settled _) ((filled.bind after).congr fun host => ?_)
    rcases handle.readSome [List.replicate size 0] none host with ⟨error | count, buffers, later⟩
    · dsimp only
      split <;> rfl
    · dsimp only
      rcases handle.collect fuel (size - count) later with ⟨error | rest, last⟩ <;> rfl

theorem gentle_readAll : Gentle handle.readAll := by
  have after (size : Except FileError Nat) : Gentle fun host => match size with
      | .error error => (.error error, host)
      | .ok size => handle.collect size size host := by
    cases size with
    | error error => exact .settled _
    | ok size => exact handle.gentle_collect size size
  refine (Gentle.bind (handle.gentle_statWith fun inode => inode.node.size) after).congr
    fun host => ?_
  simp only [readAll, size]
  rcases handle.statWith _ host with ⟨error | size, later⟩ <;> rfl

end FileHandle

theorem Question.gentle_ask (question : Question) (handle : FileHandle) :
    Gentle (question.ask handle) := by
  have transferred (buffers : List Bytes) (offset : Option Nat) :=
    (handle.gentle_readSome buffers offset).map fun outcome =>
      Script.Reply.transferred outcome.1 outcome.2
  cases question with
  | read buffers offset => exact transferred buffers offset
  | inquire inquiry =>
    cases inquiry with
    | isOpen => exact .settled _
    | size => exact (handle.gentle_statWith _).map _
    | position => exact (handle.gentle_seek .current 0).map _
    | setSize size => exact (handle.gentle_setSize size).map _
    | seek origin offset => exact (handle.gentle_seek origin offset).map _
    | permissions =>
      exact (handle.gentle_statWith Inode.perms).map fun result =>
        Script.Reply.ofNumber (result.map fun perms => perms.word.toNat)
    | setPermissions perms change => exact (handle.gentle_setPermissions perms change).map _
    | attributes =>
      exact (handle.gentle_statWith fun _ => FileAttrs.none).map fun result =>
        Script.Reply.ofNumber (result.map fun attrs => attrs.word.toNat)
    | setAttributes attrs change => exact (handle.gentle_setAttributes attrs change).map _
    | times =>
      exact (handle.gentle_statWith _).map fun result =>
        Script.Reply.result (result.map .times)
    | setTimes times => exact (handle.gentle_setTimes times).map _
    | read sizes offset => exact transferred _ offset
    | write buffers offset => exact (handle.gentle_writeSome buffers offset).map _
    | readAll =>
      exact handle.gentle_readAll.map fun result => Script.Reply.result (result.map .bytes)

end AsyncFiles
