import AsyncFiles.Service.Submission

/-!
What an operation can be answered with. Its buffers come back as they were, unless it is a read that
gave some data: then they hold that data from the first byte on, and the count says how much it is.
-/
namespace AsyncFiles

open Access Error Host

namespace Host

theorem Grant.shorten_le (grant : Grant) (count : Nat) : grant.shorten count ≤ count := by
  simp only [shorten]
  split
  next => exact Nat.le_refl _
  next => exact Nat.min_le_left _ _

theorem Pipe.take_length (pipe : Pipe) (count : Nat) : (pipe.take count).1.length ≤ count := by
  rw [(pipe.take_contents count).1]
  exact List.length_take_le _ _

theorem Node.take_length {node left : Node} {position count : Nat} {fed : Bool} {data : Bytes}
    (taken : node.take position count fed = .ok (data, left)) : data.length ≤ count := by
  cases node with
  | regular content =>
    simp only [take, Except.ok.injEq, Prod.mk.injEq] at taken
    rw [← taken.1]
    simp only [Content.read, List.length_map, List.length_range]
    exact Nat.min_le_left _ _
  | directory parent entries => simp [take] at taken
  | pipe held =>
    simp only [take] at taken
    split at taken
    next => cases taken
    next =>
      simp only [Except.ok.injEq, Prod.mk.injEq] at taken
      rw [← taken.1]
      exact held.take_length count
  | device device =>
    cases device <;>
      simp only [take, Except.ok.injEq, Prod.mk.injEq] at taken <;>
      simp [← taken.1]

theorem read_length {host later : Host} {raw : Int} {count : Nat} {offset : Option Nat}
    {data : Bytes} (gave : host.read raw count offset = (.ok data, later)) :
    data.length ≤ count := by
  simp only [read] at gave
  split at gave
  next => simp at gave
  next =>
    split at gave
    next => simp at gave
    next =>
      split at gave
      next => simp at gave
      next =>
        split at gave
        next =>
          simp only [Prod.mk.injEq, Except.ok.injEq] at gave
          simp [← gave.1]
        next =>
          split at gave
          next => simp at gave
          next =>
            split at gave
            next => simp at gave
            next => simp at gave
            next =>
              split at gave
              next => simp at gave
              next taken =>
                simp only [Prod.mk.injEq, Except.ok.injEq] at gave
                rw [← gave.1]
                exact Nat.le_trans (Node.take_length taken) (Grant.shorten_le _ count)

/-- A stalled read ends with some data, a stalled write goes on as a write or ends with a count. -/
def Progress.Continues (call : Stalled) : Progress → Prop
  | .stalled next => ∃ file rest sent, call = .writing file rest sent ∧
      ∃ later left total, next = .writing later left total
  | .received data => ∃ file count, call = .reading file count ∧ data.length ≤ count
  | .sent _ => True

theorem continues_resume {host later : Host} {call : Stalled} {progress : Progress}
    (resumed : host.resume? call = some (progress, later)) : progress.Continues call := by
  simp only [resume?] at resumed
  split at resumed
  next => cases resumed
  next inode pipe _ =>
    cases call with
    | reading file count =>
      simp only at resumed
      split at resumed
      next => cases resumed
      next =>
        simp only [Option.some.injEq, Prod.mk.injEq] at resumed
        rw [← resumed.1]
        exact ⟨file, count, rfl, pipe.take_length count⟩
    | writing file rest sent =>
      simp only at resumed
      split at resumed
      next =>
        simp only [Option.some.injEq, Prod.mk.injEq] at resumed
        rw [← resumed.1]
        trivial
      next =>
        split at resumed
        next => cases resumed
        next =>
          split at resumed
          next =>
            simp only [Option.some.injEq, Prod.mk.injEq] at resumed
            rw [← resumed.1]
            trivial
          next =>
            simp only [Option.some.injEq, Prod.mk.injEq] at resumed
            rw [← resumed.1]
            exact ⟨file, rest, sent, rfl, _, _, _, rfl⟩

end Host

namespace Buffers

theorem scatter_lengths (buffers : List Bytes) (data : Bytes) :
    (scatter buffers data).map List.length = buffers.map List.length := by
  induction buffers generalizing data with
  | nil => rfl
  | cons buffer rest ih =>
    simp only [scatter, List.map_cons, ih, List.cons.injEq, and_true]
    simp only [List.length_append, List.length_take, List.length_drop]
    omega

end Buffers

variable {Handler : Type}

namespace Operation

/-- The buffers an operation was started with, or what a read has put into them. -/
def HandsBack (operation : Operation Handler) (completion : Completion) : Prop :=
  completion.buffers = operation.buffers ∨
    ∃ data, operation.request.direction = .read ∧ completion.result = .ok data.length ∧
      data.length ≤ Buffers.capacity operation.buffers ∧
      completion.buffers = Buffers.scatter operation.buffers data

theorem HandsBack.lengths {operation : Operation Handler} {completion : Completion}
    (handed : operation.HandsBack completion) :
    completion.buffers.map List.length = operation.buffers.map List.length := by
  rcases handed with same | ⟨data, _, _, _, filled⟩
  · rw [same]
  · rw [filled, Buffers.scatter_lengths]

def Fits (operation : Operation Handler) : Stalled → Prop
  | .reading _ count =>
    operation.request.direction = .read ∧ count = Buffers.capacity operation.buffers
  | .writing _ _ _ => operation.request.direction = .write

def Meets (operation : Operation Handler) : Attempt → Prop
  | .stalled call => operation.Fits call
  | .finished result buffers => operation.HandsBack { result, buffers }

theorem handsBack_received {operation : Operation Handler} {data : Bytes}
    (reads : operation.request.direction = .read)
    (short : data.length ≤ Buffers.capacity operation.buffers) :
    operation.HandsBack
      { result := (FileHandle.received operation.buffers data).1
        buffers := (FileHandle.received operation.buffers data).2 } := by
  simp only [FileHandle.received]
  split
  next => exact .inl rfl
  next => exact .inr ⟨data, reads, rfl, short, rfl⟩

theorem handsBack_perform (operation : Operation Handler) (host : Host) :
    operation.HandsBack
      { result := (operation.request.perform operation.handle operation.buffers host).1
        buffers := (operation.request.perform operation.handle operation.buffers host).2.1 } := by
  simp only [Request.perform]
  split
  next reads =>
    simp only [FileHandle.readSome]
    split
    next => exact .inl rfl
    next =>
      split
      next => exact .inl rfl
      next =>
        split
        next => exact .inl rfl
        next gave => exact handsBack_received reads (Host.read_length gave)
  next => exact .inl rfl

theorem meets_attempt (operation : Operation Handler) (host : Host) :
    operation.Meets (operation.request.attempt operation.handle operation.buffers host).1 := by
  simp only [Request.attempt]
  split
  next call later stalled =>
    simp only [Request.stall?] at stalled
    split at stalled
    next reads _ =>
      simp only [stallReading?] at stalled
      split at stalled <;> try contradiction
      split at stalled <;> try contradiction
      split at stalled <;> try contradiction
      simp only [Option.some.injEq, Prod.mk.injEq] at stalled
      rw [← stalled.1]
      exact ⟨reads, rfl⟩
    next writes _ =>
      unfold stallWriting? at stalled
      split at stalled <;> try contradiction
      split at stalled <;> try contradiction
      split at stalled <;> try contradiction
      simp only at stalled
      split at stalled <;> try contradiction
      simp only [Option.some.injEq, Prod.mk.injEq] at stalled
      rw [← stalled.1]
      exact writes
    next => cases stalled
  next => exact operation.handsBack_perform host

theorem meets_resume {operation : Operation Handler} {call : Stalled} {host later : Host}
    {attempt : Attempt} (fits : operation.Fits call)
    (resumed : Attempt.resume? operation.buffers call host = some (attempt, later)) :
    operation.Meets attempt := by
  simp only [Attempt.resume?] at resumed
  split at resumed
  next => cases resumed
  next stalled =>
    obtain ⟨file, rest, sent, rfl, later, left, total, rfl⟩ := continues_resume stalled
    simp only [Option.some.injEq, Prod.mk.injEq] at resumed
    rw [← resumed.1]
    exact fits
  next data _ received =>
    obtain ⟨file, count, rfl, short⟩ := continues_resume received
    simp only [Option.some.injEq, Prod.mk.injEq] at resumed
    rw [← resumed.1]
    exact handsBack_received fits.1 (fits.2 ▸ short)
  next =>
    simp only [Option.some.injEq, Prod.mk.injEq] at resumed
    rw [← resumed.1]
    exact .inl rfl

end Operation

end AsyncFiles
