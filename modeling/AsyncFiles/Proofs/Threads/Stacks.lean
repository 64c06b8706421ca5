import AsyncFiles.Proofs.Threads.Steps

namespace AsyncFiles.Script

namespace Frame

def served? : Frame → Option ContextId
  | .serving context => some context
  | .driving _ _ _ | .body _ _ | .waiting _ _ _ | .exchanging _ _ _ | .gathering _ => none

theorem served?_of_plain {frame : Frame} (plain : frame.isPlain) : frame.served? = none := by
  cases frame with
  | serving => cases plain
  | _ => rfl

theorem served?_of_call {frame : Frame} (call : frame.isCall) : frame.served? = none := by
  cases frame with
  | serving => cases call
  | _ => rfl

theorem isSome_served? (frame : Frame) : frame.served?.isSome = Thread.isServing frame := by
  cases frame <;> rfl

end Frame

/-- The contexts of the served handlers on a stack, the latest in front. -/
def served (frames : List Frame) : List ContextId := frames.filterMap Frame.served?

theorem mem_served {frames : List Frame} {context : ContextId} :
    context ∈ served frames ↔ .serving context ∈ frames := by
  rw [served, List.mem_filterMap]
  constructor
  · rintro ⟨frame, member, serves⟩
    cases frame with
    | serving other =>
      cases serves
      exact member
    | _ => cases serves
  · intro member
    exact ⟨_, member, rfl⟩

theorem served_append (above rest : List Frame) :
    served (above ++ rest) = served above ++ served rest :=
  List.filterMap_append

theorem served_eq_nil {frames : List Frame} (none : ∀ frame ∈ frames, frame.served? = none) :
    served frames = [] :=
  List.filterMap_eq_nil_iff.mpr none

theorem length_served (frames : List Frame) :
    (served frames).length = frames.countP Thread.isServing := by
  rw [served, List.length_filterMap_eq_countP]
  exact List.countP_congr fun frame _ => by rw [frame.isSome_served?]

theorem served_drop (frames : List Frame) (count : Nat) :
    (served frames).drop ((frames.take count).countP Thread.isServing) =
      served (frames.drop count) := by
  have whole := congrArg served (List.take_append_drop count frames)
  rw [served_append] at whole
  rw [← whole, ← length_served, List.drop_left]

/-- Every served handler stands on the run that took it. -/
def Stacked : List Frame → Prop
  | [] => True
  | .serving context :: rest =>
    (∃ drive count below, rest = .driving context drive count :: below) ∧ Stacked rest
  | _ :: rest => Stacked rest

theorem Stacked.tail {frame : Frame} {rest : List Frame} (stacked : Stacked (frame :: rest)) :
    Stacked rest := by
  cases frame with
  | serving context => exact stacked.2
  | _ => exact stacked

theorem Stacked.drop {frames : List Frame} (stacked : Stacked frames) (count : Nat) :
    Stacked (frames.drop count) := by
  induction count generalizing frames with
  | zero => exact stacked
  | succ count ih =>
    cases frames with
    | nil => trivial
    | cons frame rest => exact ih stacked.tail

theorem Stacked.of_append {above rest : List Frame} (stacked : Stacked (above ++ rest)) :
    Stacked rest := by
  have dropped := stacked.drop above.length
  rwa [List.drop_left] at dropped

theorem Stacked.cons {frame : Frame} {rest : List Frame} (idle : frame.served? = none)
    (stacked : Stacked rest) : Stacked (frame :: rest) := by
  cases frame with
  | serving => cases idle
  | _ => exact stacked

theorem Stacked.append {above rest : List Frame}
    (idle : ∀ frame ∈ above, frame.served? = none) (stacked : Stacked rest) :
    Stacked (above ++ rest) := by
  induction above with
  | nil => exact stacked
  | cons frame above ih =>
    apply Stacked.cons (idle frame List.mem_cons_self)
    exact ih fun other member => idle other (List.mem_cons_of_mem _ member)

/-- The contexts that a thread is running are those of its stack. -/
structure Thread.Nested (thread : Thread) : Prop where
  stacked : Stacked thread.frames
  running : thread.running = served thread.frames

namespace Thread

theorem nested_of_runs {thread : Thread} (runs : thread.Runs) : thread.Nested := by
  obtain ⟨context, rfl⟩ := runs
  exact ⟨trivial, rfl⟩

theorem nested_fresh : ({} : Thread).Nested := ⟨trivial, rfl⟩

theorem Nested.mem_running_iff {thread : Thread} (nested : thread.Nested) {context : ContextId} :
    context ∈ thread.running ↔ .serving context ∈ thread.frames := by
  rw [nested.running, mem_served]

theorem served_countServed (rest : List Frame) : served (countServed rest) = served rest := by
  cases rest with
  | nil => rfl
  | cons frame rest => cases frame <;> rfl

theorem stacked_countServed {rest : List Frame} (stacked : Stacked rest) :
    Stacked (countServed rest) := by
  cases rest with
  | nil => trivial
  | cons frame rest => cases frame <;> exact stacked

theorem Nested.unwound {thread : Thread} (nested : thread.Nested) (kept : Nat) :
    thread.running.drop ((thread.gone kept).countP isServing) =
      served (thread.frames.drop (thread.frames.length - kept)) := by
  rw [nested.running, gone, served_drop]

end Thread

theorem Progress.nested {session later : Session} {thread next : Thread}
    {happenings : List Happening} (progress : Progress session thread later next happenings)
    (nested : thread.Nested) : next.Nested := by
  cases progress with
  | plain before few leaving after begun running grown =>
    have idle frame member := Frame.served?_of_call (begun frame member)
    have gone frame member := Frame.served?_of_plain (leaving frame member)
    have stacked := nested.stacked
    have contexts := nested.running
    rw [before] at stacked contexts
    rw [served_append, served_eq_nil gone, List.nil_append] at contexts
    constructor
    · rw [after]
      exact stacked.of_append.append idle
    · rw [running, contexts, after, served_append, served_eq_nil idle, List.nil_append]
  | takes before first turn after running system =>
    constructor
    · rw [after, before]
      exact ⟨⟨_, _, _, rfl⟩, before ▸ nested.stacked⟩
    · rw [running, after, nested.running]
      rfl
  | returns before why gives =>
    obtain ⟨after, running, _⟩ := Progress.of_gives gives
    have stacked := nested.stacked
    rw [before] at stacked
    constructor
    · rw [after]
      exact stacked.tail
    · rw [running, nested.running, before, after]
      rfl
  | serves before after running system =>
    have stacked := nested.stacked
    rw [before] at stacked
    constructor
    · rw [after]
      exact Thread.stacked_countServed stacked.tail
    · rw [running, nested.running, before, after, Thread.served_countServed]
      rfl
  | unwinds kept keeps after running system =>
    constructor
    · rw [after]
      exact nested.stacked.drop _
    · rw [running, nested.unwound kept, after]

namespace Machine

def Nested (machine : Machine) : Prop := ∀ thread ∈ machine.threads, thread.Nested

theorem Nested.reaction {machine later : Machine} {happenings : List Happening}
    (nested : machine.Nested) (reaction : Reaction machine later happenings) : later.Nested := by
  intro other member
  cases reaction with
  | moved found moved =>
    cases moved with
    | moves progress threads runs =>
      have before := nested _ (List.mem_of_getElem? found)
      rw [threads] at member
      rcases List.mem_append.mp member with known | started
      · rcases List.mem_or_eq_of_mem_set known with known | same
        · exact nested other known
        · exact same ▸ progress.nested before
      · exact Thread.nested_of_runs (runs other started)
  | came progress threads runs =>
    rw [threads] at member
    rcases List.mem_append.mp member with known | new
    · exact nested other known
    · rcases List.mem_cons.mp new with same | started
      · exact same ▸ progress.nested Thread.nested_fresh
      · exact Thread.nested_of_runs (runs other started)
  | worked grown threads =>
    rw [threads] at member
    exact nested other member

theorem Nested.react {machine : Machine} (nested : machine.Nested) (event : Event) :
    (machine.react event).Nested :=
  nested.reaction (machine.reaction event)

theorem Nested.after {machine : Machine} (nested : machine.Nested) (events : List Event) :
    (machine.after events).Nested := by
  induction events generalizing machine with
  | nil => exact nested
  | cons event rest ih => exact ih (nested.react event)

theorem nested_ofSession (session : Session) : (ofSession session).Nested := by
  intro thread member
  cases member

end Machine

end AsyncFiles.Script
