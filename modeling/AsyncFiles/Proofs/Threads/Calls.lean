import AsyncFiles.Proofs.Threads.Stacks

/-!
Calls on a stack. What a caller has below a call stays as it is as long as anything of the call is
left, whatever the call does. It ends by handing the thread back, or a panic takes it away and may
take its callers too.
-/
namespace AsyncFiles.Script

/-- A caller stands right below its call: a body, or nobody. -/
def Caller : List Frame → Prop
  | [] | .body _ _ :: _ => True
  | _ => False

/-- Something is left of a call that was made on a stack. -/
def Above (frames rest : List Frame) : Prop := ∃ above, above ≠ [] ∧ frames = above ++ rest

theorem above_cons (frame : Frame) (rest : List Frame) : Above (frame :: rest) rest :=
  ⟨[frame], List.cons_ne_nil _ _, rfl⟩

/-- A stack after a call: that of the caller, or less where a panic goes on. -/
def Over (thread : Thread) (happenings : List Happening) (rest frames : List Frame) : Prop :=
  frames = rest ∨
    ∃ kept < rest.length, happenings = (thread.gone kept).map .unwound ∧
      frames = rest.drop (rest.length - kept)

theorem above_or_over_append (thread : Thread) (happenings : List Happening)
    (above rest : List Frame) :
    Above (above ++ rest) rest ∨ Over thread happenings rest (above ++ rest) := by
  cases above with
  | nil => exact .inr (.inl rfl)
  | cons frame above => exact .inl ⟨frame :: above, List.cons_ne_nil _ _, rfl⟩

theorem Progress.above_or_over {session later : Session} {thread next : Thread}
    {happenings : List Happening} (progress : Progress session thread later next happenings)
    (stacked : Stacked thread.frames) {rest : List Frame} (caller : Caller rest)
    (above : Above thread.frames rest) :
    Above next.frames rest ∨ Over thread happenings rest next.frames := by
  obtain ⟨call, some, frames⟩ := above
  obtain ⟨top, more, rfl⟩ := List.exists_cons_of_ne_nil some
  cases progress with
  | @plain _ _ left calls below _ before few leaving after begun running grown =>
    rw [after]
    rw [before] at frames
    cases left with
    | nil =>
      have same : below = (top :: more) ++ rest := frames
      rw [same, ← List.append_assoc]
      exact above_or_over_append _ _ _ rest
    | cons frame others =>
      have none : others = [] := List.eq_nil_of_length_eq_zero (by simpa using few)
      have same : below = more ++ rest := by
        rw [none, List.cons_append, List.cons_append] at frames
        exact (List.cons.inj frames).2
      rw [same, ← List.append_assoc]
      exact above_or_over_append _ _ _ rest
  | takes before first turn after running system =>
    rw [after, frames]
    exact above_or_over_append _ _ (_ :: _ :: top :: more) rest
  | returns before why gives =>
    obtain ⟨after, _⟩ := Progress.of_gives gives
    rw [before, List.cons_append] at frames
    rw [after, (List.cons.inj frames).2]
    exact above_or_over_append _ _ more rest
  | serves before after running system =>
    rw [before] at stacked
    rw [before, List.cons_append] at frames
    have same := (List.cons.inj frames).2
    rw [after, same]
    cases more with
    | nil =>
      -- The run that took the handler would be the caller.
      obtain ⟨⟨drive, count, below, run⟩, _⟩ := stacked
      rw [same, List.nil_append] at run
      rw [run] at caller
      exact caller.elim
    | cons frame more =>
      left
      cases frame <;> exact ⟨_ :: more, List.cons_ne_nil _ _, rfl⟩
  | unwinds kept keeps after running system =>
    rw [after, frames, List.length_append]
    rcases Nat.lt_or_ge kept rest.length with beyond | within
    · right
      right
      refine ⟨kept, beyond, rfl, ?_⟩
      rw [List.drop_append, List.drop_eq_nil_of_le (by omega), List.nil_append]
      congr 1
      omega
    · have none : (top :: more).length + rest.length - kept - (top :: more).length = 0 := by
        omega
      rw [List.drop_append, none, List.drop_zero]
      exact above_or_over_append _ _ _ rest

theorem getElem?_set_append {α : Type} {list more : List α} {index : Nat} {before : α}
    (present : list[index]? = some before) (after : α) :
    (list.set index after ++ more)[index]? = some after := by
  have bound : index < list.length := (List.getElem?_eq_some_iff.mp present).1
  rw [List.getElem?_append_left (by rwa [List.length_set]), List.getElem?_set_self bound]

theorem Reaction.thread {machine later : Machine} {happenings : List Happening}
    (reaction : Reaction machine later happenings) {index : Nat} {thread : Thread}
    (found : machine.threads[index]? = some thread) :
    ∃ next, later.threads[index]? = some next ∧
      (next = thread ∨ Progress machine.session thread later.session next happenings) := by
  have bound : index < machine.threads.length := (List.getElem?_eq_some_iff.mp found).1
  cases reaction with
  | @moved other _ _ present moved =>
    cases moved with
    | @moves next started progress threads runs =>
      rw [threads]
      by_cases here : other = index
      · subst here
        cases found.symm.trans present
        exact ⟨next, getElem?_set_append found next, .inr progress⟩
      · have within : index < (machine.threads.set other next).length := by
          rwa [List.length_set]
        rw [List.getElem?_append_left within, List.getElem?_set_ne here]
        exact ⟨thread, found, .inl rfl⟩
  | came progress threads runs =>
    rw [threads, List.getElem?_append_left bound]
    exact ⟨thread, found, .inl rfl⟩
  | worked grown threads =>
    rw [threads]
    exact ⟨thread, found, .inl rfl⟩

namespace Machine

def Calling (machine : Machine) (index : Nat) (rest : List Frame) : Prop :=
  ∃ thread, machine.threads[index]? = some thread ∧ Above thread.frames rest

/-- An event with which a call on a thread is over. Back at its caller the thread runs the contexts
that it ran before the call, also where a panic only passes there on its way to other callers. -/
structure Ends (machine : Machine) (event : Event) (index : Nat) (rest : List Frame)
    (running : List ContextId) (before after : Thread) : Prop where
  found : machine.threads[index]? = some before
  above : Above before.frames rest
  next : (machine.react event).threads[index]? = some after
  ended : Over before (machine.happenings event) rest after.frames
  restored : after.frames = rest → after.running = running
  passed : ∀ text session, (before.unwindTo rest.length text session).2.frames = rest ∧
    (before.unwindTo rest.length text session).2.running = running

/-- A call is on a thread until it ends, whatever happens. -/
def Awaited (machine : Machine) (index : Nat) (rest : List Frame) (running : List ContextId) :
    Prop :=
  ∀ events, (machine.after events).Calling index rest ∨
    ∃ first event last before after, events = first ++ event :: last ∧
      (machine.after first).Ends event index rest running before after

theorem calling_or_ends {machine : Machine} (nested : machine.Nested) {index : Nat}
    {rest : List Frame} (caller : Caller rest) (calling : machine.Calling index rest)
    (event : Event) :
    (machine.react event).Calling index rest ∨
      ∃ before after, machine.Ends event index rest (served rest) before after := by
  obtain ⟨thread, found, above⟩ := calling
  have inside := nested thread (List.mem_of_getElem? found)
  obtain ⟨next, present, same | progress⟩ := (machine.reaction event).thread found
  · exact .inl ⟨next, present, same ▸ above⟩
  · rcases progress.above_or_over inside.stacked caller above with goes | ended
    · exact .inl ⟨next, present, goes⟩
    · refine .inr ⟨thread, next, found, above, present, ended, ?_, ?_⟩
      · intro back
        rw [(progress.nested inside).running, back]
      · obtain ⟨call, _, frames⟩ := above
        have dropped : thread.frames.drop (thread.frames.length - rest.length) = rest := by
          rw [frames, List.length_append, Nat.add_sub_cancel, List.drop_left]
        intro text session
        exact ⟨dropped, (inside.unwound rest.length).trans (congrArg served dropped)⟩

theorem awaited_of_calling {machine : Machine} (nested : machine.Nested) {index : Nat}
    {rest : List Frame} (caller : Caller rest) (calling : machine.Calling index rest) :
    machine.Awaited index rest (served rest) := by
  intro events
  induction events generalizing machine with
  | nil => exact .inl calling
  | cons event events ih =>
    rcases calling_or_ends nested caller calling event with goes | ⟨before, after, ends⟩
    · rcases ih (nested.react event) goes with later | ⟨first, last, more, before, after, rfl, ends⟩
      · exact .inl later
      · exact .inr ⟨event :: first, last, more, before, after, rfl, ends⟩
    · exact .inr ⟨[], event, events, before, after, rfl, ends⟩

end Machine

end AsyncFiles.Script
