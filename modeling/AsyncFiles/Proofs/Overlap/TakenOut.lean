import AsyncFiles.Proofs.Overlap.Steps

namespace AsyncFiles.Overlap

open Cancellation

theorem closed_of_isOpen {handle : FileHandle} (shut : handle.isOpen = false) :
    handle = .closed := by
  cases handle
  simpa [FileHandle.isOpen, FileHandle.closed] using shut

namespace Progress

def token? : Progress → Option Token
  | .stamped token | .captured token _ | .queued token _ => some token
  | _ => none

def handle? : Progress → Option FileHandle
  | .captured _ handle | .queued _ handle => some handle
  | _ => none

theorem token_next {progress : Progress} {state : FileState} {token : Token}
    (found : (progress.next state).2.token? = some token) : progress.token? = some token := by
  cases progress with
  | queued other handle =>
    simp only [next] at found
    split at found <;> simp [token?] at found
  | _ => simp_all [next, token?]

theorem handle_next {progress : Progress} {state : FileState} {handle : FileHandle}
    (found : (progress.next state).2.handle? = some handle) :
    handle = state.handle ∨ progress.handle? = some handle := by
  cases progress with
  | stamped token => exact .inl (by simpa [next, handle?] using found.symm)
  | queued token other =>
    simp only [next] at found
    split at found <;> simp [handle?] at found
  | _ => simp_all [next, handle?]

theorem next_ne_leaving (progress : Progress) (state : FileState) :
    (progress.next state).2 ≠ .leaving := by
  cases progress with
  | queued token handle =>
    simp only [next]
    split <;> simp
  | _ => simp [next]

theorem held_next {progress : Progress} (calm : progress ≠ .leaving) (state : FileState) :
    (progress.next state).1.handle = state.handle := by
  cases progress with
  | leaving => contradiction
  | _ => rfl

end Progress

namespace Shared

theorem length_step (shared : Shared) (move : Move) :
    shared.calls.length ≤ (shared.step move).calls.length := by
  cases move with
  | leave | cancel | submit => simp [step, begin]
  | enter handle =>
    simp only [step]
    split <;> simp [begin]
  | advance call =>
    simp only [step, advance]
    split <;> simp

theorem call_step {shared : Shared} {move : Move} {call : Nat} {later : Progress}
    (bound : call < shared.calls.length) (found : (shared.step move).calls[call]? = some later) :
    shared.calls[call]? = some later ∨
      ∃ progress, shared.calls[call]? = some progress ∧
        later = (progress.next shared.state).2 := by
  cases move with
  | leave | cancel | submit =>
    left
    simpa [step, begin, List.getElem?_append_left bound] using found
  | enter handle =>
    left
    revert found
    simp only [step]
    split <;> simp [begin, List.getElem?_append_left bound]
  | advance acting =>
    cases present : shared.calls[acting]? with
    | none => exact .inl (by simpa [step, advance, present] using found)
    | some progress =>
      rw [step, advance_eq present] at found
      by_cases own : acting = call
      · subst own
        exact .inr ⟨progress, present, by simpa [bound] using found.symm⟩
      · exact .inl (by simpa [List.getElem?_set_ne own] using found)

structure Bears (shared : Shared) (call : Nat) (token : Token) : Prop where
  bound : call < shared.calls.length
  same : ∀ progress other, shared.calls[call]? = some progress →
    progress.token? = some other → other = token

/-- No close or release is half way, and what the call has captured is no handle or the one that is
held. -/
structure Guarded (shared : Shared) (call : Nat) : Prop where
  bound : call < shared.calls.length
  calm : Progress.leaving ∉ shared.calls
  held : ∀ progress handle, shared.calls[call]? = some progress →
    progress.handle? = some handle → handle = .closed ∨ handle = shared.state.handle

theorem bears_step {shared : Shared} {call : Nat} {token : Token}
    (bears : shared.Bears call token) (move : Move) : (shared.step move).Bears call token := by
  refine ⟨Nat.lt_of_lt_of_le bears.bound (shared.length_step move),
    fun later other found bore => ?_⟩
  rcases call_step bears.bound found with before | ⟨progress, before, rfl⟩
  · exact bears.same later other before bore
  · exact bears.same progress other before (Progress.token_next bore)

theorem calm_step {shared : Shared} {move : Move} (calm : Progress.leaving ∉ shared.calls)
    (still : shared.change move = 0) : Progress.leaving ∉ (shared.step move).calls := by
  have source := source_of_change_zero still
  cases move with
  | leave => exact absurd source (Source.destroy_ne _)
  | enter handle =>
    simp only [step]
    split <;> simp [begin, calm]
  | cancel =>
    simp only [step]
    split <;> simp [begin, calm]
  | submit => simp [step, begin, calm]
  | advance acting =>
    cases present : shared.calls[acting]? with
    | none => simpa [step, advance, present] using calm
    | some progress =>
      rw [step, advance_eq present]
      intro member
      rcases List.mem_or_eq_of_mem_set member with before | same
      · exact calm before
      · exact progress.next_ne_leaving shared.state same.symm

theorem held_step {shared : Shared} (move : Move) (calm : Progress.leaving ∉ shared.calls) :
    (shared.step move).state.handle = shared.state.handle ∨ shared.state.handle = .closed := by
  cases move with
  | leave | cancel | submit => exact .inl rfl
  | enter handle =>
    by_cases present : shared.state.handle.isOpen = true
    · exact .inl (by simp [step, FileState.install?, present, begin])
    · exact .inr (closed_of_isOpen (by simpa using present))
  | advance acting =>
    left
    cases present : shared.calls[acting]? with
    | none => simp [step, advance, present]
    | some progress =>
      rw [step, advance_eq present]
      exact Progress.held_next
        (fun same => calm (same ▸ List.mem_of_getElem? present)) shared.state

theorem guarded_step {shared : Shared} {call : Nat} (guarded : shared.Guarded call) {move : Move}
    (still : shared.change move = 0) : (shared.step move).Guarded call := by
  refine ⟨Nat.lt_of_lt_of_le guarded.bound (shared.length_step move),
    calm_step guarded.calm still, fun later handle found has => ?_⟩
  have captured : handle = .closed ∨ handle = shared.state.handle := by
    rcases call_step guarded.bound found with before | ⟨progress, before, rfl⟩
    · exact guarded.held later handle before has
    · rcases Progress.handle_next has with now | earlier
      · exact .inr now
      · exact guarded.held progress handle before earlier
  rcases held_step move guarded.calm with stays | empty
  · rwa [stays]
  · left
    rcases captured with closed | held
    · exact closed
    · rw [held, empty]

theorem bears_run {shared : Shared} {call : Nat} {token : Token}
    (bears : shared.Bears call token) (moves : List Move) :
    (shared.run moves).Bears call token := by
  induction moves generalizing shared with
  | nil => exact bears
  | cons move rest ih => exact ih (bears_step bears move)

theorem guarded_run {shared : Shared} {call : Nat} (guarded : shared.Guarded call)
    {moves : List Move} (still : shared.changes moves = 0) : (shared.run moves).Guarded call := by
  induction moves generalizing shared with
  | nil => exact guarded
  | cons move rest ih =>
    rw [changes_cons] at still
    exact ih (guarded_step guarded (by omega)) (by omega)

/-- A close or a release stands between its two halves although the source is live: it was revived
after the close had destroyed it. -/
def Exposed (shared : Shared) : Prop :=
  shared.state.source.destroyed = false ∧ Progress.leaving ∈ shared.calls

theorem bears_submit (shared : Shared) :
    (shared.step .submit).Bears shared.calls.length shared.state.source.token where
  bound := by simp [step, begin]
  same progress other found bore := by
    have first : progress = .stamped shared.state.source.token := by
      simpa [step, begin] using found.symm
    subst first
    simpa [Progress.token?] using bore.symm

theorem guarded_submit {shared : Shared} (calm : Progress.leaving ∉ shared.calls) :
    (shared.step .submit).Guarded shared.calls.length where
  bound := by simp [step, begin]
  calm := by simp [step, begin, calm]
  held progress handle found has := by
    have first : progress = .stamped shared.state.source.token := by
      simpa [step, begin] using found.symm
    subst first
    simp [Progress.handle?] at has

theorem changes_of_passes {shared : Shared} {moves : List Move} {handle : FileHandle}
    (few : (shared.step .submit).changes moves < 2 ^ 63)
    (passes : ((shared.step .submit).run moves).Passes shared.calls.length handle) :
    (shared.step .submit).changes moves = 0 ∧ shared.state.source.destroyed = false := by
  obtain ⟨token, queued, live⟩ := passes
  have bears := bears_run shared.bears_submit moves
  have issued : token = shared.state.source.token := bears.same _ _ queued rfl
  subst issued
  obtain ⟨same, alive⟩ := (Token.isCancelled_eq_false_iff _ _).mp live
  have later := (shared.step .submit).run_later moves
  refine ⟨(later.eq_iff few).mp same, ?_⟩
  rw [same] at alive
  exact alive

theorem enter_open (shared : Shared) (handle : FileHandle) (valid : handle.isOpen = true) :
    ∃ state progress, shared.step (.enter handle) = ⟨state, shared.calls ++ [progress]⟩ ∧
      state.source = shared.state.source ∧ state.handle.isOpen = true := by
  by_cases present : shared.state.handle.isOpen = true
  · exact ⟨shared.state, .finished, by simp [step, FileState.install?, present, begin], rfl,
      present⟩
  · exact ⟨{ shared.state with handle }, .entering,
      by simp [step, FileState.install?, present, begin], rfl, valid⟩

/-- In an exposed state a submission can capture the handle before the close takes it out, and still
find its token live. -/
theorem taken_out_of_exposed {shared : Shared} (exposed : shared.Exposed) :
    ∃ moves handle, (shared.step .submit).changes moves = 0 ∧
      ((shared.step .submit).run moves).Passes shared.calls.length handle ∧
      handle.isOpen = true ∧ ((shared.step .submit).run moves).state.handle = .closed := by
  obtain ⟨live, leaving⟩ := exposed
  obtain ⟨close, bound, found⟩ := List.mem_iff_getElem.mp leaving
  obtain ⟨state, other, entered, source, present⟩ :=
    enter_open (shared.step .submit) ⟨0⟩ rfl
  let token := shared.state.source.token
  have first : (shared.step .submit).step (.enter ⟨0⟩) =
      ⟨state, shared.calls ++ [.stamped token, other]⟩ := by
    rw [entered]
    simp [step, begin, token]
  have second : Shared.step ⟨state, shared.calls ++ [.stamped token, other]⟩
      (.advance shared.calls.length) =
      ⟨state, shared.calls ++ [.captured token state.handle, other]⟩ := by
    simp [step, advance, Progress.next]
  have third : Shared.step ⟨state, shared.calls ++ [.captured token state.handle, other]⟩
      (.advance shared.calls.length) =
      ⟨state, shared.calls ++ [.queued token state.handle, other]⟩ := by
    simp [step, advance, Progress.next]
  have fourth : Shared.step ⟨state, shared.calls ++ [.queued token state.handle, other]⟩
      (.advance close) =
      ⟨state.takeHandle.2,
        shared.calls.set close .finished ++ [.queued token state.handle, other]⟩ := by
    simp [step, advance, List.getElem?_append_left bound, bound, found, Progress.next,
      List.set_append_left _ _ bound]
  refine ⟨[.enter ⟨0⟩, .advance shared.calls.length, .advance shared.calls.length, .advance close],
    state.handle, ?_, ⟨token, ?_, ?_⟩, present, ?_⟩
  · simp only [changes, change, first, second, third, fourth]
    simp [source, FileState.takeHandle]
  all_goals simp only [run_cons, run_nil, first, second, third, fourth]
  · simp
  · refine (Token.isCancelled_eq_false_iff _ _).mpr ⟨source, ?_⟩
    change state.source.destroyed = false
    rw [source]
    exact live
  · rfl

def TakesOut (shared : Shared) (moves : List Move) : Prop :=
  ∃ before call after, moves = before ++ .advance call :: after ∧
    (shared.run before).calls[call]? = some .leaving

theorem takesOut_cons {shared : Shared} {move : Move} {rest : List Move} :
    shared.TakesOut (move :: rest) ↔
      (∃ call, move = .advance call ∧ shared.calls[call]? = some .leaving) ∨
        (shared.step move).TakesOut rest := by
  constructor
  · rintro ⟨before, call, after, same, leaving⟩
    cases before with
    | nil =>
      cases same
      exact .inl ⟨call, rfl, leaving⟩
    | cons first before =>
      cases same
      exact .inr ⟨before, call, after, rfl, leaving⟩
  · rintro (⟨call, rfl, leaving⟩ | ⟨before, call, after, rfl, leaving⟩)
    · exact ⟨[], call, rest, rfl, leaving⟩
    · exact ⟨move :: before, call, after, rfl, leaving⟩

theorem open_step {shared : Shared} (present : shared.state.handle.isOpen = true) (move : Move) :
    (shared.step move).state.handle = shared.state.handle ↔
      ¬ ∃ call, move = .advance call ∧ shared.calls[call]? = some .leaving := by
  cases move with
  | leave | cancel | submit => simp [step, begin, FileState.endSource]
  | enter handle => simp [step, FileState.install?, present, begin]
  | advance acting =>
    cases found : shared.calls[acting]? with
    | none => simp [step, advance, found]
    | some progress =>
      rw [step, advance_eq found]
      by_cases leaves : progress = .leaving
      · subst leaves
        have gone : FileHandle.closed ≠ shared.state.handle := by
          intro same
          rw [← same] at present
          exact absurd present (by decide)
        simpa [found, Progress.next, FileState.takeHandle] using gone
      · simp [found, leaves, Progress.held_next leaves]

/-- The handle that is held is held throughout some moves if and only if no close and no release
takes it out within them. -/
theorem stays_held_iff {shared : Shared} (present : shared.state.handle.isOpen = true)
    (moves : List Move) :
    (∀ count, (shared.run (moves.take count)).state.handle = shared.state.handle) ↔
      ¬ shared.TakesOut moves := by
  induction moves generalizing shared with
  | nil =>
    refine ⟨fun _ => ?_, fun _ count => by simp⟩
    rintro ⟨before, call, after, same, _⟩
    simp at same
  | cons move rest ih =>
    rw [takesOut_cons, not_or, ← open_step present move]
    constructor
    · intro held
      have kept : (shared.step move).state.handle = shared.state.handle := by
        simpa using held 1
      refine ⟨kept, (ih (kept ▸ present)).mp fun count => ?_⟩
      rw [kept]
      simpa using held (count + 1)
    · rintro ⟨kept, spared⟩ count
      cases count with
      | zero => rfl
      | succ count =>
        rw [← kept]
        simpa using (ih (kept ▸ present)).mpr spared count

/-- An operation that finds its token live has captured no handle or the one that is held, if and
only if no close or release stood between its two halves with the source live when the operation's
token was taken. From then on the handle is held as long as no close or release takes it out, which
may still come before the operation's system call. -/
theorem starts_on_held_handle_iff (shared : Shared) :
    ((∀ moves handle, (shared.step .submit).changes moves < 2 ^ 63 →
      ((shared.step .submit).run moves).Passes shared.calls.length handle →
      handle = .closed ∨ handle = ((shared.step .submit).run moves).state.handle) ↔
    ¬ (shared.state.source.destroyed = false ∧ Progress.leaving ∈ shared.calls)) ∧
    (shared.state.handle.isOpen = true → ∀ moves,
      ((∀ count, (shared.run (moves.take count)).state.handle = shared.state.handle) ↔
        ¬ shared.TakesOut moves)) := by
  refine ⟨⟨?_, ?_⟩, stays_held_iff⟩
  · intro meets exposed
    obtain ⟨moves, handle, still, passes, present, gone⟩ := taken_out_of_exposed exposed
    have shut : handle = .closed := by
      rcases meets moves handle (by omega) passes with closed | held
      · exact closed
      · rw [held, gone]
    rw [shut] at present
    exact absurd present (by decide)
  · intro sheltered moves handle few passes
    obtain ⟨still, live⟩ := changes_of_passes few passes
    have calm : Progress.leaving ∉ shared.calls := fun leaving => sheltered ⟨live, leaving⟩
    have guarded := guarded_run (guarded_submit calm) still
    obtain ⟨token, queued, _⟩ := passes
    exact guarded.held _ handle queued rfl

end Shared

/-- An open file; a cancellation has found it open when a close destroys the source, and revives the
source. An operation is submitted, and only then the close takes the handle out. -/
def revivedClose : List Move :=
  [.enter ⟨5⟩, .advance 0, .cancel, .leave, .advance 1, .submit, .advance 3, .advance 3, .advance 2]

/-- An operation on an open file is admitted; then a close takes the handle out. -/
def lateClose : List Move :=
  [.enter ⟨5⟩, .advance 0, .submit, .advance 1, .advance 1, .advance 1, .leave, .advance 2]

/-- The token check lets an operation pass whose handle a close has taken out. An operation that it
has rightly let pass can still come to its system call after a close has taken its handle out. -/
theorem starts_on_handle_taken_out :
    ((Shared.run {} revivedClose).Passes 3 ⟨5⟩ ∧
      (Shared.run {} revivedClose).state.handle = .closed) ∧
    ((Shared.run {} lateClose).calls[1]? = some (.admitted ⟨5⟩) ∧
      (Shared.run {} lateClose).state.handle = .closed) :=
  ⟨⟨⟨⟨⟨2, false⟩⟩, by decide, by decide⟩, by decide⟩, by decide, by decide⟩

end AsyncFiles.Overlap
