import AsyncFiles.Proofs.InOrder.Stage

namespace AsyncFiles

open Error Host

theorem sameKinds_performAll (host : Host) (operations : List (Operation Ticket)) :
    host.SameKinds (performAll host operations).2 := by
  induction operations generalizing host with
  | nil => exact .refl host
  | cons operation rest ih =>
    have same := operation.request.sameKinds_perform operation.handle operation.buffers host
    exact same.trans (ih (operation.perform host).2)

theorem performances_concat (log : List Entry) (entry : Entry) : performances (log ++ [entry]) =
    performances log ++ if entry.fate = .performed then [entry] else [] := by
  rw [performances, performances, List.filter_append]
  congr 1
  by_cases same : entry.fate = .performed <;> simp [same]

namespace Program

variable {first now later : Program} {service : ServiceId} {context : ContextId} {acts : List Act}
  {log : List Entry} {hand : Hand} {waiting left : List (Operation Ticket)} {host : Host}

namespace Recorded

theorem of_same (recorded : first.Recorded now context log left)
    (initiated : later.initiated = now.initiated) (invoked : later.invoked = now.invoked)
    (queue : (later.system.view context).queue = (now.system.view context).queue) :
    first.Recorded later context log left := by
  refine ⟨initiated ▸ recorded.issued, ?_⟩
  rw [invoked, queue]
  exact recorded.called

theorem submit (recorded : first.Recorded now context log left) (start : Initiation)
    (initiated : later.initiated = now.initiated ++ [start])
    (invoked : later.invoked = now.invoked)
    (queue : (later.system.view context).queue = (now.system.view context).queue) :
    first.Recorded later context log (left ++ [start.operation]) := by
  refine ⟨?_, ?_⟩
  · rw [initiated, List.map_append, recorded.issued, List.append_assoc]
    rfl
  · rw [invoked, queue]
    exact recorded.called

theorem finished {entry : Entry}
    (recorded : first.Recorded now context log (entry.operation :: left))
    (initiated : later.initiated = now.initiated) (invoked : later.invoked = now.invoked)
    (queue : (later.system.view context).queue =
      (now.system.view context).queue ++ [entry.invocation]) :
    first.Recorded later context (log ++ [entry]) left := by
  obtain ⟨called, before, order⟩ := recorded.called
  refine ⟨?_, called, invoked.trans before, ?_⟩
  · rw [initiated, recorded.issued]
    simp
  · rw [queue, ← List.append_assoc, order, List.map_append]
    rfl

theorem serve (recorded : first.Recorded now context log left) {invocation : Invocation Ticket}
    {rest : List (Invocation Ticket)} (initiated : later.initiated = now.initiated)
    (invoked : later.invoked = now.invoked ++ [(context, invocation)])
    (next : (now.system.view context).queue = invocation :: rest)
    (queue : (later.system.view context).queue = rest) :
    first.Recorded later context log left := by
  obtain ⟨called, before, order⟩ := recorded.called
  refine ⟨initiated ▸ recorded.issued, called ++ [invocation], ?_, ?_⟩
  · rw [invoked, before, List.map_append, List.append_assoc]
    rfl
  · rw [queue, ← order, next, List.append_assoc]
    rfl

end Recorded

namespace Replayed

theorem of_alike (replayed : first.Replayed service acts hand host log) {later : Host}
    (alike : host.Alike later) (act : Act) (ahead : Hand)
    (same : begun ahead.tasks = begun hand.tasks) :
    first.Replayed service (acts ++ [act]) ahead later log where
  performed := by
    rw [same]
    exact ⟨replayed.performed.1, replayed.performed.2.trans alike⟩
  aborted := replayed.aborted
  untouched := replayed.untouched
  cutOff entry member cut :=
    ⟨(replayed.cutOff entry member cut).1, (replayed.cutOff entry member cut).2.append act⟩

theorem finished (replayed : first.Replayed service acts hand host log) {later : Host}
    (alike : host.Alike later) (act : Act) (ahead : Hand)
    (same : begun ahead.tasks = begun hand.tasks) {entry : Entry}
    (other : entry.fate ≠ .performed)
    (aborted : entry.fate = .aborted ↔ entry.completion.result = .error .aborted)
    (untouched : entry.completion.buffers = entry.operation.buffers)
    (cutOff : entry.fate = .cutOff → entry.completion.result = .error (.ofErrno .badDescriptor) ∧
      CutOff first service acts entry.operation) :
    first.Replayed service (acts ++ [act]) ahead later (log ++ [entry]) := by
  have before := replayed.of_alike alike act ahead same
  refine ⟨?_, fun known member => ?_, fun known member fate => ?_, fun known member fate => ?_⟩
  · rw [performances_concat, if_neg other, List.append_nil]
    exact before.performed
  all_goals rcases List.mem_append.mp member with earlier | last
  · exact before.aborted known earlier
  · exact List.mem_singleton.mp last ▸ aborted
  · exact before.untouched known earlier fate
  · exact List.mem_singleton.mp last ▸ untouched
  · exact before.cutOff known earlier fate
  · obtain rfl := List.mem_singleton.mp last
    obtain ⟨result, cut⟩ := cutOff fate
    refine ⟨?_, cut.append act⟩
    rw [← result, ← untouched]

theorem perform (replayed : first.Replayed service acts hand host log) (act : Act)
    (operation : Operation Ticket) {later : Host}
    (same : (operation.perform (performAll first.system.host
      ((performances log).map Entry.operation)).2).1 = (operation.perform host).1)
    (alike : (operation.perform (performAll first.system.host
      ((performances log).map Entry.operation)).2).2.Alike later) (context : ContextId) :
    first.Replayed service (acts ++ [act]) (.delivered context) later
      (log ++ [⟨operation, (operation.perform host).1, .performed⟩]) := by
  have before := replayed.of_alike (.refl host) act hand rfl
  refine ⟨?_, fun known member => ?_, fun known member fate => ?_, fun known member fate => ?_⟩
  · rw [performances_concat, if_pos rfl, List.map_append, List.map_append, List.map_singleton,
      List.map_singleton, performAll_concat]
    exact ⟨by rw [same, replayed.performed.1], alike⟩
  all_goals rcases List.mem_append.mp member with earlier | last
  · exact before.aborted known earlier
  · obtain rfl := List.mem_singleton.mp last
    have moved : (operation.perform host).1.result ≠ .error .aborted :=
      operation.request.perform_ne_aborted operation.handle operation.buffers host
    simp [moved]
  · exact before.untouched known earlier fate
  · rw [List.mem_singleton.mp last] at fate
    cases fate
  · exact before.cutOff known earlier fate
  · rw [List.mem_singleton.mp last] at fate
    cases fate

section

variable {operation : Operation Ticket}
  (replayed : first.Replayed service acts (.admitted operation) now.system.host log)

include replayed

/-- Between the files as they are and those that the direct run has left, a transfer through a
handle that its file has kept makes no difference. -/
theorem alike_direct (setting : first.Setting now service context)
    (intact : now.system.Intact operation) :
    let direct := (performAll first.system.host ((performances log).map Entry.operation)).2
    direct.Alike now.system.host ∧
      now.system.host.descriptor? operation.handle.raw =
        direct.descriptor? operation.handle.raw ∧ direct.SameEnds now.system.host := by
  intro direct
  have kinds : first.system.host.SameKinds direct := sameKinds_performAll ..
  refine ⟨replayed.performed.2, ?_, kinds.sameEnds.symm.trans setting.ends⟩
  have before : direct.descriptor? operation.handle.raw =
      first.system.host.descriptor? operation.handle.raw := by
    simp only [descriptor?, kinds.descriptors]
  rw [before]
  by_cases opened : operation.handle.isOpen = true
  · have own := setting.descriptors operation.state
    rw [show (now.system.state operation.state).handle = operation.handle from intact] at own
    exact own opened
  · rw [FileHandle.eq_closed opened]
    rfl

theorem transfer_intact (setting : first.Setting now service context)
    (intact : now.system.Intact operation) (act : Act) (context : ContextId) :
    first.Replayed service (acts ++ [act]) (.delivered context)
      (operation.perform now.system.host).2
      (log ++ [⟨operation, (operation.perform now.system.host).1, .performed⟩]) := by
  obtain ⟨alike, descriptor, ends⟩ := replayed.alike_direct setting intact
  obtain ⟨result, buffers, later⟩ :=
    Request.perform_alike alike descriptor ends operation.request operation.buffers
  exact replayed.perform act operation (by simp only [Operation.perform, result, buffers]) later
    context

theorem stall (setting : first.Setting now service context)
    (intact : now.system.Intact operation) (act : Act) (call : Stalled) :
    first.Replayed service (acts ++ [act]) (.stalled operation call)
      (operation.request.attempt operation.handle operation.buffers now.system.host).2 log := by
  obtain ⟨alike, descriptor, ends⟩ := replayed.alike_direct setting intact
  have before := replayed.of_alike (.refl _) act _ rfl
  exact ⟨⟨replayed.performed.1, (Request.attempt_alike alike descriptor ends operation.request
    operation.buffers).2⟩, before.aborted, before.untouched, before.cutOff⟩

/-- The transfer of an operation whose descriptor is gone moves nothing, unless the request would
not have reached the host at all. -/
theorem transfer_shut (cut : CutOff first service acts operation)
    (shut : now.system.host.descriptor? operation.handle.raw = none) (act : Act)
    (context : ContextId) : ∃ fate,
      first.Replayed service (acts ++ [act]) (.delivered context)
        (operation.perform now.system.host).2
        (log ++ [⟨operation, (operation.perform now.system.host).1, fate⟩]) := by
  cases reaches : operation.request.reaches operation.handle with
  | false =>
    obtain ⟨error, _, refused⟩ := Request.perform_refused reaches operation.buffers
    refine ⟨.performed, replayed.perform act operation ?_ ?_ context⟩
    · simp only [Operation.perform, refused]
    · simp only [Operation.perform, refused]
      exact replayed.performed.2
  | true =>
    obtain ⟨result, buffers, alike⟩ := Request.perform_shut reaches shut operation.buffers
    refine ⟨.cutOff, replayed.finished alike act (.delivered context) rfl (by simp) ?_
      buffers fun _ => ⟨result, cut⟩⟩
    have moved : (operation.perform now.system.host).1.result ≠ .error .aborted :=
      operation.request.perform_ne_aborted operation.handle operation.buffers now.system.host
    simp [moved]

end

end Replayed

end Program

end AsyncFiles
