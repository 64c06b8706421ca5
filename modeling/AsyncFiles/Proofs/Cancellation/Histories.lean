import AsyncFiles.Proofs.Cancellation.Generations
import AsyncFiles.Proofs.Cancellation.Words
import Mathlib.Data.List.Basic
import Mathlib.Data.List.Induction

/-!
A source with its tokens from the beginning on. A token is live exactly if it was issued on a live
source, its source is live, and the changes since then make up whole rounds of generations; within
the first round that means that nothing was cancelled or destroyed.
-/
namespace AsyncFiles.Cancellation

inductive Move
  | issue
  | clone (token : Nat)
  | cancel
  | destroy
  | reset

namespace Source

def move (source : Source) : Move → Source
  | .issue | .clone _ => source
  | .cancel => source.cancel
  | .destroy => source.destroy
  | .reset => source.reset

def change (source : Source) : Move → Nat
  | .issue | .clone _ => 0
  | .cancel | .destroy => 1
  | .reset => if source.destroyed then 1 else 0

def after (source : Source) (moves : List Move) : Source := moves.foldl move source

def changes (source : Source) : List Move → Nat
  | [] => 0
  | move :: rest => source.change move + (source.move move).changes rest

theorem after_append (source : Source) (first rest : List Move) :
    source.after (first ++ rest) = (source.after first).after rest :=
  List.foldl_append

theorem changes_append (source : Source) (first rest : List Move) :
    source.changes (first ++ rest) = source.changes first + (source.after first).changes rest := by
  induction first generalizing source with
  | nil => simp [changes, after]
  | cons move more ih =>
    simp only [List.cons_append, changes, ih (source.move move), Nat.add_assoc]
    rfl

theorem later_move (source : Source) (move : Move) :
    source.Later (source.change move) (source.move move) := by
  cases move with
  | issue | clone _ => exact source.later_refl
  | cancel => exact source.later_cancel
  | destroy => exact source.later_destroy
  | reset =>
    by_cases live : source.destroyed = false
    · simp only [change, Source.move, live, reset_of_live live]
      exact source.later_refl
    · have ended : source.destroyed = true := by simpa using live
      simp only [change, ended, if_true]
      exact later_reset ended

theorem later_after (source : Source) (moves : List Move) :
    source.Later (source.changes moves) (source.after moves) := by
  induction moves generalizing source with
  | nil => exact source.later_refl
  | cons move rest ih => exact (source.later_move move).trans (ih (source.move move))

theorem Later.generation_eq_iff {source later : Source} {count : Nat}
    (changed : source.Later count later) :
    later.generation = source.generation ↔ 2 ^ 63 ∣ count := by
  rw [changed.generation, Nat.dvd_iff_mod_eq_zero]
  constructor
  · intro same
    have zero : BitVec.ofNat 63 count = 0#63 := BitVec.self_eq_add_right.mp same.symm
    have value := congrArg BitVec.toNat zero
    rwa [BitVec.toNat_ofNat, BitVec.toNat_zero] at value
  · intro whole
    have zero : BitVec.ofNat 63 count = 0#63 := by
      apply BitVec.eq_of_toNat_eq
      rw [BitVec.toNat_ofNat, whole, BitVec.toNat_zero]
    rw [zero, BitVec.add_zero]

theorem changes_eq_zero_iff {source : Source} (live : source.destroyed = false)
    (moves : List Move) :
    source.changes moves = 0 ↔ Move.cancel ∉ moves ∧ Move.destroy ∉ moves := by
  induction moves with
  | nil => simp [changes]
  | cons move rest ih =>
    cases move with
    | issue | clone _ => simpa [changes, change, Source.move] using ih
    | reset => simpa [changes, change, Source.move, reset_of_live live, live] using ih
    | cancel | destroy => simp [changes, change]

end Source

namespace Word

def move (word : Word) : Move → Word
  | .issue | .clone _ => word
  | .cancel => word.next
  | .destroy => word.destroy
  | .reset => word.reset

end Word

theorem Source.word_after (source : Source) (moves : List Move) :
    (source.after moves).word = moves.foldl Word.move source.word := by
  induction moves generalizing source with
  | nil => rfl
  | cons move rest ih =>
    have stepped : (source.move move).word = source.word.move move := by
      cases move with
      | issue | clone _ => rfl
      | cancel => exact source.word_cancel
      | destroy => exact source.word_destroy
      | reset => exact source.word_reset
    rw [List.foldl_cons, ← stepped]
    exact ih (source.move move)

namespace Token

theorem live_after_iff (source : Source) (moves : List Move) :
    source.token.isCancelled (source.after moves) = false ↔
      source.destroyed = false ∧ (source.after moves).destroyed = false ∧
        2 ^ 63 ∣ source.changes moves := by
  have whole := (source.later_after moves).generation_eq_iff
  rw [isCancelled_eq_false_iff]
  constructor
  · rintro ⟨same, live⟩
    have unchanged : source.after moves = source := same
    exact ⟨(congrArg Source.destroyed unchanged).symm.trans live, live,
      whole.mp (congrArg Source.generation unchanged)⟩
  · rintro ⟨before, live, round⟩
    refine ⟨?_, live⟩
    have generation := whole.mpr round
    have destroyed := live.trans before.symm
    calc
      source.after moves = ⟨(source.after moves).generation, (source.after moves).destroyed⟩ := rfl
      _ = ⟨source.generation, source.destroyed⟩ := by rw [generation, destroyed]

/-- In the first round a live token is one that nothing has ended. -/
theorem live_after_iff_of_few {source : Source} {moves : List Move}
    (few : source.changes moves < 2 ^ 63) :
    source.token.isCancelled (source.after moves) = false ↔
      source.destroyed = false ∧ Move.cancel ∉ moves ∧ Move.destroy ∉ moves := by
  rw [live_after_iff]
  constructor
  · rintro ⟨live, _, round⟩
    exact ⟨live, (Source.changes_eq_zero_iff live moves).mp (Nat.eq_zero_of_dvd_of_lt round few)⟩
  · rintro ⟨live, untouched⟩
    have none := (Source.changes_eq_zero_iff live moves).mpr untouched
    have unchanged := (source.later_after moves).unchanged none
    exact ⟨live, (congrArg Source.destroyed unchanged).trans live, none ▸ Nat.dvd_zero _⟩

end Token

structure Issued where
  token : Token
  moment : Nat

structure History where
  source : Source := {}
  tokens : List Issued := []
  length : Nat := 0

namespace History

/-- The tokens that a move adds. A copy keeps the moment of what it is a copy of. -/
def added (history : History) : Move → List Issued
  | .issue => [⟨history.source.token, history.length⟩]
  | .clone token => history.tokens[token]?.toList
  | .cancel | .destroy | .reset => []

def step (history : History) (move : Move) : History where
  source := history.source.move move
  tokens := history.tokens ++ history.added move
  length := history.length + 1

def run (moves : List Move) : History := moves.foldl step {}

def changesSince (moves : List Move) (moment : Nat) : Nat :=
  (run (moves.take moment)).source.changes (moves.drop moment)

theorem run_concat (moves : List Move) (move : Move) :
    run (moves ++ [move]) = (run moves).step move :=
  List.foldl_concat ..

theorem source_run (moves : List Move) : (run moves).source = ({} : Source).after moves := by
  induction moves using List.reverseRecOn with
  | nil => rfl
  | append_singleton moves move ih =>
    rw [run_concat, Source.after_append, ← ih]
    rfl

theorem length_run (moves : List Move) : (run moves).length = moves.length := by
  induction moves using List.reverseRecOn with
  | nil => rfl
  | append_singleton moves move ih =>
    rw [run_concat, List.length_append, ← ih]
    rfl

theorem source_since (moves : List Move) (moment : Nat) :
    (run moves).source = (run (moves.take moment)).source.after (moves.drop moment) := by
  rw [source_run, source_run, ← Source.after_append, List.take_append_drop]

theorem issued_of_mem {moves : List Move} {issued : Issued}
    (member : issued ∈ (run moves).tokens) :
    issued.moment < moves.length ∧
      issued.token = (run (moves.take issued.moment)).source.token := by
  induction moves using List.reverseRecOn with
  | nil => cases member
  | append_singleton moves move ih =>
    have earlier (known : issued ∈ (run moves).tokens) :
        issued.moment < (moves ++ [move]).length ∧
          issued.token = (run ((moves ++ [move]).take issued.moment)).source.token := by
      obtain ⟨before, stamp⟩ := ih known
      rw [List.take_append_of_le_length (Nat.le_of_lt before), List.length_append]
      exact ⟨Nat.lt_add_right _ before, stamp⟩
    rw [run_concat] at member
    rcases List.mem_append.mp member with known | added
    · exact earlier known
    · cases move with
      | issue =>
        have same := List.mem_singleton.mp added
        subst same
        have now : (run moves).length = moves.length := length_run moves
        simp [now]
      | clone token => exact earlier (List.mem_of_getElem? (Option.mem_toList.mp added))
      | cancel | destroy | reset => cases added

theorem mem_tokens_append {moves : List Move} {issued : Issued}
    (member : issued ∈ (run moves).tokens) (more : List Move) :
    issued ∈ (run (moves ++ more)).tokens := by
  induction more using List.reverseRecOn with
  | nil => simpa using member
  | append_singleton more move ih =>
    rw [← List.append_assoc, run_concat]
    exact List.mem_append_left _ ih

theorem issue_recorded {moves : List Move} {moment : Nat} (issued : moves[moment]? = some .issue) :
    ⟨(run (moves.take moment)).source.token, moment⟩ ∈ (run moves).tokens := by
  have within : moment < moves.length := (List.getElem?_eq_some_iff.mp issued).1
  have now : (run (moves.take moment)).length = moment := by
    rw [length_run, List.length_take, Nat.min_eq_left (Nat.le_of_lt within)]
  have next : moves.take (moment + 1) = moves.take moment ++ [.issue] := by
    rw [List.take_add_one, issued]
    rfl
  have recorded : ⟨(run (moves.take moment)).source.token, moment⟩ ∈
      (run (moves.take (moment + 1))).tokens := by
    rw [next, run_concat]
    apply List.mem_append_right
    rw [added, now]
    exact List.mem_singleton_self _
  have kept := mem_tokens_append recorded (moves.drop (moment + 1))
  rwa [List.take_append_drop] at kept

theorem live_iff {moves : List Move} {issued : Issued} (member : issued ∈ (run moves).tokens) :
    issued.token.isCancelled (run moves).source = false ↔
      (run (moves.take issued.moment)).source.destroyed = false ∧
        (run moves).source.destroyed = false ∧ 2 ^ 63 ∣ changesSince moves issued.moment := by
  rw [(issued_of_mem member).2, source_since moves issued.moment]
  exact Token.live_after_iff _ _

theorem live_iff_of_few {moves : List Move} {issued : Issued}
    (member : issued ∈ (run moves).tokens)
    (few : changesSince moves issued.moment < 2 ^ 63) :
    issued.token.isCancelled (run moves).source = false ↔
      (run (moves.take issued.moment)).source.destroyed = false ∧
        Move.cancel ∉ moves.drop issued.moment ∧ Move.destroy ∉ moves.drop issued.moment := by
  rw [(issued_of_mem member).2, source_since moves issued.moment]
  exact Token.live_after_iff_of_few few

theorem changesSince_append {moves : List Move} {moment : Nat} (within : moment ≤ moves.length)
    (more : List Move) :
    changesSince (moves ++ more) moment =
      changesSince moves moment + (run moves).source.changes more := by
  rw [changesSince, List.take_append_of_le_length within, List.drop_append_of_le_length within,
    Source.changes_append, ← source_since]
  rfl

theorem cancelled_stays {moves more : List Move} {issued : Issued}
    (member : issued ∈ (run moves).tokens)
    (cancelled : issued.token.isCancelled (run moves).source = true)
    (few : changesSince (moves ++ more) issued.moment < 2 ^ 63) :
    issued.token.isCancelled (run (moves ++ more)).source = true := by
  have within := Nat.le_of_lt (issued_of_mem member).1
  have before : changesSince moves issued.moment < 2 ^ 63 := by
    rw [changesSince_append within] at few
    omega
  by_contra live
  have untouched :=
    (live_iff_of_few (mem_tokens_append member more) few).mp (Bool.eq_false_iff.mpr live)
  rw [List.take_append_of_le_length within, List.drop_append_of_le_length within] at untouched
  have earlier : issued.token.isCancelled (run moves).source = false :=
    (live_iff_of_few member before).mpr
      ⟨untouched.1, fun found => untouched.2.1 (List.mem_append_left _ found),
        fun found => untouched.2.2 (List.mem_append_left _ found)⟩
  exact Bool.false_ne_true (earlier.symm.trans cancelled)

theorem cancelled_of_issued_destroyed {moves : List Move} {issued : Issued}
    (member : issued ∈ (run moves).tokens)
    (ended : (run (moves.take issued.moment)).source.destroyed = true) :
    issued.token.isCancelled (run moves).source = true := by
  by_contra live
  have issuedLive := ((live_iff member).mp (Bool.eq_false_iff.mpr live)).1
  exact Bool.false_ne_true (issuedLive.symm.trans ended)

theorem after_of_untouched {source : Source} {moves : List Move}
    (live : source.destroyed = false) (noCancel : Move.cancel ∉ moves)
    (noDestroy : Move.destroy ∉ moves) : source.after moves = source :=
  (source.later_after moves).unchanged
    ((Source.changes_eq_zero_iff live moves).mpr ⟨noCancel, noDestroy⟩)

theorem live_of_issued_later {moves more : List Move} {issued : Issued}
    (live : (run moves).source.destroyed = false)
    (noCancel : Move.cancel ∉ more) (noDestroy : Move.destroy ∉ more)
    (member : issued ∈ (run (moves ++ more)).tokens) (later : moves.length ≤ issued.moment) :
    issued.token.isCancelled (run (moves ++ more)).source = false := by
  have between (count : Nat) :
      (run (moves ++ more.take count)).source = (run moves).source := by
    rw [source_run, Source.after_append, ← source_run]
    exact after_of_untouched live (fun found => noCancel (List.mem_of_mem_take found))
      fun found => noDestroy (List.mem_of_mem_take found)
  have atIssue : (run ((moves ++ more).take issued.moment)).source = (run moves).source := by
    rw [List.take_append, List.take_of_length_le later]
    exact between _
  have atEnd : (run (moves ++ more)).source = (run moves).source := by
    simpa using between more.length
  rw [(issued_of_mem member).2, atIssue, atEnd, Token.isCancelled_eq_false_iff]
  exact ⟨rfl, live⟩

theorem live_of_revived (moves : List Move) {move : Move}
    (revives : move = .cancel ∨ move = .reset) :
    (run (moves ++ [move])).source.destroyed = false := by
  rw [run_concat]
  rcases revives with rfl | rfl
  · rfl
  · by_cases live : (run moves).source.destroyed = false
    · exact (congrArg Source.destroyed (Source.reset_of_live live)).trans live
    · have ended : (run moves).source.destroyed = true := by simpa using live
      simp [step, Source.move, Source.reset, ended]

structure Exact (moves : List Move) : Prop where
  word : (run moves).source.word = moves.foldl Word.move 0#64
  recorded : ∀ moment, moves[moment]? = some .issue →
    ⟨(run (moves.take moment)).source.token, moment⟩ ∈ (run moves).tokens
  stamped : ∀ issued ∈ (run moves).tokens,
    issued.token.snapshot.word = (moves.take issued.moment).foldl Word.move 0#64
  reading : ∀ issued ∈ (run moves).tokens,
    issued.token.isCancelled (run moves).source =
      Word.isCancelled issued.token.snapshot.word (moves.foldl Word.move 0#64)
  live : ∀ issued ∈ (run moves).tokens,
    issued.token.isCancelled (run moves).source = false ↔
      (run (moves.take issued.moment)).source.destroyed = false ∧
        (run moves).source.destroyed = false ∧ 2 ^ 63 ∣ changesSince moves issued.moment
  liveOfFew : ∀ issued ∈ (run moves).tokens, changesSince moves issued.moment < 2 ^ 63 →
    (issued.token.isCancelled (run moves).source = false ↔
      (run (moves.take issued.moment)).source.destroyed = false ∧
        Move.cancel ∉ moves.drop issued.moment ∧ Move.destroy ∉ moves.drop issued.moment)
  cancelledStays : ∀ issued ∈ (run moves).tokens,
    issued.token.isCancelled (run moves).source = true →
      ∀ more, changesSince (moves ++ more) issued.moment < 2 ^ 63 →
        issued.token.isCancelled (run (moves ++ more)).source = true
  /-- No round of changes revives a token that was issued while the source was destroyed. -/
  issuedDestroyed : ∀ issued ∈ (run moves).tokens,
    (run (moves.take issued.moment)).source.destroyed = true →
      ∀ more, issued.token.isCancelled (run (moves ++ more)).source = true
  revived : ∀ move, move = .cancel ∨ move = .reset →
    ∀ more, Move.cancel ∉ more → Move.destroy ∉ more →
      ∀ issued ∈ (run (moves ++ [move] ++ more)).tokens, moves.length < issued.moment →
        issued.token.isCancelled (run (moves ++ [move] ++ more)).source = false
  resetLive : (run moves).source.destroyed = false →
    (run (moves ++ [.reset])).source = (run moves).source

theorem tokens_exact (moves : List Move) : Exact moves where
  word := by
    rw [source_run]
    exact Source.word_after _ moves
  recorded _ issued := issue_recorded issued
  stamped issued member := by
    rw [(issued_of_mem member).2, source_run]
    exact Source.word_after _ _
  reading issued _ := by
    have word : (run moves).source.word = moves.foldl Word.move 0#64 := by
      rw [source_run]
      exact Source.word_after _ moves
    rw [Token.isCancelled_word, word]
  live _ member := live_iff member
  liveOfFew _ member few := live_iff_of_few member few
  cancelledStays _ member cancelled _ few := cancelled_stays member cancelled few
  issuedDestroyed issued member ended more := by
    apply cancelled_of_issued_destroyed (mem_tokens_append member more)
    rwa [List.take_append_of_le_length (Nat.le_of_lt (issued_of_mem member).1)]
  revived move revives more noCancel noDestroy issued member later := by
    apply live_of_issued_later (live_of_revived moves revives) noCancel noDestroy member
    rw [List.length_append]
    exact later
  resetLive live := by
    rw [run_concat]
    exact Source.reset_of_live live

end History

end AsyncFiles.Cancellation
