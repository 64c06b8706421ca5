import AsyncFiles.Script.Command
import Mathlib.Algebra.GroupWithZero.Nat

/-!
How forests of handlers grow. A body posts and dispatches, and so do the handlers that it carries.
Serving a handler puts into the queue what its body posts, itself or by handlers that it dispatches:
the next generation. A body carries so many handlers and no more, so that a forest dies out.
-/
namespace AsyncFiles.Script

/-- A body posts and dispatches on one context, and so do the handlers that it carries. -/
inductive Plants (contexts : Names ContextId) (context : ContextId) : List Command → Prop
  | nothing : Plants contexts context []
  | post {name handler : Name} {body rest : List Command}
    (own : contexts.get? name = some context) (child : Plants contexts context body)
    (onwards : Plants contexts context rest) :
    Plants contexts context (.post name handler body :: rest)
  | dispatch {name handler : Name} {body rest : List Command}
    (own : contexts.get? name = some context) (child : Plants contexts context body)
    (onwards : Plants contexts context rest) :
    Plants contexts context (.dispatch name handler body :: rest)

mutual

/-- The handlers that a command puts into the queue: the one that it posts, or those of the one that
it dispatches. -/
def Command.seeds : Command → List Handler
  | .post _ name body => [{ name, body }]
  | .dispatch _ _ body => seeds body
  | _ => []

def seeds : List Command → List Handler
  | [] => []
  | command :: rest => command.seeds ++ seeds rest

end

mutual

/-- How many handlers go through the queue on behalf of a command. -/
def Command.crop : Command → Nat
  | .post _ _ body => 1 + crops body
  | .dispatch _ _ body => crops body
  | _ => 0

def crops : List Command → Nat
  | [] => 0
  | command :: rest => command.crop + crops rest

end

def brood (invocation : Invocation Handler) : List (Invocation Handler) :=
  (seeds invocation.handler.body).map fun handler => { handler }

/-- The handlers of the queue, what they put into it, what these put into it, and so on. -/
def generation : Nat → List (Invocation Handler) → List (Invocation Handler)
  | 0, queue => queue
  | number + 1, queue => generation number (queue.flatMap brood)

def generations (count : Nat) (queue : List (Invocation Handler)) : List (Invocation Handler) :=
  (List.range count).flatMap fun number => generation number queue

/-- How many handlers go through the queue for one that stands in it, with that one. -/
def grain (invocation : Invocation Handler) : Nat := 1 + crops invocation.handler.body

variable {contexts : Names ContextId} {context : ContextId} {commands : List Command}

theorem generations_succ (count : Nat) (queue : List (Invocation Handler)) :
    generations (count + 1) queue = queue ++ generations count (queue.flatMap brood) := by
  simp [generations, List.range_succ_eq_map, List.flatMap_map, generation]

theorem crops_eq (plants : Plants contexts context commands) :
    crops commands = ((seeds commands).map fun handler => 1 + crops handler.body).sum := by
  induction plants with
  | nothing => rfl
  | post _ _ _ _ onwards => simp [crops, Command.crop, seeds, Command.seeds, onwards]
  | dispatch _ _ _ called onwards =>
    simp [crops, Command.crop, seeds, Command.seeds, called, onwards]

theorem plants_seeds (plants : Plants contexts context commands) :
    ∀ handler ∈ seeds commands, Plants contexts context handler.body := by
  induction plants with
  | nothing =>
    intro handler listed
    cases listed
  | post _ child _ _ onwards =>
    intro handler listed
    rcases List.mem_cons.mp listed with rfl | later
    · exact child
    · exact onwards handler later
  | dispatch _ _ _ called onwards =>
    intro handler listed
    rcases List.mem_append.mp listed with own | later
    · exact called handler own
    · exact onwards handler later

section

variable {queue : List (Invocation Handler)}
  (plants : ∀ invocation ∈ queue, Plants contexts context invocation.handler.body)

include plants

theorem plants_brood :
    ∀ invocation ∈ queue.flatMap brood, Plants contexts context invocation.handler.body := by
  intro invocation listed
  obtain ⟨parent, queued, born⟩ := List.mem_flatMap.mp listed
  obtain ⟨handler, seed, rfl⟩ := List.mem_map.mp born
  exact plants_seeds (plants parent queued) handler seed

theorem sum_grain :
    (queue.map grain).sum = queue.length + ((queue.flatMap brood).map grain).sum := by
  induction queue with
  | nil => rfl
  | cons first queue ih =>
    have own := crops_eq (plants first List.mem_cons_self)
    have others := ih fun invocation listed => plants invocation (List.mem_cons_of_mem first listed)
    have born : ((brood first).map grain).sum = crops first.handler.body := by
      rw [own, brood, List.map_map]
      rfl
    simp only [List.map_cons, List.sum_cons, List.length_cons, List.flatMap_cons, List.map_append,
      List.sum_append, born, others, grain]
    omega

theorem dies_out : ∃ depth, generation depth queue = [] := by
  induction weighs : (queue.map grain).sum using Nat.strongRecOn generalizing queue with
  | ind total ih =>
    cases queue with
    | nil => exact ⟨0, rfl⟩
    | cons first others =>
      have fewer : (((first :: others).flatMap brood).map grain).sum < total := by
        rw [← weighs, sum_grain plants, List.length_cons]
        omega
      obtain ⟨depth, last⟩ := ih _ fewer (plants_brood plants) rfl
      exact ⟨depth + 1, last⟩

theorem length_generations {depth : Nat} (last : generation depth queue = []) :
    (generations depth queue).length = (queue.map grain).sum := by
  induction depth generalizing queue with
  | zero =>
    obtain rfl : queue = [] := last
    rfl
  | succ depth ih =>
    rw [generations_succ, List.length_append, ih (plants_brood plants) last, sum_grain plants]

end

end AsyncFiles.Script
