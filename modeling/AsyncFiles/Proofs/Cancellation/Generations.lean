import AsyncFiles.Cancellation
import Mathlib.Algebra.Group.Nat.Defs
import Mathlib.Logic.Function.Iterate
import Mathlib.Tactic.ByContra

namespace AsyncFiles.Cancellation

structure Source.Later (source : Source) (count : Nat) (later : Source) : Prop where
  generation : later.generation = source.generation + BitVec.ofNat 63 count
  unchanged : count = 0 → later = source

namespace Source

theorem later_refl (source : Source) : source.Later 0 source :=
  ⟨by simp, fun _ => rfl⟩

theorem Later.trans {source middle later : Source} {first second : Nat}
    (before : source.Later first middle) (after : middle.Later second later) :
    source.Later (first + second) later where
  generation := by
    rw [after.generation, before.generation, BitVec.ofNat_add, BitVec.add_assoc]
  unchanged none := by
    have nothing : first = 0 ∧ second = 0 := by omega
    rw [after.unchanged nothing.2, before.unchanged nothing.1]

theorem later_destroy (source : Source) : source.Later 1 source.destroy :=
  ⟨rfl, by omega⟩

theorem later_cancel (source : Source) : source.Later 1 source.cancel :=
  ⟨rfl, by omega⟩

theorem later_reset {source : Source} (ended : source.destroyed = true) :
    source.Later 1 source.reset :=
  ⟨by simp [reset, ended], by omega⟩

theorem later_iterate (source : Source) (times : Nat) :
    source.Later times (destroy^[times] source) := by
  induction times with
  | zero => exact source.later_refl
  | succ times ih =>
    rw [Function.iterate_succ_apply']
    exact ih.trans (later_destroy _)

theorem reset_of_live {source : Source} (live : source.destroyed = false) :
    source.reset = source := by
  simp [reset, live]

@[simp] theorem destroyed_reset (source : Source) : source.reset.destroyed = false := by
  by_cases ended : source.destroyed = true <;> simp [reset, ended]

theorem Later.ne {source later : Source} {count : Nat} (changed : source.Later count later)
    (happened : 0 < count) (few : count < 2 ^ 63) : later ≠ source := by
  intro same
  have step : source.generation = source.generation + BitVec.ofNat 63 count := by
    rw [← changed.generation, same]
  have zero : BitVec.ofNat 63 count = 0#63 := BitVec.self_eq_add_right.mp step
  have value := congrArg BitVec.toNat zero
  rw [BitVec.toNat_ofNat, Nat.mod_eq_of_lt few, BitVec.toNat_zero] at value
  omega

theorem Later.eq_iff {source later : Source} {count : Nat} (changed : source.Later count later)
    (few : count < 2 ^ 63) : later = source ↔ count = 0 := by
  refine ⟨fun same => ?_, changed.unchanged⟩
  by_contra happened
  exact changed.ne (by omega) few same

theorem destroy_ne (source : Source) : source.destroy ≠ source :=
  (later_destroy source).ne (by omega) (by decide)

end Source

theorem Token.isCancelled_eq_false_iff (token : Token) (source : Source) :
    token.isCancelled source = false ↔ source = token.snapshot ∧ source.destroyed = false := by
  simp [isCancelled]

end AsyncFiles.Cancellation
