import AsyncFiles.Cancellation
import Mathlib.Algebra.Group.Nat.Defs
import Mathlib.Tactic.Common

/-!
Sources as words of 64 bits. The generation has the low 63 bits; the high bit is set while the
source is destroyed. On words every operation is a mask and an increment.
-/
namespace AsyncFiles.Cancellation

abbrev Word := BitVec 64

namespace Word

/-- The high bit, which is set while a source is destroyed. -/
def mark : Word := 1#64 <<< 63

def mask : Word := ~~~mark

/-- The next generation of a live source. After the last comes zero. -/
def next (word : Word) : Word := ((word &&& mask) + 1#64) &&& mask

def destroy (word : Word) : Word := word.next ||| mark

def reset (word : Word) : Word := if word &&& mark = 0#64 then word else word.next

def isCancelled (snapshot current : Word) : Bool :=
  current != snapshot || current &&& mark != 0#64

theorem mark_eq : mark = BitVec.ofBool true ++ 0#63 := by decide

theorem mask_eq : mask = BitVec.ofBool false ++ BitVec.allOnes 63 := by decide

end Word

/-- The mark of a destroyed source stands above the 63 bits of its generation. -/
def Source.word (source : Source) : Word := BitVec.ofBool source.destroyed ++ source.generation

namespace Source

theorem word_and_mask (source : Source) :
    source.word &&& Word.mask = BitVec.ofBool false ++ source.generation := by
  have bits : source.word &&& Word.mask =
      (BitVec.ofBool source.destroyed &&& BitVec.ofBool false) ++
        (source.generation &&& BitVec.allOnes 63) := by
    rw [Word.mask_eq]
    exact BitVec.and_append
  rw [bits, BitVec.and_allOnes]
  cases source.destroyed <;> rfl

theorem word_and_mark (source : Source) :
    source.word &&& Word.mark = BitVec.ofBool source.destroyed ++ 0#63 := by
  have bits : source.word &&& Word.mark =
      (BitVec.ofBool source.destroyed &&& BitVec.ofBool true) ++ (source.generation &&& 0#63) := by
    rw [Word.mark_eq]
    exact BitVec.and_append
  rw [bits, BitVec.and_zero]
  cases source.destroyed <;> rfl

theorem toNat_word_live (generation : BitVec 63) :
    (⟨generation, false⟩ : Source).word.toNat = generation.toNat := by
  have bits := BitVec.toNat_append (BitVec.ofBool false) generation
  rw [word, bits]
  simp

theorem toNat_and_mask (word : Word) : (word &&& Word.mask).toNat = word.toNat % 2 ^ 63 := by
  have ones : Word.mask.toNat = 2 ^ 63 - 1 := by decide
  rw [BitVec.toNat_and, ones, Nat.and_two_pow_sub_one_eq_mod]

theorem toNat_masked (source : Source) :
    (source.word &&& Word.mask).toNat = source.generation.toNat := by
  rw [word_and_mask]
  exact toNat_word_live source.generation

theorem next_word (source : Source) : source.word.next = source.cancel.word := by
  apply BitVec.eq_of_toNat_eq
  have low := source.toNat_masked
  have bound : source.generation.toNat < 2 ^ 63 := source.generation.isLt
  calc
    source.word.next.toNat = ((source.word &&& Word.mask) + 1#64).toNat % 2 ^ 63 :=
      toNat_and_mask _
    _ = (source.generation.toNat + 1) % 2 ^ 63 := by
      rw [BitVec.toNat_add, low, BitVec.toNat_ofNat]
      omega
    _ = (source.generation + 1).toNat := (BitVec.toNat_add source.generation 1).symm
    _ = source.cancel.word.toNat := (toNat_word_live _).symm

theorem word_destroy (source : Source) : source.destroy.word = source.word.destroy := by
  have bits : source.cancel.word ||| Word.mark =
      (BitVec.ofBool false ||| BitVec.ofBool true) ++ (source.generation + 1 ||| 0#63) := by
    rw [Word.mark_eq]
    exact BitVec.or_append
  rw [Word.destroy, next_word, bits, BitVec.or_zero]
  rfl

theorem word_cancel (source : Source) : source.cancel.word = source.word.next :=
  source.next_word.symm

theorem marked_iff (source : Source) :
    source.word &&& Word.mark = 0#64 ↔ source.destroyed = false := by
  rw [word_and_mark]
  cases source.destroyed <;> decide

theorem word_reset (source : Source) : source.reset.word = source.word.reset := by
  by_cases live : source.destroyed = false
  · rw [Word.reset, if_pos (source.marked_iff.mpr live)]
    simp [reset, live]
  · have ended : source.destroyed = true := by simpa using live
    have same : source.reset = source.cancel := by simp [reset, cancel, ended]
    rw [Word.reset, if_neg (mt source.marked_iff.mp live), same, word_cancel]

theorem word_inj {source other : Source} : source.word = other.word ↔ source = other := by
  refine ⟨fun same => ?_, congrArg word⟩
  have generation : source.generation = other.generation := by
    apply BitVec.eq_of_toNat_eq
    calc
      source.generation.toNat = (source.word &&& Word.mask).toNat :=
        (toNat_masked source).symm
      _ = (other.word &&& Word.mask).toNat := by rw [same]
      _ = other.generation.toNat := toNat_masked other
  have destroyed : source.destroyed = false ↔ other.destroyed = false := by
    rw [← marked_iff, ← marked_iff, same]
  cases source
  cases other
  simp_all

end Source

/-- A token is read by one comparison of words and one look at the mark. -/
theorem Token.isCancelled_word (token : Token) (source : Source) :
    token.isCancelled source = Word.isCancelled token.snapshot.word source.word := by
  have bits : (source.word &&& Word.mark != 0#64) = source.destroyed := by
    rw [source.word_and_mark]
    cases source.destroyed <;> decide
  have same : (source.word != token.snapshot.word) = (source != token.snapshot) := by
    rw [Bool.eq_iff_iff]
    simp only [bne_iff_ne, ne_eq, Source.word_inj]
  rw [Word.isCancelled, bits, same]
  rfl

end AsyncFiles.Cancellation
