/-!
Sets of flags held in one word. `Bits all` holds only bits of `all`, so equal sets are equal values.
-/
namespace AsyncFiles.Access

structure Bits (all : UInt32) where
  word : UInt32
  within : word &&& all = word
  deriving DecidableEq

namespace Bits

variable {all : UInt32}

/-- The known bits of a word; unknown ones are dropped. -/
def ofWord (word : UInt32) : Bits all :=
  ⟨word &&& all, by rw [UInt32.and_assoc, UInt32.and_self]⟩

def empty : Bits all := ⟨0, UInt32.zero_and⟩

instance : Inhabited (Bits all) := ⟨empty⟩

def full : Bits all := ⟨all, UInt32.and_self⟩

def union (left right : Bits all) : Bits all :=
  ⟨left.word ||| right.word, by
    have spread : all &&& (left.word ||| right.word) = left.word ||| right.word := by
      have apart : all &&& (left.word ||| right.word) =
          (all &&& left.word) ||| (all &&& right.word) :=
        UInt32.toBitVec_inj.1 BitVec.and_or_distrib_left
      rw [apart, UInt32.and_comm all, UInt32.and_comm all, left.within, right.within]
    rw [UInt32.and_comm]
    exact spread⟩

def inter (left right : Bits all) : Bits all :=
  ⟨left.word &&& right.word, by rw [UInt32.and_assoc, right.within]⟩

def compl (bits : Bits all) : Bits all := ofWord (~~~ bits.word)

def diff (left right : Bits all) : Bits all := left.inter right.compl

def isEmpty (bits : Bits all) : Bool := bits.word == 0

def contains (bits other : Bits all) : Bool := bits.word &&& other.word == other.word

def intersects (bits other : Bits all) : Bool := bits.word &&& other.word != 0

def names (table : List (String × Bits all)) (bits : Bits all) : List String :=
  (table.filter fun entry => bits.contains entry.2).map Prod.fst

def describe (title : String) (table : List (String × Bits all)) (bits : Bits all) : String :=
  title ++ "(" ++ (if bits.isEmpty then "NONE" else " | ".intercalate (bits.names table)) ++ ")"

@[simp] theorem word_ofWord (word : UInt32) : (ofWord word : Bits all).word = word &&& all := rfl

@[simp] theorem word_union (left right : Bits all) :
    (left.union right).word = left.word ||| right.word := rfl

@[simp] theorem word_inter (left right : Bits all) :
    (left.inter right).word = left.word &&& right.word := rfl

theorem ofWord_word (bits : Bits all) : ofWord bits.word = bits := by
  cases bits with
  | mk word within => simp only [ofWord, within]

end Bits

inductive Change
  | replace
  | add
  | remove
  deriving DecidableEq

namespace Change

def apply {all : UInt32} (change : Change) (current requested : Bits all) : Bits all :=
  match change with
  | .replace => requested
  | .add => current.union requested
  | .remove => current.diff requested

def describe : Change → String
  | .replace => "Replace"
  | .add => "Add"
  | .remove => "Remove"

instance : Inhabited Change := ⟨.replace⟩

end Change

end AsyncFiles.Access
