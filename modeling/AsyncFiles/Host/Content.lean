/-!
The bytes of a regular file. Past the end every byte reads as zero, so two contents with the same
size and bytes are equal, and growing a file shows zeros.
-/
namespace AsyncFiles.Host

abbrev Bytes := List UInt8

@[ext] structure Content where
  size : Nat
  byte : Nat → UInt8
  zero_beyond : ∀ i, size ≤ i → byte i = 0

namespace Content

def empty : Content := ⟨0, fun _ => 0, fun _ _ => rfl⟩

instance : Inhabited Content := ⟨empty⟩

def read (content : Content) (offset count : Nat) : Bytes :=
  (List.range (min count (content.size - offset))).map fun i => content.byte (offset + i)

def toBytes (content : Content) : Bytes := content.read 0 content.size

/-- Data placed at `offset`; a gap before it reads as zeros. Nothing to place changes nothing. -/
def write (content : Content) (offset : Nat) (data : Bytes) : Content :=
  if data.isEmpty then content
  else
    let placed := data.toArray
    { size := max content.size (offset + placed.size)
      byte := fun i =>
        if offset ≤ i ∧ i < offset + placed.size then placed.getD (i - offset) 0
        else content.byte i
      zero_beyond := by
        intro i beyond
        have outside : ¬(offset ≤ i ∧ i < offset + placed.size) := by omega
        rw [if_neg outside]
        exact content.zero_beyond i (by omega) }

def resize (content : Content) (size : Nat) : Content where
  size := size
  byte := fun i => if i < size then content.byte i else 0
  zero_beyond := by
    intro i beyond
    rw [if_neg (by omega)]

end Content

end AsyncFiles.Host
