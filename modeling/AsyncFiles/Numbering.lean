/-!
How numbers that differ from run to run are written: in full, or hidden behind an underscore.
Descriptor numbers from 100000 on are never given out by a host and stay visible.
-/
namespace AsyncFiles

structure Numbering where
  descriptor : Int → String
  identity : Nat → String

namespace Numbering

def full : Numbering := { descriptor := toString, identity := toString }

def hidden : Numbering where
  descriptor raw := if 0 ≤ raw ∧ raw < 100000 then "_" else toString raw
  identity _ := "_"

end Numbering

end AsyncFiles
