import AsyncFiles.Proofs.Threads.QueueLaw
import Mathlib.Logic.Function.Iterate

namespace AsyncFiles

namespace Script

open Access Error Host

namespace Machine

variable {machine : Machine}

end Machine

namespace Machine

variable {machine : Machine} {index : Nat} {thread : Thread} {event : Event}

end Machine

namespace Machine

end Machine

end Script

end AsyncFiles
