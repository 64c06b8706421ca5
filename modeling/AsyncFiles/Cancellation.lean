/-!
Cancellation by generations. A source carries a stamp; a token is live as long as its source still
carries the stamp it had when the token was issued and is not destroyed. Generations have 63 bits
and start again from zero after the last.
-/
namespace AsyncFiles.Cancellation

structure Source where
  generation : BitVec 63 := 0
  destroyed : Bool := false
  deriving DecidableEq, Inhabited

/-- The stamp of a source at the moment the token was issued. -/
structure Token where
  snapshot : Source
  deriving DecidableEq, Inhabited

namespace Source

def token (source : Source) : Token := ⟨source⟩

/-- Ends every token issued so far and revives a destroyed source. -/
def cancel (source : Source) : Source := ⟨source.generation + 1, false⟩

/-- Ends every token, also those issued until the source is revived. -/
def destroy (source : Source) : Source := ⟨source.generation + 1, true⟩

/-- Revives a destroyed source; a live one stays as it is. -/
def reset (source : Source) : Source :=
  if source.destroyed then ⟨source.generation + 1, false⟩ else source

def describe (source : Source) : String :=
  "CancellationSource \x7b generation: " ++ toString source.generation.toNat ++
    ", destroyed: " ++ toString source.destroyed ++ " \x7d"

end Source

namespace Token

def isCancelled (token : Token) (source : Source) : Bool :=
  source != token.snapshot || source.destroyed

def describe (token : Token) (source : Source) : String :=
  "CancellationToken \x7b generation: " ++ toString token.snapshot.generation.toNat ++
    ", cancelled: " ++ toString (token.isCancelled source) ++ " \x7d"

end Token

end AsyncFiles.Cancellation
