import AsyncFiles.Cancellation
import AsyncFiles.Script.Names

namespace AsyncFiles.Script

open Cancellation

structure IssuedToken where
  source : Nat
  token : Token

inductive TokenCommand
  | newSource (source : Name)
  | issue (source token : Name)
  | cloneToken (token copy : Name)
  | cancel (source : Name)
  | destroy (source : Name)
  | reset (source : Name)
  | dropSource (source : Name)
  | dropToken (token : Name)

structure TokenSession where
  all : List Source := []
  sources : Names Nat := {}
  tokens : Names IssuedToken := {}

namespace TokenSession

def source (session : TokenSession) (place : Nat) : Source := session.all.getD place {}

def change (session : TokenSession) (name : Name) (change : Source → Source) : TokenSession :=
  match session.sources.get? name with
  | none => session
  | some place => { session with all := session.all.modify place change }

def perform (session : TokenSession) : TokenCommand → TokenSession
  | .newSource name =>
    { session with
      all := session.all ++ [{}], sources := session.sources.put name session.all.length }
  | .issue name token =>
    match session.sources.get? name with
    | none => session
    | some place =>
      let issued := { source := place, token := (session.source place).token }
      { session with tokens := session.tokens.put token issued }
  | .cloneToken token copy =>
    match session.tokens.get? token with
    | none => session
    | some issued => { session with tokens := session.tokens.put copy issued }
  | .cancel name => session.change name Source.cancel
  | .destroy name => session.change name Source.destroy
  | .reset name => session.change name Source.reset
  | .dropSource name => { session with sources := session.sources.erase name }
  | .dropToken token => { session with tokens := session.tokens.erase token }

def isCancelled (session : TokenSession) (issued : IssuedToken) : Bool :=
  issued.token.isCancelled (session.source issued.source)

def describeToken (session : TokenSession) (issued : IssuedToken) : String :=
  issued.token.describe (session.source issued.source)

end TokenSession

end AsyncFiles.Script
