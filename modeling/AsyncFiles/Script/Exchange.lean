import AsyncFiles.Script.Session

/-!
Calls of the script that move bytes through a pipe, one transfer after the other, so that each may
wait and others act in between. An exact read goes on until its buffer is full, a whole write until
all is written.
-/
namespace AsyncFiles.Script

open Access Error Host

inductive Exchange
  | read (buffers : List Bytes)
  | write (buffers : List Bytes)
  | readExact (filled rest : Bytes)
  | writeAll (rest : Bytes)

namespace Exchange

def request : Exchange → Request
  | .read _ | .readExact _ _ => { direction := .read }
  | .write _ | .writeAll _ => { direction := .write }

def buffers : Exchange → List Bytes
  | .read buffers | .write buffers => buffers
  | .readExact _ rest | .writeAll rest => [rest]

/-- What follows a transfer: the reply, or further transfers. -/
def next (exchange : Exchange) (result : Except FileError Nat) (buffers : List Bytes) :
    Reply ⊕ Exchange :=
  match exchange, result with
  | .read _, result => .inl (.transferred result buffers)
  | .write _, result => .inl (.ofNumber result)
  | .readExact filled _, .error error => .inl (.filled (.error error) (filled ++ buffers.flatten))
  | .readExact filled _, .ok count =>
    let filled := filled ++ buffers.flatten.take count
    let rest := buffers.flatten.drop count
    if rest.isEmpty then .inl (.filled (.ok ()) filled) else .inr (.readExact filled rest)
  | .writeAll _, .error error => .inl (.ofUnit (.error error))
  | .writeAll _, .ok 0 => .inl (.ofUnit (.error (.ofKind .noSpace)))
  | .writeAll rest, .ok count =>
    let rest := rest.drop count
    if rest.isEmpty then .inl (.ofUnit (.ok ())) else .inr (.writeAll rest)

def ofInquiry? : Inquiry → Option Exchange
  | .read sizes none => some (.read (sizes.map Session.fillers))
  | .write buffers none => some (.write buffers)
  | _ => none

def ofOwnerAction? : OwnerAction → Option Exchange
  | .inquire inquiry => ofInquiry? inquiry
  | .readExact count => if count = 0 then none else some (.readExact [] (Session.fillers count))
  | .writeAll data => if data.isEmpty then none else some (.writeAll data)
  | _ => none

end Exchange

namespace Session

def exchange? (session : Session) (action : Action) : Option (FileHandle × Exchange) :=
  let found :=
    match action with
    | .file name (.inquire inquiry) =>
      match session.files.get? name, Exchange.ofInquiry? inquiry with
      | some file, some exchange => some (file.handle session.system, exchange)
      | _, _ => none
    | .owner name action =>
      match session.owners.get? name, Exchange.ofOwnerAction? action with
      | some owner, some exchange => some (owner.handle, exchange)
      | _, _ => none
    | _ => none
  found.filter fun (handle, _) => session.system.host.isPipe handle.raw

def exchangeStep? (session : Session) (handle : FileHandle) (exchange : Exchange)
    (stalled : Option Stalled) : Option (Attempt × Session) :=
  match stalled with
  | none => some (session.onHost (exchange.request.attempt handle exchange.buffers))
  | some call =>
    (Attempt.resume? exchange.buffers call session.system.host).map fun (attempt, host) =>
      (attempt, session.changeSystem fun system => { system with host })

end Session

end AsyncFiles.Script
