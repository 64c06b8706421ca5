import AsyncFiles.Service.Basic

namespace AsyncFiles

open Host

structure RegistryEntry where
  key : RegistryKey
  state : FileState

inductive RegistryStyle
  | table
  | compact
  deriving DecidableEq

namespace RegistryStyle

instance : Inhabited RegistryStyle := ⟨.table⟩

def describe : RegistryStyle → String
  | .table => "Table"
  | .compact => "Compact"

end RegistryStyle

structure RegistryReport where
  service : ServiceId
  entries : List RegistryEntry

namespace RegistryEntry

def padRight (width : Nat) (text : String) : String :=
  text ++ String.ofList (List.replicate (width - text.length) ' ')

def render (entry : RegistryEntry) (numbering : Numbering) : String :=
  let handle :=
    if entry.state.handle.isOpen then entry.state.handle.describe numbering else "closed"
  entry.key.describe ++ "  " ++ padRight 18 handle ++ "  generation " ++
    toString entry.state.source.generation.toNat ++
    (if entry.state.source.destroyed then " (destroyed)" else "")

end RegistryEntry

namespace RegistryReport

def size (report : RegistryReport) : Nat := report.entries.length

def openCount (report : RegistryReport) : Nat :=
  (report.entries.filter fun entry => entry.state.handle.isOpen).length

def renderTable (report : RegistryReport) (numbering : Numbering) : String :=
  "File service #" ++ numbering.identity report.service ++ " (" ++ toString report.size ++
    " live):\n" ++
    if report.entries.isEmpty then "  (empty)\n"
    else String.join (report.entries.map fun entry => "  " ++ entry.render numbering ++ "\n")

def renderCompact (report : RegistryReport) (numbering : Numbering) : String :=
  "service #" ++ numbering.identity report.service ++ ": " ++ toString report.size ++
    " live, " ++ toString report.openCount ++ " open [" ++
    ", ".intercalate (report.entries.map fun entry => entry.key.describe) ++ "]"

def render (report : RegistryReport) (style : RegistryStyle) (numbering : Numbering) : String :=
  match style with
  | .table => report.renderTable numbering
  | .compact => report.renderCompact numbering

end RegistryReport

namespace Implementation

def describe (imp : Implementation) (handle : FileHandle) (numbering : Numbering) : String :=
  "FileImpl \x7b id: " ++ imp.key.describe ++ ", handle: " ++ handle.describe numbering ++ " \x7d"

end Implementation

namespace Context

def describe {Handler : Type} (context : Context Handler) (identity : ContextId)
    (numbering : Numbering) : String :=
  "IoContext \x7b id: " ++ numbering.identity identity ++ ", queued: " ++
    toString context.queue.length ++ ", outstanding_work: " ++ toString context.outstanding ++
    ", stopped: " ++ toString context.stopped ++ " \x7d"

def describeGuard (guarded : Option ContextId) (numbering : Numbering) : String :=
  "WorkGuard \x7b context: " ++
    (match guarded with
      | none => "None"
      | some identity => "Some(" ++ numbering.identity identity ++ ")") ++ " \x7d"

end Context

namespace System

variable {Handler : Type}

def report (system : System Handler) (service : ServiceId) : RegistryReport :=
  { service
    entries := ((system.service? service).map fun found =>
      found.registry.entries.map fun (key, state) => ⟨key, system.state state⟩).getD [] }

def live (system : System Handler) (service : ServiceId) : Nat :=
  ((system.service? service).map fun found => found.registry.size).getD 0

def describeService (system : System Handler) (service : ServiceId) (numbering : Numbering) :
    String :=
  match system.service? service with
  | none => ""
  | some found =>
    "ThreadPoolFileService \x7b id: " ++ numbering.identity service ++ ", context: " ++
      numbering.identity found.context ++ ", pool: " ++ found.pool.describe ++ ", live: " ++
      toString found.registry.size ++ ", shut_down: " ++ toString found.shutDown ++ " \x7d"

end System

end AsyncFiles
