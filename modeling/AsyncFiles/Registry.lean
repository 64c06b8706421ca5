/-!
Registries of numbered slots. A key names a slot and the version it had when it was filled, so a key
of an emptied slot finds nothing. The slot emptied last is filled first.
-/
namespace AsyncFiles

structure RegistryKey where
  slot : Nat
  version : Nat
  deriving DecidableEq, Inhabited

namespace RegistryKey

def describe (key : RegistryKey) : String :=
  "ImplId(" ++ toString key.slot ++ "v" ++ toString key.version ++ ")"

end RegistryKey

/-- A slot's version is odd while it is filled and even while it is empty. -/
structure Slot (Value : Type) where
  version : Nat
  value : Option Value

structure Registry (Value : Type) where
  slots : List (Slot Value) := []
  /-- Positions of empty slots, the one emptied last in front. -/
  vacant : List Nat := []

namespace Registry

variable {Value : Type}

def position (key : RegistryKey) : Nat := key.slot - 1

def get? (registry : Registry Value) (key : RegistryKey) : Option Value :=
  if key.slot = 0 then none
  else (registry.slots[position key]?).bind fun slot =>
    if slot.version = key.version then slot.value else none

def insert (registry : Registry Value) (value : Value) : RegistryKey × Registry Value :=
  match registry.vacant with
  | [] =>
    (⟨registry.slots.length + 1, 1⟩,
      { registry with slots := registry.slots ++ [⟨1, some value⟩] })
  | index :: rest =>
    let version := ((registry.slots[index]?).map Slot.version).getD 0 + 1
    (⟨index + 1, version⟩,
      { slots := registry.slots.set index ⟨version, some value⟩, vacant := rest })

/-- Puts another value under a key that is in use; any other key changes nothing. -/
def replace (registry : Registry Value) (key : RegistryKey) (value : Value) : Registry Value :=
  match registry.get? key with
  | none => registry
  | some _ =>
    { registry with slots := registry.slots.set (position key) ⟨key.version, some value⟩ }

def remove (registry : Registry Value) (key : RegistryKey) : Registry Value :=
  match registry.get? key with
  | none => registry
  | some _ =>
    { slots := registry.slots.set (position key) ⟨key.version + 1, none⟩
      vacant := position key :: registry.vacant }

def entries (registry : Registry Value) : List (RegistryKey × Value) :=
  registry.slots.zipIdx.filterMap fun (slot, index) =>
    slot.value.map fun value => (⟨index + 1, slot.version⟩, value)

def values (registry : Registry Value) : List Value := registry.entries.map Prod.snd

def size (registry : Registry Value) : Nat := registry.entries.length

end Registry

end AsyncFiles
