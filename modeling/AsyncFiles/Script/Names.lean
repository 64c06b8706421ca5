namespace AsyncFiles.Script

abbrev Name := String

structure Names (Object : Type) where
  bindings : List (Name × Object) := []

namespace Names

variable {Object : Type}

def get? (names : Names Object) (name : Name) : Option Object :=
  (names.bindings.find? fun binding => binding.1 = name).map Prod.snd

def erase (names : Names Object) (name : Name) : Names Object :=
  ⟨names.bindings.filter fun binding => binding.1 ≠ name⟩

def put (names : Names Object) (name : Name) (object : Object) : Names Object :=
  ⟨(name, object) :: (names.erase name).bindings⟩

end Names

end AsyncFiles.Script
