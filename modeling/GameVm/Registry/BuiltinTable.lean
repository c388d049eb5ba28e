import GameVm.Machine.Run

/-! The builtins a host offers, by name. -/

namespace GameVm

/-- Builtins in the order of their registration; no two share a name. -/
structure BuiltinTable where
  entries : Array Builtin

namespace BuiltinTable

def maxBuiltins : Nat := 1024

def empty : BuiltinTable := ⟨#[]⟩

def size (t : BuiltinTable) : Nat := t.entries.size

def get? (t : BuiltinTable) (name : String) : Option Builtin := t.entries.find? (·.name = name)

def refusal? (t : BuiltinTable) (b : Builtin) : Option String :=
  if b.name.isEmpty then some "builtin name is empty"
  else if b.domains.isEmpty then some s!"builtin `{b.name}` is not allowed in any domain"
  else if (t.get? b.name).isSome then some s!"builtin `{b.name}` is already registered"
  else if maxBuiltins ≤ t.size then some s!"builtin table is full ({maxBuiltins} entries)"
  else none

def register (t : BuiltinTable) (b : Builtin) : Except VmError BuiltinTable :=
  match t.refusal? b with
  | some reason => .error (.registration reason)
  | none => .ok ⟨t.entries.push b⟩

def resolve (t : BuiltinTable) (domain : Domain) (policy : BuiltinBinding) (name : String) :
    Except VmError Builtin :=
  match t.get? name with
  | none => .error (.unresolvedBuiltin domain name "no such builtin")
  | some b =>
    if b.domains.contains domain ∨ policy = .deferred then .ok b
    else .error (.unresolvedBuiltin domain name s!"only available to {b.domains.text}")

def bindFrom (t : BuiltinTable) (domain : Domain) (policy : BuiltinBinding) (image : Image)
    (index : Nat) (bound : Array (Option Builtin)) :
    List FunctionEntry → Except VmError (Array (Option Builtin))
  | [] => .ok bound
  | entry :: rest => do
    let b ← if entry.isBuiltin then
        some <$> t.resolve domain policy (image.functionName index)
      else pure none
    bindFrom t domain policy image (index + 1) (bound.push b) rest

def bind (t : BuiltinTable) (domain : Domain) (policy : BuiltinBinding) (image : Image) :
    Except VmError (Array (Option Builtin)) :=
  t.bindFrom domain policy image 0 #[] image.parts.functions.toList

end BuiltinTable

end GameVm
