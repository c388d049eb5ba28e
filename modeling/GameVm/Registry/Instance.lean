import GameVm.Machine.Service
import GameVm.Registry.BuiltinTable
import GameVm.Registry.Loader

/-! Instances: a program that has been brought up, with its machine. -/

namespace GameVm

structure Instance where
  linked : Linked
  machine : Machine

namespace Instance

def domain (i : Instance) : Domain := i.linked.setup.domain

def image (i : Instance) : Image := i.linked.setup.image

def optionsFlaw? (image : Image) (options : InstanceOptions) : Option String :=
  let needed := image.parts.entityCells.toNat
  let recordCells := options.recordCells.getD needed
  if options.entityCapacity = 0 then some "entity capacity must include the world"
  else if recordCells < needed then
    some s!"record of {recordCells} cells cannot hold the program's {needed} field cells"
  else if Pointer.globalBit.toNat < options.entityCapacity * max recordCells 1 * 4 then
    some (s!"{options.entityCapacity} entities of {recordCells} cells " ++
      "exceed the entity address space")
  else none

def link (table : BuiltinTable) (setup : Setup) : Logged Linked := do
  match table.bind setup.domain setup.settings.builtinBinding setup.image with
  | .error err => throw err
  | .ok bound =>
    let hosts := bound.toList.filterMap id
    Logged.write .debug "bound builtins" [("domain", setup.domain.name),
      ("builtins", toString hosts.length),
      ("traps", toString (hosts.countP fun b => !b.domains.contains setup.domain))]
    return ⟨setup, bound⟩

def bringUp (table : BuiltinTable) (domain : Domain) (image : Image) (settings : Settings)
    (options : InstanceOptions) : Logged Instance := do
  if let some flaw := optionsFlaw? image options then throw (.invalidOptions flaw)
  let linked ← link table (Setup.ofImage domain image settings)
  let recordCells := options.recordCells.getD image.parts.entityCells.toNat
  return ⟨linked, Machine.fresh linked.setup options.entityCapacity recordCells⟩

def serve {α : Type} (code : Host α) : Recorded Instance → α × Recorded Instance
  | ⟨⟨linked, machine⟩, journal⟩ =>
    match Call.host (Call.execute linked) linked.setup "host" code ⟨machine, journal⟩ with
    | (a, ⟨machine, journal⟩) => (a, ⟨⟨linked, machine⟩, journal⟩)

end Instance

end GameVm
