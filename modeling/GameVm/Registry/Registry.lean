import GameVm.Registry.Instance

/-! The registry: an instance for each domain, the builtins, and which domain is active. -/

namespace GameVm

structure PerDomain (α : Type) where
  server : Option α := none
  client : Option α := none
  ui : Option α := none

namespace PerDomain

def get {α : Type} (s : PerDomain α) : Domain → Option α
  | .server => s.server
  | .client => s.client
  | .ui => s.ui

def set {α : Type} (s : PerDomain α) (d : Domain) (a : Option α) : PerDomain α :=
  match d with
  | .server => { s with server := a }
  | .client => { s with client := a }
  | .ui => { s with ui := a }

@[simp] theorem get_set {α : Type} (s : PerDomain α) (d : Domain) (a : Option α) :
    (s.set d a).get d = a := by
  cases d <;> rfl

theorem get_set_of_ne {α : Type} (s : PerDomain α) {d e : Domain} (a : Option α) (h : e ≠ d) :
    (s.set d a).get e = s.get e := by
  cases d <;> cases e <;> simp_all [get, set]

end PerDomain

structure Registry where
  settings : Settings
  builtins : BuiltinTable
  instances : PerDomain Instance
  active : Option Domain

/-- Operations on a registry; after a failure, too, there is a registry and a journal. -/
abbrev Manage (α : Type) := EStateM VmError (Recorded Registry) α

namespace Registry

def fresh (settings : Settings) : Registry where
  settings := settings
  builtins := BuiltinTable.empty
  instances := {}
  active := none

def contains (r : Registry) (d : Domain) : Bool := (r.instances.get d).isSome

/-- Offer a builtin to instances that are brought up later. -/
def register (b : Builtin) : Manage Unit := fun ⟨r, journal⟩ =>
  match r.builtins.register b with
  | .ok builtins => .ok () ⟨{ r with builtins }, journal⟩
  | .error err => .error err ⟨r, journal⟩

def create (d : Domain) (bytes : Bytes) (options : InstanceOptions) : Manage Unit :=
  fun ⟨r, journal⟩ =>
    if r.contains d then .error (.instanceExists d) ⟨r, journal⟩
    else match bringUp r journal with
      | .ok i journal => .ok () ⟨{ r with instances := r.instances.set d (some i) }, journal⟩
      | .error err journal => .error err ⟨r, journal⟩
where
  bringUp (r : Registry) : Logged Instance := do
    let image ← Loader.load d bytes options.load
    let i ← Instance.bringUp r.builtins d image r.settings options
    Logged.write .debug "instance created" [("domain", d.name),
      ("entity_capacity", toString i.machine.memory.entities.capacity),
      ("record_cells", toString i.machine.memory.entities.recordCells)]
    return i

/-- Drop the instance of a domain, which is then not active any more. -/
def destroy (d : Domain) : Manage Unit := fun ⟨r, journal⟩ =>
  if r.contains d then
    .ok () ⟨{ r with
      instances := r.instances.set d none
      active := if r.active = some d then none else r.active },
      journal.write .debug "instance destroyed" [("domain", d.name)]⟩
  else .error (.noInstance d) ⟨r, journal⟩

def on {α : Type} (d : Domain) (code : Setup → Host α) : Manage α := fun ⟨r, journal⟩ =>
  match r.instances.get d with
  | none => .error (.noInstance d) ⟨r, journal⟩
  | some i =>
    match Instance.serve (code i.linked.setup) ⟨i, journal⟩ with
    | (a, ⟨i, journal⟩) =>
      .ok a ⟨{ r with instances := r.instances.set d (some i) }, journal⟩

/-- As `on`, for code whose failure is the operation's failure. -/
def onOrFail {α : Type} (d : Domain) (code : Setup → Service α) : Manage α := do
  match ← on d fun setup => (code setup).run with
  | .ok a => return a
  | .error err => throw err

def reset (d : Domain) : Manage Unit := onOrFail d fun _ => Service.reset

def bind (d : Domain) : Manage (Option Domain) := fun ⟨r, journal⟩ =>
  if r.contains d then .ok r.active ⟨{ r with active := some d }, journal⟩
  else .error (.noInstance d) ⟨r, journal⟩

def unbind : Manage (Option Domain) := fun ⟨r, journal⟩ =>
  .ok r.active ⟨{ r with active := none }, journal⟩

def activeDomain : Manage Domain := do
  match (← get).state.active with
  | some d => return d
  | none => throw .noActiveVm

def execute (function : Nat) (caller : String) : Manage Unit := do
  onOrFail (← activeDomain) fun _ => Service.execute function caller

def executeByName (name caller : String) : Manage Unit := do
  onOrFail (← activeDomain) fun setup => Service.executeByName setup name caller

def executeIn (d : Domain) (function : Nat) (caller : String) : Manage Unit := do
  let active := (← get).state.active
  if active = some d then onOrFail d fun _ => Service.execute function caller
  else throw (.wrongVmActive d active)

end Registry

end GameVm
