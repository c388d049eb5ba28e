import GameVm.Config.Settings
import GameVm.Machine.Context
import GameVm.Memory.Pointer
import GameVm.Memory.Value
import GameVm.Program.Layout

/-! The state of a machine, and what is fixed when it is brought up. -/

namespace GameVm

structure Profile where
  calls : Nat := 0
  statements : Nat := 0
  builtinCalls : Nat := 0
  deriving DecidableEq, Repr

structure StateSymbols where
  self : Nat
  time : Nat
  frame : Nat
  think : Nat
  nextthink : Nat
  deriving DecidableEq, Repr

def StateSymbols.find? (image : Image) : Option StateSymbols := do
  let self ← image.findGlobal? "self"
  let time ← image.findGlobal? "time"
  let frame ← image.findField? "frame"
  let think ← image.findField? "think"
  let nextthink ← image.findField? "nextthink"
  return ⟨self.offset.toNat, time.offset.toNat, frame.offset.toNat, think.offset.toNat,
    nextthink.offset.toNat⟩

structure Setup where
  domain : Domain
  image : Image
  settings : Settings
  stateSymbols : Option StateSymbols
  /-- The global that holds the world time, if it is a float. -/
  timeGlobal : Option Nat

def Setup.ofImage (domain : Domain) (image : Image) (settings : Settings) : Setup where
  domain := domain
  image := image
  settings := settings
  stateSymbols := StateSymbols.find? image
  timeGlobal :=
    ((image.findGlobal? "time").filter (·.type = .float)).map (·.offset.toNat)

structure Machine where
  memory : Memory
  context : Context
  profile : Array Profile
  deriving DecidableEq

namespace Machine

def fresh (setup : Setup) (capacity recordCells : Nat) : Machine where
  memory := {
    globals := ⟨setup.image.parts.globals⟩
    entities := Entities.fresh capacity recordCells
    strings := StringTable.fresh setup.image.parts.strings setup.settings.scratchStrings
      setup.settings.scratchStringSize }
  context := Context.fresh setup.settings.maxCallDepth setup.settings.localStackSize
  profile := Array.replicate setup.image.parts.functions.size {}

/-- World time; zero for programs that keep none. -/
def now (setup : Setup) (m : Machine) : Cell :=
  match setup.timeGlobal with
  | some i => (m.memory.globals.cell i).toOption.getD Binary32.zero
  | none => Binary32.zero

@[inline] def mapContext (f : Context → Context) : Machine → Machine
  | ⟨memory, context, profile⟩ => ⟨memory, f context, profile⟩

@[inline] def mapProfile (function : Nat) (f : Profile → Profile) : Machine → Machine
  | ⟨memory, context, profile⟩ => ⟨memory, context, profile.modify function f⟩

def resetProfile (m : Machine) : Machine :=
  { m with profile := Array.replicate m.profile.size {} }

def restart (setup : Setup) (m : Machine) : Machine :=
  resetProfile { m with
    memory := {
      globals := m.memory.globals.reset setup.image.parts.globals
      entities := m.memory.entities.clear
      strings := m.memory.strings.reset }
    context := Context.fresh setup.settings.maxCallDepth setup.settings.localStackSize }

end Machine

end GameVm
