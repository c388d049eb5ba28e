import GameVm.Float.Binary32
import GameVm.Text.Numeral

/-! Why memory, a string or an argument cannot be reached. -/

namespace GameVm

inductive AccessError where
  | global (index size : Nat)
  | entity (number : Int) (capacity : Nat)
  | entityHandle (handle : Int32)
  | field (offset cells recordCells : Nat)
  | pointer (raw : Cell)
  | string (handle : Int32)
  | argument (index argc : Nat)
  | function (index : Nat)
  | entitiesExhausted (capacity : Nat)
  | worldEntity
  | unknownSymbol (name : String)
  deriving DecidableEq, Repr

def AccessError.message : AccessError → String
  | .global index size => s!"global {index} out of range ({size} cells)"
  | .entity number capacity => s!"entity {number} out of range (capacity {capacity})"
  | .entityHandle handle => s!"bad entity handle {handle}"
  | .field offset cells recordCells =>
    s!"field {offset} (+{cells}) out of range ({recordCells} cells per entity)"
  | .pointer raw => s!"bad pointer {Numeral.hex 8 raw.toNat}"
  | .string handle => s!"bad string handle {handle}"
  | .argument index argc => s!"argument {index} out of range ({argc} passed)"
  | .function index => s!"bad function {index}"
  | .entitiesExhausted capacity => s!"no free entity ({capacity} in use)"
  | .worldEntity => "world entity is read-only"
  | .unknownSymbol name => s!"unknown symbol `{name}`"

/-- Operations on `σ` that may be refused; the state is there afterwards in either case. -/
abbrev Access (σ α : Type) := EStateM AccessError σ α

end GameVm
