import GameVm.Float.Decimal
import GameVm.Memory.Globals
import GameVm.Program.Definition

/-! Typed values of cells. -/

namespace GameVm

inductive Value where
  | void
  | float (bits : Cell)
  | int (value : Int32)
  | vector (v : Vec3)
  | string (handle : Int32)
  | function (index : Cell)
  | entity (index : Cell)
  | field (offset : Cell)
  | pointer (raw : Cell)
  deriving DecidableEq, Repr

namespace Value

/-- The value that cells have as a type; missing cells count as zero. -/
def ofCells (type : ValueType) (cells : List Cell) : Value :=
  let cell (n : Nat) := cells.getD n 0
  match type with
  | .void => .void
  | .float => .float (cell 0)
  | .int => .int (cell 0).toInt32
  | .vector => .vector ⟨cell 0, cell 1, cell 2⟩
  | .string => .string (cell 0).toInt32
  | .function => .function (cell 0)
  | .entity => .entity (cell 0)
  | .field => .field (cell 0)
  | .pointer => .pointer (cell 0)

def cells : Value → List Cell
  | .void => []
  | .float bits => [bits]
  | .int value => [value.toUInt32]
  | .vector v => v.toList
  | .string handle => [handle.toUInt32]
  | .function index => [index]
  | .entity index => [index]
  | .field offset => [offset]
  | .pointer raw => [raw]

def type : Value → ValueType
  | .void => .void
  | .float _ => .float
  | .int _ => .int
  | .vector _ => .vector
  | .string _ => .string
  | .function _ => .function
  | .entity _ => .entity
  | .field _ => .field
  | .pointer _ => .pointer

def isZero (v : Value) : Bool := v.cells.all (· = 0)

def entityText (entity : Nat) : String := s!"entity {entity}"

def text : Value → String
  | .void => "void"
  | .float bits => Decimal.text bits
  | .int value => toString value
  | .vector v => s!"'{Decimal.text v.x} {Decimal.text v.y} {Decimal.text v.z}'"
  | .string handle => s!"string {handle}"
  | .function index => s!"function {index}"
  | .entity index => entityText index.toNat
  | .field offset => s!".{offset}"
  | .pointer raw => s!"pointer {Numeral.hex 0 raw.toNat}"

end Value

end GameVm
