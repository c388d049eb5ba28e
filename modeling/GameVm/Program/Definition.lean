import GameVm.Bytes.LittleEndian

/-! Value types and the definitions of globals and fields. -/

namespace GameVm

inductive ValueType where
  | void | string | float | vector | entity | field | function | pointer | int
  deriving DecidableEq, Repr

namespace ValueType

def all : Array ValueType :=
  #[.void, .string, .float, .vector, .entity, .field, .function, .pointer, .int]

def cells : ValueType → Nat
  | .vector => 3
  | _ => 1

def name : ValueType → String
  | .void => "void"
  | .string => "string"
  | .float => "float"
  | .vector => "vector"
  | .entity => "entity"
  | .field => "field"
  | .function => "function"
  | .pointer => "pointer"
  | .int => "int"

def ofName? (s : String) : Option ValueType := all.find? (·.name = s)

def tag (t : ValueType) : UInt16 := .ofNat t.ctorIdx

/-- Marks a global that belongs into a saved game. -/
def saveBit : UInt16 := 0x8000

/-- The type of a tag, whether or not the save bit is set. -/
def ofTag? (tag : UInt16) : Option ValueType := all[(tag &&& 0x7FFF).toNat]?

end ValueType

structure Definition where
  type : ValueType
  save : Bool
  offset : UInt16
  name : Int32
  deriving DecidableEq, Repr

namespace Definition

def size : Nat := 8

def tag (d : Definition) : UInt16 :=
  if d.save then d.type.tag ||| ValueType.saveBit else d.type.tag

def encode (d : Definition) : Bytes :=
  Bytes.ofUInt16 d.tag ++ Bytes.ofUInt16 d.offset ++ Bytes.ofInt32 d.name

/-- Read a stored definition; an unknown tag is handed back. -/
def decode (bs : Bytes) : Except UInt16 Definition :=
  let tag := bs.uint16At 0
  match ValueType.ofTag? tag with
  | some type => .ok ⟨type, tag &&& ValueType.saveBit ≠ 0, bs.uint16At 2, bs.int32At 4⟩
  | none => .error tag

end Definition

end GameVm
