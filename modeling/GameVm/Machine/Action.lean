import GameVm.Memory.Globals
import GameVm.Program.Opcode

/-! What each operation does, by the way it uses its operands. -/

namespace GameVm

inductive Width where
  | one | three
  deriving DecidableEq, Repr

def Width.cells : Width → Nat
  | .one => 1
  | .three => 3

def Width.kind : Width → OperandKind
  | .one => .cell
  | .three => .vector

/-- What a statement does with its operands. Results go to `c`, copies to `b`; jumps are taken by
`b`, or by `a` when they have no condition. -/
inductive Action where
  | leave
  | cell1 (f : Cell → Cell)
  | cell2 (f : Cell → Cell → Cell)
  | vec1 (f : Vec3 → Cell)
  | vec2 (f : Vec3 → Vec3 → Cell)
  | vec3 (f : Vec3 → Vec3 → Vec3)
  | scaleRight (f : Cell → Vec3 → Vec3)
  | scaleLeft (f : Vec3 → Cell → Vec3)
  /-- As `cell2`, but not for a zero at `b`. -/
  | divide (f : Int32 → Int32 → Int32)
  | stringsEqual (expected : Bool)
  | stringEmpty
  | loadField (width : Width)
  | address
  | copy (width : Width)
  | storeIndirect (width : Width)
  | globalAddress
  | loadIndirect (width : Width)
  | branch (whenSet : Bool)
  | goto
  | call (argc : Nat)
  /-- Set frame `a` and thought `b` of the current entity, and when to think next. -/
  | state

namespace Action

def kinds : Action → OperandKinds
  | .leave | .call _ => ⟨.cell, .unused, .unused⟩
  | .cell1 _ | .stringEmpty | .globalAddress => ⟨.cell, .unused, .cell⟩
  | .cell2 _ | .divide _ | .stringsEqual _ | .address => ⟨.cell, .cell, .cell⟩
  | .vec1 _ => ⟨.vector, .unused, .cell⟩
  | .vec2 _ => ⟨.vector, .vector, .cell⟩
  | .vec3 _ => ⟨.vector, .vector, .vector⟩
  | .scaleRight _ => ⟨.cell, .vector, .vector⟩
  | .scaleLeft _ => ⟨.vector, .cell, .vector⟩
  | .loadField w => ⟨.cell, .cell, w.kind⟩
  | .copy w => ⟨w.kind, w.kind, .unused⟩
  | .storeIndirect w => ⟨w.kind, .cell, .unused⟩
  | .loadIndirect w => ⟨.cell, .unused, w.kind⟩
  | .branch _ => ⟨.cell, .jump, .unused⟩
  | .goto => ⟨.jump, .unused, .unused⟩
  | .state => ⟨.cell, .cell, .unused⟩

def onInts (f : Int32 → Int32 → Int32) (x y : Cell) : Cell := (f x.toInt32 y.toInt32).toUInt32

def intTest (p : Int32 → Int32 → Bool) (x y : Cell) : Cell :=
  if p x.toInt32 y.toInt32 then 1 else 0

def floatTest (p : Cell → Cell → Bool) (x y : Cell) : Cell := Binary32.ofBool (p x y)

def onTruncated (f : Int32 → Int32 → Int32) (x y : Cell) : Cell :=
  Binary32.ofInt32 (f (Binary32.toInt32 x) (Binary32.toInt32 y))

def dot (v w : Vec3) : Cell :=
  Binary32.add (Binary32.add (Binary32.mul v.x w.x) (Binary32.mul v.y w.y)) (Binary32.mul v.z w.z)

def vecEq (v w : Vec3) : Bool :=
  Binary32.eq v.x w.x && Binary32.eq v.y w.y && Binary32.eq v.z w.z

/-- The low five bits of the distance count, whatever its sign. -/
def shiftLeft (x y : Int32) : Int32 := (x.toUInt32 <<< (y.toUInt32 &&& 31)).toInt32

def shiftRight (x y : Int32) : Int32 := x >>> (y.toUInt32 &&& 31).toInt32

def ofOpcode : Opcode → Action
  | .done | .ret => .leave
  | .mulF => .cell2 Binary32.mul
  | .divF => .cell2 Binary32.div
  | .addF => .cell2 Binary32.add
  | .subF => .cell2 Binary32.sub
  | .mulV => .vec2 dot
  | .mulFV => .scaleRight fun s v => v.map (Binary32.mul s)
  | .mulVF => .scaleLeft fun v s => v.map (Binary32.mul · s)
  | .addV => .vec3 (Vec3.zipWith Binary32.add)
  | .subV => .vec3 (Vec3.zipWith Binary32.sub)
  | .andF => .cell2 (floatTest fun x y => !Binary32.isZero x && !Binary32.isZero y)
  | .orF => .cell2 (floatTest fun x y => !Binary32.isZero x || !Binary32.isZero y)
  | .bitAndF => .cell2 (onTruncated (· &&& ·))
  | .bitOrF => .cell2 (onTruncated (· ||| ·))
  | .eqF => .cell2 (floatTest Binary32.eq)
  | .neF => .cell2 (floatTest fun x y => !Binary32.eq x y)
  | .leF => .cell2 (floatTest Binary32.le)
  | .geF => .cell2 (floatTest fun x y => Binary32.le y x)
  | .ltF => .cell2 (floatTest Binary32.lt)
  | .gtF => .cell2 (floatTest fun x y => Binary32.lt y x)
  | .eqV => .vec2 fun v w => Binary32.ofBool (vecEq v w)
  | .neV => .vec2 fun v w => Binary32.ofBool (!vecEq v w)
  | .eqS => .stringsEqual true
  | .neS => .stringsEqual false
  | .eqE | .eqFnc => .cell2 (floatTest (· == ·))
  | .neE | .neFnc => .cell2 (floatTest (· != ·))
  | .notF => .cell1 fun x => Binary32.ofBool (Binary32.isZero x)
  | .notV => .vec1 fun v => Binary32.ofBool
      (Binary32.isZero v.x && Binary32.isZero v.y && Binary32.isZero v.z)
  | .notS => .stringEmpty
  | .notEnt | .notFnc => .cell1 fun x => Binary32.ofBool (x = 0)
  | .loadF | .loadS | .loadEnt | .loadFld | .loadFnc | .loadI => .loadField .one
  | .loadV => .loadField .three
  | .address => .address
  | .storeF | .storeS | .storeEnt | .storeFld | .storeFnc | .storeI => .copy .one
  | .storeV => .copy .three
  | .storePF | .storePS | .storePEnt | .storePFld | .storePFnc | .storePI => .storeIndirect .one
  | .storePV => .storeIndirect .three
  | .globalAddress => .globalAddress
  | .loadPF | .loadPI => .loadIndirect .one
  | .loadPV => .loadIndirect .three
  | .branch => .branch true
  | .branchNot => .branch false
  | .goto => .goto
  | .call0 => .call 0
  | .call1 => .call 1
  | .call2 => .call 2
  | .call3 => .call 3
  | .call4 => .call 4
  | .call5 => .call 5
  | .call6 => .call 6
  | .call7 => .call 7
  | .call8 => .call 8
  | .state => .state
  | .addI => .cell2 (onInts (· + ·))
  | .subI => .cell2 (onInts (· - ·))
  | .mulI => .cell2 (onInts (· * ·))
  | .divI => .divide (· / ·)
  | .modI => .divide (· % ·)
  | .bitAndI => .cell2 (onInts (· &&& ·))
  | .bitOrI => .cell2 (onInts (· ||| ·))
  | .bitXorI => .cell2 (onInts (· ^^^ ·))
  | .shiftLeftI => .cell2 (onInts shiftLeft)
  | .shiftRightI => .cell2 (onInts shiftRight)
  | .eqI => .cell2 (intTest (· == ·))
  | .neI => .cell2 (intTest (· != ·))
  | .ltI => .cell2 (intTest (· < ·))
  | .leI => .cell2 (intTest (· ≤ ·))
  | .gtI => .cell2 (intTest (· > ·))
  | .geI => .cell2 (intTest (· ≥ ·))
  | .notI => .cell1 fun x => if x = 0 then 1 else 0
  | .intToFloat => .cell1 fun x => Binary32.ofInt32 x.toInt32
  | .floatToInt => .cell1 fun x => (Binary32.toInt32 x).toUInt32

theorem kinds_ofOpcode (op : Opcode) : (ofOpcode op).kinds = op.kinds := by
  cases op <;> rfl

end Action

end GameVm
