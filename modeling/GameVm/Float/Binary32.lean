/-! Single-precision arithmetic on raw 32-bit cells. -/

namespace GameVm

/-- An untyped 32-bit memory cell. -/
abbrev Cell := UInt32

namespace Binary32

def zero : Cell := 0
def one : Cell := 0x3F800000

/-- The cell of an operation that has no numeric result. -/
def indefinite : Cell := 0xFFC00000

def isNaN (x : Cell) : Bool := 0x7F800000 < (x &&& 0x7FFFFFFF)

def quiet (x : Cell) : Cell := x ||| 0x00400000

/-- The cell of a float; a float that is not a number has one cell only. -/
def ofFloat (f : Float32) : Cell :=
  if isNaN f.toBits then indefinite else f.toBits

/-- Lift a float operation to cells. The first operand that is not a number is the result, made
quiet. -/
def binary (f : Float32 → Float32 → Float32) (x y : Cell) : Cell :=
  if isNaN x then quiet x
  else if isNaN y then quiet y
  else ofFloat (f (.ofBits x) (.ofBits y))

def add : Cell → Cell → Cell := binary (· + ·)
def sub : Cell → Cell → Cell := binary (· - ·)
def mul : Cell → Cell → Cell := binary (· * ·)
def div : Cell → Cell → Cell := binary (· / ·)

def lt (x y : Cell) : Bool := Float32.ofBits x < Float32.ofBits y
def le (x y : Cell) : Bool := Float32.ofBits x ≤ Float32.ofBits y

def eq (x y : Cell) : Bool := Float32.ofBits x == Float32.ofBits y

def isZero (x : Cell) : Bool := x &&& 0x7FFFFFFF = 0

def ofBool (b : Bool) : Cell := if b then one else zero

def isNegative (x : Cell) : Bool := 0x80000000 ≤ x

def exponent (x : Cell) : Nat := ((x >>> 23) &&& 0xFF).toNat

def fraction (x : Cell) : Nat := (x &&& 0x7FFFFF).toNat

/-- The integer significand `m` of a finite cell, whose magnitude is `m * 2 ^ scale`. -/
def significand (x : Cell) : Nat :=
  if exponent x = 0 then fraction x else 0x800000 + fraction x

def scale (x : Cell) : Int := (max (exponent x) 1 : Nat) - 150

def truncate (x : Cell) : Nat :=
  match scale x with
  | .ofNat k => significand x <<< k
  | .negSucc k => significand x >>> (k + 1)

/-- Conversion to an integer: toward zero, saturating, and zero for what is not a number. -/
def toInt32 (x : Cell) : Int32 :=
  if isNaN x then 0
  else if 158 ≤ exponent x then if isNegative x then Int32.minValue else Int32.maxValue
  else if isNegative x then -Int32.ofNat (truncate x)
  else Int32.ofNat (truncate x)

def ofInt32 (i : Int32) : Cell := (Float32.ofInt i.toInt).toBits

end Binary32

end GameVm
