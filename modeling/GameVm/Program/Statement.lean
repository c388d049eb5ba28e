import GameVm.Bytes.LittleEndian
import GameVm.Program.Opcode
import GameVm.Text.Numeral

/-! Statements: an operation with three operands, and relative jumps. -/

namespace GameVm

def jumpTarget? (source : Nat) (offset : Int16) : Option Nat :=
  let target := (source : Int) + offset.toInt
  if 0 ≤ target ∧ target < UInt64.size then some target.toNat else none

structure Statement where
  op : Opcode
  a : UInt16
  b : UInt16
  c : UInt16
  deriving DecidableEq, Repr

namespace Statement

def size : Nat := 8

def operand (st : Statement) : Nat → UInt16
  | 0 => st.a
  | 1 => st.b
  | _ => st.c

def jump? (st : Statement) : Option Int16 :=
  match st.op with
  | .goto => some st.a.toInt16
  | .branch | .branchNot => some st.b.toInt16
  | _ => none

def encode (st : Statement) : Bytes :=
  Bytes.ofUInt16 st.op.code ++ Bytes.ofUInt16 st.a ++ Bytes.ofUInt16 st.b ++ Bytes.ofUInt16 st.c

/-- Read a stored statement; an unknown code is handed back. -/
def decode (bs : Bytes) : Except UInt16 Statement :=
  match Opcode.ofCode? (bs.uint16At 0) with
  | some op => .ok ⟨op, bs.uint16At 2, bs.uint16At 4, bs.uint16At 6⟩
  | none => .error (bs.uint16At 0)

def text (st : Statement) : String :=
  match st.op with
  | .goto => s!"{st.op.name} {Numeral.signed st.a.toInt16.toInt}"
  | .branch | .branchNot => s!"{st.op.name} {st.a} {Numeral.signed st.b.toInt16.toInt}"
  | _ => s!"{st.op.name} {st.a} {st.b} {st.c}"

end Statement

end GameVm
