import GameVm.Program.FormatError
import GameVm.Program.Parts
import GameVm.Text.Utf8

/-! Checks on the contents of an image that make running it safe. -/

namespace GameVm.Parts

/-- The text at an offset of the blob; empty when there is none or it is not UTF-8. -/
def nameAt (p : Parts) (offset : Int32) : String :=
  ((p.stringAt? offset).bind Utf8.decode?).getD ""

def checkStrings (p : Parts) : Except FormatError Unit :=
  if p.strings[0]? = some 0 ∧ p.strings.back? = some 0 then .ok () else .error .malformedStrings

def checkName (p : Parts) (offset : Int32) : Except FormatError Unit :=
  if 0 ≤ offset ∧ offset.toInt < p.strings.size then .ok () else .error (.badStringOffset offset)

def checkDefinition (p : Parts) (table : SymbolKind) (limit : Nat) (d : Definition) :
    Except FormatError Unit := do
  p.checkName d.name
  if limit < d.offset.toNat + d.type.cells then
    throw (.definitionOutOfRange table (p.nameAt d.name) d.offset)

def functionFlaw? (p : Parts) (index : Nat) (f : FunctionEntry) : Option FunctionFlaw :=
  if p.statements.size ≤ f.first.toInt.toNat ∧ index ≠ 0 then some (.firstStatement f.first)
  else if p.globals.size < f.parmStart.toNat + f.locals.toNat then
    some (.window f.parmStart f.locals p.globals.size)
  else if Slots.maxParms < f.numParms.toNat then some (.parameterCount f.numParms)
  else if ¬ f.parms.all (fun size => size = 1 ∨ size = 3) then some .parameterSize
  else if f.locals.toNat < f.parmCells then some .parametersExceedWindow
  else none

def checkFunction (p : Parts) (index : Nat) (f : FunctionEntry) : Except FormatError Unit := do
  p.checkName f.name
  p.checkName f.file
  unless f.isBuiltin do
    if let some flaw := p.functionFlaw? index f then throw (.badFunction index flaw)

def checkOperand (p : Parts) (index : Nat) (op : Opcode) (letter : Char) (value : UInt16) :
    OperandKind → Except FormatError Unit
  | .unused => .ok ()
  | .cell =>
    if value.toNat < p.globals.size then .ok ()
    else .error (.operandOutOfRange index op letter value)
  | .vector =>
    if value.toNat + 2 < p.globals.size then .ok ()
    else .error (.operandOutOfRange index op letter value)
  | .jump =>
    match jumpTarget? index value.toInt16 with
    | some target =>
      if target < p.statements.size then .ok () else .error (.jumpOutOfRange index value.toInt16)
    | none => .error (.jumpOutOfRange index value.toInt16)

def checkStatement (p : Parts) (index : Nat) (st : Statement) : Except FormatError Unit := do
  p.checkOperand index st.op 'a' st.a st.op.kinds.a
  p.checkOperand index st.op 'b' st.b st.op.kinds.b
  p.checkOperand index st.op 'c' st.c st.op.kinds.c

def checkEach {α : Type} (check : Nat → α → Except FormatError Unit) (index : Nat) :
    List α → Except FormatError Unit
  | [] => .ok ()
  | a :: as => do
    check index a
    checkEach check (index + 1) as

/-- All checks, in the order in which their failures are reported. -/
def check (p : Parts) : Except FormatError Unit := do
  p.checkStrings
  if p.globals.size < Slots.reserved then
    throw (.reservedGlobals p.globals.size Slots.reserved)
  if p.functions.isEmpty then throw (.badFunction 0 .noNullEntry)
  checkEach (fun _ => p.checkDefinition .global p.globals.size) 0 p.globalDefs.toList
  checkEach (fun _ => p.checkDefinition .field p.entityCells.toNat) 0 p.fieldDefs.toList
  checkEach p.checkFunction 0 p.functions.toList
  checkEach p.checkStatement 0 p.statements.toList

end GameVm.Parts
