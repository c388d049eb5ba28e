/-! The operations of the machine: codes, names and the kinds of their operands. -/

namespace GameVm

/-- The operations, in the order of their codes. The last letters of a name tell the operand type:
`F` float, `V` vector, `S` string, `Ent` entity, `Fld` field, `Fnc` function, `I` integer; `P` goes
through a pointer. -/
inductive Opcode where
  | done | mulF | mulV | mulFV | mulVF | divF | addF | addV | subF | subV | eqF | eqV | eqS | eqE
  | eqFnc | neF | neV | neS | neE | neFnc | leF | geF | ltF | gtF | loadF | loadV | loadS
  | loadEnt | loadFld | loadFnc | address | storeF | storeV | storeS | storeEnt | storeFld
  | storeFnc | storePF | storePV | storePS | storePEnt | storePFld | storePFnc | ret | notF | notV
  | notS | notEnt | notFnc | branch | branchNot | call0 | call1 | call2 | call3 | call4 | call5
  | call6 | call7 | call8 | state | goto | andF | orF | bitAndF | bitOrF | addI | subI | mulI
  | divI | modI | bitAndI | bitOrI | bitXorI | shiftLeftI | shiftRightI | eqI | neI | ltI | leI
  | gtI | geI | notI | intToFloat | floatToInt | loadI | storeI | storePI | globalAddress | loadPF
  | loadPV | loadPI
  deriving DecidableEq, Repr

namespace Opcode

def all : Array Opcode := #[
  .done, .mulF, .mulV, .mulFV, .mulVF, .divF, .addF, .addV, .subF, .subV, .eqF, .eqV, .eqS, .eqE,
  .eqFnc, .neF, .neV, .neS, .neE, .neFnc, .leF, .geF, .ltF, .gtF, .loadF, .loadV, .loadS,
  .loadEnt, .loadFld, .loadFnc, .address, .storeF, .storeV, .storeS, .storeEnt, .storeFld,
  .storeFnc, .storePF, .storePV, .storePS, .storePEnt, .storePFld, .storePFnc, .ret, .notF, .notV,
  .notS, .notEnt, .notFnc, .branch, .branchNot, .call0, .call1, .call2, .call3, .call4, .call5,
  .call6, .call7, .call8, .state, .goto, .andF, .orF, .bitAndF, .bitOrF, .addI, .subI, .mulI,
  .divI, .modI, .bitAndI, .bitOrI, .bitXorI, .shiftLeftI, .shiftRightI, .eqI, .neI, .ltI, .leI,
  .gtI, .geI, .notI, .intToFloat, .floatToInt, .loadI, .storeI, .storePI, .globalAddress, .loadPF,
  .loadPV, .loadPI]

def code (op : Opcode) : UInt16 := .ofNat op.ctorIdx

def ofCode? (code : UInt16) : Option Opcode := all[code.toNat]?

def argCount? : Opcode → Option Nat
  | .call0 => some 0
  | .call1 => some 1
  | .call2 => some 2
  | .call3 => some 3
  | .call4 => some 4
  | .call5 => some 5
  | .call6 => some 6
  | .call7 => some 7
  | .call8 => some 8
  | _ => none

def call? : Nat → Option Opcode
  | 0 => some .call0
  | 1 => some .call1
  | 2 => some .call2
  | 3 => some .call3
  | 4 => some .call4
  | 5 => some .call5
  | 6 => some .call6
  | 7 => some .call7
  | 8 => some .call8
  | _ => none

def name : Opcode → String
  | .done => "Done"
  | .mulF => "MulF"
  | .mulV => "MulV"
  | .mulFV => "MulFV"
  | .mulVF => "MulVF"
  | .divF => "DivF"
  | .addF => "AddF"
  | .addV => "AddV"
  | .subF => "SubF"
  | .subV => "SubV"
  | .eqF => "EqF"
  | .eqV => "EqV"
  | .eqS => "EqS"
  | .eqE => "EqE"
  | .eqFnc => "EqFnc"
  | .neF => "NeF"
  | .neV => "NeV"
  | .neS => "NeS"
  | .neE => "NeE"
  | .neFnc => "NeFnc"
  | .leF => "Le"
  | .geF => "Ge"
  | .ltF => "Lt"
  | .gtF => "Gt"
  | .loadF => "LoadF"
  | .loadV => "LoadV"
  | .loadS => "LoadS"
  | .loadEnt => "LoadEnt"
  | .loadFld => "LoadFld"
  | .loadFnc => "LoadFnc"
  | .address => "Address"
  | .storeF => "StoreF"
  | .storeV => "StoreV"
  | .storeS => "StoreS"
  | .storeEnt => "StoreEnt"
  | .storeFld => "StoreFld"
  | .storeFnc => "StoreFnc"
  | .storePF => "StorePF"
  | .storePV => "StorePV"
  | .storePS => "StorePS"
  | .storePEnt => "StorePEnt"
  | .storePFld => "StorePFld"
  | .storePFnc => "StorePFnc"
  | .ret => "Return"
  | .notF => "NotF"
  | .notV => "NotV"
  | .notS => "NotS"
  | .notEnt => "NotEnt"
  | .notFnc => "NotFnc"
  | .branch => "If"
  | .branchNot => "IfNot"
  | .call0 => "Call0"
  | .call1 => "Call1"
  | .call2 => "Call2"
  | .call3 => "Call3"
  | .call4 => "Call4"
  | .call5 => "Call5"
  | .call6 => "Call6"
  | .call7 => "Call7"
  | .call8 => "Call8"
  | .state => "State"
  | .goto => "Goto"
  | .andF => "And"
  | .orF => "Or"
  | .bitAndF => "BitAnd"
  | .bitOrF => "BitOr"
  | .addI => "AddI"
  | .subI => "SubI"
  | .mulI => "MulI"
  | .divI => "DivI"
  | .modI => "ModI"
  | .bitAndI => "BitAndI"
  | .bitOrI => "BitOrI"
  | .bitXorI => "BitXorI"
  | .shiftLeftI => "LShiftI"
  | .shiftRightI => "RShiftI"
  | .eqI => "EqI"
  | .neI => "NeI"
  | .ltI => "LtI"
  | .leI => "LeI"
  | .gtI => "GtI"
  | .geI => "GeI"
  | .notI => "NotI"
  | .intToFloat => "ConvIToF"
  | .floatToInt => "ConvFToI"
  | .loadI => "LoadI"
  | .storeI => "StoreI"
  | .storePI => "StorePI"
  | .globalAddress => "GlobalAddress"
  | .loadPF => "LoadPF"
  | .loadPV => "LoadPV"
  | .loadPI => "LoadPI"

end Opcode

inductive OperandKind where
  | unused | cell | vector | jump
  deriving DecidableEq, Repr

structure OperandKinds where
  a : OperandKind
  b : OperandKind
  c : OperandKind
  deriving DecidableEq, Repr

/-- How each operand is used. A return copies up to three cells, but only the first has to exist. -/
def Opcode.kinds : Opcode → OperandKinds
  | .done | .ret | .call0 | .call1 | .call2 | .call3 | .call4 | .call5 | .call6 | .call7 | .call8 =>
    ⟨.cell, .unused, .unused⟩
  | .mulV | .eqV | .neV => ⟨.vector, .vector, .cell⟩
  | .mulFV => ⟨.cell, .vector, .vector⟩
  | .mulVF => ⟨.vector, .cell, .vector⟩
  | .addV | .subV => ⟨.vector, .vector, .vector⟩
  | .loadV => ⟨.cell, .cell, .vector⟩
  | .storeV => ⟨.vector, .vector, .unused⟩
  | .storeF | .storeS | .storeEnt | .storeFld | .storeFnc | .storeI | .storePF | .storePS
  | .storePEnt | .storePFld | .storePFnc | .storePI | .state => ⟨.cell, .cell, .unused⟩
  | .storePV => ⟨.vector, .cell, .unused⟩
  | .notV => ⟨.vector, .unused, .cell⟩
  | .notF | .notS | .notEnt | .notFnc | .notI | .intToFloat | .floatToInt | .globalAddress
  | .loadPF | .loadPI => ⟨.cell, .unused, .cell⟩
  | .loadPV => ⟨.cell, .unused, .vector⟩
  | .branch | .branchNot => ⟨.cell, .jump, .unused⟩
  | .goto => ⟨.jump, .unused, .unused⟩
  | _ => ⟨.cell, .cell, .cell⟩

end GameVm
