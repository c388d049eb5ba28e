import GameVm.Program.Opcode
import GameVm.Text.Numeral

/-! Why a program image is rejected. -/

namespace GameVm

/-- The sections of an image, in the order of the header. -/
inductive Section where
  | statements | globalDefs | fieldDefs | functions | strings | globals
  deriving DecidableEq, Repr

def Section.name : Section → String
  | .statements => "statements"
  | .globalDefs => "global_defs"
  | .fieldDefs => "field_defs"
  | .functions => "functions"
  | .strings => "strings"
  | .globals => "globals"

inductive SymbolKind where
  | function | global | field
  deriving DecidableEq, Repr

def SymbolKind.name : SymbolKind → String
  | .function => "function"
  | .global => "global"
  | .field => "field"

inductive FunctionFlaw where
  | noNullEntry
  | firstStatement (first : Int32)
  | window (start len : UInt32) (globals : Nat)
  | parameterCount (count : UInt32)
  | parameterSize
  | parametersExceedWindow
  deriving DecidableEq, Repr

def FunctionFlaw.message : FunctionFlaw → String
  | .noNullEntry => "function table has no null entry"
  | .firstStatement first => s!"first statement {first} out of range"
  | .window start len globals => s!"locals window {start}+{len} exceeds {globals} globals"
  | .parameterCount count => s!"{count} parameters"
  | .parameterSize => "parameter size must be 1 or 3"
  | .parametersExceedWindow => "parameters exceed locals window"

inductive FormatError where
  | invalidMagic
  | unsupportedVersion (version : UInt32)
  | unexpectedEnd
  | sectionOutOfBounds (part : Section) (offset count : UInt32)
  | reservedGlobals (count required : Nat)
  | invalidOpcode (statement : Nat) (code : UInt16)
  | operandOutOfRange (statement : Nat) (op : Opcode) (operand : Char) (value : UInt16)
  | jumpOutOfRange (statement : Nat) (offset : Int16)
  | invalidTypeTag (table : SymbolKind) (index : Nat) (tag : UInt16)
  | definitionOutOfRange (table : SymbolKind) (name : String) (offset : UInt16)
  | badFunction (index : Nat) (flaw : FunctionFlaw)
  | badStringOffset (offset : Int32)
  | malformedStrings
  | checksumMismatch (expected found : UInt32)
  | missingRequired (kind : SymbolKind) (name : String)
  deriving DecidableEq, Repr

def FormatError.message : FormatError → String
  | .invalidMagic => "Invalid magic bytes"
  | .unsupportedVersion version => s!"Unsupported version: {version}"
  | .unexpectedEnd => "Unexpected end of program image"
  | .sectionOutOfBounds part offset count =>
    s!"Section {part.name} out of bounds (offset {offset}, count {count})"
  | .reservedGlobals count required =>
    s!"Program declares {count} globals, at least {required} are reserved"
  | .invalidOpcode statement code => s!"Invalid opcode {code} at statement {statement}"
  | .operandOutOfRange statement op operand value =>
    s!"Statement {statement} ({op.name}): operand {operand} = {value} out of range"
  | .jumpOutOfRange statement offset =>
    s!"Statement {statement}: jump by {offset} leaves the statement stream"
  | .invalidTypeTag table index tag =>
    s!"Invalid type tag {Numeral.hex 4 tag.toNat} in {table.name} definition {index}"
  | .definitionOutOfRange table name offset =>
    s!"{table.name} definition `{name}` at offset {offset} out of range"
  | .badFunction index flaw => s!"Function {index}: {flaw.message}"
  | .badStringOffset offset => s!"String offset {offset} out of range"
  | .malformedStrings => "Malformed string blob"
  | .checksumMismatch expected found =>
    s!"Checksum mismatch: expected {Numeral.hex 8 expected.toNat}, " ++
      s!"found {Numeral.hex 8 found.toNat}"
  | .missingRequired kind name => s!"Required {kind.name} `{name}` not found"

end GameVm
