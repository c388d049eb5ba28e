import GameVm.Machine.Error
import GameVm.Machine.Journal
import GameVm.Config.Settings
import GameVm.Program.Image

/-! Loading programs that have to meet a host's requirements. -/

namespace GameVm

abbrev Logged (α : Type) := EStateM VmError Journal α

def Logged.write (level : Level) (message : String) (fields : List (String × String)) :
    Logged Unit :=
  modify fun journal => journal.write level message fields

namespace Loader

/-- What an image lacks: the check value comes first, then functions, fields and globals. -/
def shortfall? (image : Image) (options : LoadOptions) : Option FormatError :=
  let mismatch := (options.expectedChecksum.filter (· ≠ image.checksum)).map
    (.checksumMismatch · image.checksum)
  let missing (kind : SymbolKind) (found : String → Bool) (names : List String) :=
    (names.find? (!found ·)).map (FormatError.missingRequired kind)
  mismatch <|> missing .function (image.findFunction? · |>.isSome) options.requiredFunctions
    <|> missing .field (image.findField? · |>.isSome) options.requiredFields
    <|> missing .global (image.findGlobal? · |>.isSome) options.requiredGlobals

def accept (bytes : Bytes) (options : LoadOptions) : Except FormatError Image := do
  let image ← Image.decode bytes
  match shortfall? image options with
  | some err => throw err
  | none => return image

def load (domain : Domain) (bytes : Bytes) (options : LoadOptions) : Logged Image := do
  match accept bytes options with
  | .ok image =>
    Logged.write .debug "loaded program" [("domain", domain.name),
      ("checksum", toString image.checksum),
      ("statements", toString image.parts.statements.size),
      ("functions", toString image.parts.functions.size),
      ("globals", toString image.parts.globals.size),
      ("entity_cells", toString image.parts.entityCells)]
    return image
  | .error err =>
    Logged.write .warn "program rejected" [("domain", domain.name), ("error", err.message)]
    throw (.programFormat err)

end Loader

end GameVm
