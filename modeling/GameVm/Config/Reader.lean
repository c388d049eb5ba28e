import GameVm.Config.Number
import GameVm.Config.Settings

/-! Settings and options from JSON text. Fields that are missing take their defaults. -/

namespace GameVm

namespace Json

/-- The values of named fields. Objects may have other fields, but none of these twice; arrays give
the first of them in order. -/
def record? (names : List String) : Json → Option (List (Option Json))
  | .array items =>
    if names.length < items.length then none
    else some (items.map some ++ List.replicate (names.length - items.length) none)
  | .object fields =>
    if fields.any (·.1.isNone) then none
    else if names.any fun name => 1 < fields.countP (·.1 = some name) then none
    else some (names.map fun name => (fields.find? (·.1 = some name)).map (·.2))
  | _ => none

def nat? (bound : Nat) : Json → Option Nat
  | .number n =>
    match n.value? with
    | some (.natural k) => if k < bound then some k else none
    | _ => none
  | _ => none

def cell? : Json → Option Cell
  | .number n => n.value?.map NumberValue.toCell
  | _ => none

def bool? : Json → Option Bool
  | .bool b => some b
  | _ => none

def string? : Json → Option String
  | .string s => s
  | _ => none

def strings? : Json → Option (List String)
  | .array items => items.mapM string?
  | _ => none

def nullable? {α : Type} (read : Json → Option α) : Json → Option (Option α)
  | .null => some none
  | value => (read value).map some

/-- One of two words, alone or as the key of a null. -/
def binding? : Json → Option BuiltinBinding
  | .string (some "strict") | .object [(some "strict", .null)] => some .strict
  | .string (some "deferred") | .object [(some "deferred", .null)] => some .deferred
  | _ => none

def orDefault {α : Type} (default : α) (read : Json → Option α) : Option Json → Option α
  | none => some default
  | some value => read value

end Json

open Json in
def Settings.ofJson? (json : Json) : Option Settings := do
  let values ← json.record? ["max_instructions", "max_call_depth", "local_stack_size",
    "scratch_strings", "scratch_string_size", "state_interval", "allow_world_writes",
    "builtin_binding", "trace_statements"]
  let [instructions, depth, locals, scratch, scratchSize, interval, world, binding, trace] := values
    | none
  let base : Settings := {}
  return {
    maxInstructions := ← orDefault base.maxInstructions (nat? UInt64.size) instructions
    maxCallDepth := ← orDefault base.maxCallDepth (nat? UInt64.size) depth
    localStackSize := ← orDefault base.localStackSize (nat? UInt64.size) locals
    scratchStrings := ← orDefault base.scratchStrings (nat? UInt64.size) scratch
    scratchStringSize := ← orDefault base.scratchStringSize (nat? UInt64.size) scratchSize
    stateInterval := ← orDefault base.stateInterval cell? interval
    allowWorldWrites := ← orDefault base.allowWorldWrites bool? world
    builtinBinding := ← orDefault base.builtinBinding binding? binding
    traceStatements := ← orDefault base.traceStatements bool? trace }

open Json in
def LoadOptions.ofJson? (json : Json) : Option LoadOptions := do
  let values ← json.record? ["expected_checksum", "required_functions", "required_fields",
    "required_globals"]
  let [checksum, functions, fields, globals] := values | none
  return {
    expectedChecksum :=
      (← orDefault none (nullable? (nat? UInt32.size)) checksum).map UInt32.ofNat
    requiredFunctions := ← orDefault [] strings? functions
    requiredFields := ← orDefault [] strings? fields
    requiredGlobals := ← orDefault [] strings? globals }

open Json in
def InstanceOptions.ofJson? (json : Json) : Option InstanceOptions := do
  let values ← json.record? ["entity_capacity", "record_cells", "load"]
  let [capacity, recordCells, load] := values | none
  let base : InstanceOptions := {}
  return {
    entityCapacity := ← orDefault base.entityCapacity (nat? UInt32.size) capacity
    recordCells := ← orDefault none (nullable? (nat? UInt32.size)) recordCells
    load := ← orDefault {} LoadOptions.ofJson? load }

def Settings.parse? (text : String) : Option Settings := (Json.parse? text).bind Settings.ofJson?

def LoadOptions.parse? (text : String) : Option LoadOptions :=
  (Json.parse? text).bind LoadOptions.ofJson?

def InstanceOptions.parse? (text : String) : Option InstanceOptions :=
  (Json.parse? text).bind InstanceOptions.ofJson?

end GameVm
