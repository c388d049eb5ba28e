import GameVm.Proofs.Naming

/-! The operations of an assembler: what each of them answers and adds to the tables. -/

namespace GameVm

structure CellRange where
  start : Nat
  cells : Nat

namespace CellRange

def of (start : UInt16) (type : ValueType) : CellRange := ⟨start.toNat, type.cells⟩

def Apart (r r' : CellRange) : Prop :=
  r.start + r.cells ≤ r'.start ∨ r'.start + r'.cells ≤ r.start

/-- Ranges in ascending order between `start` and `stop`. -/
def Within (start : Nat) : List CellRange → Nat → Prop
  | [], stop => start ≤ stop
  | r :: rs, stop => start ≤ r.start ∧ Within (r.start + r.cells) rs stop

/-- Ranges that follow each other from `start` to `stop` without gaps. -/
def Tiles (start : Nat) : List CellRange → Nat → Prop
  | [], stop => start = stop
  | r :: rs, stop => r.start = start ∧ Tiles (start + r.cells) rs stop

variable {start mid stop : Nat} {rs rs' : List CellRange}

lemma Within.le (h : Within start rs stop) : start ≤ stop := by
  induction rs generalizing start with
  | nil => exact h
  | cons r rs ih =>
    have := ih h.2
    have := h.1
    omega

lemma Within.bounds (h : Within start rs stop) {r : CellRange} (hr : r ∈ rs) :
    start ≤ r.start ∧ r.start + r.cells ≤ stop := by
  induction rs generalizing start with
  | nil => cases hr
  | cons s rs ih =>
    cases hr with
    | head => exact ⟨h.1, h.2.le⟩
    | tail _ hr =>
      have := ih h.2 hr
      have := h.1
      omega

lemma Within.pairwise (h : Within start rs stop) : rs.Pairwise Apart := by
  induction rs generalizing start with
  | nil => exact .nil
  | cons r rs ih => exact .cons (fun _ hr' => .inl (h.2.bounds hr').1) (ih h.2)

lemma Within.append (h : Within start rs mid) (h' : Within mid rs' stop) :
    Within start (rs ++ rs') stop := by
  induction rs generalizing start with
  | nil =>
    cases rs' with
    | nil => exact Nat.le_trans h h'
    | cons r rs' => exact ⟨Nat.le_trans h h'.1, h'.2⟩
  | cons r rs ih => exact ⟨h.1, ih h.2⟩

lemma Tiles.within (h : Tiles start rs stop) : Within start rs stop := by
  induction rs generalizing start with
  | nil => exact Nat.le_of_eq h
  | cons r rs ih =>
    obtain ⟨rfl, h⟩ := h
    exact ⟨le_rfl, ih h⟩

lemma Tiles.append (h : Tiles start rs mid) (h' : Tiles mid rs' stop) :
    Tiles start (rs ++ rs') stop := by
  induction rs generalizing start with
  | nil => exact Eq.symm h ▸ h'
  | cons r rs ih => exact ⟨h.1, ih h.2⟩

lemma Tiles.sum (h : Tiles start rs stop) : start + (rs.map cells).sum = stop := by
  induction rs generalizing start with
  | nil => exact h
  | cons r rs ih => rw [List.map_cons, List.sum_cons, ← Nat.add_assoc, ih h.2]

lemma Tiles.single {r : CellRange} (h : r.start = start) : Tiles start [r] (start + r.cells) :=
  ⟨h, rfl⟩

end CellRange

open CellRange

lemma ValueType.cells_pos (type : ValueType) : 0 < type.cells := by
  cases type <;> decide

namespace Assembler

inductive Op where
  | string (s : String)
  | global (name : String) (type : ValueType) (save : Bool)
  | setInitial (cell : UInt16) (bits : Cell)
  | constant (bits : Cell)
  | constantVector (x y z : Cell)
  | constantString (s : String)
  | field (name : String) (type : ValueType)
  | reserveEntityCells (cells : UInt32)
  | function (name : String) (params locals : List ValueType)
  | builtin (name : String) (params : List ValueType)
  | nextStatement
  | emit (st : Statement)
  | arg (n : Nat) (cell : UInt16) (type : ValueType)
  | call (cell : UInt16) (argc : Nat)
  | ret (cell : UInt16)
  | goto (distance : Int16)
  | ifTrue (cell : UInt16) (distance : Int16)
  | ifFalse (cell : UInt16) (distance : Int16)
  | patchJump (source target : Nat)

namespace Op

@[reducible] def Answer : Op → Type
  | .string _ => Int32
  | .global .. | .constant _ | .constantVector .. | .constantString _ => UInt16
  | .field .. => FieldRef
  | .function .. | .builtin .. => FunctionRef
  | .setInitial .. | .reserveEntityCells _ | .patchJump .. => Unit
  | .nextStatement | .emit _ | .arg .. | .call .. | .ret _ | .goto _ | .ifTrue ..
  | .ifFalse .. => Nat

def run : (op : Op) → Assemble (Option op.Answer)
  | .string s => some <$> Assembler.string s
  | .global name type save => some <$> Assembler.global name type save
  | .setInitial cell bits => Assembler.setInitial cell bits
  | .constant bits => some <$> Assembler.constant bits
  | .constantVector x y z => some <$> Assembler.constantVector x y z
  | .constantString s => some <$> Assembler.constantString s
  | .field name type => some <$> Assembler.field name type
  | .reserveEntityCells cells => some <$> Assembler.reserveEntityCells cells
  | .function name params locals => Assembler.function name params locals
  | .builtin name params => Assembler.builtin name params
  | .nextStatement => some <$> Assembler.nextStatement
  | .emit st => some <$> Assembler.emit st
  | .arg n cell type => some <$> Assembler.arg n cell type
  | .call cell argc => Assembler.call cell argc
  | .ret cell => some <$> Assembler.ret cell
  | .goto distance => some <$> Assembler.goto distance
  | .ifTrue cell distance => some <$> Assembler.ifTrue cell distance
  | .ifFalse cell distance => some <$> Assembler.ifFalse cell distance
  | .patchJump source target => Assembler.patchJump source target

def emits : Op → Bool
  | .emit _ | .arg .. | .call .. | .ret _ | .goto _ | .ifTrue .. | .ifFalse .. => true
  | _ => false

def name? : Op → Option String
  | .global name .. | .field name _ | .function name .. | .builtin name _ => some name
  | _ => none

def recordCells : Op → Nat
  | .field _ type => type.cells
  | .reserveEntityCells cells => cells.toNat
  | _ => 0

end Op

structure Step where
  op : Op
  answer : op.Answer

/-- The steps lead from the empty assembler to this one. -/
inductive Assembled : List Step → Assembler → Prop
  | start : Assembled [] empty
  | step {steps : List Step} {asm asm' : Assembler} {op : Op} {answer : op.Answer}
      (before : Assembled steps asm) (run : op.run asm = (some answer, asm')) :
      Assembled (steps ++ [⟨op, answer⟩]) asm'

structure Symbol where
  name : String
  type : ValueType
  save : Bool
  offset : Nat

def Symbol.range (s : Symbol) : CellRange := ⟨s.offset, s.type.cells⟩

def Symbol.Matches (s : Symbol) (d : Definition) : Prop :=
  d.type = s.type ∧ d.save = s.save ∧ d.offset.toNat = s.offset

structure Signature where
  name : String
  params : List ValueType
  locals : List ValueType
  /-- Where its body starts; nowhere for a function of the host. -/
  first : Option Nat
  ref : FunctionRef

def Signature.window (s : Signature) : List CellRange :=
  List.zipWith CellRange.of s.ref.params s.params ++ List.zipWith CellRange.of s.ref.locals s.locals

namespace Step

def functions (first : Nat) : Step → List Signature
  | ⟨.function name params locals, ref⟩ => [⟨name, params, locals, some first, ref⟩]
  | ⟨.builtin name params, ref⟩ => [⟨name, params, [], none, ref⟩]
  | _ => []

def fields : Step → List Symbol
  | ⟨.field name type, ref⟩ => [⟨name, type, false, ref.field.toNat⟩]
  | _ => []

/-- Fields and functions come with a global that holds their number. -/
def globals : Step → List Symbol
  | ⟨.global name type save, cell⟩ => [⟨name, type, save, cell.toNat⟩]
  | ⟨.field name _, ref⟩ => [⟨name, .field, false, ref.global.toNat⟩]
  | ⟨.function name .., ref⟩ => [⟨name, .function, false, ref.handle.toNat⟩]
  | ⟨.builtin name _, ref⟩ => [⟨name, .function, false, ref.handle.toNat⟩]
  | _ => []

def ranges : Step → List CellRange
  | ⟨.global _ type _, cell⟩ => [.of cell type]
  | ⟨.constant _, cell⟩ => [⟨UInt16.toNat cell, 1⟩]
  | ⟨.constantVector .., cell⟩ => [.of cell .vector]
  | ⟨.constantString _, cell⟩ => [.of cell .string]
  | ⟨.field .., ref⟩ => [.of ref.global .field]
  | ⟨.function _ params locals, ref⟩ =>
    List.zipWith .of ref.params params ++ List.zipWith .of ref.locals locals ++
      [.of ref.handle .function]
  | ⟨.builtin .., ref⟩ => [.of ref.handle .function]
  | _ => []

end Step

def emitted (steps : List Step) : Nat := steps.countP (·.op.emits)

/-- The cells of entity records, counted without wrapping. -/
def recordCells (steps : List Step) : Nat := (steps.map (·.op.recordCells)).sum

def functionsFrom (first : Nat) : List Step → List Signature
  | [] => []
  | step :: steps => step.functions first ++ functionsFrom (first + emitted [step]) steps

def functions (steps : List Step) : List Signature := functionsFrom 1 steps

def fields (steps : List Step) : List Symbol := steps.flatMap Step.fields

def globals (steps : List Step) : List Symbol := steps.flatMap Step.globals

def ranges (steps : List Step) : List CellRange := steps.flatMap Step.ranges

def Grower {α : Type} (x : Assemble α) : Prop := ∀ asm, Grows asm (x asm).2

namespace Grower

variable {α β : Type}

lemma pure (a : α) : Grower (pure a) := .refl

lemma get : Grower get := .refl

lemma bind {x : Assemble α} {f : α → Assemble β} (hx : Grower x) (hf : ∀ a, Grower (f a)) :
    Grower (x >>= f) := fun asm => (hx asm).trans (hf _ _)

lemma map {x : Assemble α} (hx : Grower x) (f : α → β) : Grower (f <$> x) := hx

lemma mapM {f : α → Assemble β} (hf : ∀ a, Grower (f a)) (as : List α) : Grower (as.mapM f) := by
  induction as with
  | nil => exact pure _
  | cons a as ih =>
    rw [List.mapM_cons]
    exact (hf a).bind fun _ => ih.bind fun _ => pure _

lemma string (s : String) : Grower (string s) := Grows.string s

lemma alloc (cells : Nat) : Grower (alloc cells) := fun asm =>
  .of_strings (by simp [Assembler.alloc]) le_rfl le_rfl rfl rfl

lemma put (cell : UInt16) (bits : Cell) : Grower (put cell bits) := fun asm =>
  .of_strings (by simp [Assembler.put]) le_rfl le_rfl rfl rfl

lemma emit (st : Statement) : Grower (emit st) := fun asm =>
  .of_strings le_rfl (by simp [Assembler.emit]) le_rfl rfl rfl

lemma modify {f : Assembler → Assembler} (hf : ∀ asm, Grows asm (f asm)) : Grower (modify f) := hf

lemma defineGlobal (name : String) (type : ValueType) (save : Bool) (cell : UInt16) :
    Grower (defineGlobal name type save cell) :=
  (string name).bind fun _ => modify fun _ => .of_strings le_rfl le_rfl le_rfl rfl rfl

lemma constant (bits : Cell) : Grower (constant bits) :=
  (alloc 1).bind fun cell => (put cell bits).bind fun _ => pure _

lemma defineFunction (name : String) (entry : Int32 → FunctionEntry) :
    Grower (defineFunction name entry) := by
  refine get.bind fun asm => (string name).bind fun nameOffset => bind ?_ fun _ => ?_
  · exact modify fun _ => .of_strings le_rfl le_rfl (by simp) rfl rfl
  · exact (constant _).bind fun handle =>
      (defineGlobal name .function false handle).bind fun _ => pure _

lemma run (op : Op) : Grower op.run := by
  cases op with
  | string s => exact (string s).map some
  | global name type save =>
    exact ((alloc type.cells).bind fun cell =>
      (defineGlobal name type save cell).bind fun _ => pure cell).map some
  | setInitial cell bits =>
    refine get.bind fun asm => ?_
    split_ifs
    · exact (put cell bits).bind fun _ => pure _
    · exact pure none
  | constant bits => exact (constant bits).map some
  | constantVector x y z =>
    exact ((alloc 3).bind fun cell => (put cell x).bind fun _ => (put (cell + 1) y).bind fun _ =>
      (put (cell + 2) z).bind fun _ => pure cell).map some
  | constantString s => exact ((string s).bind fun _ => constant _).map some
  | field name type =>
    refine (get.bind fun asm => (string name).bind fun nameOffset => bind ?_ fun _ => ?_).map some
    · exact modify fun _ => .of_strings le_rfl le_rfl le_rfl rfl rfl
    · exact (constant _).bind fun cell =>
        (defineGlobal name .field false cell).bind fun _ => pure _
  | reserveEntityCells cells =>
    refine map ?_ some
    exact modify fun _ => .of_strings le_rfl le_rfl le_rfl rfl rfl
  | function name params locals =>
    change Grower (function name params locals)
    rw [function]
    split_ifs
    · exact pure none
    · exact get.bind fun _ => get.bind fun _ => (mapM (fun _ => alloc _) params).bind fun _ =>
        (mapM (fun _ => alloc _) locals).bind fun _ => get.bind fun _ =>
          (defineFunction name _).bind fun _ => pure _
  | builtin name params =>
    change Grower (builtin name params)
    rw [builtin]
    split_ifs
    · exact pure none
    · refine bind ?_ fun _ => get.bind fun asm => ?_
      · exact modify fun _ => .of_strings le_rfl le_rfl le_rfl rfl rfl
      · exact (defineFunction name _).bind fun _ => pure _
  | nextStatement => exact (get.bind fun _ => pure _).map some
  | call cell argc =>
    change Grower (call cell argc)
    rw [call]
    cases Opcode.call? argc with
    | some op => exact (emit ⟨op, cell, 0, 0⟩).bind fun _ => pure _
    | none => exact pure none
  | patchJump source target =>
    refine get.bind fun asm => ?_
    split_ifs
    · refine bind ?_ fun _ => pure _
      exact modify fun _ => .of_strings le_rfl (by simp) le_rfl rfl rfl
    · exact pure none
  | emit st | arg n cell type | ret cell | goto distance | ifTrue cell distance
  | ifFalse cell distance => exact (emit _).map some

end Grower

structure Tables where
  cells : Nat
  statements : Nat
  entityCells : UInt32
  globalDefs : List Definition
  fieldDefs : List Definition
  functions : List FunctionEntry
  builtins : Nat

def tables (asm : Assembler) : Tables where
  cells := asm.parts.globals.size
  statements := asm.parts.statements.size
  entityCells := asm.parts.entityCells
  globalDefs := asm.parts.globalDefs.toList
  fieldDefs := asm.parts.fieldDefs.toList
  functions := asm.parts.functions.toList
  builtins := asm.builtinCount

section Tables

variable (asm : Assembler)

@[simp] lemma tables_string (s : String) : (string s asm).2.tables = asm.tables := by
  cases h : asm.interned[Utf8.encode s]? with
  | some offset => rw [string_of_interned h]
  | none => rw [string_of_new h]; rfl

@[simp] lemma tables_alloc (n : Nat) :
    (alloc n asm).2.tables = { asm.tables with cells := asm.tables.cells + n } := by
  simp [alloc, tables]

@[simp] lemma tables_put (cell : UInt16) (bits : Cell) :
    (put cell bits asm).2.tables = asm.tables := by
  simp [put, tables]

@[simp] lemma tables_emit (st : Statement) :
    (emit st asm).2.tables = { asm.tables with statements := asm.tables.statements + 1 } := by
  simp [emit, tables]

@[simp] lemma tables_constant (bits : Cell) :
    (constant bits asm).2.tables = { asm.tables with cells := asm.tables.cells + 1 } := by
  change (put (UInt16.ofNat asm.parts.globals.size) bits (alloc 1 asm).2).2.tables = _
  rw [tables_put, tables_alloc]

@[simp] lemma tables_constantVector (x y z : Cell) :
    (constantVector x y z asm).2.tables = { asm.tables with cells := asm.tables.cells + 3 } := by
  let cell := UInt16.ofNat asm.parts.globals.size
  change (put (cell + 2) z (put (cell + 1) y (put cell x (alloc 3 asm).2).2).2).2.tables = _
  simp only [tables_put, tables_alloc]

@[simp] lemma tables_constantString (s : String) :
    (constantString s asm).2.tables = { asm.tables with cells := asm.tables.cells + 1 } := by
  change (constant (string s asm).1.toUInt32 (string s asm).2).2.tables = _
  rw [tables_constant, tables_string]

variable {asm} in
lemma tables_setInitial {asm' : Assembler} {cell : UInt16} {bits : Cell}
    (h : setInitial cell bits asm = (some (), asm')) : asm'.tables = asm.tables := by
  change (if cell.toNat < asm.parts.globals.size then _ else _ : Assemble _) asm = _ at h
  split_ifs at h
  · obtain rfl : (put cell bits asm).2 = asm' := congrArg Prod.snd h
    exact tables_put asm cell bits
  · cases congrArg Prod.fst h

variable {asm} in
lemma tables_patchJump {asm' : Assembler} {source target : Nat}
    (h : patchJump source target asm = (some (), asm')) : asm'.tables = asm.tables := by
  change (if source < asm.parts.statements.size then _ else _ : Assemble _) asm = _ at h
  split_ifs at h
  · rw [← show _ = asm' from congrArg Prod.snd h]
    exact congrArg (fun n => { asm.tables with statements := n }) Array.size_modify
  · cases congrArg Prod.fst h

lemma defineGlobal_spec (name : String) (type : ValueType) (save : Bool) (cell : UInt16) :
    ∃ offset, (defineGlobal name type save cell asm).2.Spells name offset ∧
      (defineGlobal name type save cell asm).2.tables = { asm.tables with
        globalDefs := asm.tables.globalDefs ++ [⟨type, save, cell, offset⟩] } := by
  let spelled := string name asm
  let defined : Assembler := { spelled.2 with parts := { spelled.2.parts with
    globalDefs := spelled.2.parts.globalDefs.push ⟨type, save, cell, spelled.1⟩ } }
  refine ⟨spelled.1, spells_string name asm, show defined.tables = _ from ?_⟩
  calc
    defined.tables = { spelled.2.tables with
        globalDefs := spelled.2.tables.globalDefs ++ [⟨type, save, cell, spelled.1⟩] } := by
      simp [defined, tables]
    _ = _ := by rw [tables_string]

lemma global_spec (name : String) (type : ValueType) (save : Bool) :
    ∃ offset, (global name type save asm).2.Spells name offset ∧
      (global name type save asm).2.tables = { asm.tables with
        cells := asm.tables.cells + type.cells
        globalDefs := asm.tables.globalDefs ++
          [⟨type, save, (global name type save asm).1, offset⟩] } := by
  obtain ⟨offset, hs, ht⟩ := defineGlobal_spec (alloc type.cells asm).2 name type save
    (UInt16.ofNat asm.parts.globals.size)
  refine ⟨offset, hs, ht.trans ?_⟩
  rw [tables_alloc]
  rfl

lemma held_spec (bits : Cell) {name : String} (type : ValueType) {offset : Int32}
    (hs : asm.Spells name offset) :
    let cell := UInt16.ofNat asm.tables.cells
    let asm' := (defineGlobal name type false cell (constant bits asm).2).2
    asm'.Spells name offset ∧ asm'.tables = { asm.tables with
      cells := asm.tables.cells + 1
      globalDefs := asm.tables.globalDefs ++ [⟨type, false, cell, offset⟩] } := by
  intro cell asm'
  obtain ⟨offset', hs', ht⟩ := defineGlobal_spec (constant bits asm).2 name type false cell
  -- The name is in the blob already, so interning it again finds the same offset.
  have hkept := (Grower.defineGlobal name type false cell _).spells name offset
    ((Grower.constant bits asm).spells name offset hs)
  obtain rfl : offset = offset' := Option.some.inj (hkept.symm.trans hs')
  refine ⟨hkept, ht.trans ?_⟩
  rw [tables_constant]

lemma field_spec (name : String) (type : ValueType) :
    ∃ offset, (field name type asm).2.Spells name offset ∧
      (field name type asm).1 =
        ⟨asm.tables.entityCells, UInt16.ofNat asm.tables.cells, type⟩ ∧
      (field name type asm).2.tables = { asm.tables with
        cells := asm.tables.cells + 1
        entityCells := asm.tables.entityCells + UInt32.ofNat type.cells
        globalDefs := asm.tables.globalDefs ++
          [⟨.field, false, UInt16.ofNat asm.tables.cells, offset⟩]
        fieldDefs := asm.tables.fieldDefs ++
          [⟨type, false, asm.tables.entityCells.toUInt16, offset⟩] } := by
  let spelled := string name asm
  let pushed : Assembler := { spelled.2 with parts := { spelled.2.parts with
    entityCells := asm.parts.entityCells + UInt32.ofNat type.cells
    fieldDefs := spelled.2.parts.fieldDefs.push
      ⟨type, false, asm.parts.entityCells.toUInt16, spelled.1⟩ } }
  have htables : pushed.tables = { asm.tables with
      entityCells := asm.tables.entityCells + UInt32.ofNat type.cells
      fieldDefs := asm.tables.fieldDefs ++
        [⟨type, false, asm.tables.entityCells.toUInt16, spelled.1⟩] } := calc
    pushed.tables = { spelled.2.tables with
        entityCells := asm.tables.entityCells + UInt32.ofNat type.cells
        fieldDefs := spelled.2.tables.fieldDefs ++
          [⟨type, false, asm.tables.entityCells.toUInt16, spelled.1⟩] } := by
      simp [pushed, tables]
    _ = _ := by rw [tables_string]
  obtain ⟨hs, ht⟩ := held_spec pushed asm.parts.entityCells .field
    (spells_string name asm : pushed.Spells name spelled.1)
  have hcell : pushed.tables.cells = asm.tables.cells := by rw [htables]
  refine ⟨spelled.1, hs, ?_, ht.trans ?_⟩
  · rw [← hcell]
    rfl
  · rw [htables]

lemma defineFunction_spec (name : String) (entry : Int32 → FunctionEntry) :
    ∃ offset, (defineFunction name entry asm).2.Spells name offset ∧
      (defineFunction name entry asm).1 =
        (asm.tables.functions.length, UInt16.ofNat asm.tables.cells) ∧
      (defineFunction name entry asm).2.tables = { asm.tables with
        cells := asm.tables.cells + 1
        globalDefs := asm.tables.globalDefs ++
          [⟨.function, false, UInt16.ofNat asm.tables.cells, offset⟩]
        functions := asm.tables.functions ++ [entry offset] } := by
  let spelled := string name asm
  let pushed : Assembler := { spelled.2 with parts := { spelled.2.parts with
    functions := spelled.2.parts.functions.push (entry spelled.1) } }
  have htables : pushed.tables = { asm.tables with
      functions := asm.tables.functions ++ [entry spelled.1] } := calc
    pushed.tables = { spelled.2.tables with
        functions := spelled.2.tables.functions ++ [entry spelled.1] } := by
      simp [pushed, tables]
    _ = _ := by rw [tables_string]
  obtain ⟨hs, ht⟩ := held_spec pushed (UInt32.ofNat asm.parts.functions.size) .function
    (spells_string name asm : pushed.Spells name spelled.1)
  have hcell : pushed.tables.cells = asm.tables.cells := by rw [htables]
  refine ⟨spelled.1, hs, ?_, ht.trans ?_⟩
  · rw [← hcell]
    rfl
  · rw [htables]

end Tables

def width (types : List ValueType) : Nat := (types.map ValueType.cells).sum

def starts (start : Nat) : List ValueType → List UInt16
  | [] => []
  | type :: types => UInt16.ofNat start :: starts (start + type.cells) types

lemma width_cons (type : ValueType) (types : List ValueType) :
    width (type :: types) = type.cells + width types := by
  rw [width, List.map_cons, List.sum_cons, width]

lemma mapM_alloc (types : List ValueType) (asm : Assembler) :
    (types.mapM fun type => alloc type.cells : Assemble (List UInt16)) asm =
      (starts asm.tables.cells types, (alloc (width types) asm).2) := by
  induction types generalizing asm with
  | nil =>
    have hnone : (alloc 0 asm).2 = asm := by simp [alloc]
    rw [show width [] = 0 from rfl, hnone]
    rfl
  | cons type types ih =>
    let rest : Assemble (List UInt16) := types.mapM fun type => alloc type.cells
    have hrest : rest (alloc type.cells asm).2 = _ := ih (alloc type.cells asm).2
    rw [tables_alloc] at hrest
    have hboth (n : Nat) :
        (alloc n (alloc type.cells asm).2).2 = (alloc (type.cells + n) asm).2 := by
      simp only [alloc, Assembler.mk.injEq, Parts.mk.injEq, true_and, and_true]
      apply Array.ext'
      simp
    rw [List.mapM_cons, width_cons, ← hboth]
    change ((alloc type.cells asm).1 :: (rest (alloc type.cells asm).2).1,
      (rest (alloc type.cells asm).2).2) = _
    rw [hrest]
    rfl

lemma length_starts (start : Nat) (types : List ValueType) :
    (starts start types).length = types.length := by
  induction types generalizing start with
  | nil => rfl
  | cons type types ih => rw [starts, List.length_cons, ih, List.length_cons]

lemma tiles_starts {start : Nat} {types : List ValueType}
    (h : start + width types ≤ 65536) :
    Tiles start (List.zipWith .of (starts start types) types) (start + width types) := by
  induction types generalizing start with
  | nil => rfl
  | cons type types ih =>
    have hpos := type.cells_pos
    rw [width_cons, ← Nat.add_assoc] at h ⊢
    exact ⟨UInt16.toNat_ofNat_of_lt (show start < 65536 by omega), ih h⟩

section Functions

variable {asm asm' : Assembler} {name : String} {params locals : List ValueType} {ref : FunctionRef}

lemma function_spec (h : function name params locals asm = (some ref, asm')) :
    let start := asm.tables.cells
    let window := width params + width locals
    params.length ≤ Slots.maxParms ∧
    ref = ⟨asm.tables.functions.length, UInt16.ofNat (start + window), starts start params,
      starts (start + width params) locals⟩ ∧
    ∃ offset, asm'.Spells name offset ∧ asm'.tables = { asm.tables with
      cells := start + window + 1
      globalDefs := asm.tables.globalDefs ++
        [⟨.function, false, UInt16.ofNat (start + window), offset⟩]
      functions := asm.tables.functions ++ [{
        first := Int32.ofNat asm.tables.statements
        parmStart := UInt32.ofNat start
        locals := UInt32.ofNat window
        name := offset
        numParms := UInt32.ofNat params.length
        parmSizes := parmSizes params }] } := by
  intro start window
  rw [function] at h
  split_ifs at h with hcount
  · cases h
  let withParams := (params.mapM fun type => alloc type.cells : Assemble (List UInt16)) asm
  let withLocals := (locals.mapM fun type => alloc type.cells : Assemble (List UInt16)) withParams.2
  let entry (nameOffset : Int32) : FunctionEntry := {
    first := Int32.ofNat asm.tables.statements
    parmStart := UInt32.ofNat start
    locals := UInt32.ofNat (withLocals.2.tables.cells - start)
    name := nameOffset
    numParms := UInt32.ofNat params.length
    parmSizes := parmSizes params }
  let defined := defineFunction name entry withLocals.2
  change (some ⟨defined.1.1, defined.1.2, withParams.1, withLocals.1⟩, defined.2) =
    (some ref, asm') at h
  obtain ⟨href, rfl⟩ := Prod.mk.inj h
  obtain rfl := Option.some.inj href
  have hparams : withParams = _ := mapM_alloc params asm
  have hlocals : withLocals = _ := mapM_alloc locals withParams.2
  have hcells : withLocals.2.tables = { asm.tables with cells := start + window } := by
    simp [hlocals, hparams, start, window, Nat.add_assoc]
  obtain ⟨offset, hs, hr, ht⟩ := defineFunction_spec withLocals.2 name entry
  refine ⟨Nat.le_of_not_lt hcount, ?_, offset, hs, ?_⟩
  · rw [show defined.1 = _ from hr, hcells, hlocals, hparams, tables_alloc]
  · rw [show defined.2.tables = _ from ht]
    simp only [entry, hcells, Nat.add_sub_cancel_left]

lemma builtin_spec (h : builtin name params asm = (some ref, asm')) :
    params.length ≤ Slots.maxParms ∧
    ref = ⟨asm.tables.functions.length, UInt16.ofNat asm.tables.cells, [], []⟩ ∧
    ∃ offset, asm'.Spells name offset ∧ asm'.tables = { asm.tables with
      cells := asm.tables.cells + 1
      globalDefs := asm.tables.globalDefs ++
        [⟨.function, false, UInt16.ofNat asm.tables.cells, offset⟩]
      functions := asm.tables.functions ++ [{
        first := -Int32.ofNat (asm.tables.builtins + 1)
        name := offset
        numParms := UInt32.ofNat params.length
        parmSizes := parmSizes params }]
      builtins := asm.tables.builtins + 1 } := by
  rw [builtin] at h
  split_ifs at h with hcount
  · cases h
  let counted : Assembler := { asm with builtinCount := asm.builtinCount + 1 }
  let entry (nameOffset : Int32) : FunctionEntry := {
    first := -Int32.ofNat counted.builtinCount
    name := nameOffset
    numParms := UInt32.ofNat params.length
    parmSizes := parmSizes params }
  let defined := defineFunction name entry counted
  change (some ⟨defined.1.1, defined.1.2, [], []⟩, defined.2) = (some ref, asm') at h
  obtain ⟨href, rfl⟩ := Prod.mk.inj h
  obtain rfl := Option.some.inj href
  obtain ⟨offset, hs, hr, ht⟩ := defineFunction_spec counted name entry
  refine ⟨Nat.le_of_not_lt hcount, ?_, offset, hs, ht⟩
  rw [show defined.1 = _ from hr]
  rfl

end Functions

end Assembler

end GameVm
