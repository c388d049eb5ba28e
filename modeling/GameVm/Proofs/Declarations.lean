import GameVm.Proofs.Assembly

/-! Declarations: after any operations, cells, definitions and function entries lie as they were
declared. -/

namespace GameVm.Assembler

open CellRange

lemma tiles_of_ofNat (type : ValueType) {n : Nat} (h : n + type.cells ≤ 65536) :
    Tiles n [.of (UInt16.ofNat n) type] (n + type.cells) := by
  have hpos := type.cells_pos
  exact .single (UInt16.toNat_ofNat_of_lt (show n < 65536 by omega))

lemma parms_of_params {params : List ValueType} (h : params.length ≤ Slots.maxParms)
    {f : FunctionEntry} (hn : f.numParms = UInt32.ofNat params.length)
    (hs : f.parmSizes = parmSizes params) :
    f.numParms.toNat = params.length ∧ f.parms = params.map ValueType.cells := by
  rw [Slots.maxParms] at h
  have hcount : f.numParms.toNat = params.length := by
    rw [hn]
    exact UInt32.toNat_ofNat_of_lt (show params.length < 2 ^ 32 by omega)
  refine ⟨hcount, List.ext_getElem ?_ fun i hi hi' => ?_⟩
  · simp [FunctionEntry.parms, hcount, h]
  · rw [List.length_map] at hi'
    have hcells (type : ValueType) : (UInt8.ofNat type.cells).toNat = type.cells := by
      cases type <;> rfl
    simp [FunctionEntry.parms, hs, parmSizes, List.getElem?_eq_getElem hi', hcells]

structure Symbol.Defined (asm : Assembler) (s : Symbol) (d : Definition) : Prop where
  name : asm.Spells s.name d.name
  type : d.type = s.type
  save : d.save = s.save
  offset : d.offset = UInt16.ofNat s.offset

/-- An entry is that of a declared function: where its body starts, its parameters, and a window
made up of the cells of its parameters and locals. -/
structure Signature.Describes (s : Signature) (f : FunctionEntry) : Prop where
  builtin : f.isBuiltin = s.first.isNone
  first : ∀ n, s.first = some n → f.first.toInt = n
  numParms : f.numParms.toNat = s.params.length
  parms : f.parms = s.params.map ValueType.cells
  answered : s.first.isSome →
    s.ref.params.length = s.params.length ∧ s.ref.locals.length = s.locals.length
  window : Tiles f.parmStart.toNat s.window (f.parmStart.toNat + f.locals.toNat)

structure Signature.Entered (asm : Assembler) (s : Signature) (f : FunctionEntry) : Prop
    extends s.Describes f where
  name : asm.Spells s.name f.name
  file : f.file = 0
  count : s.params.length ≤ Slots.maxParms
  fits : f.parmStart.toNat + f.locals.toNat ≤ asm.tables.cells

structure Advances (asm : Assembler) (t : Tables) (step : Step) (t' : Tables) : Prop where
  cells : Tiles t.cells step.ranges t'.cells
  statements : t'.statements = t.statements + emitted [step]
  entityCells : t'.entityCells = t.entityCells + UInt32.ofNat step.op.recordCells
  record : Within t.entityCells.toNat (step.fields.map Symbol.range)
    (t.entityCells.toNat + step.op.recordCells)
  globals : ∃ defs, t'.globalDefs = t.globalDefs ++ defs ∧
    List.Forall₂ (Symbol.Defined asm) step.globals defs
  fields : ∃ defs, t'.fieldDefs = t.fieldDefs ++ defs ∧
    List.Forall₂ (Symbol.Defined asm) step.fields defs
  functions : ∃ entries, t'.functions = t.functions ++ entries ∧
    List.Forall₂ (Signature.Entered asm) (step.functions t.statements) entries
  indices : (step.functions t.statements).map (·.ref.index) =
    List.range' t.functions.length (step.functions t.statements).length
  builtins : t'.builtins + t.functions.length ≤ t.builtins + t'.functions.length

lemma adds_none {α β : Type} {R : α → β → Prop} {bs : List β} :
    ∃ added, bs = bs ++ added ∧ List.Forall₂ R [] added :=
  ⟨[], (List.append_nil bs).symm, .nil⟩

namespace Advances

variable {asm asm' : Assembler}

lemma of_nameless {t : Tables} {step : Step} {cells : Nat} (hstep : step.op.name? = none)
    (hr : step.op.recordCells = 0) (hc : Tiles t.cells step.ranges cells) :
    Advances asm t step { t with
      cells := cells
      statements := t.statements + emitted [step] } := by
  have hnone : step.globals = [] ∧ step.fields = [] ∧ ∀ n, step.functions n = [] := by
    obtain ⟨op, answer⟩ := step
    cases op <;> first | exact ⟨rfl, rfl, fun _ => rfl⟩ | cases hstep
  obtain ⟨hglobals, hfields, hfunctions⟩ := hnone
  constructor <;> simp only [hglobals, hfields, hfunctions, hr]
  case cells => exact hc
  case entityCells => exact (UInt32.add_zero _).symm
  case record => exact Nat.le_refl _
  case globals => exact adds_none
  case fields => exact adds_none
  case functions => exact adds_none
  case indices => rfl
  case builtins => exact le_rfl

lemma reserve {t : Tables} {cells : UInt32} :
    Advances asm t ⟨.reserveEntityCells cells, ()⟩
      { t with entityCells := t.entityCells + cells } where
  cells := rfl
  statements := rfl
  entityCells := congrArg (t.entityCells + ·) UInt32.ofNat_toNat.symm
  record := Nat.le_add_right ..
  globals := adds_none
  fields := adds_none
  functions := adds_none
  indices := rfl
  builtins := le_rfl

lemma global {name : String} {type : ValueType} {save : Bool} {cell : UInt16}
    (h : global name type save asm = (cell, asm')) (hb : asm'.tables.cells ≤ 65536) :
    Advances asm' asm.tables ⟨.global name type save, cell⟩ asm'.tables := by
  obtain ⟨offset, hs, ht⟩ := global_spec asm name type save
  have hcell : UInt16.ofNat asm.tables.cells = cell := congrArg Prod.fst h
  rw [h] at hs ht
  rw [ht] at hb ⊢
  exact {
    cells := hcell ▸ tiles_of_ofNat type hb
    statements := rfl
    entityCells := (UInt32.add_zero _).symm
    record := Nat.le_add_right ..
    globals := ⟨_, rfl, .cons ⟨hs, rfl, rfl, UInt16.ofNat_toNat.symm⟩ .nil⟩
    fields := adds_none
    functions := adds_none
    indices := rfl
    builtins := le_rfl }

lemma field {name : String} {type : ValueType} {ref : FieldRef}
    (h : field name type asm = (ref, asm')) (hb : asm'.tables.cells ≤ 65536) :
    Advances asm' asm.tables ⟨.field name type, ref⟩ asm'.tables := by
  obtain ⟨offset, hs, hr, ht⟩ := field_spec asm name type
  rw [h] at hs hr ht
  obtain rfl : ref = _ := hr
  rw [ht] at hb ⊢
  exact {
    cells := tiles_of_ofNat .field hb
    statements := rfl
    entityCells := rfl
    record := ⟨le_rfl, le_rfl⟩
    globals := ⟨_, rfl, .cons ⟨hs, rfl, rfl, UInt16.ofNat_toNat.symm⟩ .nil⟩
    fields := ⟨_, rfl, .cons ⟨hs, rfl, rfl, rfl⟩ .nil⟩
    functions := adds_none
    indices := rfl
    builtins := le_rfl }

section Functions

variable {name : String} {params locals : List ValueType} {ref : FunctionRef}

lemma function (h : function name params locals asm = (some ref, asm'))
    (hb : asm'.tables.cells ≤ 65536) (hst : asm.tables.statements < 2 ^ 31) :
    Advances asm' asm.tables ⟨.function name params locals, ref⟩ asm'.tables := by
  obtain ⟨hcount, rfl, offset, hs, ht⟩ := function_spec h
  have hcells : asm'.tables.cells = asm.tables.cells + (width params + width locals) + 1 :=
    congrArg Tables.cells ht
  -- The cells of the parameters, then those of the locals, then the handle.
  have hwindow : Tiles asm.tables.cells
      (List.zipWith .of (starts asm.tables.cells params) params ++
        List.zipWith .of (starts (asm.tables.cells + width params) locals) locals)
      (asm.tables.cells + (width params + width locals)) := by
    rw [← Nat.add_assoc]
    exact (tiles_starts (by omega)).append (tiles_starts (by omega))
  have hfirst : (Int32.ofNat asm.tables.statements).toInt = asm.tables.statements :=
    Int32.toInt_ofNat_of_lt hst
  have hstart : (UInt32.ofNat asm.tables.cells).toNat = asm.tables.cells :=
    UInt32.toNat_ofNat_of_lt (show asm.tables.cells < 2 ^ 32 by omega)
  have hlocals : (UInt32.ofNat (width params + width locals)).toNat = width params + width locals :=
    UInt32.toNat_ofNat_of_lt (show width params + width locals < 2 ^ 32 by omega)
  rw [ht]
  exact {
    cells := hwindow.append (tiles_of_ofNat .function (hcells ▸ hb))
    statements := rfl
    entityCells := (UInt32.add_zero _).symm
    record := Nat.le_add_right ..
    globals := ⟨_, rfl, .cons ⟨hs, rfl, rfl, UInt16.ofNat_toNat.symm⟩ .nil⟩
    fields := adds_none
    functions := ⟨_, rfl, .cons {
      builtin := by simp [FunctionEntry.isBuiltin, Int32.lt_iff_toInt_lt, hfirst]
      first := by simp [hfirst]
      numParms := (parms_of_params hcount rfl rfl).1
      parms := (parms_of_params hcount rfl rfl).2
      answered := fun _ => ⟨length_starts .., length_starts ..⟩
      window := by
        dsimp only
        rw [hstart, hlocals]
        exact hwindow
      name := hs
      file := rfl
      count := hcount
      fits := by
        dsimp only
        rw [hstart, hlocals, hcells]
        omega } .nil⟩
    indices := rfl
    builtins := by simp }

lemma builtin (h : builtin name params asm = (some ref, asm'))
    (hb : asm'.tables.cells ≤ 65536) (hf : asm'.tables.functions.length < 2 ^ 31)
    (hbi : asm.tables.builtins < asm.tables.functions.length) :
    Advances asm' asm.tables ⟨.builtin name params, ref⟩ asm'.tables := by
  obtain ⟨hcount, rfl, offset, hs, ht⟩ := builtin_spec h
  rw [ht, List.length_append, List.length_singleton] at hf
  have hfirst : -Int32.ofNat (asm.tables.builtins + 1) < 0 := by
    rw [Int32.lt_iff_toInt_lt, Int32.toInt_neg, Int32.toInt_ofNat_of_lt (by omega),
      Int32.toInt_zero, Int.bmod_eq_of_le (by omega) (by omega)]
    omega
  rw [ht] at hb ⊢
  exact {
    cells := tiles_of_ofNat .function hb
    statements := rfl
    entityCells := (UInt32.add_zero _).symm
    record := Nat.le_add_right ..
    globals := ⟨_, rfl, .cons ⟨hs, rfl, rfl, UInt16.ofNat_toNat.symm⟩ .nil⟩
    fields := adds_none
    functions := ⟨_, rfl, .cons {
      builtin := decide_eq_true hfirst
      first := by simp
      numParms := (parms_of_params hcount rfl rfl).1
      parms := (parms_of_params hcount rfl rfl).2
      answered := by simp
      window := rfl
      name := hs
      file := rfl
      count := hcount
      fits := Nat.zero_le _ } .nil⟩
    indices := rfl
    builtins := by simp; omega }

end Functions

lemma of_map {α : Type} {x : Assemble α} {a : α} (h : (some <$> x) asm = (some a, asm')) :
    x asm = (a, asm') := by
  obtain ⟨ha, rfl⟩ := Prod.mk.inj h
  obtain rfl := Option.some.inj ha
  rfl

lemma of_run {op : Op} {answer : op.Answer} (h : op.run asm = (some answer, asm'))
    (hb : asm'.tables.cells ≤ 65536) (hf : asm'.tables.functions.length < 2 ^ 31)
    (hst : asm.tables.statements < 2 ^ 31)
    (hbi : asm.tables.builtins < asm.tables.functions.length) :
    Advances asm' asm.tables ⟨op, answer⟩ asm'.tables := by
  cases op with
  | string s =>
    have ht := tables_string asm s
    rw [show string s asm = _ from of_map h] at ht
    rw [ht]
    exact of_nameless rfl rfl rfl
  | global name type save => exact global (of_map h) hb
  | setInitial cell bits =>
    rw [tables_setInitial h]
    exact of_nameless rfl rfl rfl
  | constant bits =>
    have ht := tables_constant asm bits
    have hcell : UInt16.ofNat asm.tables.cells = answer := congrArg Prod.fst (of_map h)
    rw [show constant bits asm = _ from of_map h] at ht
    rw [ht] at hb ⊢
    exact of_nameless rfl rfl (hcell ▸ tiles_of_ofNat .float hb)
  | constantVector x y z =>
    have ht := tables_constantVector asm x y z
    have hcell : UInt16.ofNat asm.tables.cells = answer := congrArg Prod.fst (of_map h)
    rw [show constantVector x y z asm = _ from of_map h] at ht
    rw [ht] at hb ⊢
    exact of_nameless rfl rfl (hcell ▸ tiles_of_ofNat .vector hb)
  | constantString s =>
    have ht := tables_constantString asm s
    have hcell : UInt16.ofNat (string s asm).2.tables.cells = answer :=
      congrArg Prod.fst (of_map h)
    rw [tables_string] at hcell
    rw [show constantString s asm = _ from of_map h] at ht
    rw [ht] at hb ⊢
    exact of_nameless rfl rfl (hcell ▸ tiles_of_ofNat .string hb)
  | field name type => exact field (of_map h) hb
  | reserveEntityCells cells =>
    obtain rfl := congrArg Prod.snd (of_map h)
    exact reserve
  | function name params locals => exact function h hb hst
  | builtin name params => exact builtin h hb hf hbi
  | nextStatement =>
    obtain rfl : asm = asm' := congrArg Prod.snd h
    exact of_nameless rfl rfl rfl
  | call cell argc =>
    change call cell argc asm = _ at h
    rw [call] at h
    cases hop : Opcode.call? argc with
    | none =>
      rw [hop] at h
      cases congrArg Prod.fst h
    | some op =>
      rw [hop] at h
      obtain rfl : (emit _ asm).2 = asm' := congrArg Prod.snd h
      rw [tables_emit]
      exact of_nameless rfl rfl rfl
  | patchJump source target =>
    rw [tables_patchJump h]
    exact of_nameless rfl rfl rfl
  | emit st | arg n cell type | ret cell | goto distance | ifTrue cell distance
  | ifFalse cell distance =>
    obtain rfl : (emit _ asm).2 = asm' := congrArg Prod.snd h
    rw [tables_emit]
    exact of_nameless rfl rfl rfl

end Advances

lemma emitted_append (steps steps' : List Step) :
    emitted (steps ++ steps') = emitted steps + emitted steps' := List.countP_append

lemma functionsFrom_append (first : Nat) (steps steps' : List Step) :
    functionsFrom first (steps ++ steps') =
      functionsFrom first steps ++ functionsFrom (first + emitted steps) steps' := by
  induction steps generalizing first with
  | nil => rfl
  | cons step steps ih =>
    rw [List.cons_append, functionsFrom, ih, functionsFrom, List.append_assoc, Nat.add_assoc,
      ← emitted_append, List.singleton_append]

lemma functions_concat (steps : List Step) (step : Step) :
    functions (steps ++ [step]) = functions steps ++ step.functions (1 + emitted steps) := by
  rw [functions, functionsFrom_append, functionsFrom, functionsFrom, List.append_nil, functions]

lemma recordCells_concat (steps : List Step) (step : Step) :
    recordCells (steps ++ [step]) = recordCells steps + step.op.recordCells := by
  simp [recordCells]

lemma Grows.of_run {asm asm' : Assembler} {op : Op} {answer : op.Answer}
    (h : op.run asm = (some answer, asm')) : Grows asm asm' := by
  rw [← show _ = asm' from congrArg Prod.snd h]
  exact Grower.run op asm

/-- No number is cut short. -/
structure Bounded (steps : List Step) (asm : Assembler) : Prop where
  cells : asm.tables.cells ≤ 65536
  record : recordCells steps ≤ 65536
  statements : asm.tables.statements < 2 ^ 31
  functions : asm.tables.functions.length < 2 ^ 31
  strings : asm.parts.strings.size < 2 ^ 31

lemma Bounded.earlier {steps : List Step} {step : Step} {asm asm' : Assembler}
    (h : Bounded (steps ++ [step]) asm') (hg : Grows asm asm') : Bounded steps asm where
  cells := hg.globals.trans h.cells
  record := by
    have := h.record
    rw [recordCells_concat] at this
    omega
  statements := hg.statements.trans_lt h.statements
  functions := hg.functions.trans_lt h.functions
  strings := hg.strings.trans_lt h.strings

structure LaidOut (steps : List Step) (asm : Assembler) : Prop where
  cells : Tiles Slots.reserved (ranges steps) asm.tables.cells
  statements : asm.tables.statements = 1 + emitted steps
  entityCells : asm.tables.entityCells.toNat = recordCells steps
  record : Within 0 ((fields steps).map Symbol.range) (recordCells steps)
  globals : List.Forall₂ (Symbol.Defined asm) (globals steps) asm.tables.globalDefs
  fields : List.Forall₂ (Symbol.Defined asm) (fields steps) asm.tables.fieldDefs
  functions : ∃ entries, asm.tables.functions = {} :: entries ∧
    List.Forall₂ (Signature.Entered asm) (functions steps) entries
  indices : (Assembler.functions steps).map (·.ref.index) =
    List.range' 1 (Assembler.functions steps).length
  builtins : asm.tables.builtins < asm.tables.functions.length
  legible : asm.Legible

lemma laidOut_empty : LaidOut [] empty where
  cells := rfl
  statements := rfl
  entityCells := rfl
  record := le_rfl
  globals := .nil
  fields := .nil
  functions := ⟨[], rfl, .nil⟩
  indices := rfl
  builtins := Nat.one_pos
  legible := legible_empty

section Later

variable {asm asm' : Assembler} (hg : Grows asm asm')
include hg

lemma Symbol.Defined.later {s : Symbol} {d : Definition} (h : s.Defined asm d) :
    s.Defined asm' d :=
  { h with name := hg.spells _ _ h.name }

lemma Signature.Entered.later {s : Signature} {f : FunctionEntry} (h : s.Entered asm f) :
    s.Entered asm' f :=
  { h with name := hg.spells _ _ h.name, fits := h.fits.trans hg.globals }

end Later

lemma forall₂_append {α β : Type} {R R' : α → β → Prop} {as as' : List α} {bs bs' : List β}
    (h : List.Forall₂ R as bs) (hR : ∀ a b, R a b → R' a b) (h' : List.Forall₂ R' as' bs') :
    List.Forall₂ R' (as ++ as') (bs ++ bs') :=
  List.rel_append (h.imp hR) h'

lemma exists_of_mem_right {α β : Type} {R : α → β → Prop} {as : List α} {bs : List β}
    (h : List.Forall₂ R as bs) {b : β} (hb : b ∈ bs) : ∃ a ∈ as, R a b := by
  induction h with
  | nil => cases hb
  | cons hab _ ih =>
    cases hb with
    | head => exact ⟨_, List.mem_cons_self, hab⟩
    | tail _ hb =>
      obtain ⟨a, ha, hr⟩ := ih hb
      exact ⟨a, List.mem_cons_of_mem _ ha, hr⟩

lemma exists_of_mem_left {α β : Type} {R : α → β → Prop} {as : List α} {bs : List β}
    (h : List.Forall₂ R as bs) {a : α} (ha : a ∈ as) : ∃ b ∈ bs, R a b := by
  have hflip : List.Forall₂ (flip R) bs as := h.flip
  exact exists_of_mem_right hflip ha

lemma LaidOut.advance {steps : List Step} {step : Step} {asm asm' : Assembler}
    (h : LaidOut steps asm) (hg : Grows asm asm') (ha : Advances asm' asm.tables step asm'.tables)
    (hb : Bounded (steps ++ [step]) asm') : LaidOut (steps ++ [step]) asm' := by
  have hrecord := hb.record
  rw [recordCells_concat] at hrecord
  obtain ⟨entries, hentries, hfunctions⟩ := h.functions
  obtain ⟨entries', hentries', hfunctions'⟩ := ha.functions
  obtain ⟨defs, hdefs, hglobals⟩ := ha.globals
  obtain ⟨fieldDefs, hfieldDefs, hfields⟩ := ha.fields
  have hindices := ha.indices
  rw [h.statements] at hfunctions' hindices
  exact {
    cells := by
      rw [ranges, List.flatMap_append, List.flatMap_singleton]
      exact h.cells.append ha.cells
    statements := by rw [ha.statements, h.statements, emitted_append, Nat.add_assoc]
    entityCells := by
      -- The sum stays far below the point where the count would wrap.
      have hnew : (UInt32.ofNat step.op.recordCells).toNat = step.op.recordCells :=
        UInt32.toNat_ofNat_of_lt (show step.op.recordCells < 2 ^ 32 by omega)
      rw [ha.entityCells, UInt32.toNat_add, h.entityCells, recordCells_concat, hnew]
      exact Nat.mod_eq_of_lt (by omega)
    record := by
      rw [recordCells_concat, Assembler.fields, List.flatMap_append, List.flatMap_singleton,
        List.map_append]
      exact h.record.append (h.entityCells ▸ ha.record)
    globals := by
      rw [Assembler.globals, List.flatMap_append, List.flatMap_singleton, hdefs]
      exact forall₂_append h.globals (fun _ _ => .later hg) hglobals
    fields := by
      rw [Assembler.fields, List.flatMap_append, List.flatMap_singleton, hfieldDefs]
      exact forall₂_append h.fields (fun _ _ => .later hg) hfields
    functions := by
      rw [functions_concat, hentries', hentries]
      exact ⟨_, rfl, forall₂_append hfunctions (fun _ _ => .later hg) hfunctions'⟩
    indices := by
      rw [hentries, List.length_cons, ← hfunctions.length_eq, Nat.add_comm _ 1] at hindices
      rw [functions_concat, List.map_append, h.indices, hindices, List.range'_append_1,
        List.length_append]
    builtins := by
      have := ha.builtins
      have := h.builtins
      omega
    legible := hg.legible hb.strings h.legible }

lemma Assembled.laidOut {steps : List Step} {asm : Assembler} (h : Assembled steps asm)
    (hb : Bounded steps asm) : LaidOut steps asm := by
  induction h with
  | start => exact laidOut_empty
  | @step steps asm asm' op answer before run ih =>
    have hg := Grows.of_run run
    have hbefore := hb.earlier hg
    have hl := ih hbefore
    exact hl.advance hg (.of_run run hb.cells hb.functions hbefore.statements hl.builtins) hb

end GameVm.Assembler
