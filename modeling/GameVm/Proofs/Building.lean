import GameVm.Proofs.Declarations
import GameVm.Proofs.Storage

/-! Built programs: when an assembled program passes the checks, and what is found in it. -/

namespace GameVm.Assembler

open CellRange

lemma length_encode (asm : Assembler) : asm.encode.length =
    64 + 8 * asm.tables.statements + 8 * asm.tables.globalDefs.length +
      8 * asm.tables.fieldDefs.length + 36 * asm.tables.functions.length +
      asm.parts.strings.size + 4 * asm.tables.cells := by
  have hsized := asm.parts.sections_sized
  simp only [Parts.sections, Section.all, List.forall₂_cons, Parts.Sized] at hsized
  obtain ⟨hst, hgd, hfd, hfn, hstr, hgl, -⟩ := hsized
  simp only [encode, Parts.length_encode, Parts.sections, List.flatMap_cons, List.flatMap_nil,
    List.length_append, hst, hgd, hfd, hfn, hstr, hgl]
  simp only [Section.recordSize, tables, Array.length_toList, List.length_nil, Parts.headerSize,
    Statement.size, Definition.size, FunctionEntry.size]
  omega

lemma bounded_of_length {steps : List Step} {asm : Assembler}
    (hcells : asm.parts.globals.size ≤ 65536) (hrecord : recordCells steps ≤ 65536)
    (hlen : asm.encode.length < 2 ^ 31) : Bounded steps asm := by
  rw [length_encode] at hlen
  exact ⟨hcells, hrecord, by omega, by omega, by omega⟩

lemma Symbol.Defined.fits {asm : Assembler} {s : Symbol} {d : Definition} (h : s.Defined asm d)
    (hl : asm.Legible) {limit : Nat} (hs : s.offset + s.type.cells ≤ limit)
    (hlimit : limit ≤ 65536) : asm.parts.DefinitionFits limit d ∧ s.Matches d := by
  have hpos := s.type.cells_pos
  have hoffset : d.offset.toNat = s.offset := by
    rw [h.offset]
    exact UInt16.toNat_ofNat_of_lt (show s.offset < 65536 by omega)
  refine ⟨⟨h.name.named hl, ?_⟩, h.type, h.save, hoffset⟩
  rw [hoffset, h.type]
  exact hs

lemma zipWith_of_cells {starts : List UInt16} {types : List ValueType}
    (h : starts.length = types.length) :
    (List.zipWith CellRange.of starts types).map CellRange.cells = types.map ValueType.cells := by
  induction starts generalizing types with
  | nil =>
    obtain rfl := List.length_eq_zero_iff.mp h.symm
    rfl
  | cons start starts ih =>
    cases types with
    | nil => cases h
    | cons type types =>
      rw [List.zipWith_cons_cons, List.map_cons, ih (Nat.succ.inj h), List.map_cons]
      rfl

lemma Signature.Entered.fits_iff {asm : Assembler} {s : Signature} {f : FunctionEntry}
    (h : s.Entered asm f) (hf : f.isBuiltin = false) {i : Nat} (hi : i ≠ 0) :
    asm.parts.FunctionFits i f ↔ ∀ n, s.first = some n → n < asm.tables.statements := by
  constructor
  · intro hfits n hn
    have := hfits.first hi
    rwa [h.first n hn, Int.toNat_natCast] at this
  · intro hbody
    rw [h.builtin, Option.isNone_eq_false_iff] at hf
    obtain ⟨n, hn⟩ := Option.isSome_iff_exists.mp hf
    obtain ⟨hparams, hlocals⟩ := h.answered hf
    refine ⟨fun _ => ?_, h.fits, ?_, ?_, ?_⟩
    · rw [h.first n hn, Int.toNat_natCast]
      exact hbody n hn
    · rw [h.numParms]
      exact h.count
    · rw [h.parms]
      simp only [List.mem_map, forall_exists_index, and_imp, forall_apply_eq_imp_iff₂]
      intro type _
      cases type <;> simp [ValueType.cells]
    · have hsum := h.window.sum
      rw [Signature.window, List.map_append, List.sum_append, zipWith_of_cells hparams,
        zipWith_of_cells hlocals] at hsum
      rw [FunctionEntry.parmCells, h.parms, ← List.sum_eq_foldr]
      omega

lemma range_mem_ranges {steps : List Step} {s : Symbol} (h : s ∈ globals steps) :
    s.range ∈ ranges steps := by
  obtain ⟨step, hstep, hs⟩ := List.mem_flatMap.mp h
  refine List.mem_flatMap.mpr ⟨step, hstep, ?_⟩
  obtain ⟨op, answer⟩ := step
  cases op <;> first
    | cases hs; done
    | obtain rfl := List.mem_singleton.mp hs
      simp [Step.ranges, Symbol.range, CellRange.of]

section Checked

variable {steps : List Step} {asm : Assembler} (h : LaidOut steps asm) (hb : Bounded steps asm)
include h hb

lemma LaidOut.globalDef {s : Symbol} {d : Definition} (hs : s ∈ Assembler.globals steps)
    (hd : s.Defined asm d) : asm.parts.DefinitionFits asm.parts.globals.size d ∧ s.Matches d :=
  hd.fits h.legible (h.cells.within.bounds (range_mem_ranges hs)).2 hb.cells

lemma LaidOut.fieldDef {s : Symbol} {d : Definition} (hs : s ∈ Assembler.fields steps)
    (hd : s.Defined asm d) :
    asm.parts.DefinitionFits asm.parts.entityCells.toNat d ∧ s.Matches d := by
  have hbounds := (h.record.bounds (List.mem_map_of_mem hs)).2
  have hcells : asm.parts.entityCells.toNat = recordCells steps := h.entityCells
  rw [hcells]
  exact hd.fits h.legible hbounds hb.record

lemma LaidOut.wellFormed_iff : asm.parts.WellFormed ↔
    (∀ s ∈ Assembler.functions steps, ∀ n, s.first = some n → n < 1 + emitted steps) ∧
      ∀ i st, asm.parts.statements[i]? = some st → asm.parts.StatementFits i st := by
  obtain ⟨entries, hentries, hfunctions⟩ := h.functions
  rw [← h.statements]
  constructor
  · intro hwf
    refine ⟨fun s hs n hn => ?_, hwf.statements⟩
    obtain ⟨f, hf, he⟩ := exists_of_mem_left hfunctions hs
    obtain ⟨i, hi⟩ := List.mem_iff_getElem?.mp hf
    have hbuiltin : f.isBuiltin = false := by rw [he.builtin, hn]; rfl
    have hentry : asm.parts.functions[i + 1]? = some f := by
      rw [← Array.getElem?_toList, show asm.parts.functions.toList = _ from hentries]
      exact hi
    have hfits := (hwf.functions (i + 1) f hentry).2.2 hbuiltin
    exact (he.fits_iff hbuiltin i.succ_ne_zero).mp hfits n hn
  · rintro ⟨hbodies, hstatements⟩
    have hnamed : asm.parts.Named 0 := by
      obtain ⟨hpos, -⟩ := Array.getElem?_eq_some_iff.mp h.legible.first
      exact ⟨Int32.le_refl 0, Int.natCast_pos.mpr hpos⟩
    exact {
      blob := ⟨h.legible.first, h.legible.last⟩
      reserved := h.cells.within.le
      nullEntry := by
        have hsize : asm.parts.functions.size = entries.length + 1 := congrArg List.length hentries
        simp [← Array.size_eq_zero_iff, hsize]
      globalDefs := fun d hd => by
        obtain ⟨s, hs, hdef⟩ := exists_of_mem_right h.globals hd
        exact (h.globalDef hb hs hdef).1
      fieldDefs := fun d hd => by
        obtain ⟨s, hs, hdef⟩ := exists_of_mem_right h.fields hd
        exact (h.fieldDef hb hs hdef).1
      functions := fun i f hf => by
        rw [← Array.getElem?_toList, show asm.parts.functions.toList = _ from hentries] at hf
        cases i with
        | zero =>
          obtain rfl : {} = f := by simpa using hf
          exact ⟨hnamed, hnamed, fun _ => asm.parts.functionFits_null⟩
        | succ i =>
          obtain ⟨s, hs, he⟩ := exists_of_mem_right hfunctions (List.mem_of_getElem? hf)
          refine ⟨he.name.named h.legible, he.file ▸ hnamed, fun hbuiltin => ?_⟩
          exact (he.fits_iff hbuiltin i.succ_ne_zero).mpr (hbodies s hs)
      statements := hstatements }

end Checked

/-- A statement is emitted behind every declaration of a function of the program. -/
def HasBodies (steps : List Step) : Prop :=
  ∀ name params locals ref rest, ⟨.function name params locals, ref⟩ :: rest <:+ steps →
    ∃ later ∈ rest, later.op.emits

lemma emitted_pos_iff {steps : List Step} : 0 < emitted steps ↔ ∃ step ∈ steps, step.op.emits :=
  List.countP_pos_iff

lemma body_iff (step : Step) (steps : List Step) (first : Nat) :
    (∀ s ∈ step.functions first, ∀ n, s.first = some n → n < first + emitted (step :: steps)) ↔
      ∀ name params locals ref, ⟨.function name params locals, ref⟩ = step →
        ∃ later ∈ steps, later.op.emits := by
  rw [← List.singleton_append, emitted_append]
  obtain ⟨op, answer⟩ := step
  cases op with
  | function name params locals =>
    have hnone : emitted [⟨.function name params locals, answer⟩] = 0 := rfl
    rw [← emitted_pos_iff, hnone, Nat.zero_add]
    constructor
    · intro h _ _ _ _ _
      have := h _ (List.mem_singleton_self _) first rfl
      omega
    · intro h s hs n hn
      obtain rfl := List.mem_singleton.mp hs
      have := h name params locals answer rfl
      obtain rfl := Option.some.inj hn
      omega
  | builtin name params =>
    refine ⟨fun _ _ _ _ _ he => (by cases he), fun _ s hs n hn => ?_⟩
    obtain rfl := List.mem_singleton.mp hs
    cases hn
  | _ => exact ⟨fun _ _ _ _ _ he => (by cases he), fun _ s hs => (by cases hs)⟩

lemma hasBodies_iff (steps : List Step) (first : Nat) :
    (∀ s ∈ functionsFrom first steps, ∀ n, s.first = some n → n < first + emitted steps) ↔
      HasBodies steps := by
  -- `first` moves on with the steps, so the bound stays the number of all statements.
  induction steps generalizing first with
  | nil => exact ⟨fun _ _ _ _ _ _ h => (by cases List.suffix_nil.mp h), fun _ _ hs => (by cases hs)⟩
  | cons step steps ih =>
    have hrest := ih (first + emitted [step])
    rw [Nat.add_assoc, ← emitted_append, List.singleton_append] at hrest
    simp only [functionsFrom, List.forall_mem_append, body_iff, hrest, HasBodies,
      List.suffix_cons_iff]
    constructor
    · rintro ⟨hfirst, hlater⟩ name params locals ref rest (heq | hsuffix)
      · obtain ⟨hstep, rfl⟩ := List.cons.inj heq
        exact hfirst name params locals ref hstep
      · exact hlater name params locals ref rest hsuffix
    · intro h
      refine ⟨fun name params locals ref hstep => ?_, fun name params locals ref rest hs => ?_⟩
      · exact h name params locals ref steps (.inl (by rw [hstep]))
      · exact h name params locals ref rest (.inr hs)

lemma find?_rel {α β : Type} {R : α → β → Prop} {p : α → Bool} {q : β → Bool} {as : List α}
    {bs : List β} (h : List.Forall₂ (fun a b => p a = q b ∧ R a b) as bs) :
    Option.Rel R (as.find? p) (bs.find? q) := by
  induction h with
  | nil => exact .none
  | @cons a b as bs hab _ ih =>
    rw [List.find?_cons, List.find?_cons, hab.1]
    cases q b with
    | true => exact .some hab.2
    | false => exact ih

def PlainNames (steps : List Step) : Prop :=
  ∀ step ∈ steps, ∀ name, step.op.name? = some name → '\x00' ∉ name.toList

lemma Step.name_of_mem (step : Step) :
    (∀ s ∈ step.globals, step.op.name? = some s.name) ∧
    (∀ s ∈ step.fields, step.op.name? = some s.name) ∧
    ∀ first, ∀ s ∈ step.functions first, step.op.name? = some s.name := by
  obtain ⟨op, answer⟩ := step
  cases op <;> simp [globals, fields, functions, Op.name?]

namespace PlainNames

variable {steps : List Step} (hp : PlainNames steps)
include hp

lemma global {s : Symbol} (h : s ∈ globals steps) : '\x00' ∉ s.name.toList := by
  obtain ⟨step, hstep, hs⟩ := List.mem_flatMap.mp h
  exact hp step hstep s.name (step.name_of_mem.1 s hs)

lemma field {s : Symbol} (h : s ∈ fields steps) : '\x00' ∉ s.name.toList := by
  obtain ⟨step, hstep, hs⟩ := List.mem_flatMap.mp h
  exact hp step hstep s.name (step.name_of_mem.2.1 s hs)

lemma function {s : Signature} {first : Nat} (h : s ∈ functionsFrom first steps) :
    '\x00' ∉ s.name.toList := by
  induction steps generalizing first with
  | nil => cases h
  | cons step steps ih =>
    rcases List.mem_append.mp h with hs | hs
    · exact hp step List.mem_cons_self s.name (step.name_of_mem.2.2 first s hs)
    · exact ih (fun later hlater => hp later (List.mem_cons_of_mem _ hlater)) hs

end PlainNames

lemma idxOf?_name {start : Nat} {sigs : List Signature}
    (h : sigs.map (·.ref.index) = List.range' start sigs.length) (name : String) :
    ((sigs.map (·.name)).idxOf? name).map (· + start) =
      (sigs.find? (·.name == name)).map (·.ref.index) := by
  induction sigs generalizing start with
  | nil => rfl
  | cons s sigs ih =>
    rw [List.map_cons, List.length_cons, List.range'_succ] at h
    obtain ⟨hindex, hrest⟩ := List.cons.inj h
    rw [List.map_cons, List.idxOf?_cons, List.find?_cons]
    cases s.name == name with
    | true => simp [hindex]
    | false =>
      rw [← ih hrest]
      simp [Function.comp_def, Nat.add_assoc, Nat.add_comm 1]

section Found

variable {steps : List Step} {asm : Assembler} (h : LaidOut steps asm) (hp : PlainNames steps)
  {name : String} (hn : name ≠ "")
include h hp hn

lemma LaidOut.findFunction? : (Image.ofParts asm.parts).findFunction? name =
    ((Assembler.functions steps).find? (·.name == name)).map (·.ref.index) := by
  obtain ⟨entries, hentries, hfunctions⟩ := h.functions
  have hnames : List.Forall₂ (· = ·) ((Assembler.functions steps).map (·.name))
      (entries.map (asm.parts.nameAt ·.name)) := by
    rw [List.forall₂_map_left_iff, List.forall₂_map_right_iff]
    refine ((List.forall₂_and_left _ _).mpr ⟨fun _ hs => hs, hfunctions⟩).imp fun s f hsf => ?_
    exact (hsf.2.name.nameAt h.legible (hp.function hsf.1)).symm
  rw [List.forall₂_eq_eq_eq] at hnames
  rw [Image.findFunction?_ofParts hn hentries, ← hnames, idxOf?_name h.indices]

variable (hb : Bounded steps asm)
include hb

lemma LaidOut.findField? : Option.Rel Symbol.Matches
    ((Assembler.fields steps).find? (·.name == name))
    ((Image.ofParts asm.parts).findField? name) := by
  rw [Image.findField?_ofParts hn]
  have hmem := (List.forall₂_and_left _ _).mpr ⟨fun _ hs => hs, h.fields⟩
  refine find?_rel (hmem.imp fun s d hsd => ?_)
  rw [hsd.2.name.nameAt h.legible (hp.field hsd.1)]
  exact ⟨rfl, (h.fieldDef hb hsd.1 hsd.2).2⟩

lemma LaidOut.findGlobal? : Option.Rel Symbol.Matches
    ((Assembler.globals steps).find? (·.name == name))
    ((Image.ofParts asm.parts).findGlobal? name) := by
  rw [Image.findGlobal?_ofParts hn]
  have hmem := (List.forall₂_and_left _ _).mpr ⟨fun _ hs => hs, h.globals⟩
  refine find?_rel (hmem.imp fun s d hsd => ?_)
  rw [hsd.2.name.nameAt h.legible (hp.global hsd.1)]
  exact ⟨rfl, (h.globalDef hb hsd.1 hsd.2).2⟩

end Found

lemma LaidOut.described {steps : List Step} {asm : Assembler} (h : LaidOut steps asm)
    {s : Signature} (hs : s ∈ Assembler.functions steps) :
    ∃ f, asm.parts.functions[s.ref.index]? = some f ∧ s.Describes f := by
  obtain ⟨entries, hentries, hfunctions⟩ := h.functions
  obtain ⟨i, hi, rfl⟩ := List.mem_iff_getElem.mp hs
  have hi' : i < entries.length := hfunctions.length_eq ▸ hi
  have hindex : ((Assembler.functions steps).map (·.ref.index))[i]? = some (1 + i) := by
    rw [h.indices, List.getElem?_range' hi, Nat.one_mul]
  rw [List.getElem?_map, List.getElem?_eq_getElem hi, Option.map_some, Option.some.injEq,
    Nat.add_comm] at hindex
  refine ⟨entries[i], ?_, (hfunctions.get hi hi').toDescribes⟩
  rw [hindex, ← Array.getElem?_toList, show asm.parts.functions.toList = _ from hentries,
    List.getElem?_cons_succ, List.getElem?_eq_getElem hi']

/-- A program is laid out as it was declared. It can be built exactly when its functions have
bodies and its statements fit, and then what was declared first under a name is what is found. -/
theorem assembled_as_declared {steps : List Step} {asm : Assembler} (h : Assembled steps asm)
    (hcells : asm.parts.globals.size ≤ 65536) (hrecord : recordCells steps ≤ 65536)
    (hlen : asm.encode.length < 2 ^ 31) :
    -- Where the declared cells lie.
    ((ranges steps).Pairwise Apart ∧
      (∀ r ∈ ranges steps,
        Slots.reserved ≤ r.start ∧ r.start + r.cells ≤ asm.parts.globals.size) ∧
      ((fields steps).map Symbol.range).Pairwise Apart ∧
      ∀ s ∈ functions steps,
        ∃ f, asm.parts.functions[s.ref.index]? = some f ∧ s.Describes f) ∧
    -- When the program can be built.
    ((∃ image, asm.build = .ok image) ↔ HasBodies steps ∧
      ∀ i st, asm.parts.statements[i]? = some st → asm.parts.StatementFits i st) ∧
    -- What is found in it.
    ∀ image, asm.build = .ok image → PlainNames steps →
      image.parts = asm.parts ∧ ∀ name, name ≠ "" →
        image.findFunction? name =
          ((functions steps).find? (·.name == name)).map (·.ref.index) ∧
        Option.Rel Symbol.Matches ((fields steps).find? (·.name == name))
          (image.findField? name) ∧
        Option.Rel Symbol.Matches ((globals steps).find? (·.name == name))
          (image.findGlobal? name) := by
  have hb := bounded_of_length hcells hrecord hlen
  have hl := h.laidOut hb
  have hdecode := Image.decode_encode_iff_wellFormed asm.parts (hlen.trans (by decide))
  refine ⟨⟨hl.cells.within.pairwise, fun r hr => hl.cells.within.bounds hr,
    hl.record.pairwise, fun s hs => hl.described hs⟩, ?_, fun image hbuild hp => ?_⟩
  · rw [build, encode, hdecode.1, hl.wellFormed_iff hb, functions, hasBodies_iff]
  · have hwf := hdecode.1.mp ⟨image, hbuild⟩
    have himage := Image.decode_encode_of_wellFormed (hlen.trans (by decide)) hwf
    obtain rfl : Image.ofParts asm.parts = image := Except.ok.inj (himage.symm.trans hbuild)
    exact ⟨rfl, fun name hn =>
      ⟨hl.findFunction? hp hn, hl.findField? hp hn hb, hl.findGlobal? hp hn hb⟩⟩

lemma string_size_le (s : String) (asm : Assembler) :
    (string s asm).2.parts.strings.size ≤
      asm.parts.strings.size + ((Utf8.encode s).length + 1) := by
  cases h : asm.interned[Utf8.encode s]? with
  | some offset =>
    rw [string_of_interned h]
    exact Nat.le_add_right (asm.parts.strings.size) _
  | none =>
    rw [string_of_new h]
    simp [Nat.add_assoc]

lemma string_statements (s : String) (asm : Assembler) :
    (string s asm).2.parts.statements = asm.parts.statements := by
  cases h : asm.interned[Utf8.encode s]? with
  | some offset => rw [string_of_interned h]
  | none => rw [string_of_new h]

namespace Turret

def steps : List Step :=
  [⟨.field "yaw" .float, ⟨0, 28, .float⟩⟩,
    ⟨.function "think" [.entity] [.vector], ⟨1, 33, [29], [30]⟩⟩,
    ⟨.ret 29, 1⟩]

def withField : Assembler := (field "yaw" .float empty).2

def withFunction : Assembler := (function "think" [.entity] [.vector] withField).2

def finished : Assembler := (ret 29 withFunction).2

lemma field_run : (Op.field "yaw" .float).run empty = (some ⟨0, 28, .float⟩, withField) := by
  obtain ⟨-, -, hr, -⟩ := field_spec empty "yaw" .float
  exact Prod.ext (congrArg some hr) rfl

lemma withField_tables : ∃ offset, withField.tables = {
    cells := 29, statements := 1, entityCells := 1
    globalDefs := [⟨.field, false, 28, offset⟩], fieldDefs := [⟨.float, false, 0, offset⟩]
    functions := [{}], builtins := 0 } := by
  obtain ⟨offset, -, -, ht⟩ := field_spec empty "yaw" .float
  exact ⟨offset, ht⟩

lemma function_run : (Op.function "think" [.entity] [.vector]).run withField =
    (some ⟨1, 33, [29], [30]⟩, withFunction) := by
  obtain ⟨offset, ht⟩ := withField_tables
  have h : function "think" [.entity] [.vector] withField = (some _, withFunction) := rfl
  obtain ⟨-, hr, -⟩ := function_spec h
  rw [ht] at hr
  exact h.trans (congrArg (fun ref => (some ref, withFunction)) hr)

lemma withFunction_tables : withFunction.tables.cells = 34 ∧ withFunction.tables.statements = 1 ∧
    withFunction.tables.globalDefs.length = 2 ∧ withFunction.tables.fieldDefs.length = 1 ∧
    withFunction.tables.functions.length = 2 := by
  obtain ⟨offset, ht⟩ := withField_tables
  obtain ⟨-, -, offset', -, ht'⟩ := function_spec function_run
  rw [ht', ht]
  exact ⟨rfl, rfl, rfl, rfl, rfl⟩

lemma assembled : Assembled steps finished := by
  have hret : (Op.ret 29).run withFunction = (some 1, finished) :=
    Prod.ext (congrArg some withFunction_tables.2.1) rfl
  exact .step (.step (.step .start field_run) function_run) hret

lemma finished_strings : finished.parts.strings.size ≤ 21 := by
  have hyaw : (Utf8.encode "yaw").length = 3 := by decide +kernel
  have hthink : (Utf8.encode "think").length = 5 := by decide +kernel
  have hfield : withField.parts.strings.size ≤ 9 := by
    change (string "yaw" (constant 0 _).2).2.parts.strings.size ≤ 9
    refine (string_size_le "yaw" _).trans ?_
    rw [hyaw]
    exact Nat.add_le_add_right ((string_size_le "yaw" empty).trans (by rw [hyaw]; decide)) 4
  change (string "think" (constant _ _).2).2.parts.strings.size ≤ 21
  refine (string_size_le "think" _).trans ?_
  rw [hthink]
  refine Nat.add_le_add_right ((string_size_le "think" _).trans ?_) 6
  rw [hthink]
  exact Nat.add_le_add_right hfield 6

lemma finished_statements :
    finished.parts.statements = #[⟨.done, 0, 0, 0⟩, ⟨.ret, 29, 0, 0⟩] := by
  have hfield : withField.parts.statements = empty.parts.statements := by
    change (string "yaw" (constant 0 _).2).2.parts.statements = _
    rw [string_statements]
    exact string_statements "yaw" empty
  have hfunction : withFunction.parts.statements = withField.parts.statements := by
    change (string "think" (constant _ _).2).2.parts.statements = _
    rw [string_statements]
    exact string_statements "think" _
  change withFunction.parts.statements.push _ = _
  rw [hfunction, hfield]
  rfl

theorem found_as_declared :
    finished.parts.globals.size ≤ 65536 ∧ recordCells steps ≤ 65536 ∧
      finished.encode.length < 2 ^ 31 ∧ ∃ image, finished.build = .ok image ∧
        image.findFunction? "think" = some 1 ∧
        ∃ d, image.findField? "yaw" = some d ∧ d.type = .float ∧ d.offset.toNat = 0 := by
  obtain ⟨hcells, hst, hgd, hfd, hfn⟩ := withFunction_tables
  have hsize : finished.parts.globals.size ≤ 65536 := by
    rw [show finished.parts.globals.size = _ from hcells]
    decide
  have hlen : finished.encode.length < 2 ^ 31 := by
    have hstrings := finished_strings
    rw [length_encode, show finished.tables = _ from tables_emit withFunction _]
    dsimp only
    omega
  obtain ⟨-, hbuild, hfound⟩ := assembled_as_declared assembled hsize (by decide) hlen
  have hbodies : HasBodies steps := by
    refine (hasBodies_iff steps 1).mp fun s hs n hn => ?_
    obtain rfl := List.mem_singleton.mp hs
    obtain rfl := Option.some.inj hn
    decide
  have hstatements : ∀ i st, finished.parts.statements[i]? = some st →
      finished.parts.StatementFits i st := by
    have hroom (cell : UInt16) (h : cell.toNat < 34) :
        cell.toNat < finished.parts.globals.size := by
      rwa [show finished.parts.globals.size = _ from hcells]
    rw [finished_statements]
    intro i st hst
    match i, hst with
    | 0, rfl => exact ⟨hroom 0 (by decide), trivial, trivial⟩
    | 1, rfl => exact ⟨hroom 29 (by decide), trivial, trivial⟩
  obtain ⟨image, himage⟩ := hbuild.mpr ⟨hbodies, hstatements⟩
  have hplain : PlainNames steps := by
    simp [PlainNames, steps, Op.name?]
  obtain ⟨-, hnames⟩ := hfound image himage hplain
  refine ⟨hsize, by decide, hlen, image, himage, (hnames "think" (by decide)).1, ?_⟩
  have hyaw : Option.Rel Symbol.Matches (some ⟨"yaw", .float, false, 0⟩) (image.findField? "yaw") :=
    (hnames "yaw" (by decide)).2.1
  generalize image.findField? "yaw" = found at hyaw
  cases hyaw with
  | some hm => exact ⟨_, rfl, hm.1, hm.2.2⟩

end Turret

end GameVm.Assembler
