import GameVm.Proofs.Handover
import GameVm.Proofs.NamedReads

/-! Writing globals and fields by name. Cells have no types, so the value decides how many of them
are written from the first cell of the symbol on. -/

namespace GameVm

namespace Value

lemma eq_void_or_length_cells (v : Value) : v = .void ∨ v.cells.length = v.type.cells := by
  cases v with
  | void => exact .inl rfl
  | _ => exact .inr rfl

lemma length_cells_le {v : Value} {type : ValueType} (h : v.type = .vector → type = .vector) :
    v.cells.length ≤ type.cells := by
  have hpos : 1 ≤ type.cells := by cases type <;> decide
  cases v with
  | void => exact Nat.zero_le _
  | vector w => exact (h rfl).symm ▸ Nat.le_refl 3
  | _ => exact hpos

lemma ofCells_cells {v : Value} (h : v ≠ .void) : ofCells v.type v.cells = v := by
  cases v with
  | void => exact absurd rfl h
  | _ => simp [ofCells, cells, type, Vec3.toList]

end Value

namespace Memory

variable {m : Memory} {area : Area} {start : Nat} {v : Value} {type : ValueType}

def written (m : Memory) (area : Area) (start : Nat) (v : Value) : Memory :=
  m.withCells (Cells.write (m.cells area) start v.cells) area

lemma overwritten_written (m : Memory) (area : Area) (v : Value)
    (h : start + v.cells.length ≤ (m.cells area).size) :
    m.Overwritten (Place.run area start v.cells.length) v.cells (m.written area start v) :=
  m.overwritten_run area v.cells h

lemma ofCells_written (h : start + v.cells.length ≤ (m.cells area).size) :
    Value.ofCells v.type ((m.written area start v).contents (Place.run area start v.type.cells)) =
      v := by
  rcases v.eq_void_or_length_cells with rfl | hl
  · rfl
  · have hcells : (m.written area start v).cells area =
        Cells.write (m.cells area) start v.cells := by
      cases area <;> rfl
    rw [← hl, contents_run _ _ (by rwa [hcells, Cells.size_write]), hcells, Cells.read_write_self h]
    apply Value.ofCells_cells
    rintro rfl
    cases hl

lemma Overwritten.outside_symbol {after : Memory}
    (h : m.Overwritten (Place.run area start v.cells.length) v.cells after)
    (ht : v.type = .vector → type = .vector) {p : Place}
    (hp : p ∉ Place.run area start type.cells) : after.peek p = m.peek p := by
  refine h.outside p fun hin => hp ?_
  have hle := Value.length_cells_le ht
  rw [Place.mem_run] at hin ⊢
  exact ⟨hin.1, hin.2.1, by omega⟩

end Memory

def Machine.written (m : Machine) (area : Area) (start : Nat) (v : Value) : Machine :=
  { m with memory := m.memory.written area start v }

namespace Service

variable {setup : Setup} {reenter : Nat → String → Call Unit} {label name : String}
  {journal : Journal} {m : Machine} {s' : Recorded Machine} {entity : Nat} {v : Value}

lemma host_ofAccess {α : Type} (result : Except AccessError α) (s : Recorded Machine) :
    Call.host reenter setup label (ofAccess result) s = (result.mapError .access, s) := by
  cases result <;> rfl

lemma host_writeGlobals (start : Nat) (v : Value) :
    Call.host reenter setup label (writeGlobals start v.cells) ⟨m, journal⟩ =
      if start + v.cells.length ≤ m.memory.globals.cells.size then
        (.ok (), ⟨m.written .globals start v, journal⟩)
      else (.error (.access (.global start m.memory.globals.cells.size)), ⟨m, journal⟩) := by
  let answer := MemoryOp.settle (Memory.onGlobals (Globals.write start v.cells)) m.memory
  change Call.host reenter setup label (ofAccess answer.1)
    ⟨{ m with memory := answer.2 }, journal⟩ = _
  rw [host_ofAccess]
  simp only [answer, MemoryOp.settle, Memory.onGlobals, Globals.write]
  split_ifs <;> rfl

lemma host_writeField (entity field : Nat) (v : Value) :
    Call.host reenter setup label (writeField entity field v.cells) ⟨m, journal⟩ =
      match m.memory.entities.span entity field v.cells.length with
      | .ok start => (.ok (), ⟨m.written .entities start v, journal⟩)
      | .error err => (.error (.access err), ⟨m, journal⟩) := by
  let answer :=
    MemoryOp.settle (Memory.onEntities (Entities.setField entity field v.cells)) m.memory
  change Call.host reenter setup label (ofAccess answer.1)
    ⟨{ m with memory := answer.2 }, journal⟩ = _
  rw [host_ofAccess]
  simp only [answer, MemoryOp.settle, Memory.onEntities, Entities.setField]
  cases m.memory.entities.span entity field v.cells.length <;> rfl

lemma host_setGlobalValue_eq_ok_iff :
    Call.host reenter setup label (setGlobalValue setup name v) ⟨m, journal⟩ = (.ok (), s') ↔
      ∃ d, setup.image.findGlobal? name = some d ∧
        d.offset.toNat + v.cells.length ≤ m.memory.globals.cells.size ∧
        s' = ⟨m.written .globals d.offset.toNat v, journal⟩ := by
  rw [setGlobalValue]
  cases setup.image.findGlobal? name with
  | none =>
    refine iff_of_false (fun h => by cases h) ?_
    rintro ⟨d, hd, -⟩
    cases hd
  | some d =>
    dsimp only
    rw [host_writeGlobals]
    split_ifs with hfit
    · simp [hfit, eq_comm]
    · simp [hfit]

lemma host_setFieldValue_eq_ok_iff :
    Call.host reenter setup label (setFieldValue setup entity name v) ⟨m, journal⟩ =
        (.ok (), s') ↔
      ∃ d, setup.image.findField? name = some d ∧ entity < m.memory.entities.capacity ∧
        d.offset.toNat + v.cells.length ≤ m.memory.entities.recordCells ∧
        s' = ⟨m.written .entities (m.memory.fieldAt entity d.offset.toNat) v, journal⟩ := by
  rw [setFieldValue]
  cases setup.image.findField? name with
  | none =>
    refine iff_of_false (fun h => by cases h) ?_
    rintro ⟨d, hd, -⟩
    cases hd
  | some d =>
    dsimp only
    rw [host_writeField]
    constructor
    · intro h
      cases hs : m.memory.entities.span entity d.offset.toNat v.cells.length with
      | error err => simp [hs] at h
      | ok start =>
        obtain ⟨he, hf, rfl⟩ := Entities.span_eq_ok hs
        rw [hs] at h
        cases h
        exact ⟨d, rfl, he, hf, rfl⟩
    · rintro ⟨_, ⟨⟩, he, hf, rfl⟩
      rw [Entities.span_eq he hf]
      rfl

end Service

namespace Machine

variable {setup : Setup} {m : Machine} {d : Definition} {v : Value} {name : String} {entity : Nat}

lemma fits_written (hm : m.memory.Fits setup) (area : Area) (start : Nat) (v : Value) :
    (m.written area start v).memory.Fits setup := by
  apply hm.of_sameShape
  cases area <;> exact ⟨by simp [written, Memory.written, Memory.withCells, Memory.cells],
    by simp [written, Memory.written, Memory.withCells, Memory.cells], rfl, rfl⟩

lemma globalValue_written (hc : setup.Checked) (hm : m.memory.Fits setup)
    (hd : setup.image.findGlobal? name = some d) (ht : v.type = d.type) :
    (m.written .globals d.offset.toNat v).globalValue setup name = .ok v := by
  have hle : v.cells.length ≤ d.type.cells := Value.length_cells_le fun h => ht ▸ h
  have hfits := (hc.parts.globalDefs d (Image.findGlobal?_mem hd)).2
  rw [globalValue_eq hc (fits_written hm ..) hd, Definition.globalPlaces, ← ht]
  exact congrArg _ (Memory.ofCells_written (by rw [Memory.cells, hm.globals]; omega))

lemma fieldValue_written (hc : setup.Checked) (hm : m.memory.Fits setup)
    (he : entity < m.memory.entities.capacity) (hd : setup.image.findField? name = some d)
    (ht : v.type = d.type) :
    (m.written .entities (m.memory.fieldAt entity d.offset.toNat) v).fieldValue setup entity name =
      .ok v := by
  have hle : v.cells.length ≤ d.type.cells := Value.length_cells_le fun h => ht ▸ h
  have hfits := (hc.parts.fieldDefs d (Image.findField?_mem hd)).2.trans hm.record
  rw [fieldValue_eq hc (fits_written hm ..) he hd, Definition.fieldPlaces, ← ht]
  refine congrArg _ (Memory.ofCells_written ?_)
  exact Entities.span_fits hm.whole (Entities.span_eq he (by omega))

end Machine

namespace Instance

variable {i : Instance} {m : Machine}

/-- A write by name changes the cells that the value takes from the first cell of the symbol on,
and no others; so it stays inside the symbol, unless the value is a vector and the symbol is not. A
value of the symbol's type can be written, and is read back as it was. -/
theorem named_write_covers_value (hi : i.Created) (hm : i.Reaches m)
    (reenter : Nat → String → Call Unit) (label : String) (journal : Journal) (v : Value) :
    let setup := i.linked.setup
    let run (code : Service Unit) := Call.host reenter setup label code ⟨m, journal⟩
    (∀ name s', run (Service.setGlobalValue setup name v) = (.ok (), s') →
      ∃ d, i.image.findGlobal? name = some d ∧
        m.memory.Overwritten (Place.run .globals d.offset.toNat v.cells.length) v.cells
          s'.state.memory ∧
        ((v.type = .vector → d.type = .vector) →
          ∀ p, p ∉ d.globalPlaces → s'.state.memory.peek p = m.memory.peek p)) ∧
    (∀ entity name s', run (Service.setFieldValue setup entity name v) = (.ok (), s') →
      ∃ d, i.image.findField? name = some d ∧ entity < m.memory.entities.capacity ∧
        d.offset.toNat + v.cells.length ≤ m.memory.entities.recordCells ∧
        m.memory.Overwritten
          (Place.run .entities (m.memory.fieldAt entity d.offset.toNat) v.cells.length) v.cells
          s'.state.memory ∧
        ((v.type = .vector → d.type = .vector) →
          ∀ p, p ∉ d.fieldPlaces m.memory entity → s'.state.memory.peek p = m.memory.peek p)) ∧
    (∀ name d, i.image.findGlobal? name = some d → v.type = d.type →
      ∃ s', run (Service.setGlobalValue setup name v) = (.ok (), s') ∧
        s'.state.globalValue setup name = .ok v) ∧
    ∀ entity < m.memory.entities.capacity, ∀ name d, i.image.findField? name = some d →
      v.type = d.type →
      ∃ s', run (Service.setFieldValue setup entity name v) = (.ok (), s') ∧
        s'.state.fieldValue setup entity name = .ok v := by
  intro setup run
  have hc : setup.Checked := hi.checked
  have hfits : m.memory.Fits setup := (hi.reaches_atHost hm).memory
  refine ⟨fun name s' h => ?_, fun entity name s' h => ?_, fun name d hd ht => ?_,
    fun entity he name d hd ht => ?_⟩
  · obtain ⟨d, hd, hin, rfl⟩ := Service.host_setGlobalValue_eq_ok_iff.mp h
    have hover := m.memory.overwritten_written .globals v hin
    exact ⟨d, hd, hover, fun ht p hp => hover.outside_symbol ht hp⟩
  · obtain ⟨d, hd, he, hin, rfl⟩ := Service.host_setFieldValue_eq_ok_iff.mp h
    have hover := m.memory.overwritten_written .entities v
      (Entities.span_fits hfits.whole (Entities.span_eq he hin))
    exact ⟨d, hd, he, hin, hover, fun ht p hp => hover.outside_symbol ht hp⟩
  · have hle : v.cells.length ≤ d.type.cells := Value.length_cells_le fun h => ht ▸ h
    have hin := (hc.parts.globalDefs d (Image.findGlobal?_mem hd)).2
    rw [← hfits.globals] at hin
    exact ⟨_, Service.host_setGlobalValue_eq_ok_iff.mpr ⟨d, hd, by omega, rfl⟩,
      Machine.globalValue_written hc hfits hd ht⟩
  · have hle : v.cells.length ≤ d.type.cells := Value.length_cells_le fun h => ht ▸ h
    have hin := (hc.parts.fieldDefs d (Image.findField?_mem hd)).2.trans hfits.record
    exact ⟨_, Service.host_setFieldValue_eq_ok_iff.mpr ⟨d, hd, he, by omega, rfl⟩,
      Machine.fieldValue_written hc hfits he hd ht⟩

end Instance

namespace Torch

theorem gain_written_beside_limit :
    torch.Created ∧ torch.Reaches torch.machine ∧
    ∃ s', Call.host (Call.execute torch.linked) setup "host"
        (Service.setGlobalValue setup "gain" (.float 0x40000000)) ⟨torch.machine, #[]⟩ =
          (.ok (), s') ∧
      s'.state.globalValue setup "gain" = .ok (.float 0x40000000) ∧
      s'.state.memory.peek ⟨.globals, 31⟩ = some 1 := by
  have hreach := torch.reaches_machine
  obtain ⟨hglobal, -, hback, -⟩ := Instance.named_write_covers_value created hreach
    (Call.execute torch.linked) "host" #[] (.float 0x40000000)
  obtain ⟨s', hrun, hread⟩ := hback "gain" _ findGlobal?_gain rfl
  obtain ⟨d, hd, -, hkeeps⟩ := hglobal "gain" s' hrun
  obtain rfl := Option.some.inj (hd.symm.trans findGlobal?_gain)
  have hlimit := hkeeps (fun h => by cases h) ⟨.globals, 31⟩ (by decide)
  exact ⟨created, hreach, s', hrun, hread, hlimit⟩

/-- A vector written to `gain` reaches `limit`, and one written to `nextthink` reaches `origin`. -/
theorem vector_overwrites_neighbours :
    let vector : Value := .vector ⟨0x3F800000, 0x40000000, 0x40400000⟩
    let run (code : Service Unit) :=
      Call.host (Call.execute torch.linked) setup "host" code ⟨torch.machine, #[]⟩
    torch.Created ∧ torch.Reaches torch.machine ∧
    (∃ d s', torch.image.findGlobal? "gain" = some d ∧
      run (Service.setGlobalValue setup "gain" vector) = (.ok (), s') ∧
      ⟨.globals, 31⟩ ∉ d.globalPlaces ∧
      torch.machine.memory.peek ⟨.globals, 31⟩ = some 1 ∧
      s'.state.memory.peek ⟨.globals, 31⟩ = some 0x40000000) ∧
    ∃ d s', torch.image.findField? "nextthink" = some d ∧
      run (Service.setFieldValue setup 1 "nextthink" vector) = (.ok (), s') ∧
      ⟨.entities, 9⟩ ∉ d.fieldPlaces torch.machine.memory 1 ∧
      torch.machine.memory.peek ⟨.entities, 9⟩ = some 0 ∧
      s'.state.memory.peek ⟨.entities, 9⟩ = some 0x40000000 := by
  intro vector run
  have hin : 30 + vector.cells.length ≤ torch.machine.memory.globals.cells.size := by decide
  have he : 1 < torch.machine.memory.entities.capacity := by decide
  have hf : 2 + vector.cells.length ≤ torch.machine.memory.entities.recordCells := by decide
  have hglobal : run (Service.setGlobalValue setup "gain" vector) = (.ok (), _) :=
    Service.host_setGlobalValue_eq_ok_iff.mpr ⟨_, findGlobal?_gain, hin, rfl⟩
  have hfield : run (Service.setFieldValue setup 1 "nextthink" vector) = (.ok (), _) :=
    Service.host_setFieldValue_eq_ok_iff.mpr ⟨_, findField?_nextthink, he, hf, rfl⟩
  exact ⟨created, torch.reaches_machine, ⟨_, _, findGlobal?_gain, hglobal, by decide +kernel⟩,
    _, _, findField?_nextthink, hfield, by decide +kernel⟩

end Torch

end GameVm
