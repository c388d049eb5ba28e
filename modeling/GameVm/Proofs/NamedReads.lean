import GameVm.Proofs.FieldLayout
import GameVm.Proofs.Overwrites

/-! Reading what a program declares: globals and fields by name, descriptions of entities, and the
symbols of the state statement. None of it can fail for reasons of the program's own. -/

namespace GameVm

namespace Definition

def globalPlaces (d : Definition) : List Place :=
  Place.run .globals d.offset.toNat d.type.cells

def fieldPlaces (d : Definition) (m : Memory) (entity : Nat) : List Place :=
  Place.run .entities (m.fieldAt entity d.offset.toNat) d.type.cells

end Definition

lemma Memory.cellAt_of_cell {memory : Memory} {i : Nat} {raw : Cell}
    (h : memory.globals.cell i = .ok raw) : memory.cellAt i = raw := by
  rw [Globals.cell] at h
  split at h
  · cases h
    simp [cellAt, *]
  · cases h

namespace Machine

variable {setup : Setup} {m : Machine} {d : Definition} {entity : Nat} {name : String}

lemma getGlobal_eq (h : d.offset.toNat + d.type.cells ≤ m.memory.globals.cells.size) :
    m.getGlobal d.offset.toNat d.type =
      .ok (Value.ofCells d.type (m.memory.contents d.globalPlaces)) := by
  have hc : m.memory.contents d.globalPlaces = _ := m.memory.contents_run .globals h
  rw [getGlobal, Globals.read, if_pos h, hc]
  rfl

lemma getField_eq (hw : m.memory.entities.Whole) (he : entity < m.memory.entities.capacity)
    (h : d.offset.toNat + d.type.cells ≤ m.memory.entities.recordCells) :
    m.getField entity d.offset.toNat d.type =
      .ok (Value.ofCells d.type (m.memory.contents (d.fieldPlaces m.memory entity))) := by
  have hspan := Entities.span_eq he h
  have hc : m.memory.contents (d.fieldPlaces m.memory entity) = _ :=
    m.memory.contents_run .entities (Entities.span_fits hw hspan)
  rw [getField, Entities.field, hspan, hc]
  rfl

lemma globalValue_eq (hc : setup.Checked) (hm : m.memory.Fits setup)
    (hd : setup.image.findGlobal? name = some d) :
    m.globalValue setup name =
      .ok (Value.ofCells d.type (m.memory.contents d.globalPlaces)) := by
  have hfits := hc.parts.globalDefs d (Image.findGlobal?_mem hd)
  rw [globalValue, hd]
  exact getGlobal_eq (hm.globals ▸ hfits.2)

lemma getField_of_mem (hc : setup.Checked) (hm : m.memory.Fits setup)
    (he : entity < m.memory.entities.capacity) (hd : d ∈ setup.image.parts.fieldDefs.toList) :
    m.getField entity d.offset.toNat d.type =
      .ok (Value.ofCells d.type (m.memory.contents (d.fieldPlaces m.memory entity))) :=
  getField_eq hm.whole he ((hc.parts.fieldDefs d hd).2.trans hm.record)

lemma fieldValue_eq (hc : setup.Checked) (hm : m.memory.Fits setup)
    (he : entity < m.memory.entities.capacity) (hd : setup.image.findField? name = some d) :
    m.fieldValue setup entity name =
      .ok (Value.ofCells d.type (m.memory.contents (d.fieldPlaces m.memory entity))) := by
  rw [fieldValue, hd]
  exact getField_of_mem hc hm he (Image.findField?_mem hd)

lemma describeFields_ok {layout : List LayoutField}
    (h : ∀ f ∈ layout, ∃ v, m.getField entity f.offset.toNat f.type = .ok v) :
    ∃ text, describeFields setup m entity layout = .ok text := by
  induction layout with
  | nil => exact ⟨"", rfl⟩
  | cons f rest ih =>
    obtain ⟨v, hv⟩ := h f List.mem_cons_self
    obtain ⟨text, ht⟩ := ih fun g hg => h g (List.mem_cons_of_mem f hg)
    rw [describeFields, hv]
    simp only [bind, Except.bind, ht]
    exact ⟨_, rfl⟩

lemma describe_ok (hc : setup.Checked) (hm : m.memory.Fits setup)
    (he : entity < m.memory.entities.capacity) : ∃ text, m.describe setup entity = .ok text := by
  have hfields : ∀ f ∈ setup.image.layout,
      ∃ v, m.getField entity f.offset.toNat f.type = .ok v := by
    intro f hf
    obtain ⟨d, hd, rfl⟩ := Image.mem_layout.mp hf
    exact ⟨_, getField_of_mem hc hm he hd.1⟩
  obtain ⟨text, ht⟩ : ∃ text, describeFields setup m entity setup.image.layout = .ok text :=
    describeFields_ok hfields
  rw [describe, Entities.check_natCast he]
  simp only [bind, Except.bind, ht]
  exact ⟨_, rfl⟩

end Machine

namespace Instance

variable {i : Instance}

lemma Created.stateSymbols_eq (hi : i.Created) :
    i.linked.setup.stateSymbols = StateSymbols.find? i.image := by
  obtain ⟨bytes, image, -, table, domain, settings, options, journal, journal', hb⟩ := hi
  have hs := (bringUp_eq_ok hb).1
  rw [show i.image = i.linked.setup.image from rfl, hs]
  rfl

/-- Whatever an instance is brought to, the globals and fields of its program can be read by name,
any entity can be described, and a state statement whose symbols exist fails only if there is no
entity with the number in `self`, or if that is the world and may not be written. -/
theorem declared_symbols_accessible (hi : i.Created) {α : Type} (code : Host α) (journal : Journal)
    {moment : Moment} (hmoment : moment ∈ i.history code journal) :
    let setup := i.linked.setup
    let m := moment.machine
    let capacity := m.memory.entities.capacity
    (∀ name d, i.image.findGlobal? name = some d →
      m.globalValue setup name =
        .ok (Value.ofCells d.type (m.memory.contents d.globalPlaces))) ∧
    (∀ entity < capacity,
      (∀ name d, i.image.findField? name = some d →
        m.fieldValue setup entity name =
          .ok (Value.ofCells d.type (m.memory.contents (d.fieldPlaces m.memory entity)))) ∧
      ∃ text, m.describe setup entity = .ok text) ∧
    ∀ self time frame think nextthink,
      i.image.findGlobal? "self" = some self → i.image.findGlobal? "time" = some time →
      i.image.findField? "frame" = some frame → i.image.findField? "think" = some think →
      i.image.findField? "nextthink" = some nextthink →
      ∀ st ∈ i.image.parts.statements.toList, st.op = .state →
        let entity := (m.memory.cellAt self.offset.toNat).toNat
        Exec.Ends (Exec.dispatch setup st) m
          (fun flow _ => flow = .running ∧ entity < capacity ∧
            (entity = Entities.world → setup.settings.allowWorldWrites = true))
          (fun fault m' => m' = m ∧
            (fault = .access (.entity entity capacity) ∧ capacity ≤ entity ∨
              fault = .access .worldEntity ∧ entity = Entities.world ∧
                setup.settings.allowWorldWrites = false)) := by
  intro setup m capacity
  have hc : setup.Checked := hi.checked
  have hm : m.memory.Fits setup := ((hi.neutral code journal).moments moment hmoment).machine.memory
  refine ⟨fun name d hd => Machine.globalValue_eq hc hm hd, fun entity he =>
    ⟨fun name d hd => Machine.fieldValue_eq hc hm he hd, Machine.describe_ok hc hm he⟩, ?_⟩
  intro self time frame think nextthink hself htime hframe hthink hnext st hst hop
  -- The operands were checked with the program, and the symbols were found when it was brought up.
  obtain ⟨pc, hpc⟩ := List.mem_iff_getElem?.mp hst
  rw [Array.getElem?_toList] at hpc
  obtain ⟨ha, hb, -⟩ := hc.parts.statements pc st hpc
  rw [hop] at ha hb
  have hsymbols : setup.stateSymbols = some ⟨self.offset.toNat, time.offset.toNat,
      frame.offset.toNat, think.offset.toNat, nextthink.offset.toNat⟩ := by
    rw [hi.stateSymbols_eq, StateSymbols.find?, hself, htime, hframe, hthink, hnext]
    rfl
  rw [Exec.dispatch, hop]
  apply Exec.ends_bind
  refine Exec.ends_state hc hm hsymbols (hm.globals ▸ ha) (hm.globals ▸ hb) ?_ ?_ ?_
  · intro raw k hraw hlt hworld _
    rw [Memory.cellAt_of_cell hraw]
    exact Exec.ends_next ⟨rfl, hlt, hworld⟩
  · intro raw hraw hge
    rw [Memory.cellAt_of_cell hraw]
    exact ⟨rfl, .inl ⟨rfl, hge⟩⟩
  · intro raw hraw hzero hclosed
    rw [Memory.cellAt_of_cell hraw]
    exact ⟨rfl, .inr ⟨rfl, hzero, hclosed⟩⟩

end Instance

/-! A program whose one function changes the frame of the entity in `self`. Its globals `gain` and
`limit` lie next to each other, and so do its fields `nextthink` and `origin`. -/

namespace Torch

def functions : List FunctionEntry := [{}, { first := 1, parmStart := 28, name := 1 }]

def parts : Parts where
  entityCells := 6
  statements := #[⟨.done, 0, 0, 0⟩, ⟨.state, 30, 31, 0⟩, ⟨.done, 0, 0, 0⟩]
  globalDefs := #[⟨.entity, false, 28, 6⟩, ⟨.float, false, 29, 11⟩, ⟨.float, false, 30, 38⟩,
    ⟨.float, false, 31, 43⟩]
  fieldDefs := #[⟨.float, false, 0, 16⟩, ⟨.function, false, 1, 22⟩, ⟨.float, false, 2, 28⟩,
    ⟨.vector, false, 3, 49⟩]
  functions := functions.toArray
  strings := ("\x00main\x00self\x00time\x00frame\x00think\x00nextthink\x00gain\x00limit\x00" ++
    "origin\x00").toUTF8.toList.toArray
  globals := Array.replicate 28 0 ++ #[1, 0, 0x3F800000, 1, 0, 0]

def setup : Setup := Setup.ofImage .server (Image.ofParts parts) {}

def torch : Instance where
  linked := ⟨setup, #[none, none]⟩
  machine := Machine.fresh setup 4 (Image.ofParts parts).parts.entityCells.toNat

def session : Host Unit := .ask .look fun _ => .done ()

lemma created : torch.Created := by
  have hlt : parts.encode.length < 2 ^ 32 := by decide +kernel
  have hc : parts.check = .ok () := by decide +kernel
  have ho : Instance.optionsFlaw? (Image.ofParts parts) { entityCapacity := 4 } = none := by
    decide +kernel
  have hbind : BuiltinTable.empty.bind .server .strict (Image.ofParts parts) =
      .ok #[none, none] := rfl
  exact Instance.created_of_check hlt hc ho hbind

lemma names : parts.nameAt 6 = "self" ∧ parts.nameAt 11 = "time" ∧ parts.nameAt 16 = "frame" ∧
    parts.nameAt 22 = "think" ∧ parts.nameAt 28 = "nextthink" ∧ parts.nameAt 38 = "gain" ∧
    parts.nameAt 43 = "limit" ∧ parts.nameAt 49 = "origin" := by
  decide +kernel

lemma findGlobal?_eq {name : String} {d : Definition} (hn : name ≠ "")
    (h : [⟨.entity, false, 28, 6⟩, ⟨.float, false, 29, 11⟩, ⟨.float, false, 30, 38⟩,
      ⟨.float, false, 31, 43⟩].find? (parts.nameAt ·.name == name) = some d) :
    torch.image.findGlobal? name = some d :=
  (Image.findGlobal?_ofParts hn).trans h

lemma findField?_eq {name : String} {d : Definition} (hn : name ≠ "")
    (h : [⟨.float, false, 0, 16⟩, ⟨.function, false, 1, 22⟩, ⟨.float, false, 2, 28⟩,
      ⟨.vector, false, 3, 49⟩].find? (parts.nameAt ·.name == name) = some d) :
    torch.image.findField? name = some d :=
  (Image.findField?_ofParts hn).trans h

lemma findGlobal?_gain : torch.image.findGlobal? "gain" = some ⟨.float, false, 30, 38⟩ :=
  findGlobal?_eq (by decide) (by simp [names])

lemma findField?_nextthink : torch.image.findField? "nextthink" = some ⟨.float, false, 2, 28⟩ :=
  findField?_eq (by decide) (by simp [names])

/-- What the program declares can be read at once, and its state statement does not fail. -/
theorem state_succeeds_for_first_entity :
    torch.Created ∧ .asked .look torch.machine ∈ torch.history session #[] ∧
    torch.machine.globalValue setup "gain" = .ok (.float 0x3F800000) ∧
    torch.machine.fieldValue setup 3 "origin" = .ok (.vector ⟨0, 0, 0⟩) ∧
    ∃ m', Exec.dispatch setup ⟨.state, 30, 31, 0⟩ torch.machine = .ok .running m' := by
  have hmem : .asked .look torch.machine ∈ torch.history session #[] := List.mem_cons_self
  obtain ⟨hglobals, hfields, hstate⟩ :=
    Instance.declared_symbols_accessible created session #[] hmem
  have hself : torch.image.findGlobal? "self" = some ⟨.entity, false, 28, 6⟩ :=
    findGlobal?_eq (by decide) (by simp [names])
  have htime : torch.image.findGlobal? "time" = some ⟨.float, false, 29, 11⟩ :=
    findGlobal?_eq (by decide) (by simp [names])
  have hframe : torch.image.findField? "frame" = some ⟨.float, false, 0, 16⟩ :=
    findField?_eq (by decide) (by simp [names])
  have hthink : torch.image.findField? "think" = some ⟨.function, false, 1, 22⟩ :=
    findField?_eq (by decide) (by simp [names])
  have horigin : torch.image.findField? "origin" = some ⟨.vector, false, 3, 49⟩ :=
    findField?_eq (by decide) (by simp [names])
  refine ⟨created, hmem, hglobals _ _ findGlobal?_gain, (hfields 3 (by decide)).1 _ _ horigin, ?_⟩
  have hends := hstate _ _ _ _ _ hself htime hframe hthink findField?_nextthink ⟨.state, 30, 31, 0⟩
    (by decide) rfl
  simp only [Exec.Ends] at hends
  split at hends
  case h_1 flow m' heq =>
    obtain ⟨rfl, -⟩ := hends
    exact ⟨m', heq⟩
  case h_2 fault m' heq =>
    obtain ⟨-, ⟨-, hge⟩ | ⟨-, hzero, -⟩⟩ := hends
    · exact absurd hge (by decide)
    · exact absurd hzero (by decide)

end Torch

end GameVm
