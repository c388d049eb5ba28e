import GameVm.Proofs.Invariance
import GameVm.Proofs.Overwrites

/-! The record of the world, which programs may not write to unless the settings say so. -/

namespace GameVm

lemma Cells.getElem?_write_of_lt (cells : Array Cell) {i x : Nat} (vs : List Cell) (h : x < i) :
    (write cells i vs)[x]? = cells[x]? := by
  induction vs generalizing cells i with
  | nil => rfl
  | cons v vs ih => rw [write, ih _ (by omega), Array.getElem?_setIfInBounds_ne (by omega)]

namespace Entities

def HasWorld (e : Entities) : Prop := 0 < e.capacity ∧ 0 < e.inUse

structure SameWorld (a b : Entities) : Prop where
  capacity : a.capacity = b.capacity
  recordCells : a.recordCells = b.recordCells
  cells : ∀ x < b.recordCells, a.cells[x]? = b.cells[x]?

lemma SameWorld.refl (e : Entities) : e.SameWorld e := ⟨rfl, rfl, fun _ _ => rfl⟩

lemma SameWorld.trans {a b c : Entities} (h : a.SameWorld b) (h' : b.SameWorld c) :
    a.SameWorld c where
  capacity := h.capacity.trans h'.capacity
  recordCells := h.recordCells.trans h'.recordCells
  cells := fun x hx => (h.cells x (h'.recordCells ▸ hx)).trans (h'.cells x hx)

def KeepsWorld (start e : Entities) : Prop := e.HasWorld ∧ e.SameWorld start

lemma record_world {e : Entities} (h : e.HasWorld) :
    e.record world = .ok (Cells.read e.cells 0 e.recordCells) := by
  have hs : e.span world 0 e.recordCells = .ok (world * e.recordCells + 0) :=
    span_eq h.1 (Nat.zero_add _).le
  rw [record, field, hs, world, Nat.zero_mul]
  rfl

lemma SameWorld.read_eq {a b : Entities} (h : a.SameWorld b) :
    Cells.read a.cells 0 a.recordCells = Cells.read b.cells 0 b.recordCells := by
  apply List.ext_getElem?
  intro k
  rw [Cells.getElem?_read, Cells.getElem?_read, h.recordCells, Nat.zero_add]
  by_cases hk : k < b.recordCells
  · rw [if_pos hk, if_pos hk, h.cells k hk]
  · rw [if_neg hk, if_neg hk]

end Entities

namespace Exec

variable {α : Type} {m : Machine} {post : α → Machine → Prop} {setup : Setup} {st : Statement}
  {action : Action}

lemma yields_mono {act : Exec α} {post' : α → Machine → Prop} {fail : Fault → Machine → Prop}
    (h : Ends act m post fail) (hp : ∀ a m', post a m' → post' a m') : Yields act m post' := by
  rw [Yields, Ends] at *
  cases hr : act m with
  | ok a m' =>
    rw [hr] at h
    exact hp a m' h
  | error fault m' => trivial

lemma yields_and {act : Exec α} {post' : α → Machine → Prop} (h : Yields act m post)
    (h' : Yields act m post') : Yields act m fun a m' => post a m' ∧ post' a m' := by
  rw [Yields, Ends] at *
  cases hr : act m with
  | ok a m' =>
    rw [hr] at h h'
    exact ⟨h, h'⟩
  | error fault m' => trivial

lemma yields_of_forall {act : Exec α} (h : ∀ a m', post a m') : Yields act m post := by
  rw [Yields, Ends]
  cases act m with
  | ok a m' => exact h a m'
  | error fault m' => trivial

lemma yields_leaveResult {post : Unit → Machine → Prop} {a : Nat}
    (h : ∀ globals, post () { m with memory := { m.memory with globals } }) :
    Yields (leaveResult a) m post := by
  rw [leaveResult]
  split
  · exact ends_pure (h m.memory.globals)
  · apply ends_bind
    apply ends_get
    refine yields_onMemory fun memory hw => ?_
    simp only [Memory.onGlobals, Globals.write] at hw
    split_ifs at hw
    cases hw
    exact h _

lemma yields_jump {post : Flow → Machine → Prop} {operand : UInt16}
    (h : ∀ context, post .running ⟨m.memory, context, m.profile⟩) :
    Yields (jump setup operand) m post := by
  apply ends_bind
  apply ends_get
  split
  · split
    · exact h _
    · exact ends_throw trivial
  · exact ends_throw trivial

lemma yields_control (hc : action.isControl = true) :
    Yields (perform setup st action) m fun _ m' => m'.SameStores m := by
  cases action with
  | leave =>
    apply ends_bind
    refine yields_leaveResult fun globals => ?_
    apply ends_bind
    exact ends_onFrames (fun _ _ _ => ⟨rfl, rfl, rfl⟩) fun _ _ _ => trivial
  | branch whenSet =>
    apply ends_bind
    apply yields_cell
    split
    · exact yields_jump fun _ => ⟨rfl, rfl, rfl⟩
    · exact ends_next ⟨rfl, rfl, rfl⟩
  | goto => exact yields_jump fun _ => ⟨rfl, rfl, rfl⟩
  | call argc =>
    apply ends_bind
    apply yields_cell
    dsimp only
    split
    · exact ends_pure ⟨rfl, rfl, rfl⟩
    · apply ends_bind
      exact yields_mono (ends_enter_sameStores _) fun _ m' h => ends_pure h
  | _ => cases hc

def SparesWorld (e : Entities) (places : List Place) : Prop :=
  ∀ p ∈ places, p.area = .entities → e.recordCells ≤ p.cell

lemma sparesWorld_globals (e : Entities) (i n : Nat) : SparesWorld e (Place.run .globals i n) := by
  intro p hp ha
  obtain ⟨hg, -⟩ := Place.mem_run.mp hp
  rw [ha] at hg
  cases hg

lemma sparesWorld_pointed {e : Entities} {pointer : Cell} (n : Nat)
    (h : pointsToWorld e pointer = false) : SparesWorld e (Place.pointed pointer n) := by
  rw [Place.pointed]
  rw [pointsToWorld] at h
  cases ht : Pointer.target? pointer with
  | none => simp [SparesWorld]
  | some target =>
    cases target with
    | global cell => exact sparesWorld_globals e cell n
    | entity byte =>
      -- Whatever lies behind the first cell is further away from the world.
      intro p hp _
      obtain ⟨-, hle, -⟩ := Place.mem_run.mp hp
      rw [ht, decide_eq_false_iff_not, Nat.not_lt, Entities.recordBytes] at h
      omega

lemma sparesWorld_storeIndirect (hw : setup.settings.allowWorldWrites = false) (width : Width) :
    Yields (perform setup st (.storeIndirect width)) m fun _ _ =>
      SparesWorld m.memory.entities
        ((Action.storeIndirect width).destination setup st m.memory) := by
  apply ends_bind
  apply ends_bind
  apply yields_cell
  apply ends_bind
  apply ends_get
  apply ends_bind
  refine yields_guardWorld fun hg => ?_
  rw [hw, Bool.not_false, Bool.and_true] at hg
  apply yields_of_forall
  intros
  apply yields_of_forall
  intros
  exact sparesWorld_pointed _ hg

lemma sparesWorld_state (hw : setup.settings.allowWorldWrites = false) :
    Yields (perform setup st .state) m fun _ _ =>
      SparesWorld m.memory.entities (Action.state.destination setup st m.memory) := by
  apply ends_bind
  rw [state]
  cases hs : setup.stateSymbols with
  | none => exact ends_throw trivial
  | some symbols =>
    apply ends_bind
    refine yields_entity fun _ => ?_
    apply ends_bind
    refine yields_guardWorld fun hg => ?_
    rw [hw, Bool.not_false, Bool.and_true, decide_eq_false_iff_not, Entities.world] at hg
    apply yields_of_forall
    intros
    apply yields_of_forall
    intro _ _ p hp _
    rw [Action.destination, hs] at hp
    obtain ⟨field, -, rfl⟩ := List.mem_map.mp hp
    exact (Nat.le_mul_of_pos_left _ (Nat.pos_of_ne_zero hg)).trans (Nat.le_add_right _ _)

lemma perform_sparesWorld (hw : setup.settings.allowWorldWrites = false) (action : Action) :
    Yields (perform setup st action) m fun _ _ =>
      SparesWorld m.memory.entities (action.destination setup st m.memory) := by
  cases action with
  | storeIndirect width => exact sparesWorld_storeIndirect hw width
  | state => exact sparesWorld_state hw
  | leave | branch _ | goto | call _ =>
    apply yields_of_forall
    simp [Action.destination, SparesWorld]
  | _ =>
    apply yields_of_forall
    intros
    apply sparesWorld_globals

lemma perform_entities (hm : m.memory.entities.Whole) (action : Action) :
    Yields (perform setup st action) m fun _ m' =>
      m'.memory.entities = { m.memory.entities with cells := m'.memory.entities.cells } ∧
      ∀ x, ⟨.entities, x⟩ ∉ action.destination setup st m.memory →
        m'.memory.entities.cells[x]? = m.memory.entities.cells[x]? := by
  cases hc : action.isControl with
  | true =>
    refine yields_mono (yields_control hc) fun flow m' h => ?_
    rw [h.entities]
    exact ⟨rfl, fun _ _ => rfl⟩
  | false =>
    refine yields_mono (perform_carriedOut hm hc) fun flow m' h => ?_
    exact ⟨h.memory.slots, fun x hx => h.memory.outside ⟨.entities, x⟩ hx⟩

lemma perform_hasWorld (hm : m.memory.entities.Whole) (hw : m.memory.entities.HasWorld)
    (action : Action) :
    Yields (perform setup st action) m fun _ m' => m'.memory.entities.HasWorld := by
  refine yields_mono (perform_entities hm action) fun flow m' h => ?_
  rw [h.1]
  exact hw

lemma perform_sameWorld (hm : m.memory.entities.Whole)
    (hw : setup.settings.allowWorldWrites = false) (action : Action) :
    Yields (perform setup st action) m fun _ m' =>
      m'.memory.entities.SameWorld m.memory.entities := by
  refine yields_mono (yields_and (perform_entities hm action) (perform_sparesWorld hw action))
    fun flow m' ⟨⟨hslots, houtside⟩, hspares⟩ => ?_
  constructor
  case capacity => rw [hslots]
  case recordCells => rw [hslots]
  case cells =>
    intro x hx
    apply houtside
    intro hmem
    exact absurd (hspares _ hmem rfl) (Nat.not_le.mpr hx)

end Exec

namespace Entities

variable {e : Entities}

lemma hasWorld_fresh (capacity recordCells : Nat) : (fresh capacity recordCells).HasWorld :=
  ⟨Nat.lt_of_lt_of_le Nat.one_pos (le_max_right _ _), Nat.one_pos⟩

lemma HasWorld.clear (h : e.HasWorld) : e.clear.HasWorld := ⟨h.1, Nat.one_pos⟩

lemma next?_pos {now : Cell} {entity : Nat} (h : e.HasWorld) (hn : e.next? now = some entity) :
    0 < entity := by
  rw [next?] at hn
  cases hf : (List.range' 1 (e.inUse - 1)).find? (e.reusable now) with
  | some found =>
    obtain rfl : found = entity := by simpa [hf] using hn
    have hmem := List.mem_of_find?_eq_some hf
    rw [List.mem_range'_1] at hmem
    exact hmem.1
  | none =>
    simp only [hf] at hn
    split_ifs at hn
    cases hn
    exact h.2

end Entities

/-- The operation writes a cell of the world, or sets every record back. -/
def MemoryOp.writesWorld (e : Entities) : MemoryOp → Bool
  | .writeField entity field cells =>
    entity = Entities.world && !cells.isEmpty && field + cells.length ≤ e.recordCells
  | .storeEntity byte cells =>
    byte.toNat / 4 < e.recordCells && !cells.isEmpty && byte.toNat / 4 + cells.length ≤ e.cells.size
  | .clearEntities => true
  | _ => false

def HostOp.writesWorld (m : Machine) : HostOp → Bool
  | .memory op => op.writesWorld m.memory.entities
  | .reset => !m.context.isRunning
  | _ => false

lemma MemoryOp.apply_entities {memory : Memory} (hw : memory.entities.HasWorld) (op : MemoryOp) :
    (op.apply memory).2.entities = memory.entities ∨ op = .clearEntities ∨
    ∃ i cells inUse slots, (op.apply memory).2.entities = { memory.entities with
        cells := Cells.write memory.entities.cells i cells, inUse, slots } ∧
      memory.entities.inUse ≤ inUse ∧
      (i < memory.entities.recordCells → cells ≠ [] → op.writesWorld memory.entities = true) := by
  cases op with
  | writeGlobals pos cells =>
    left
    simp only [apply, settle, Memory.onGlobals, Globals.write]
    split_ifs <;> rfl
  | writeField entity field cells =>
    simp only [apply, settle, Memory.onEntities, Entities.setField]
    cases hs : memory.entities.span entity field cells.length with
    | error err => exact .inl rfl
    | ok start =>
      obtain ⟨-, hfit, rfl⟩ := Entities.span_eq_ok hs
      refine .inr (.inr ⟨_, cells, _, _, rfl, le_rfl, fun hlt hne => ?_⟩)
      have hz : entity = Entities.world := by
        by_contra hz
        have := Nat.le_mul_of_pos_left memory.entities.recordCells (Nat.pos_of_ne_zero hz)
        omega
      simp [writesWorld, hz, hne, hfit]
  | storeEntity byte cells =>
    simp only [apply, settle, Memory.onEntities, Entities.store]
    cases hl : memory.entities.locate byte cells.length with
    | error err => exact .inl rfl
    | ok cell =>
      have hfit := Entities.locate_fits hl
      obtain rfl := Entities.locate_eq_ok hl
      refine .inr (.inr ⟨_, cells, _, _, rfl, le_rfl, fun hlt hne => ?_⟩)
      simp [writesWorld, hlt, hne, hfit]
  | allocEntity now =>
    simp only [apply, settle, Memory.onEntities, Entities.alloc]
    cases hn : memory.entities.next? now with
    | none => exact .inl rfl
    | some entity =>
      have hpos := Entities.next?_pos hw hn
      refine .inr (.inr ⟨_, _, _, _, rfl, le_max_left _ _, fun hlt => absurd hlt ?_⟩)
      exact Nat.not_lt.mpr (Nat.le_mul_of_pos_left _ hpos)
  | freeEntity entity now =>
    simp only [apply, settle, Memory.onEntities, Entities.free]
    split_ifs with hz hu
    · exact .inl rfl
    · exact .inl rfl
    · refine .inr (.inr ⟨_, _, _, _, rfl, le_rfl, fun hlt => absurd hlt ?_⟩)
      exact Nat.not_lt.mpr (Nat.le_mul_of_pos_left _ (Nat.pos_of_ne_zero hz))
  | clearEntities => exact .inr (.inl rfl)
  | newScratch bytes => exact .inl rfl
  | persist bytes => exact .inl rfl
  | release handle =>
    left
    simp only [apply, settle, Memory.onStrings]
    cases StringTable.release handle memory.strings <;> rfl
  | resetStrings => exact .inl rfl

lemma MemoryOp.apply_hasWorld {memory : Memory} (hw : memory.entities.HasWorld) (op : MemoryOp) :
    (op.apply memory).2.entities.HasWorld := by
  rcases apply_entities hw op with he | rfl | ⟨i, cells, inUse, slots, he, hle, -⟩
  · rw [he]
    exact hw
  · exact hw.clear
  · rw [he]
    exact ⟨hw.1, Nat.lt_of_lt_of_le hw.2 hle⟩

lemma MemoryOp.apply_sameWorld {memory : Memory} (hw : memory.entities.HasWorld) {op : MemoryOp}
    (hop : op.writesWorld memory.entities = false) :
    (op.apply memory).2.entities.SameWorld memory.entities := by
  rcases apply_entities hw op with he | rfl | ⟨i, cells, inUse, slots, he, -, hwrites⟩
  · rw [he]
    exact .refl _
  · cases hop
  · rw [he]
    refine ⟨rfl, rfl, fun x hx => ?_⟩
    by_cases hi : i < memory.entities.recordCells
    · obtain rfl : cells = [] := by
        by_contra hne
        rw [hwrites hi hne] at hop
        cases hop
      rfl
    · exact Cells.getElem?_write_of_lt _ _ (by omega)

namespace Call

variable {setup : Setup} {label : String} {op : HostOp} {s : Recorded Machine}

lemma answer_entities (setup : Setup) (ht : target? label s.state op = none) :
    (answer noCalls setup label op s).2.state.memory.entities = s.state.memory.entities ∨
    (∃ mop : MemoryOp, op = .memory mop ∧
      (answer noCalls setup label op s).2.state.memory = (mop.apply s.state.memory).2) ∨
    (op = .reset ∧ s.state.context.isRunning = false ∧
      (answer noCalls setup label op s).2.state.memory.entities =
        s.state.memory.entities.clear) := by
  cases op with
  | memory mop => exact .inr (.inl ⟨mop, rfl, rfl⟩)
  | reset =>
    cases hr : s.state.context.isRunning with
    | true =>
      left
      simp [answer, settle, reset, hr]
    | false =>
      refine .inr (.inr ⟨rfl, rfl, ?_⟩)
      simp [answer, settle, reset, hr, Machine.restart, Machine.resetProfile]
  | call function =>
    cases hp : s.state.context.pending with
    | none => simp [target?, hp] at ht
    | some err =>
      left
      simp only [answer, hp]
  | execute function caller => cases ht
  | look => exact .inl rfl
  | resetProfile => exact .inl rfl
  | note text => exact .inl rfl

lemma answer_hasWorld (hw : s.state.memory.entities.HasWorld)
    (ht : target? label s.state op = none) :
    (answer noCalls setup label op s).2.state.memory.entities.HasWorld := by
  rcases answer_entities setup ht with he | ⟨mop, rfl, he⟩ | ⟨rfl, -, he⟩
  · rw [he]
    exact hw
  · rw [he]
    exact mop.apply_hasWorld hw
  · rw [he]
    exact hw.clear

lemma answer_sameWorld (hw : s.state.memory.entities.HasWorld)
    (hop : op.writesWorld s.state = false) (ht : target? label s.state op = none) :
    (answer noCalls setup label op s).2.state.memory.entities.SameWorld
      s.state.memory.entities := by
  rcases answer_entities setup ht with he | ⟨mop, rfl, he⟩ | ⟨rfl, hr, -⟩
  · rw [he]
    exact .refl _
  · rw [he]
    exact MemoryOp.apply_sameWorld hw hop
  · simp [HostOp.writesWorld, hr] at hop

abbrev Keeps (setup : Setup) (P : Entities → Prop) : Moment → Prop :=
  Maintains setup fun m => P m.memory.entities

abbrev Throughout (P : Entities → Prop) : History → Recorded Machine → Prop :=
  Always fun m => P m.memory.entities

end Call

namespace Instance

variable {i : Instance}

lemma Created.throughout (hi : i.Created) {m : Machine} (hm : m.AtHost i.linked.setup) {α : Type}
    (code : Host α) (journal : Journal) {P : Entities → Prop} (hP : P m.memory.entities)
    (hk : ∀ moment ∈ Instance.history ⟨i.linked, m⟩ code journal,
      moment.Sound i.linked.setup → Call.Keeps i.linked.setup P moment) :
    Call.Throughout P (Instance.history ⟨i.linked, m⟩ code journal)
      (Call.host (Call.execute i.linked) i.linked.setup "host" code ⟨m, journal⟩).2 := by
  refine Linked.session_always hi.checked hm code journal (fun a b hab hb => ?_) hP hk
  rw [hab.entities]
  exact hb

end Instance

namespace Moment

variable {setup : Setup} {st : Statement} {m : Machine} {moment : Moment}

lemma Sound.keeps_hasWorld (hc : setup.Checked) (h : moment.Sound setup) :
    Call.Keeps setup Entities.HasWorld moment := by
  cases moment with
  | asked op m => exact fun hw label journal ht => Call.answer_hasWorld hw ht
  | dispatched st m =>
    exact Call.maintains_dispatch hc h fun hw => Exec.perform_hasWorld h.1.memory.whole hw _
  | _ => trivial

lemma Sound.keeps_world (hc : setup.Checked) (hw : setup.settings.allowWorldWrites = false)
    (h : moment.Sound setup) (hop : ∀ op m, moment = .asked op m → op.writesWorld m = false)
    (start : Entities) : Call.Keeps setup (Entities.KeepsWorld start) moment := by
  cases moment with
  | asked op m =>
    rintro ⟨hhas, hsame⟩ label journal ht
    refine ⟨Call.answer_hasWorld hhas ht, ?_⟩
    exact Entities.SameWorld.trans (Call.answer_sameWorld hhas (hop op m rfl) ht) hsame
  | dispatched st m =>
    have hwhole := h.1.memory.whole
    refine Call.maintains_dispatch hc h fun ⟨hhas, hsame⟩ => ?_
    refine Exec.yields_mono (Exec.yields_and (Exec.perform_hasWorld hwhole hhas _)
      (Exec.perform_sameWorld hwhole hw _)) fun flow m' hm' => ?_
    exact ⟨hm'.1, hm'.2.trans hsame⟩
  | _ => trivial

end Moment

namespace Instance

variable {i : Instance}

lemma Created.reaches_hasWorld (hi : i.Created) {m : Machine} (hm : i.Reaches m) :
    m.memory.entities.HasWorld := by
  obtain ⟨code, journal, op, hmem⟩ := hm
  have hstart : i.machine.memory.entities.HasWorld := by
    obtain ⟨bytes, image, -, table, domain, settings, options, journal, journal', hb⟩ := hi
    obtain ⟨-, recordCells, -, hmachine⟩ := bringUp_eq_ok hb
    rw [hmachine]
    exact Entities.hasWorld_fresh _ _
  have ht := hi.throughout hi.atHost code journal hstart
    fun moment _ hsound => hsound.keeps_hasWorld hi.checked
  exact ht.1 _ hmem

/-- Unless the settings allow it, no program changes the record of the world: as long as the host
does not write to it, it stays the same at every moment and in the end, however the calls end. -/
theorem world_unchanged (hi : i.Created)
    (hw : i.linked.setup.settings.allowWorldWrites = false) {m : Machine} (hm : i.Reaches m)
    {α : Type} (code : Host α) (journal : Journal)
    (hop : ∀ op m', Moment.asked op m' ∈ Instance.history ⟨i.linked, m⟩ code journal →
      op.writesWorld m' = false) :
    ∃ record, m.memory.entities.record Entities.world = .ok record ∧
      (∀ moment ∈ Instance.history ⟨i.linked, m⟩ code journal,
        moment.machine.memory.entities.record Entities.world = .ok record) ∧
      (serve code ⟨⟨i.linked, m⟩, journal⟩).2.state.machine.memory.entities.record
        Entities.world = .ok record := by
  have hhas := hi.reaches_hasWorld hm
  obtain ⟨hmoments, hfinal⟩ : Call.Throughout (Entities.KeepsWorld m.memory.entities)
      (Instance.history ⟨i.linked, m⟩ code journal)
      (Call.host (Call.execute i.linked) i.linked.setup "host" code ⟨m, journal⟩).2 := by
    apply hi.throughout (hi.reaches_atHost hm) code journal ⟨hhas, .refl _⟩
    intro moment hmem hsound
    apply hsound.keeps_world hi.checked hw
    rintro op m' rfl
    exact hop op m' hmem
  have hrecord {e : Entities} (he : Entities.KeepsWorld m.memory.entities e) :
      e.record Entities.world =
        .ok (Cells.read m.memory.entities.cells 0 m.memory.entities.recordCells) := by
    rw [Entities.record_world he.1, he.2.read_eq]
  exact ⟨_, hrecord ⟨hhas, .refl _⟩, fun moment hmem => hrecord (hmoments moment hmem),
    hrecord hfinal⟩

end Instance

namespace Forger

def marked : Machine :=
  { forger.machine with
    memory := (MemoryOp.apply (.writeField Entities.world 0 [9, 9, 9]) forger.machine.memory).2 }

lemma reaches_marked : forger.Reaches marked :=
  ⟨.ask (.memory (.writeField Entities.world 0 [9, 9, 9])) fun _ => .ask .look fun _ => .done (),
    #[], .look, .tail _ (.head _)⟩

def visit : Host Unit :=
  .ask (.memory (.allocEntity 0)) fun _ => .ask (.execute 1 "host") fun _ =>
    .ask (.memory (.freeEntity 1 0)) fun _ => .done ()

theorem visit_leaves_world :
    forger.Created ∧ forger.Reaches marked ∧
      marked.memory.entities.record Entities.world = .ok [9, 9, 9] ∧
      (Instance.serve visit ⟨⟨forger.linked, marked⟩, #[]⟩).2.state.machine.memory.entities.record
        Entities.world = .ok [9, 9, 9] := by
  have hops : (Instance.history ⟨forger.linked, marked⟩ visit #[]).all (fun
      | .asked op m => !op.writesWorld m
      | _ => true) = true := by decide +kernel
  have hmarked : marked.memory.entities.record Entities.world = .ok [9, 9, 9] := by decide +kernel
  obtain ⟨record, hrecord, -, hfinal⟩ := Instance.world_unchanged created rfl reaches_marked visit
    #[] fun op m' hmem => by simpa using List.all_eq_true.mp hops _ hmem
  obtain rfl : [9, 9, 9] = record := by simpa [hmarked] using hrecord
  exact ⟨created, reaches_marked, hmarked, hfinal⟩

end Forger

end GameVm
