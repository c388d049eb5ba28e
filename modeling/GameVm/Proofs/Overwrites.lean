import GameVm.Proofs.Safety
import GameVm.Proofs.Storage

/-! What a statement overwrites and with what; one that fails overwrites nothing. -/

namespace GameVm

namespace Entities

lemma span_eq_ok {e : Entities} {entity field n start : Nat}
    (h : e.span entity field n = .ok start) :
    entity < e.capacity ∧ field + n ≤ e.recordCells ∧ start = entity * e.recordCells + field := by
  rcases span_cases e entity field n with h' | h' | ⟨he, hf, h'⟩
  · simp [h'] at h
  · simp [h'] at h
  · exact ⟨he, hf, by simpa [h', eq_comm] using h⟩

lemma field_eq_ok {e : Entities} (hw : e.Whole) {entity field n : Nat} {vs : List Cell}
    (h : e.field entity field n = .ok vs) :
    entity * e.recordCells + field + n ≤ e.cells.size ∧
      vs = Cells.read e.cells (entity * e.recordCells + field) n := by
  cases hs : e.span entity field n with
  | error err => simp [Entities.field, hs, bind, Except.bind] at h
  | ok start =>
    have hfit := span_fits hw hs
    obtain ⟨-, -, rfl⟩ := span_eq_ok hs
    refine ⟨hfit, ?_⟩
    simpa [Entities.field, hs, bind, Except.bind, pure, Except.pure, eq_comm] using h

lemma address_eq_ok {e : Entities} {entity field : Nat} {pointer : Cell}
    (h : e.address entity field = .ok pointer) :
    pointer = UInt32.ofNat ((entity * e.recordCells + field) * 4) := by
  cases hs : e.span entity field 1 with
  | error err => simp [address, hs, bind, Except.bind] at h
  | ok start =>
    obtain ⟨-, -, rfl⟩ := span_eq_ok hs
    simpa [address, hs, bind, Except.bind, pure, Except.pure, eq_comm] using h

lemma locate_eq_ok {e : Entities} {byte : Cell} {n cell : Nat} (h : e.locate byte n = .ok cell) :
    cell = byte.toNat / 4 := by
  simp only [locate] at h
  split at h
  · cases h
  · cases h
    rfl

end Entities

inductive Area where
  | globals | entities
  deriving DecidableEq, Repr

structure Place where
  area : Area
  cell : Nat
  deriving DecidableEq, Repr

namespace Place

def run (area : Area) (start n : Nat) : List Place := (List.range' start n).map (Place.mk area)

def pointed (pointer : Cell) (n : Nat) : List Place :=
  match Pointer.target? pointer with
  | some (.global cell) => run .globals cell n
  | some (.entity byte) => run .entities (byte.toNat / 4) n
  | none => []

@[simp]
lemma length_run (area : Area) (start n : Nat) : (run area start n).length = n := by
  simp [run]

lemma getElem?_run {area : Area} {start n k : Nat} {p : Place}
    (h : (run area start n)[k]? = some p) : k < n ∧ p = ⟨area, start + k⟩ := by
  rw [run, List.getElem?_map, Option.map_eq_some_iff] at h
  obtain ⟨x, hx, rfl⟩ := h
  obtain ⟨hk, rfl⟩ := List.getElem?_eq_some_iff.mp hx
  rw [List.length_range'] at hk
  rw [List.getElem_range', Nat.one_mul]
  exact ⟨hk, rfl⟩

lemma mem_run {area : Area} {start n : Nat} {p : Place} :
    p ∈ run area start n ↔ p.area = area ∧ start ≤ p.cell ∧ p.cell < start + n := by
  obtain ⟨area', x⟩ := p
  simp [run, eq_comm, and_comm]

end Place

namespace Memory

def cells (m : Memory) : Area → Array Cell
  | .globals => m.globals.cells
  | .entities => m.entities.cells

def withCells (m : Memory) (cells : Array Cell) : Area → Memory
  | .globals => { m with globals := ⟨cells⟩ }
  | .entities => { m with entities := { m.entities with cells } }

def peek (m : Memory) (p : Place) : Option Cell := (m.cells p.area)[p.cell]?

/-- What places hold; zero for a place that does not exist. -/
def contents (m : Memory) (places : List Place) : List Cell :=
  places.map fun p => (m.peek p).getD 0

def cellAt (m : Memory) (i : Nat) : Cell := m.globals.cells.getD i 0

def vectorAt (m : Memory) (i : Nat) : Vec3 := ⟨m.cellAt i, m.cellAt (i + 1), m.cellAt (i + 2)⟩

def fieldAt (m : Memory) (entity field : Nat) : Nat := entity * m.entities.recordCells + field

def sameString (m : Memory) (x y : Int32) : Bool :=
  x = y || (m.strings.resolve x).toOption = (m.strings.resolve y).toOption

def emptyString (m : Memory) (handle : Int32) : Bool :=
  handle = 0 || (m.strings.resolve handle).toOption.any (·.isEmpty)

lemma length_contents_run (m : Memory) (area : Area) (i n : Nat) :
    (m.contents (Place.run area i n)).length = n := by
  simp [contents]

lemma contents_run (m : Memory) (area : Area) {i n : Nat} (h : i + n ≤ (m.cells area).size) :
    m.contents (Place.run area i n) = Cells.read (m.cells area) i n := by
  apply List.ext_getElem?
  intro k
  rw [Cells.getElem?_read]
  by_cases hk : k < n
  · simp [contents, Place.run, peek, hk, show i + k < (m.cells area).size by omega]
  · simp [contents, Place.run, hk]

lemma peek_withCells (m : Memory) (cells : Array Cell) (area : Area) (p : Place) :
    (m.withCells cells area).peek p = if p.area = area then cells[p.cell]? else m.peek p := by
  obtain ⟨area', x⟩ := p
  cases area <;> cases area' <;> rfl

/-- The places hold the values, the last one where a place is given twice, and nothing else has
changed. -/
structure Overwritten (before : Memory) (places : List Place) (values : List Cell)
    (after : Memory) : Prop where
  length : values.length = places.length
  inside : ∀ k p v, places[k]? = some p → values[k]? = some v → p ∉ places.drop (k + 1) →
    after.peek p = some v
  outside : ∀ p, p ∉ places → after.peek p = before.peek p
  /-- Sizes and slots of the entity records are the same. -/
  slots : after.entities = { before.entities with cells := after.entities.cells }
  strings : after.strings = before.strings

lemma overwritten_run (m : Memory) (area : Area) {i : Nat} (vs : List Cell)
    (h : i + vs.length ≤ (m.cells area).size) :
    m.Overwritten (Place.run area i vs.length) vs
      (m.withCells (Cells.write (m.cells area) i vs) area) where
  length := (Place.length_run ..).symm
  inside := by
    intro k p v hp hv _
    obtain ⟨hk, rfl⟩ := Place.getElem?_run hp
    rw [peek_withCells, if_pos rfl, Cells.getElem?_write _ _ _ _ h,
      if_pos ⟨Nat.le_add_right i k, Nat.add_lt_add_left hk i⟩, Nat.add_sub_cancel_left, hv]
  outside := by
    intro p hp
    rw [Place.mem_run, not_and] at hp
    rw [peek_withCells]
    split_ifs with ha
    · rw [Cells.getElem?_write _ _ _ _ h, if_neg (hp ha), peek, ha]
    · rfl
  slots := by cases area <;> rfl
  strings := by cases area <;> rfl

lemma Overwritten.append {a b c : Memory} {ps qs : List Place} {vs ws : List Cell}
    (h : a.Overwritten ps vs b) (h' : b.Overwritten qs ws c) :
    a.Overwritten (ps ++ qs) (vs ++ ws) c where
  length := by simp [h.length, h'.length]
  inside := by
    intro k p v hp hv hlast
    by_cases hk : k < ps.length
    · rw [List.getElem?_append_left hk] at hp
      rw [List.getElem?_append_left (h.length ▸ hk)] at hv
      rw [List.drop_append_of_le_length hk, List.mem_append, not_or] at hlast
      rw [h'.outside p hlast.2]
      exact h.inside k p v hp hv hlast.1
    · rw [Nat.not_lt] at hk
      rw [List.getElem?_append_right hk] at hp
      rw [List.getElem?_append_right (h.length ▸ hk), h.length] at hv
      refine h'.inside _ p v hp hv ?_
      rwa [List.drop_append, List.drop_eq_nil_of_le (by omega), List.nil_append,
        Nat.sub_add_comm hk] at hlast
  outside := by
    intro p hp
    rw [List.mem_append, not_or] at hp
    rw [h'.outside p hp.2, h.outside p hp.1]
  slots := by rw [h'.slots, h.slots]
  strings := h'.strings.trans h.strings

lemma load_eq_ok {m : Memory} {pointer : Cell} {n : Nat} {vs : List Cell}
    (h : m.load pointer n = .ok vs) :
    vs.length = n ∧ m.contents (Place.pointed pointer n) = vs := by
  rw [load] at h
  rw [Place.pointed]
  cases ht : Pointer.target? pointer with
  | none => simp [ht] at h
  | some target =>
    cases target with
    | global cell =>
      by_cases hi : cell + n ≤ m.globals.cells.size
      · obtain rfl : _ = vs := by simpa [ht, Globals.read, hi, Except.mapError] using h
        exact ⟨Cells.length_read hi, m.contents_run .globals hi⟩
      · simp [ht, Globals.read, hi, Except.mapError] at h
    | entity byte =>
      cases hl : m.entities.locate byte n with
      | error err => simp [ht, Entities.load, hl, bind, Except.bind] at h
      | ok cell =>
        obtain rfl : _ = vs := by
          simpa [ht, Entities.load, hl, bind, Except.bind, pure, Except.pure] using h
        have hi := Entities.locate_fits hl
        obtain rfl := Entities.locate_eq_ok hl
        exact ⟨Cells.length_read hi, m.contents_run .entities hi⟩

lemma overwritten_store {m m' : Memory} {pointer : Cell} {n : Nat} {vs : List Cell}
    (hn : vs.length = n) (h : store pointer vs m = .ok () m') :
    m.Overwritten (Place.pointed pointer n) vs m' := by
  subst hn
  rw [store] at h
  rw [Place.pointed]
  cases ht : Pointer.target? pointer with
  | none =>
    rw [ht] at h
    cases h
  | some target =>
    cases target with
    | global cell =>
      by_cases hi : cell + vs.length ≤ m.globals.cells.size
      · obtain rfl : _ = m' := by
          simpa [ht, EStateM.adaptExcept, onGlobals, Globals.write, hi] using h
        exact m.overwritten_run .globals vs hi
      · simp [ht, EStateM.adaptExcept, onGlobals, Globals.write, hi] at h
    | entity byte =>
      cases hl : m.entities.locate byte vs.length with
      | error err => simp [ht, onEntities, Entities.store, hl] at h
      | ok cell =>
        obtain rfl : _ = m' := by simpa [ht, onEntities, Entities.store, hl] using h
        have hi := Entities.locate_fits hl
        obtain rfl := Entities.locate_eq_ok hl
        exact m.overwritten_run .entities vs hi

end Memory

def StateSymbols.places (symbols : StateSymbols) (m : Memory) : List Place :=
  [symbols.frame, symbols.think, symbols.nextthink].map fun field =>
    ⟨.entities, m.fieldAt (m.cellAt symbols.self).toNat field⟩

def Opcode.isControl : Opcode → Bool
  | .done | .ret | .branch | .branchNot | .goto | .call0 | .call1 | .call2 | .call3 | .call4
  | .call5 | .call6 | .call7 | .call8 => true
  | _ => false

/-- The cells that a statement writes, by its operation: one or three at operand `c`, unless it is a
store, which writes at `b` or where the cell at `b` points, or a state statement. -/
def Statement.destination (st : Statement) (setup : Setup) (m : Memory) : List Place :=
  match st.op with
  | .done | .ret | .branch | .branchNot | .goto | .call0 | .call1 | .call2 | .call3 | .call4
  | .call5 | .call6 | .call7 | .call8 => []
  | .storeF | .storeS | .storeEnt | .storeFld | .storeFnc | .storeI =>
    Place.run .globals st.b.toNat 1
  | .storeV => Place.run .globals st.b.toNat 3
  | .storePF | .storePS | .storePEnt | .storePFld | .storePFnc | .storePI =>
    Place.pointed (m.cellAt st.b.toNat) 1
  | .storePV => Place.pointed (m.cellAt st.b.toNat) 3
  | .state => (setup.stateSymbols.map (·.places m)).getD []
  | .addV | .subV | .mulFV | .mulVF | .loadV | .loadPV => Place.run .globals st.c.toNat 3
  | _ => Place.run .globals st.c.toNat 1

namespace Action

def isControl : Action → Bool
  | .leave | .branch _ | .goto | .call _ => true
  | _ => false

def destination (setup : Setup) (st : Statement) (m : Memory) : Action → List Place
  | .leave | .branch _ | .goto | .call _ => []
  | .cell1 _ | .cell2 _ | .vec1 _ | .vec2 _ | .divide _ | .stringsEqual _ | .stringEmpty
  | .address | .globalAddress => Place.run .globals st.c.toNat 1
  | .vec3 _ | .scaleRight _ | .scaleLeft _ => Place.run .globals st.c.toNat 3
  | .loadField width | .loadIndirect width => Place.run .globals st.c.toNat width.cells
  | .copy width => Place.run .globals st.b.toNat width.cells
  | .storeIndirect width => Place.pointed (m.cellAt st.b.toNat) width.cells
  | .state =>
    match setup.stateSymbols with
    | none => []
    | some symbols => symbols.places m

lemma isControl_ofOpcode (op : Opcode) : (ofOpcode op).isControl = op.isControl := by
  cases op <;> rfl

/-- The interpreter's table of actions leads to the destinations that the operations are said to
have. -/
lemma destination_ofOpcode (setup : Setup) (st : Statement) (m : Memory) :
    (ofOpcode st.op).destination setup st m = st.destination setup m := by
  obtain ⟨op, a, b, c⟩ := st
  cases op with
  | state =>
    cases hs : setup.stateSymbols <;> simp [ofOpcode, destination, Statement.destination, hs]
  | _ => rfl

/-- What an action writes there, as the memory in front of it tells. -/
def result (setup : Setup) (st : Statement) (m : Memory) : Action → List Cell
  | .leave | .branch _ | .goto | .call _ => []
  | .cell1 f => [f (m.cellAt st.a.toNat)]
  | .cell2 f => [f (m.cellAt st.a.toNat) (m.cellAt st.b.toNat)]
  | .vec1 f => [f (m.vectorAt st.a.toNat)]
  | .vec2 f => [f (m.vectorAt st.a.toNat) (m.vectorAt st.b.toNat)]
  | .vec3 f => (f (m.vectorAt st.a.toNat) (m.vectorAt st.b.toNat)).toList
  | .scaleRight f => (f (m.cellAt st.a.toNat) (m.vectorAt st.b.toNat)).toList
  | .scaleLeft f => (f (m.vectorAt st.a.toNat) (m.cellAt st.b.toNat)).toList
  | .divide f => [(f (m.cellAt st.a.toNat).toInt32 (m.cellAt st.b.toNat).toInt32).toUInt32]
  | .stringsEqual expected => [Binary32.ofBool
      (m.sameString (m.cellAt st.a.toNat).toInt32 (m.cellAt st.b.toNat).toInt32 == expected)]
  | .stringEmpty => [Binary32.ofBool (m.emptyString (m.cellAt st.a.toNat).toInt32)]
  | .loadField width => m.contents (Place.run .entities
      (m.fieldAt (m.cellAt st.a.toNat).toNat (m.cellAt st.b.toNat).toNat) width.cells)
  | .address =>
    [UInt32.ofNat (m.fieldAt (m.cellAt st.a.toNat).toNat (m.cellAt st.b.toNat).toNat * 4)]
  | .copy width | .storeIndirect width => m.contents (Place.run .globals st.a.toNat width.cells)
  | .globalAddress => [Pointer.global st.a]
  | .loadIndirect width => m.contents (Place.pointed (m.cellAt st.a.toNat) width.cells)
  | .state =>
    match setup.stateSymbols with
    | none => []
    | some symbols => [m.cellAt st.a.toNat, m.cellAt st.b.toNat,
        Binary32.add (m.cellAt symbols.time) setup.settings.stateInterval]

structure CarriedOut (setup : Setup) (st : Statement) (action : Action) (m : Machine)
    (flow : Flow) (m' : Machine) : Prop where
  flow : flow = .running
  memory : m.memory.Overwritten (action.destination setup st m.memory)
    (action.result setup st m.memory) m'.memory
  context : m'.context = m.context.setStatement (m.context.statement + 1)
  profile : m'.profile = m.profile

end Action

namespace Exec

variable {α : Type} {m : Machine} {post : α → Machine → Prop} {setup : Setup} {st : Statement}
  {action : Action}

/-- `act` ends in a value with `post`, unless it fails. -/
abbrev Yields (act : Exec α) (m : Machine) (post : α → Machine → Prop) : Prop :=
  Ends act m post fun _ _ => True

lemma yields_look {f : Machine → Except AccessError α} (h : ∀ a, f m = .ok a → post a m) :
    Yields (look f) m post :=
  ends_look h fun _ _ => trivial

lemma yields_cell {post : Cell → Machine → Prop} {i : Nat} (h : post (m.memory.cellAt i) m) :
    Yields (cell i) m post := by
  refine yields_look fun v hv => ?_
  rw [Globals.cell] at hv
  split_ifs at hv with hi
  cases hv
  simpa [Memory.cellAt, hi] using h

lemma yields_vector {post : Vec3 → Machine → Prop} {i : Nat}
    (h : post (m.memory.vectorAt i) m) : Yields (vector i) m post := by
  refine yields_look fun v hv => ?_
  rw [Globals.vector] at hv
  split_ifs at hv with hi
  cases hv
  simpa [Memory.vectorAt, Memory.cellAt, hi, show i < m.memory.globals.cells.size by omega,
    show i + 1 < m.memory.globals.cells.size by omega] using h

lemma yields_cells {post : List Cell → Machine → Prop} {i n : Nat}
    (h : post (m.memory.contents (Place.run .globals i n)) m) : Yields (cells i n) m post := by
  refine yields_look fun vs hv => ?_
  rw [Globals.read] at hv
  split_ifs at hv with hi
  cases hv
  rwa [m.memory.contents_run .globals hi] at h

lemma yields_entity {post : Nat → Machine → Prop} {i : Nat}
    (h : (m.memory.cellAt i).toNat < m.memory.entities.capacity →
      post (m.memory.cellAt i).toNat m) : Yields (entity i) m post := by
  refine ends_bind (yields_cell (yields_look fun entity he => ?_))
  obtain ⟨hlt, heq⟩ := Entities.check_ok he
  obtain rfl : entity = (m.memory.cellAt i).toNat := by exact_mod_cast heq
  exact h hlt

lemma yields_guardWorld {post : Unit → Machine → Prop} {isWorld : Bool}
    (h : (isWorld && !setup.settings.allowWorldWrites) = false → post () m) :
    Yields (guardWorld setup isWorld) m post := by
  rw [guardWorld]
  split
  case isTrue => exact ends_throw trivial
  case isFalse hg => exact ends_pure (h (by simpa using hg))

lemma yields_onMemory {post : Unit → Machine → Prop} {act : Access Memory Unit}
    (h : ∀ memory, act m.memory = .ok () memory → post () { m with memory }) :
    Yields (onMemory act) m post := by
  rw [Yields, Ends, onMemory]
  cases hr : act m.memory with
  | ok a memory => exact h memory hr
  | error err memory => trivial

lemma yields_next {memory : Memory}
    (h : m.memory.Overwritten (action.destination setup st m.memory)
      (action.result setup st m.memory) memory) :
    Yields next { m with memory } (action.CarriedOut setup st m) :=
  ends_next ⟨rfl, h, rfl, rfl⟩

lemma yields_setCells {i n : Nat} {vs : List Cell}
    (hd : action.destination setup st m.memory = Place.run .globals i n)
    (hr : action.result setup st m.memory = vs) (hn : vs.length = n) :
    Yields (setCells i vs) m fun _ m' => Yields next m' (action.CarriedOut setup st m) := by
  subst hn
  refine yields_onMemory fun memory hw => ?_
  by_cases hi : i + vs.length ≤ m.memory.globals.cells.size
  · obtain rfl : _ = memory := by simpa [Memory.onGlobals, Globals.write, hi] using hw
    refine yields_next ?_
    rw [hd, hr]
    exact m.memory.overwritten_run .globals vs hi
  · simp [Memory.onGlobals, Globals.write, hi] at hw

lemma yields_setCell {i : Nat} {v : Cell}
    (hd : action.destination setup st m.memory = Place.run .globals i 1)
    (hr : action.result setup st m.memory = [v]) :
    Yields (setCell i v) m fun _ m' => Yields next m' (action.CarriedOut setup st m) := by
  refine yields_onMemory fun memory hw => ?_
  by_cases hi : i < m.memory.globals.cells.size
  · obtain rfl : _ = memory := by simpa [Memory.onGlobals, Globals.setCell, hi] using hw
    refine yields_next ?_
    rw [hd, hr]
    exact m.memory.overwritten_run .globals [v] hi
  · simp [Memory.onGlobals, Globals.setCell, hi] at hw

lemma yields_resolve {post : Bytes → Machine → Prop} {handle : Int32}
    (h : ∀ s, m.memory.strings.resolve handle = .ok s → post s m) :
    Yields (resolve handle) m post :=
  yields_look h

lemma yields_stringsEqual {post : Bool → Machine → Prop} {x y : Int32}
    (h : post (m.memory.sameString x y) m) : Yields (stringsEqual x y) m post := by
  rw [stringsEqual]
  split
  case isTrue he =>
    refine ends_pure ?_
    simpa [Memory.sameString, he] using h
  case isFalse hne =>
    refine ends_bind (yields_resolve fun s hs => ends_bind (yields_resolve fun t ht => ?_))
    refine ends_pure ?_
    simpa [Memory.sameString, hne, hs, ht, Except.toOption] using h

lemma yields_stringEmpty {post : Bool → Machine → Prop} {handle : Int32}
    (h : post (m.memory.emptyString handle) m) : Yields (stringEmpty handle) m post := by
  rw [stringEmpty]
  split
  case isTrue he =>
    refine ends_pure ?_
    simpa [Memory.emptyString, he] using h
  case isFalse hne =>
    refine ends_bind (yields_resolve fun s hs => ends_pure ?_)
    simpa [Memory.emptyString, hne, hs, Except.toOption] using h

lemma yields_loadField {width : Width} (hw : m.memory.entities.Whole) :
    Yields (loadField st width) m fun _ m' =>
      Yields next m' ((Action.loadField width).CarriedOut setup st m) := by
  refine ends_bind (yields_entity fun _ => ends_bind (yields_cell ?_))
  refine ends_bind (yields_look fun vs hv => ?_)
  obtain ⟨hfit, rfl⟩ := Entities.field_eq_ok hw hv
  refine yields_setCells rfl (m.memory.contents_run .entities hfit) (Cells.length_read hfit)

lemma yields_address :
    Yields (address setup st) m fun _ m' =>
      Yields next m' (Action.address.CarriedOut setup st m) := by
  refine ends_bind (yields_entity fun _ => ?_)
  refine ends_bind (yields_guardWorld fun _ => ends_bind (yields_cell ?_))
  refine ends_bind (yields_look fun pointer hp => ?_)
  obtain rfl := Entities.address_eq_ok hp
  exact yields_setCell rfl rfl

lemma yields_storeIndirect {width : Width} :
    Yields (storeIndirect setup st width) m fun _ m' =>
      Yields next m' ((Action.storeIndirect width).CarriedOut setup st m) := by
  refine ends_bind (yields_cell (ends_bind (ends_get (ends_bind (yields_guardWorld fun _ => ?_)))))
  refine ends_bind (yields_cells (yields_onMemory fun memory hs => yields_next ?_))
  exact Memory.overwritten_store (m.memory.length_contents_run ..) hs

lemma yields_loadIndirect {width : Width} :
    Yields (loadIndirect st width) m fun _ m' =>
      Yields next m' ((Action.loadIndirect width).CarriedOut setup st m) := by
  refine ends_bind (yields_cell (ends_bind (yields_look fun vs hv => ?_)))
  obtain ⟨hn, rfl⟩ := Memory.load_eq_ok hv
  exact yields_setCells rfl rfl hn

lemma yields_setField {post : Unit → Machine → Prop} (hw : m.memory.entities.Whole)
    {entity field : Nat} {v : Cell}
    (h : ∀ memory : Memory, memory.entities.Whole →
      m.memory.Overwritten [⟨.entities, m.memory.fieldAt entity field⟩] [v] memory →
      post () { m with memory }) : Yields (setField entity field v) m post := by
  refine yields_onMemory fun memory hs => ?_
  cases hspan : m.memory.entities.span entity field 1 with
  | error err => simp [Memory.onEntities, Entities.setField, hspan] at hs
  | ok start =>
    obtain rfl : _ = memory := by simpa [Memory.onEntities, Entities.setField, hspan] using hs
    have hfit := Entities.span_fits hw hspan
    obtain ⟨-, -, rfl⟩ := Entities.span_eq_ok hspan
    refine h _ ?_ (m.memory.overwritten_run .entities [v] hfit)
    simpa [Entities.Whole] using hw

lemma yields_state (hw : m.memory.entities.Whole) :
    Yields (state setup st) m fun _ m' => Yields next m' (Action.state.CarriedOut setup st m) := by
  rw [state]
  cases hs : setup.stateSymbols with
  | none => exact ends_throw trivial
  | some symbols =>
    refine ends_bind (yields_entity fun _ => ends_bind (yields_guardWorld fun _ => ?_))
    refine ends_bind (yields_cell (ends_bind (yields_cell (ends_bind (yields_cell ?_)))))
    refine ends_bind (yields_setField hw fun m₁ hw₁ h₁ => ?_)
    refine ends_bind (yields_setField hw₁ fun m₂ hw₂ h₂ => ?_)
    refine yields_setField hw₂ fun m₃ _ h₃ => yields_next ?_
    -- The widths of the records are the same throughout, and so are the cells that fields start at.
    have hfield₁ : m₁.fieldAt = m.memory.fieldAt := by
      funext entity field
      rw [Memory.fieldAt, h₁.slots, Memory.fieldAt]
    have hfield₂ : m₂.fieldAt = m.memory.fieldAt := by
      funext entity field
      rw [← hfield₁, Memory.fieldAt, h₂.slots, Memory.fieldAt]
    rw [hfield₁] at h₂
    rw [hfield₂] at h₃
    simpa [Action.destination, StateSymbols.places, Action.result, hs] using
      (h₁.append h₂).append h₃

theorem perform_carriedOut (hw : m.memory.entities.Whole) (hc : action.isControl = false) :
    Yields (perform setup st action) m (action.CarriedOut setup st m) := by
  cases action with
  | leave => cases hc
  | cell1 f => exact ends_bind (yields_cell (ends_bind (yields_setCell rfl rfl)))
  | cell2 f =>
    refine ends_bind (yields_cell (ends_bind (yields_cell ?_)))
    exact ends_bind (yields_setCell rfl rfl)
  | vec1 f => exact ends_bind (yields_vector (ends_bind (yields_setCell rfl rfl)))
  | vec2 f =>
    refine ends_bind (yields_vector (ends_bind (yields_vector ?_)))
    exact ends_bind (yields_setCell rfl rfl)
  | vec3 f =>
    refine ends_bind (yields_vector (ends_bind (yields_vector ?_)))
    exact ends_bind (yields_setCells rfl rfl rfl)
  | scaleRight f =>
    refine ends_bind (yields_cell (ends_bind (yields_vector ?_)))
    exact ends_bind (yields_setCells rfl rfl rfl)
  | scaleLeft f =>
    refine ends_bind (yields_vector (ends_bind (yields_cell ?_)))
    exact ends_bind (yields_setCells rfl rfl rfl)
  | divide f =>
    refine ends_bind (yields_cell (ends_bind (yields_cell ?_)))
    split
    · exact ends_throw trivial
    · exact ends_bind (yields_setCell rfl rfl)
  | stringsEqual expected =>
    refine ends_bind (yields_cell (ends_bind (yields_cell (ends_bind (yields_stringsEqual ?_)))))
    exact ends_bind (yields_setCell rfl rfl)
  | stringEmpty =>
    refine ends_bind (yields_cell (ends_bind (yields_stringEmpty ?_)))
    exact ends_bind (yields_setCell rfl rfl)
  | loadField width => exact ends_bind (yields_loadField hw)
  | address => exact ends_bind yields_address
  | copy width =>
    refine ends_bind (yields_cells (ends_bind (yields_setCells rfl rfl ?_)))
    exact m.memory.length_contents_run ..
  | storeIndirect width => exact ends_bind yields_storeIndirect
  | globalAddress => exact ends_bind (yields_setCell rfl rfl)
  | loadIndirect width => exact ends_bind yields_loadIndirect
  | branch whenSet => cases hc
  | goto => cases hc
  | call argc => cases hc
  | state => exact ends_bind (yields_state hw)

end Exec

/-- At every moment of a session and whatever memory holds: a statement that fails leaves the
machine as it was. One that succeeds and is no return, jump or call has written to its destination
what the memory in front of it tells, and nothing else has changed. -/
theorem Instance.statement_writes_destination_or_nothing {i : Instance} (hi : i.Created) {α : Type}
    (code : Host α) (journal : Journal) {moment : Moment} (hm : moment ∈ i.history code journal)
    (hf : moment.machine.context.frames ≠ #[]) {memory : Memory}
    (hs : memory.SameShape moment.machine.memory) {pc : Nat} {st : Statement}
    (hst : i.linked.setup.image.parts.statements[pc]? = some st) :
    let m := Machine.mapContext (·.setStatement pc) { moment.machine with memory }
    match Exec.dispatch i.linked.setup st m with
    | .error _ m' => m' = m
    | .ok flow m' => st.op.isControl = false →
      (Action.ofOpcode st.op).CarriedOut i.linked.setup st m flow m' ∧
      m.memory.Overwritten (st.destination i.linked.setup m.memory)
        ((Action.ofOpcode st.op).result i.linked.setup st m.memory) m'.memory := by
  intro m
  have hsound : moment.Sound i.linked.setup := (hi.neutral code journal).moments moment hm
  have hmem := hsound.machine.withMemory hs
  have hfails := hmem.failsOnDataOnly hi.checked hf pc st hst
  split
  case h_1 fault m' hd =>
    rw [hd] at hfails
    exact hfails.2
  case h_2 flow m' hd =>
    intro hc
    have hy : Exec.Yields (Exec.dispatch i.linked.setup st) m
      ((Action.ofOpcode st.op).CarriedOut i.linked.setup st m) :=
      Exec.perform_carriedOut hmem.memory.whole ((Action.isControl_ofOpcode st.op).trans hc)
    rw [Exec.Yields, Exec.Ends, hd] at hy
    exact ⟨hy, Action.destination_ofOpcode i.linked.setup st m.memory ▸ hy.memory⟩

/-! A program that copies three cells onto themselves one further, writes them to an entity, and
then makes up a pointer to the world. -/

namespace Forger

def parts : Parts where
  entityCells := 3
  statements := #[⟨.done, 0, 0, 0⟩,
    ⟨.storeV, 28, 29, 0⟩, ⟨.storePV, 29, 32, 0⟩, ⟨.storePF, 29, 33, 0⟩, ⟨.done, 0, 0, 0⟩]
  globalDefs := #[]
  fieldDefs := #[]
  functions := #[{}, { first := 1, parmStart := 28, name := 1 }]
  strings := "\x00main\x00".toUTF8.toList.toArray
  globals := Array.replicate 28 0 ++ #[5, 6, 7, 8, 12, 0]

def setup : Setup := Setup.ofImage .server (Image.ofParts parts) { maxInstructions := 100 }

def forger : Instance where
  linked := ⟨setup, #[none, none]⟩
  machine := Machine.fresh setup 4 (Image.ofParts parts).parts.entityCells.toNat

def session : Host Unit := .ask (.execute 1 "host") fun _ => .done ()

lemma created : forger.Created := by
  have hlt : parts.encode.length < 2 ^ 32 := by decide +kernel
  have hc : parts.check = .ok () := by decide +kernel
  have ho : Instance.optionsFlaw? (Image.ofParts parts) { entityCapacity := 4 } = none := by
    decide +kernel
  have hbind : BuiltinTable.empty.bind .server .strict (Image.ofParts parts) =
      .ok #[none, none] := rfl
  exact Instance.created_of_check hlt hc ho hbind

/-- In one and the same state the copy writes what its cells held before, and the store through the
made-up pointer writes nothing. -/
theorem copies_old_cells_or_faults :
    forger.Created ∧ ∃ moment ∈ forger.history session #[],
      moment.machine.context.frames ≠ #[] ∧
      (∃ m', Exec.dispatch setup ⟨.storeV, 28, 29, 0⟩
          (moment.machine.mapContext (·.setStatement 1)) = .ok .running m' ∧
        m'.memory.peek ⟨.globals, 29⟩ = some 5 ∧ m'.memory.peek ⟨.globals, 30⟩ = some 6 ∧
        m'.memory.peek ⟨.globals, 31⟩ = some 7) ∧
      ∃ fault, Exec.dispatch setup ⟨.storePF, 29, 33, 0⟩
          (moment.machine.mapContext (·.setStatement 3)) =
        .error fault (moment.machine.mapContext (·.setStatement 3)) := by
  have hsome : (forger.history session #[]).any (fun moment =>
      moment.machine.context.frames ≠ #[] &&
        moment.machine.memory.contents (Place.run .globals 28 3) = [5, 6, 7] &&
        Exec.dispatch setup ⟨.storeV, 28, 29, 0⟩ (moment.machine.mapContext (·.setStatement 1))
          matches .ok .. &&
        Exec.dispatch setup ⟨.storePF, 29, 33, 0⟩ (moment.machine.mapContext (·.setStatement 3))
          matches .error ..) = true := by decide +kernel
  obtain ⟨moment, hm, hd⟩ := List.any_eq_true.mp hsome
  simp only [Bool.and_eq_true, decide_eq_true_eq] at hd
  obtain ⟨⟨⟨hne, hold⟩, hok⟩, herror⟩ := hd
  have hcopies : setup.image.parts.statements[1]? = some ⟨.storeV, 28, 29, 0⟩ := rfl
  have hstores : setup.image.parts.statements[3]? = some ⟨.storePF, 29, 33, 0⟩ := rfl
  refine ⟨created, moment, hm, hne, ?_, ?_⟩
  · have hcopy := Instance.statement_writes_destination_or_nothing created session #[] hm hne
      (.refl _) hcopies
    dsimp only at hcopy
    split at hcopy
    case h_1 fault m' hr =>
      rw [show Exec.dispatch setup _ _ = _ from hr] at hok
      cases hok
    case h_2 flow m' hr =>
      obtain ⟨⟨rfl, -, -, -⟩, hmem⟩ := hcopy rfl
      have hwritten : moment.machine.memory.Overwritten (Place.run .globals 29 3) [5, 6, 7]
          m'.memory := by
        rw [← hold]
        exact hmem
      exact ⟨m', hr, hwritten.inside 0 _ _ rfl rfl (by decide),
        hwritten.inside 1 _ _ rfl rfl (by decide), hwritten.inside 2 _ _ rfl rfl (by decide)⟩
  · have hstore := Instance.statement_writes_destination_or_nothing created session #[] hm hne
      (.refl _) hstores
    dsimp only at hstore
    split at hstore
    case h_1 fault m' hr => exact ⟨fault, hstore ▸ hr⟩
    case h_2 flow m' hr =>
      rw [show Exec.dispatch setup _ _ = _ from hr] at herror
      cases herror

end Forger

end GameVm
