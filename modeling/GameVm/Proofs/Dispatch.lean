import GameVm.Machine.Step
import GameVm.Proofs.Shape

/-! What one statement of a checked program can do to a machine, and how it can fail. -/

namespace GameVm

/-- Faults that what is in memory, how deep the calls are and what the program declares can bring
about, in spite of the checks on its form. -/
def Fault.DependsOnData : Fault → Prop
  | .access (.entity ..) | .access (.field ..) | .access (.pointer _) | .access (.string _)
  | .access .worldEntity | .stateSymbols | .divisionByZero | .nullFunction | .badFunction _
  | .frame (.stackOverflow _) | .frame (.localsOverflow ..) => True
  | _ => False

structure Setup.Checked (setup : Setup) : Prop where
  parts : setup.image.parts.WellFormed
  globals : ∀ symbols, setup.stateSymbols = some symbols →
    symbols.self < setup.image.parts.globals.size ∧ symbols.time < setup.image.parts.globals.size
  fields : ∀ symbols, setup.stateSymbols = some symbols →
    symbols.frame < setup.image.parts.entityCells.toNat ∧
    symbols.think < setup.image.parts.entityCells.toNat ∧
    symbols.nextthink < setup.image.parts.entityCells.toNat

structure Memory.Fits (setup : Setup) (memory : Memory) : Prop where
  globals : memory.globals.cells.size = setup.image.parts.globals.size
  whole : memory.entities.Whole
  record : setup.image.parts.entityCells.toNat ≤ memory.entities.recordCells

lemma Memory.Fits.of_sameShape {setup : Setup} {a b : Memory} (h : b.Fits setup)
    (hs : a.SameShape b) : a.Fits setup where
  globals := hs.globals.trans h.globals
  whole := by
    have hw := h.whole
    unfold Entities.Whole at *
    rw [hs.cells, hs.capacity, hs.recordCells, hw]
  record := hs.recordCells ▸ h.record

namespace Machine

/-- The machine after a frame has been pushed; `globals` hold the parameters already. -/
def enter (m : Machine) (function : Nat) (entry : FunctionEntry) (globals : Globals) : Machine where
  memory := { m.memory with globals }
  context := (m.context.pushed function entry m.memory.globals).setStatement
    entry.first.toInt.toNat
  profile := m.profile.modify function fun p => { p with calls := p.calls + 1 }

/-- The machine after a frame has been popped; `globals` hold the result already. -/
def leave (m : Machine) (frame : Frame) (globals : Globals) : Machine where
  memory := { m.memory with globals := ⟨Cells.write globals.cells frame.parmStart
    (Cells.read m.context.saved frame.localsBase
      (m.context.saved.size - frame.localsBase))⟩ }
  context := m.context.popped frame
  profile := m.profile

end Machine

/-- What a statement can do to a machine when it does not fail. -/
inductive Exec.Effect (setup : Setup) (m : Machine) : Flow → Machine → Prop
  | moved {statement : Nat} {memory : Memory}
      (hs : statement = m.context.statement + 1 ∨ statement < setup.image.parts.statements.size)
      (hm : memory.SameShape m.memory) :
      Effect setup m .running ⟨memory, m.context.setStatement statement, m.profile⟩
  | entered {function : Nat} {entry : FunctionEntry} {globals : Globals} (hz : function ≠ 0)
      (hf : setup.image.function? function = some entry) (hb : entry.isBuiltin = false)
      (hg : globals.cells.size = m.memory.globals.cells.size)
      (hp : Context.push function entry (m.context, m.memory.globals) =
        .ok () (m.context.pushed function entry m.memory.globals, globals)) :
      Effect setup m .running (m.enter function entry globals)
  | returned {frame : Frame} {globals : Globals} (hf : m.context.frames.back? = some frame)
      (hg : globals.cells.size = m.memory.globals.cells.size) :
      Effect setup m .returned (m.leave frame globals)
  | builtin {function argc : Nat} {entry : FunctionEntry}
      (hf : setup.image.function? function = some entry) (hb : entry.isBuiltin = true) :
      Effect setup m (.builtin function argc) m

namespace Exec

variable {α β : Type} {m : Machine} {post : α → Machine → Prop} {fail : Fault → Machine → Prop}

/-- `act` ends in a value with `post` or in a fault with `fail`. -/
def Ends (act : Exec α) (m : Machine) (post : α → Machine → Prop) (fail : Fault → Machine → Prop) :
    Prop :=
  match act m with
  | .ok a m' => post a m'
  | .error fault m' => fail fault m'

lemma ends_pure {a : α} (h : post a m) : Ends (pure a) m post fail := h

lemma ends_throw {fault : Fault} (h : fail fault m) : Ends (throw fault) m post fail := h

lemma ends_get {post : Machine → Machine → Prop} (h : post m m) : Ends get m post fail := h

lemma ends_bind {act : Exec β} {next : β → Exec α}
    (h : Ends act m (fun b m' => Ends (next b) m' post fail) fail) :
    Ends (act >>= next) m post fail := by
  unfold Ends at *
  simp only [bind, EStateM.bind]
  cases hr : act m with
  | ok b m' => simpa only [hr] using h
  | error fault m' => simpa only [hr] using h

lemma ends_look {f : Machine → Except AccessError α} (hok : ∀ a, f m = .ok a → post a m)
    (herr : ∀ err, f m = .error err → fail (.access err) m) : Ends (look f) m post fail := by
  rw [Ends, look]
  cases hr : f m with
  | ok a => exact hok a hr
  | error err => exact herr err hr

lemma ends_cell {post : Cell → Machine → Prop} {i : Nat} (hi : i < m.memory.globals.cells.size)
    (h : ∀ v, post v m) : Ends (cell i) m post fail :=
  ends_look (fun v _ => h v) (fun err he => by simp [Globals.cell, hi] at he)

lemma ends_vector {post : Vec3 → Machine → Prop} {i : Nat}
    (hi : i + 2 < m.memory.globals.cells.size) (h : ∀ v, post v m) :
    Ends (vector i) m post fail :=
  ends_look (fun v _ => h v) (fun err he => by simp [Globals.vector, hi] at he)

lemma ends_cells {post : List Cell → Machine → Prop} {i n : Nat}
    (hi : i + n ≤ m.memory.globals.cells.size) (h : ∀ vs, vs.length = n → post vs m) :
    Ends (cells i n) m post fail := by
  refine ends_look (fun vs hv => h vs ?_) (fun err he => by simp [Globals.read, hi] at he)
  obtain rfl : Cells.read m.memory.globals.cells i n = vs := by simpa [Globals.read, hi] using hv
  exact Cells.length_read hi

lemma ends_onMemory {act : Access Memory α} {k : Memory} {a : α} (ha : act m.memory = .ok a k)
    (h : post a { m with memory := k }) : Ends (onMemory act) m post fail := by
  simpa [Ends, onMemory, ha] using h

lemma ends_setCell {post : Unit → Machine → Prop} {i : Nat} {v : Cell}
    (hi : i < m.memory.globals.cells.size)
    (h : ∀ g : Globals, g.cells.size = m.memory.globals.cells.size →
      post () { m with memory := { m.memory with globals := g } }) :
    Ends (setCell i v) m post fail := by
  refine ends_onMemory (k := { m.memory with
    globals := ⟨m.memory.globals.cells.setIfInBounds i v⟩ }) ?_ (h _ (by simp))
  simp [Memory.onGlobals, Globals.setCell, hi]

lemma ends_setCells {post : Unit → Machine → Prop} {i : Nat} {vs : List Cell}
    (hi : i + vs.length ≤ m.memory.globals.cells.size)
    (h : ∀ g : Globals, g.cells.size = m.memory.globals.cells.size →
      post () { m with memory := { m.memory with globals := g } }) :
    Ends (setCells i vs) m post fail := by
  refine ends_onMemory (k := { m.memory with
    globals := ⟨Cells.write m.memory.globals.cells i vs⟩ }) ?_ (h _ (by simp))
  simp [Memory.onGlobals, Globals.write, hi]

lemma ends_setField {post : Unit → Machine → Prop} {entity field : Nat} {v : Cell}
    (he : entity < m.memory.entities.capacity) (hf : field < m.memory.entities.recordCells)
    (h : ∀ m', m'.SameShape m.memory → post () { m with memory := m' }) :
    Ends (setField entity field v) m post fail := by
  refine ends_onMemory (k := { m.memory with entities := { m.memory.entities with
    cells := Cells.write m.memory.entities.cells
      (entity * m.memory.entities.recordCells + field) [v] } }) ?_ (h _ ⟨rfl, by simp, rfl, rfl⟩)
  have hs := Entities.span_eq he (show field + 1 ≤ m.memory.entities.recordCells from hf)
  simp [Memory.onEntities, Entities.setField, hs]

lemma ends_next {post : Flow → Machine → Prop}
    (h : post .running (m.mapContext (·.setStatement (m.context.statement + 1)))) :
    Ends next m post fail := h

lemma enter_cases {setup : Setup} (hc : setup.Checked) (hm : m.memory.Fits setup)
    (function : Nat) :
    (∃ fault, enter setup function m = .error fault m ∧ (fault.DependsOnData ∨
      (setup.image.function? function).any (·.isBuiltin) = true)) ∨
    ∃ entry globals, function ≠ 0 ∧ setup.image.function? function = some entry ∧
      entry.isBuiltin = false ∧ globals.cells.size = m.memory.globals.cells.size ∧
      Context.push function entry (m.context, m.memory.globals) =
        .ok () (m.context.pushed function entry m.memory.globals, globals) ∧
      enter setup function m = .ok () (m.enter function entry globals) := by
  rw [enter]
  by_cases hz : function = 0
  · exact .inl ⟨.nullFunction, by simp [hz]; rfl, .inl trivial⟩
  · cases hf : setup.image.function? function with
    | none => exact .inl ⟨.badFunction function, by simp [hz]; rfl, .inl trivial⟩
    | some entry =>
      cases hb : entry.isBuiltin with
      | true => exact .inl ⟨.directBuiltin _, by simp [hz, hb]; rfl, .inr (by simpa using hb)⟩
      | false =>
        rcases Context.push_cases hc.parts (c := m.context) hf hb hm.globals with
          ⟨n, hp⟩ | ⟨n, k, hp⟩ | ⟨globals, hg, hp⟩
        · refine .inl ⟨.frame (.stackOverflow n), ?_, .inl trivial⟩
          simp [hz, hb, bind, EStateM.bind, onFrames, hp]
        · refine .inl ⟨.frame (.localsOverflow n k), ?_, .inl trivial⟩
          simp [hz, hb, bind, EStateM.bind, onFrames, hp]
        · refine .inr ⟨entry, globals, hz, rfl, hb, hg, hp, ?_⟩
          simp [hz, hb, bind, EStateM.bind, onFrames, hp]
          rfl

section Perform

variable {setup : Setup} {st : Statement}

/-- The machine is as before, and the fault is none that the checks on programs rule out. -/
def Harmless (m : Machine) (fault : Fault) (m' : Machine) : Prop := m' = m ∧ fault.DependsOnData

lemma ends_setCell_next {i : Nat} {v : Cell} (hi : i < m.memory.globals.cells.size) :
    Ends (do setCell i v; next) m (Effect setup m) fail := by
  refine ends_bind (ends_setCell hi fun g hg => ?_)
  exact ends_next (.moved (.inl rfl) (.of_globals hg))

lemma ends_setCells_next {i : Nat} {vs : List Cell}
    (hi : i + vs.length ≤ m.memory.globals.cells.size) :
    Ends (do setCells i vs; next) m (Effect setup m) fail := by
  refine ends_bind (ends_setCells hi fun g hg => ?_)
  exact ends_next (.moved (.inl rfl) (.of_globals hg))

lemma ends_entity_of {post : Nat → Machine → Prop} {i : Nat}
    (hi : i < m.memory.globals.cells.size)
    (h : ∀ raw, m.memory.globals.cell i = .ok raw → raw.toNat < m.memory.entities.capacity →
      post raw.toNat m)
    (hf : ∀ raw, m.memory.globals.cell i = .ok raw → m.memory.entities.capacity ≤ raw.toNat →
      fail (.access (.entity raw.toNat m.memory.entities.capacity)) m) :
    Ends (entity i) m post fail := by
  refine ends_bind (ends_look (fun raw hr => ?_) fun err he => by simp [Globals.cell, hi] at he)
  refine ends_look (fun entity he => ?_) fun err he => ?_
  · obtain ⟨hlt, heq⟩ := Entities.check_ok he
    obtain rfl : entity = raw.toNat := by omega
    exact h raw hr hlt
  · have hge : m.memory.entities.capacity ≤ raw.toNat := by
      by_contra hlt
      rw [Entities.check_natCast (by omega)] at he
      cases he
    rw [Entities.check_error he]
    exact hf raw hr hge

lemma ends_entity {post : Nat → Machine → Prop} {i : Nat} (hi : i < m.memory.globals.cells.size)
    (h : ∀ entity, entity < m.memory.entities.capacity → post entity m) :
    Ends (entity i) m post (Harmless m) :=
  ends_entity_of hi (fun raw _ => h raw.toNat) fun _ _ _ => ⟨rfl, trivial⟩

lemma ends_guardWorld_of {post : Unit → Machine → Prop} {isWorld : Bool}
    (h : (isWorld = true → setup.settings.allowWorldWrites = true) → post () m)
    (hf : isWorld = true → setup.settings.allowWorldWrites = false →
      fail (.access .worldEntity) m) :
    Ends (guardWorld setup isWorld) m post fail := by
  rw [guardWorld]
  split
  case isTrue hw =>
    simp only [Bool.and_eq_true, Bool.not_eq_true'] at hw
    exact ends_throw (hf hw.1 hw.2)
  case isFalse hw => exact ends_pure (h (by simpa using hw))

lemma ends_guardWorld {post : Unit → Machine → Prop} {isWorld : Bool} (h : post () m) :
    Ends (guardWorld setup isWorld) m post (Harmless m) :=
  ends_guardWorld_of (fun _ => h) fun _ _ => ⟨rfl, trivial⟩

lemma ends_resolve {post : Bytes → Machine → Prop} {handle : Int32} (h : ∀ s, post s m) :
    Ends (resolve handle) m post (Harmless m) := by
  refine ends_look (fun s _ => h s) fun err he => ?_
  have : err = .string handle := by
    rw [StringTable.resolve] at he
    split at he
    · cases he
    · cases he
    · split at he <;> cases he
      rfl
    · cases he
      rfl
  subst this
  exact ⟨rfl, trivial⟩

lemma ends_stringsEqual {post : Bool → Machine → Prop} {x y : Int32} (h : ∀ b, post b m) :
    Ends (stringsEqual x y) m post (Harmless m) := by
  rw [stringsEqual]
  split
  · exact ends_pure (h true)
  · refine ends_bind (ends_resolve fun s => ends_bind (ends_resolve fun t => ?_))
    exact ends_pure (h _)

lemma ends_stringEmpty {post : Bool → Machine → Prop} {x : Int32} (h : ∀ b, post b m) :
    Ends (stringEmpty x) m post (Harmless m) := by
  rw [stringEmpty]
  split
  · exact ends_pure (h true)
  · exact ends_bind (ends_resolve fun s => ends_pure (h _))

lemma ends_loadField_next {width : Width} (hw : m.memory.entities.Whole)
    (ha : st.a.toNat < m.memory.globals.cells.size)
    (hb : st.b.toNat < m.memory.globals.cells.size)
    (hc : st.c.toNat + width.cells ≤ m.memory.globals.cells.size) :
    Ends (do loadField st width; next) m (Effect setup m) (Harmless m) := by
  refine ends_bind (ends_bind (ends_entity ha fun entity _ => ?_))
  refine ends_bind (ends_cell hb fun field => ends_bind (ends_look (fun vs hv => ?_) ?_))
  · have hl : vs.length = width.cells := by
      rcases Entities.field_cases hw entity field.toNat width.cells with h | h | ⟨ws, hl, h⟩
      · simp [h] at hv
      · simp [h] at hv
      · obtain rfl : ws = vs := by simpa [h] using hv
        exact hl
    refine ends_setCells (hl ▸ hc) fun g hg => ?_
    exact ends_next (.moved (.inl rfl) (.of_globals hg))
  · intro err he
    rcases Entities.field_cases hw entity field.toNat width.cells with h | h | ⟨ws, _, h⟩
    · obtain rfl : _ = err := by simpa [h] using he
      exact ⟨rfl, trivial⟩
    · obtain rfl : _ = err := by simpa [h] using he
      exact ⟨rfl, trivial⟩
    · simp [h] at he

lemma ends_address_next (ha : st.a.toNat < m.memory.globals.cells.size)
    (hb : st.b.toNat < m.memory.globals.cells.size)
    (hc : st.c.toNat < m.memory.globals.cells.size) :
    Ends (do address setup st; next) m (Effect setup m) (Harmless m) := by
  refine ends_bind (ends_bind (ends_entity ha fun entity _ => ?_))
  refine ends_bind (ends_guardWorld (ends_bind (ends_cell hb fun field => ?_)))
  refine ends_bind (ends_look (fun pointer _ => ?_) fun err he => ?_)
  · refine ends_setCell hc fun g hg => ?_
    exact ends_next (.moved (.inl rfl) (.of_globals hg))
  · rcases Entities.address_cases m.memory.entities entity field.toNat with h | h | ⟨p, h⟩
    · obtain rfl : _ = err := by simpa [h] using he
      exact ⟨rfl, trivial⟩
    · obtain rfl : _ = err := by simpa [h] using he
      exact ⟨rfl, trivial⟩
    · simp [h] at he

lemma ends_storeIndirect_next {width : Width}
    (ha : st.a.toNat + width.cells ≤ m.memory.globals.cells.size)
    (hb : st.b.toNat < m.memory.globals.cells.size) :
    Ends (do storeIndirect setup st width; next) m (Effect setup m) (Harmless m) := by
  refine ends_bind (ends_bind (ends_cell hb fun pointer => ?_))
  refine ends_bind (ends_get (ends_bind (ends_guardWorld ?_)))
  refine ends_bind (ends_cells ha fun vs _ => ?_)
  rcases Memory.store_cases m.memory pointer vs with ⟨raw, h⟩ | ⟨m', hm', h⟩
  · simp only [Ends, onMemory, h]
    exact ⟨rfl, trivial⟩
  · exact ends_onMemory h (ends_next (.moved (.inl rfl) hm'))

lemma ends_loadIndirect_next {width : Width} (ha : st.a.toNat < m.memory.globals.cells.size)
    (hc : st.c.toNat + width.cells ≤ m.memory.globals.cells.size) :
    Ends (do loadIndirect st width; next) m (Effect setup m) (Harmless m) := by
  refine ends_bind (ends_bind (ends_cell ha fun pointer => ?_))
  refine ends_bind (ends_look (fun vs hv => ?_) fun err he => ?_)
  · rcases Memory.load_cases m.memory pointer width.cells with ⟨raw, h⟩ | ⟨ws, hl, h⟩
    · simp [h] at hv
    · obtain rfl : ws = vs := by simpa [h] using hv
      refine ends_setCells (hl ▸ hc) fun g hg => ?_
      exact ends_next (.moved (.inl rfl) (.of_globals hg))
  · rcases Memory.load_cases m.memory pointer width.cells with ⟨raw, h⟩ | ⟨ws, _, h⟩
    · obtain rfl : _ = err := by simpa [h] using he
      exact ⟨rfl, trivial⟩
    · simp [h] at he

lemma ends_state (hc : setup.Checked) (hm : m.memory.Fits setup) {symbols : StateSymbols}
    (hs : setup.stateSymbols = some symbols) {post : Unit → Machine → Prop}
    (ha : st.a.toNat < m.memory.globals.cells.size)
    (hb : st.b.toNat < m.memory.globals.cells.size)
    (h : ∀ raw k, m.memory.globals.cell symbols.self = .ok raw →
      raw.toNat < m.memory.entities.capacity →
      (raw.toNat = Entities.world → setup.settings.allowWorldWrites = true) →
      k.SameShape m.memory → post () { m with memory := k })
    (hentity : ∀ raw, m.memory.globals.cell symbols.self = .ok raw →
      m.memory.entities.capacity ≤ raw.toNat →
      fail (.access (.entity raw.toNat m.memory.entities.capacity)) m)
    (hworld : ∀ raw, m.memory.globals.cell symbols.self = .ok raw →
      raw.toNat = Entities.world → setup.settings.allowWorldWrites = false →
      fail (.access .worldEntity) m) :
    Ends (state setup st) m post fail := by
  rw [state, hs]
  obtain ⟨hself, htime⟩ := hc.globals symbols hs
  obtain ⟨hframe, hthink, hnext⟩ := hc.fields symbols hs
  have hr := hm.record
  rw [← hm.globals] at hself htime
  refine ends_bind (ends_entity_of hself (fun raw hraw he => ?_) hentity)
  refine ends_bind (ends_guardWorld_of (fun hw => ?_) fun hw => hworld raw hraw (by simpa using hw))
  refine ends_bind (ends_cell ha fun frame => ends_bind (ends_cell hb fun think => ?_))
  refine ends_bind (ends_cell htime fun time => ?_)
  refine ends_bind (ends_setField he (by omega) fun m₁ h₁ => ?_)
  refine ends_bind (ends_setField (h₁.capacity.symm ▸ he)
    (show _ < m₁.entities.recordCells by rw [h₁.recordCells]; omega) fun m₂ h₂ => ?_)
  refine ends_setField (show _ < m₂.entities.capacity by rw [h₂.capacity, h₁.capacity]; exact he)
    (show _ < m₂.entities.recordCells by rw [h₂.recordCells, h₁.recordCells]; omega)
    fun m₃ h₃ => ?_
  exact h raw m₃ hraw he (by simpa using hw) (h₃.trans (h₂.trans h₁))

lemma ends_state_next (hc : setup.Checked) (hm : m.memory.Fits setup)
    (ha : st.a.toNat < m.memory.globals.cells.size)
    (hb : st.b.toNat < m.memory.globals.cells.size) :
    Ends (do state setup st; next) m (Effect setup m) (Harmless m) := by
  cases hs : setup.stateSymbols with
  | none =>
    rw [state, hs]
    exact ends_bind (ends_throw ⟨rfl, trivial⟩)
  | some symbols =>
    refine ends_bind (ends_state hc hm hs ha hb (fun raw k _ _ _ hk => ?_) ?_ ?_)
    · exact ends_next (.moved (.inl rfl) hk)
    · exact fun _ _ _ => ⟨rfl, trivial⟩
    · exact fun _ _ _ _ => ⟨rfl, trivial⟩

lemma ends_jump {operand : UInt16}
    (h : setup.image.parts.OperandFits m.context.statement operand .jump) :
    Ends (jump setup operand) m (Effect setup m) fail := by
  obtain ⟨target, ht, hl⟩ := h
  refine ends_bind (ends_get ?_)
  rw [ht]
  dsimp only
  rw [if_pos hl]
  exact Effect.moved (.inr hl) (.refl _)

lemma ends_call (hc : setup.Checked) (hm : m.memory.Fits setup) {a argc : Nat}
    (ha : a < m.memory.globals.cells.size) :
    Ends (call setup a argc) m (Effect setup m) (Harmless m) := by
  refine ends_bind (ends_cell ha fun v => ?_)
  dsimp only
  split
  case isTrue hb =>
    obtain ⟨entry, he, hb⟩ := (Option.any_eq_true _ _).mp hb
    exact ends_pure (.builtin he hb)
  case isFalse hb =>
    refine ends_bind ?_
    rcases enter_cases hc hm v.toNat with
      ⟨fault, he, hd⟩ | ⟨entry, globals, hz, hf, hbf, hg, hp, he⟩
    · simp only [Ends, he]
      exact ⟨rfl, hd.resolve_right hb⟩
    · simp only [Ends, he]
      exact .entered hz hf hbf hg hp

lemma ends_leave (hc : setup.Checked) (hm : m.memory.Fits setup) {a : Nat} {frame : Frame}
    (hf : m.context.frames.back? = some frame)
    (hw : frame.parmStart + frame.locals ≤ setup.image.parts.globals.size) :
    Ends (do leaveResult a; let _ ← onFrames Context.pop; return .returned) m (Effect setup m)
      fail := by
  -- The result slots lie inside the globals, so only the pop is left.
  have hpop (g : Globals) (hg : g.cells.size = m.memory.globals.cells.size) :
      Ends (do let _ ← onFrames Context.pop; return .returned)
        { m with memory := { m.memory with globals := g } } (Effect setup m) fail := by
    have hp := Context.pop_eq hf (show _ ≤ g.cells.size by rw [hg, hm.globals]; exact hw)
    refine ends_bind ?_
    simp only [Ends, onFrames, hp]
    exact Effect.returned hf hg
  refine ends_bind ?_
  rw [leaveResult]
  split
  · exact ends_pure (hpop m.memory.globals rfl)
  · have hr := hc.parts.reserved
    rw [← hm.globals] at hr
    simp only [Slots.reserved, Slots.parm0, Slots.maxParms, Slots.parmCells] at hr
    refine ends_bind (ends_get (ends_setCells ?_ hpop))
    simp only [Slots.result, List.length_cons, List.length_nil]
    omega

lemma perform_ends (hc : setup.Checked) (hm : m.memory.Fits setup) {frame : Frame}
    (hf : m.context.frames.back? = some frame)
    (hw : frame.parmStart + frame.locals ≤ setup.image.parts.globals.size) (action : Action)
    (h₁ : setup.image.parts.OperandFits m.context.statement st.a action.kinds.a)
    (h₂ : setup.image.parts.OperandFits m.context.statement st.b action.kinds.b)
    (h₃ : setup.image.parts.OperandFits m.context.statement st.c action.kinds.c) :
    Ends (perform setup st action) m (Effect setup m) (Harmless m) := by
  have hcell {i : UInt16} (h : setup.image.parts.OperandFits m.context.statement i .cell) :
      i.toNat < m.memory.globals.cells.size := hm.globals ▸ h
  have hvec {i : UInt16} (h : setup.image.parts.OperandFits m.context.statement i .vector) :
      i.toNat + 2 < m.memory.globals.cells.size := hm.globals ▸ h
  have hwide {i : UInt16} {w : Width}
      (h : setup.image.parts.OperandFits m.context.statement i w.kind) :
      i.toNat + w.cells ≤ m.memory.globals.cells.size := by
    cases w with
    | one => exact hcell h
    | three => exact hvec h
  cases action with
  | leave => exact ends_leave hc hm hf hw
  | cell1 f =>
    refine ends_bind (ends_cell (hcell h₁) fun x => ?_)
    exact ends_setCell_next (hcell h₃)
  | cell2 f =>
    refine ends_bind (ends_cell (hcell h₁) fun x => ends_bind (ends_cell (hcell h₂) fun y => ?_))
    exact ends_setCell_next (hcell h₃)
  | vec1 f =>
    refine ends_bind (ends_vector (hvec h₁) fun v => ?_)
    exact ends_setCell_next (hcell h₃)
  | vec2 f =>
    refine ends_bind (ends_vector (hvec h₁) fun v => ends_bind (ends_vector (hvec h₂) fun w => ?_))
    exact ends_setCell_next (hcell h₃)
  | vec3 f =>
    refine ends_bind (ends_vector (hvec h₁) fun v => ends_bind (ends_vector (hvec h₂) fun w => ?_))
    exact ends_setCells_next (hvec h₃)
  | scaleRight f =>
    refine ends_bind (ends_cell (hcell h₁) fun s => ends_bind (ends_vector (hvec h₂) fun v => ?_))
    exact ends_setCells_next (hvec h₃)
  | scaleLeft f =>
    refine ends_bind (ends_vector (hvec h₁) fun v => ends_bind (ends_cell (hcell h₂) fun s => ?_))
    exact ends_setCells_next (hvec h₃)
  | divide f =>
    refine ends_bind (ends_cell (hcell h₁) fun x => ends_bind (ends_cell (hcell h₂) fun y => ?_))
    split
    · exact ends_throw ⟨rfl, trivial⟩
    · exact ends_setCell_next (hcell h₃)
  | stringsEqual expected =>
    refine ends_bind (ends_cell (hcell h₁) fun x => ends_bind (ends_cell (hcell h₂) fun y => ?_))
    exact ends_bind (ends_stringsEqual fun equal => ends_setCell_next (hcell h₃))
  | stringEmpty =>
    refine ends_bind (ends_cell (hcell h₁) fun x => ?_)
    exact ends_bind (ends_stringEmpty fun empty => ends_setCell_next (hcell h₃))
  | loadField width => exact ends_loadField_next hm.whole (hcell h₁) (hcell h₂) (hwide h₃)
  | address => exact ends_address_next (hcell h₁) (hcell h₂) (hcell h₃)
  | copy width =>
    refine ends_bind (ends_cells (hwide h₁) fun vs hl => ?_)
    exact ends_setCells_next (hl ▸ hwide h₂)
  | storeIndirect width => exact ends_storeIndirect_next (hwide h₁) (hcell h₂)
  | globalAddress => exact ends_setCell_next (hcell h₃)
  | loadIndirect width => exact ends_loadIndirect_next (hcell h₁) (hwide h₃)
  | branch whenSet =>
    refine ends_bind (ends_cell (hcell h₁) fun x => ?_)
    split
    · exact ends_jump h₂
    · exact ends_next (.moved (.inl rfl) (.refl _))
  | goto => exact ends_jump h₁
  | call argc => exact ends_call hc hm (hcell h₁)
  | state => exact ends_state_next hc hm (hcell h₁) (hcell h₂)

/-- A statement of a checked program that fails changes nothing, and does not fail because of the
program's form. -/
theorem dispatch_ends (hc : setup.Checked) (hm : m.memory.Fits setup) {frame : Frame}
    (hf : m.context.frames.back? = some frame)
    (hw : frame.parmStart + frame.locals ≤ setup.image.parts.globals.size)
    (hst : setup.image.parts.statements[m.context.statement]? = some st) :
    Ends (dispatch setup st) m (Effect setup m) (Harmless m) := by
  obtain ⟨h₁, h₂, h₃⟩ := hc.parts.statements _ _ hst
  rw [← Action.kinds_ofOpcode] at h₁ h₂ h₃
  exact perform_ends hc hm hf hw _ h₁ h₂ h₃

end Perform

end Exec

end GameVm
