import GameVm.Proofs.Nesting
import GameVm.Proofs.Overwrites

/-! The null function: a call of function 0 fails and nothing comes of it, unless the program
declares that function as a builtin and a statement calls it. -/

namespace GameVm

namespace Exec

variable {setup : Setup} {m : Machine}

lemma enter_null (setup : Setup) (m : Machine) : enter setup 0 m = .error .nullFunction m := rfl

lemma call_null {a : Nat} (ha : a < m.memory.globals.cells.size) (hz : m.memory.cellAt a = 0)
    (argc : Nat) : call setup a argc m =
      if (setup.image.function? 0).any (·.isBuiltin) then .ok (.builtin 0 argc) m
      else .error .nullFunction m := by
  have hcell : cell a m = .ok 0 m := by
    have hz : m.memory.globals.cells[a] = 0 := by simpa [Memory.cellAt, ha] using hz
    simp only [cell, look, Globals.cell, ha, dite_true, hz]
  simp only [call, bind, EStateM.bind, hcell, UInt32.toNat_zero]
  -- Builtins are told apart before the function is entered, where the null function is refused.
  split_ifs with hb
  · rfl
  · rfl

lemma dispatch_null (hc : setup.Checked) {st : Statement}
    (hs : (Moment.dispatched st m).Sound setup) {argc : Nat}
    (hop : Action.ofOpcode st.op = .call argc) (hz : m.memory.cellAt st.a.toNat = 0) :
    dispatch setup st m =
      if (setup.image.function? 0).any (·.isBuiltin) then .ok (.builtin 0 argc) m
      else .error .nullFunction m := by
  have ha : st.a.toNat < m.memory.globals.cells.size := by
    have hfits := (hc.parts.statements _ _ hs.2.2).a
    rw [← Action.kinds_ofOpcode, hop] at hfits
    rw [hs.1.memory.globals]
    exact hfits
  rw [dispatch, hop]
  exact call_null ha hz argc

end Exec

namespace Call

structure Rejected (s : Recorded Machine) (err : RuntimeError)
    (out : Except VmError Unit × Recorded Machine) : Prop where
  result : out.1 = .error (.runtime err)
  memory : out.2.state.memory = s.state.memory
  stack : out.2.state.context.SameStack s.state.context

variable {setup : Setup} {s : Recorded Machine}

lemma framed_null (hs : s.state.AtHost setup) (body : String → Nat → Call Unit) (caller : String) :
    ∃ e, e.fault = .nullFunction ∧
      Rejected s (.execution e) (settle (framed setup body 0 caller) s) := by
  obtain ⟨e, hf, he⟩ :=
    located_eq setup caller .nullFunction (mapContext Context.beginCall s).state
  have ha := attempt_of_error body caller
    (Exec.enter_null setup (mapContext Context.beginCall s).state)
  have hout : settle (framed setup body 0 caller) s = (.error (.runtime (.execution e)),
      conclude setup 0 caller s.state.context.mark (.error (.runtime (.execution e)))
        (mapContext Context.beginCall s)) := by
    rw [settle_framed, settle, ha, he]
    rfl
  obtain ⟨hc, hm⟩ := refused_concluded hs 0 caller (.runtime (.execution e))
  rw [hout]
  exact ⟨e, hf, rfl, hm, hc.stack⟩

end Call

/-- Whatever state the host has brought an instance to, its requests to call the null function are
rejected, with the error that is pending if there is one, and nothing happens in them. A statement
that calls it fails and changes nothing, provided that the program does not declare it as a builtin;
if it does, the statement calls that builtin. -/
theorem Instance.null_function_never_entered {i : Instance} (hi : i.Created) :
    (∀ m, i.Reaches m → ∀ body label caller journal,
      let reenter := Call.framed i.linked.setup body
      (∃ e, e.fault = .nullFunction ∧ Call.Rejected ⟨m, journal⟩ (.execution e)
        (Call.answer reenter i.linked.setup label (.execute 0 caller) ⟨m, journal⟩)) ∧
      (∃ err, (m.context.pending = some err ∨
          m.context.pending = none ∧ ∃ e, e.fault = .nullFunction ∧ err = .execution e) ∧
        Call.Rejected ⟨m, journal⟩ err
          (Call.answer reenter i.linked.setup label (.call 0) ⟨m, journal⟩)) ∧
      ∀ nested, Call.framedHistory i.linked.setup nested 0 caller ⟨m, journal⟩ = []) ∧
    ∀ (α : Type) (code : Host α) journal st m argc, .dispatched st m ∈ i.history code journal →
      Action.ofOpcode st.op = .call argc → m.memory.cellAt st.a.toNat = 0 →
      ((i.image.function? 0).any (·.isBuiltin) = false →
        Exec.dispatch i.linked.setup st m = .error .nullFunction m) ∧
      ((i.image.function? 0).any (·.isBuiltin) = true →
        Exec.dispatch i.linked.setup st m = .ok (.builtin 0 argc) m) := by
  constructor
  · intro m hm body label caller journal reenter
    have hat := hi.reaches_atHost hm
    refine ⟨Call.framed_null hat body caller, ?_, fun _ => rfl⟩
    cases hp : m.context.pending with
    | some err =>
      refine ⟨err, .inl rfl, ?_⟩
      simp only [Call.answer, hp]
      exact ⟨rfl, rfl, .refl _⟩
    | none =>
      obtain ⟨e, hf, he⟩ := Call.framed_null (s := ⟨m, journal⟩) hat body label
      refine ⟨.execution e, .inr ⟨rfl, e, hf, rfl⟩, ?_⟩
      simp only [Call.answer, hp]
      exact he
  · intro α code journal st m argc hmem hop hz
    have hs := (hi.neutral code journal).moments _ hmem
    rw [Exec.dispatch_null hi.checked hs hop hz]
    exact ⟨fun hb => if_neg (Bool.eq_false_iff.mp hb), fun hb => if_pos hb⟩

/-! A program whose only statement of interest calls function 0, which is declared as `null`. -/

namespace NullCall

def parts (null : FunctionEntry) : Parts where
  entityCells := 1
  statements := #[⟨.done, 0, 0, 0⟩, ⟨.call0, 28, 0, 0⟩, ⟨.done, 0, 0, 0⟩]
  globalDefs := #[]
  fieldDefs := #[]
  functions := #[null, { first := 1, name := 1 }]
  strings := "\x00main\x00probe\x00".toUTF8.toList.toArray
  globals := Array.replicate 29 0

def declared : FunctionEntry := { first := -1, name := 6 }

def probe : Builtin := ⟨"probe", .all, fun _ => Host.done (.ok ())⟩

def setup (null : FunctionEntry) : Setup :=
  Setup.ofImage .server (Image.ofParts (parts null)) { maxInstructions := 100 }

def caller (null : FunctionEntry) (bound : Array (Option Builtin)) : Instance where
  linked := ⟨setup null, bound⟩
  machine := Machine.fresh (setup null) 4 (Image.ofParts (parts null)).parts.entityCells.toNat

def session : Host Unit := .ask (.execute 1 "host") fun _ => .done ()

def callsNull : Moment → Bool
  | .dispatched st m => st.op = .call0 && m.memory.cellAt st.a.toNat = 0
  | _ => false

lemma eq_of_callsNull {moment : Moment} (h : callsNull moment = true) :
    ∃ st m, moment = .dispatched st m ∧ Action.ofOpcode st.op = .call 0 ∧
      m.memory.cellAt st.a.toNat = 0 := by
  cases moment with
  | dispatched st m =>
    obtain ⟨hop, hz⟩ := (Bool.and_eq_true _ _).mp h
    refine ⟨st, m, rfl, ?_, of_decide_eq_true hz⟩
    rw [of_decide_eq_true hop]
    rfl
  | _ => cases h

lemma created {null : FunctionEntry} {bound : Array (Option Builtin)}
    (hd : Parts.decode (parts null).encode = .ok (parts null)) (hc : (parts null).check = .ok ())
    (hb : BuiltinTable.bind ⟨#[probe]⟩ .server .strict (Image.ofParts (parts null)) = .ok bound) :
    (caller null bound).Created := by
  have hdecode : Image.decode (parts null).encode = .ok (Image.ofParts (parts null)) := by
    rw [Image.decode, hd]
    simp only [bind, Except.bind, hc]
    rfl
  have ho : Instance.optionsFlaw? (Image.ofParts (parts null)) { entityCapacity := 4 } = none := rfl
  have hbind : BuiltinTable.bind ⟨#[probe]⟩ .server
      ({ maxInstructions := 100 } : Settings).builtinBinding (Image.ofParts (parts null)) =
      .ok bound := hb
  obtain ⟨journal, hup⟩ := Instance.bringUp_of_bind ho hbind #[]
  exact ⟨_, _, hdecode, _, _, _, _, #[], journal, hup⟩

def plain : Instance := caller {} #[none, none]

def probed : Instance := caller declared #[some probe, none]

lemma created_plain : plain.Created :=
  created (by decide +kernel) (by decide +kernel) rfl

lemma created_probed : probed.Created := by
  refine created (by decide +kernel) (by decide +kernel) ?_
  have hname : (Image.ofParts (parts declared)).functionName 0 = "probe" := by decide +kernel
  have hprobe : BuiltinTable.resolve ⟨#[probe]⟩ .server .strict "probe" = .ok probe := by
    have hd : probe.domains.contains .server = true := by decide
    simp [BuiltinTable.resolve, BuiltinTable.get?, show probe.name = "probe" from rfl, hd]
  have hf : (Image.ofParts (parts declared)).parts.functions.toList =
    [declared, { first := 1, name := 1 }] := rfl
  rw [BuiltinTable.bind, hf]
  simp only [BuiltinTable.bindFrom, FunctionEntry.isBuiltin, hname, hprobe]
  rfl

theorem plain_call_fails :
    plain.Created ∧ plain.Reaches plain.machine ∧
    (∃ e, e.fault = .nullFunction ∧
      Call.Rejected ⟨plain.machine, #[]⟩ (.execution e)
        (Call.answer (Call.framed plain.linked.setup (Call.loop plain.linked 100))
          plain.linked.setup "host" (.execute 0 "host") ⟨plain.machine, #[]⟩)) ∧
    ∃ st m, .dispatched st m ∈ plain.history session #[] ∧ Action.ofOpcode st.op = .call 0 ∧
      m.memory.cellAt st.a.toNat = 0 ∧
      Exec.dispatch plain.linked.setup st m = .error .nullFunction m := by
  have hreaches := plain.reaches_machine
  obtain ⟨hrequests, hstatements⟩ := Instance.null_function_never_entered created_plain
  refine ⟨created_plain, hreaches, (hrequests _ hreaches _ _ _ _).1, ?_⟩
  have hsome : (plain.history session #[]).any callsNull = true := by decide +kernel
  obtain ⟨moment, hm, hcall⟩ := List.any_eq_true.mp hsome
  obtain ⟨st, m, rfl, hop, hz⟩ := eq_of_callsNull hcall
  exact ⟨st, m, hm, hop, hz, (hstatements _ _ _ _ _ 0 hm hop hz).1 (by decide +kernel)⟩

/-- The host's function runs for a call of function 0, and the outermost call returns. -/
theorem probed_call_is_hosted :
    probed.Created ∧
    (∃ st m, .dispatched st m ∈ probed.history session #[] ∧ Action.ofOpcode st.op = .call 0 ∧
      m.memory.cellAt st.a.toNat = 0) ∧
    (∃ m, .hosted 0 m ∈ probed.history session #[]) ∧
    (Call.settle (Call.execute probed.linked 1 "host") ⟨probed.machine, #[]⟩).1 = .ok () := by
  have hcalled : (probed.history session #[]).any callsNull = true := by decide +kernel
  have hhosted : (probed.history session #[]).any (Moment.hosts 0) = true := by decide +kernel
  refine ⟨created_probed, ?_, ?_, by decide +kernel⟩
  · obtain ⟨moment, hm, h⟩ := List.any_eq_true.mp hcalled
    obtain ⟨st, m, rfl, hop, hz⟩ := eq_of_callsNull h
    exact ⟨st, m, hm, hop, hz⟩
  · obtain ⟨moment, hm, h⟩ := List.any_eq_true.mp hhosted
    obtain ⟨m, rfl⟩ := Moment.eq_of_hosts h
    exact ⟨m, hm⟩

end NullCall

end GameVm
