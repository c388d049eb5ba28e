import GameVm.Proofs.Adequacy

/-! Instances of programs that were read from bytes, and the states their hosts bring them to. -/

namespace GameVm

lemma StateSymbols.find?_eq_some {image : Image} {symbols : StateSymbols}
    (h : find? image = some symbols) :
    (∃ d ∈ image.parts.globalDefs.toList, symbols.self = d.offset.toNat) ∧
    (∃ d ∈ image.parts.globalDefs.toList, symbols.time = d.offset.toNat) ∧
    (∃ d ∈ image.parts.fieldDefs.toList, symbols.frame = d.offset.toNat) ∧
    (∃ d ∈ image.parts.fieldDefs.toList, symbols.think = d.offset.toNat) ∧
    ∃ d ∈ image.parts.fieldDefs.toList, symbols.nextthink = d.offset.toNat := by
  simp only [find?, Option.bind_eq_bind, Option.bind_eq_some_iff, Option.pure_def,
    Option.some.injEq] at h
  obtain ⟨self, hs, time, ht, frame, hf, think, hk, nextthink, hn, rfl⟩ := h
  exact ⟨⟨self, Image.findGlobal?_mem hs, rfl⟩, ⟨time, Image.findGlobal?_mem ht, rfl⟩,
    ⟨frame, Image.findField?_mem hf, rfl⟩, ⟨think, Image.findField?_mem hk, rfl⟩,
    nextthink, Image.findField?_mem hn, rfl⟩

lemma Setup.checked_ofImage (domain : Domain) {image : Image} (settings : Settings)
    (h : image.parts.WellFormed) : (Setup.ofImage domain image settings).Checked := by
  have hcells (d : Definition) : 0 < d.type.cells := by
    cases hd : d.type <;> decide
  have hglobal {n : Nat} (hn : ∃ d ∈ image.parts.globalDefs.toList, n = d.offset.toNat) :
      n < image.parts.globals.size := by
    obtain ⟨d, hd, rfl⟩ := hn
    have := (h.globalDefs d hd).2
    have := hcells d
    omega
  have hfield {n : Nat} (hn : ∃ d ∈ image.parts.fieldDefs.toList, n = d.offset.toNat) :
      n < image.parts.entityCells.toNat := by
    obtain ⟨d, hd, rfl⟩ := hn
    have := (h.fieldDefs d hd).2
    have := hcells d
    omega
  refine ⟨h, fun symbols hs => ?_, fun symbols hs => ?_⟩
  · obtain ⟨hself, htime, -⟩ := StateSymbols.find?_eq_some hs
    exact ⟨hglobal hself, hglobal htime⟩
  · obtain ⟨-, -, hframe, hthink, hnext⟩ := StateSymbols.find?_eq_some hs
    exact ⟨hfield hframe, hfield hthink, hfield hnext⟩

namespace Instance

/-- The instance was brought up for a program that was read from bytes. -/
def Created (i : Instance) : Prop :=
  ∃ bytes image, Image.decode bytes = .ok image ∧
    ∃ table domain settings options journal journal',
      bringUp table domain image settings options journal = .ok i journal'

/-- Code of the host can bring the machine of the instance to this state and go on from there. -/
def Reaches (i : Instance) (m : Machine) : Prop :=
  ∃ (code : Host Unit) (journal : Journal) (op : HostOp), Moment.asked op m ∈ i.history code journal

lemma le_recordCells {image : Image} {options : InstanceOptions}
    (h : optionsFlaw? image options = none) : image.parts.entityCells.toNat ≤
      options.recordCells.getD image.parts.entityCells.toNat := by
  by_contra hlt
  rw [Nat.not_le] at hlt
  simp only [optionsFlaw?, hlt, if_true] at h
  split_ifs at h

lemma setup_of_link {table : BuiltinTable} {setup : Setup} {journal journal' : Journal}
    {linked : Linked} (h : link table setup journal = .ok linked journal') :
    linked.setup = setup := by
  rw [link] at h
  cases hb : table.bind setup.domain setup.settings.builtinBinding setup.image with
  | error err =>
    rw [hb] at h
    cases h
  | ok bound =>
    rw [hb] at h
    cases h
    rfl

lemma bringUp_eq_ok {table : BuiltinTable} {domain : Domain} {image : Image} {settings : Settings}
    {options : InstanceOptions} {journal journal' : Journal} {i : Instance}
    (h : bringUp table domain image settings options journal = .ok i journal') :
    i.linked.setup = Setup.ofImage domain image settings ∧
    ∃ recordCells, image.parts.entityCells.toNat ≤ recordCells ∧
      i.machine = Machine.fresh i.linked.setup options.entityCapacity recordCells := by
  rw [bringUp] at h
  cases hf : optionsFlaw? image options with
  | some flaw =>
    rw [hf] at h
    cases h
  | none =>
    simp only [hf, bind, EStateM.bind] at h
    cases hl : link table (Setup.ofImage domain image settings) journal with
    | error err journal₁ => simp [hl] at h
    | ok linked journal₁ =>
      simp only [hl, pure, EStateM.pure] at h
      cases h
      exact ⟨setup_of_link hl, _, le_recordCells hf, rfl⟩

lemma bringUp_of_bind {table : BuiltinTable} {domain : Domain} {image : Image}
    {settings : Settings} {options : InstanceOptions} {bound : Array (Option Builtin)}
    (ho : optionsFlaw? image options = none)
    (hb : table.bind domain settings.builtinBinding image = .ok bound) (journal : Journal) :
    ∃ journal', bringUp table domain image settings options journal =
      .ok ⟨⟨Setup.ofImage domain image settings, bound⟩,
        Machine.fresh (Setup.ofImage domain image settings) options.entityCapacity
          (options.recordCells.getD image.parts.entityCells.toNat)⟩ journal' := by
  have hs : table.bind (Setup.ofImage domain image settings).domain
      (Setup.ofImage domain image settings).settings.builtinBinding
      (Setup.ofImage domain image settings).image = .ok bound := hb
  rw [bringUp, link]
  rw [ho, hs]
  exact ⟨_, rfl⟩

variable {i : Instance}

lemma Created.checked (h : i.Created) : i.linked.setup.Checked := by
  obtain ⟨bytes, image, hd, table, domain, settings, options, journal, journal', hb⟩ := h
  rw [(bringUp_eq_ok hb).1]
  exact Setup.checked_ofImage domain settings (Image.wellFormed_of_decode hd)

lemma Created.atHost (h : i.Created) : i.machine.AtHost i.linked.setup := by
  obtain ⟨bytes, image, hd, table, domain, settings, options, journal, journal', hb⟩ := h
  obtain ⟨hs, recordCells, hr, hm⟩ := bringUp_eq_ok hb
  rw [hm]
  refine Machine.atHost_fresh _ _ ?_
  rw [hs]
  exact hr

end Instance

namespace Call

variable {setup : Setup} {reenter : Nat → String → Call Unit}
  {nested : Nat → String → Recorded Machine → History}

lemma answer_of_target {label caller : String} {function : Nat} {op : HostOp}
    {s : Recorded Machine} (ht : target? label s.state op = some (function, caller)) :
    (answer reenter setup label op s).2 = (settle (reenter function caller) s).2 := by
  rcases target?_eq_some ht with ⟨rfl, rfl, hp⟩ | rfl
  · simp only [answer, hp]
  · rfl

lemma host_neutral {α : Type}
    (hcall : ∀ function caller s, s.state.AtHost setup →
      Neutral setup s (nested function caller s) (settle (reenter function caller) s).2)
    (label : String) (code : Host α) (s : Recorded Machine) (hs : s.state.AtHost setup) :
    Neutral setup s (hostHistory reenter nested setup label code s)
      (host reenter setup label code s).2 := by
  induction code generalizing s with
  | done a => exact .of_sameStack hs hs.toSound (.refl _) rfl
  | ask op next ih =>
    cases ht : target? label s.state op with
    | none =>
      have ha := answer_eq_noCalls reenter setup ht
      have hn := (answer_neutral hs ht rfl).1
      simp only [hostHistory, host, ht, ha]
      exact .asked hs (hn.trans (ih _ _ hn.atHost))
    | some target =>
      obtain ⟨function, caller⟩ := target
      have hn := hcall function caller s hs
      simp only [hostHistory, host, ht, answer_of_target ht, List.append_assoc,
        List.singleton_append]
      exact .nested hs hn (ih _ _ hn.atHost)

end Call

lemma Linked.session_neutral {linked : Linked} (hc : linked.setup.Checked) {m : Machine}
    (hm : m.AtHost linked.setup) {α : Type} (code : Host α) (journal : Journal) :
    Call.Neutral linked.setup ⟨m, journal⟩ (Instance.history ⟨linked, m⟩ code journal)
      (Call.host (Call.execute linked) linked.setup "host" code ⟨m, journal⟩).2 := by
  refine Call.host_neutral (fun function caller s hs => ?_) "host" code _ hm
  exact (Call.execute_runs hc hs function caller).outcome hc hs

namespace Instance

variable {i : Instance}

lemma Created.neutral (h : i.Created) {α : Type} (code : Host α) (journal : Journal) :
    Call.Neutral i.linked.setup ⟨i.machine, journal⟩ (i.history code journal)
      (Call.host (Call.execute i.linked) i.linked.setup "host" code ⟨i.machine, journal⟩).2 :=
  Linked.session_neutral h.checked h.atHost code journal

lemma Created.reaches_atHost (h : i.Created) {m : Machine} (hm : i.Reaches m) :
    m.AtHost i.linked.setup := by
  obtain ⟨code, journal, op, hmem⟩ := hm
  exact (h.neutral code journal).moments _ hmem

lemma reaches_machine (i : Instance) : i.Reaches i.machine :=
  ⟨.ask .look fun _ => .done (), #[], .look, List.mem_cons_self⟩

end Instance

/-! A program whose first function has the host call the second, which has the host give up. The
windows of the two functions overlap. -/

namespace Relay

def functions : List FunctionEntry := [{},
  { first := 1, parmStart := 28, locals := 1, name := 1 },
  { first := 4, parmStart := 28, locals := 2, name := 6 },
  { first := -1, name := 13 }, { first := -2, name := 17 }]

def parts : Parts where
  entityCells := 1
  statements := #[⟨.done, 0, 0, 0⟩,
    ⟨.storeF, 31, 28, 0⟩, ⟨.call0, 30, 0, 0⟩, ⟨.done, 0, 0, 0⟩,
    ⟨.storeF, 30, 28, 0⟩, ⟨.call0, 31, 0, 0⟩, ⟨.done, 0, 0, 0⟩]
  globalDefs := #[]
  fieldDefs := #[]
  functions := functions.toArray
  strings := "\x00main\x00callee\x00ask\x00stop\x00".toUTF8.toList.toArray
  globals := ((Array.replicate 30 0).push 3).push 4

def ask : Builtin := ⟨"ask", .all, fun _ => Host.ask (.call 2) fun _ => Host.done (.ok ())⟩

def stop : Builtin := ⟨"stop", .all, fun _ => Service.abort "stop"⟩

def table : BuiltinTable := ⟨#[ask, stop]⟩

def settings : Settings := { maxInstructions := 100 }

def setup : Setup := Setup.ofImage .server (Image.ofParts parts) settings

def relay : Instance where
  linked := ⟨setup, #[none, none, none, some ask, some stop]⟩
  machine := Machine.fresh setup 4 (Image.ofParts parts).parts.entityCells.toNat

def session : Host Unit := .ask (.execute 1 "host") fun _ => .done ()

lemma decode_encode : Image.decode parts.encode = .ok (Image.ofParts parts) := by
  have hd : Parts.decode parts.encode = .ok parts := by decide +kernel
  have hc : parts.check = .ok () := by decide +kernel
  rw [Image.decode, hd]
  simp only [bind, Except.bind, hc]
  rfl

lemma bind_eq : table.bind .server .strict (Image.ofParts parts) =
    .ok #[none, none, none, some ask, some stop] := by
  have hname₃ : (Image.ofParts parts).functionName 3 = "ask" := by decide +kernel
  have hname₄ : (Image.ofParts parts).functionName 4 = "stop" := by decide +kernel
  have hask : table.resolve .server .strict "ask" = .ok ask := by
    have hd : ask.domains.contains .server = true := by decide
    simp [BuiltinTable.resolve, BuiltinTable.get?, table, show ask.name = "ask" from rfl, hd]
  have hstop : table.resolve .server .strict "stop" = .ok stop := by
    have hd : stop.domains.contains .server = true := by decide
    simp [BuiltinTable.resolve, BuiltinTable.get?, table, show ask.name = "ask" from rfl,
      show stop.name = "stop" from rfl, hd]
  have hf : (Image.ofParts parts).parts.functions.toList = functions := rfl
  rw [BuiltinTable.bind, hf]
  simp only [functions, BuiltinTable.bindFrom, FunctionEntry.isBuiltin, hname₃, hname₄, hask, hstop]
  rfl

theorem created : relay.Created := by
  have ho : Instance.optionsFlaw? (Image.ofParts parts) { entityCapacity := 4 } = none := by
    decide +kernel
  have hbind : table.bind .server settings.builtinBinding (Image.ofParts parts) =
      .ok #[none, none, none, some ask, some stop] := bind_eq
  obtain ⟨journal, hb⟩ := Instance.bringUp_of_bind ho hbind #[]
  exact ⟨parts.encode, _, decode_encode, table, .server, settings, _, #[], journal, hb⟩

lemma reaches_inside : ∃ m, relay.Reaches m ∧ 0 < m.context.activeCalls := by
  have hsome : (relay.history session #[]).any (fun
      | .asked (.call 2) m => 0 < m.context.activeCalls
      | _ => false) = true := by decide +kernel
  obtain ⟨moment, hm, hd⟩ := List.any_eq_true.mp hsome
  split at hd
  · exact ⟨_, ⟨session, #[], _, hm⟩, by simpa using hd⟩
  · cases hd

end Relay

end GameVm
