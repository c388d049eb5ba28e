import GameVm.Proofs.Overwrites
import GameVm.Registry.Registry

/-! The registry: the active domain always has an instance, and no operation touches the instances
of other domains than its own. -/

namespace GameVm.Registry

def settle {α : Type} (act : Manage α) (s : Recorded Registry) :
    Except VmError Unit × Recorded Registry :=
  match act s with
  | .ok _ s' => (.ok (), s')
  | .error err s' => (.error err, s')

inductive Op where
  | register (b : Builtin)
  | create (d : Domain) (bytes : Bytes) (options : InstanceOptions)
  | destroy (d : Domain)
  | reset (d : Domain)
  | bind (d : Domain)
  | unbind
  | execute (function : Nat) (caller : String)
  | executeByName (name caller : String)
  | executeIn (d : Domain) (function : Nat) (caller : String)
  | on (d : Domain) (code : Setup → Host Unit)

namespace Op

def run : Op → Recorded Registry → Except VmError Unit × Recorded Registry
  | .register b => settle (Registry.register b)
  | .create d bytes options => settle (Registry.create d bytes options)
  | .destroy d => settle (Registry.destroy d)
  | .reset d => settle (Registry.reset d)
  | .bind d => settle (Registry.bind d)
  | .unbind => settle Registry.unbind
  | .execute function caller => settle (Registry.execute function caller)
  | .executeByName name caller => settle (Registry.executeByName name caller)
  | .executeIn d function caller => settle (Registry.executeIn d function caller)
  | .on d code => settle (Registry.on d code)

def target? (r : Registry) : Op → Option Domain
  | .create d .. | .destroy d | .reset d | .bind d | .executeIn d .. | .on d _ => some d
  | .execute .. | .executeByName .. => r.active
  | .register _ | .unbind => none

def allOrNothing : Op → Bool
  | .register _ | .create .. | .destroy _ | .bind _ => true
  | _ => false

end Op

def after (s : Recorded Registry) (ops : List Op) : Recorded Registry :=
  ops.foldl (fun s op => (op.run s).2) s

structure Consistent (r : Registry) : Prop where
  active : ∀ d, r.active = some d → ∃ i, r.instances.get d = some i
  domain : ∀ d i, r.instances.get d = some i → i.domain = d

namespace Consistent

variable {r : Registry} {d : Domain}

lemma set (hr : r.Consistent) {i : Instance} (hd : i.domain = d) :
    Consistent { r with instances := r.instances.set d (some i) } := by
  constructor
  · intro e he
    by_cases heq : e = d
    · subst heq
      exact ⟨i, PerDomain.get_set ..⟩
    · obtain ⟨j, hj⟩ := hr.active e he
      exact ⟨j, (PerDomain.get_set_of_ne _ _ heq).trans hj⟩
  · intro e j hj
    by_cases heq : e = d
    · subst heq
      obtain rfl : i = j := by simpa using hj
      exact hd
    · exact hr.domain e j ((PerDomain.get_set_of_ne _ _ heq).symm.trans hj)

lemma destroyed (hr : r.Consistent) (d : Domain) :
    Consistent { r with
      instances := r.instances.set d none
      active := if r.active = some d then none else r.active } := by
  constructor
  · intro e he
    dsimp only at he
    split_ifs at he with hd
    have heq : e ≠ d := by
      rintro rfl
      exact hd he
    obtain ⟨j, hj⟩ := hr.active e he
    exact ⟨j, (PerDomain.get_set_of_ne _ _ heq).trans hj⟩
  · intro e j hj
    by_cases heq : e = d
    · subst heq
      simp at hj
    · exact hr.domain e j ((PerDomain.get_set_of_ne _ _ heq).symm.trans hj)

end Consistent

lemma create_eq_ok {d : Domain} {bytes : Bytes} {options : InstanceOptions} {r : Registry}
    {journal journal' : Journal} {i : Instance}
    (h : create.bringUp d bytes options r journal = .ok i journal') : i.domain = d := by
  simp only [create.bringUp, Bind.bind, EStateM.bind] at h
  cases hl : Loader.load d bytes options.load journal with
  | error err j => simp [hl] at h
  | ok image j =>
    simp only [hl] at h
    cases hb : Instance.bringUp r.builtins d image r.settings options j with
    | error err j' => simp [hb] at h
    | ok i' j' =>
      simp only [hb] at h
      cases h
      rw [Instance.domain, (Instance.bringUp_eq_ok hb).1]
      rfl

inductive Effect (r : Registry) (op : Op) : Registry → Prop
  | kept : Effect r op r
  | registered {b : Builtin} {builtins : BuiltinTable} (ho : op = .register b)
      (hb : r.builtins.register b = .ok builtins) : Effect r op { r with builtins }
  | created {d : Domain} {bytes : Bytes} {options : InstanceOptions} {i : Instance}
      {journal journal' : Journal} (ho : op = .create d bytes options)
      (hn : r.instances.get d = none)
      (hb : create.bringUp d bytes options r journal = .ok i journal') :
      Effect r op { r with instances := r.instances.set d (some i) }
  | destroyed {d : Domain} (ho : op = .destroy d) :
      Effect r op { r with
        instances := r.instances.set d none
        active := if r.active = some d then none else r.active }
  | served {d : Domain} {i : Instance} {α : Type} (ht : op.target? r = some d)
      (hi : r.instances.get d = some i) (code : Host α) (journal : Journal) :
      Effect r op { r with
        instances := r.instances.set d (some (Instance.serve code ⟨i, journal⟩).2.state) }
  | bound {d : Domain} {i : Instance} (ho : op = .bind d) (hi : r.instances.get d = some i) :
      Effect r op { r with active := some d }
  | unbound (ho : op = .unbind) : Effect r op { r with active := none }

namespace Effect

variable {r r' : Registry} {op : Op}

lemma get_eq (h : Effect r op r') {e : Domain} (he : op.target? r ≠ some e) :
    r'.instances.get e = r.instances.get e := by
  have hne {d : Domain} (hd : op.target? r = some d) : e ≠ d := by
    rintro rfl
    exact he hd
  cases h with
  | kept => rfl
  | registered ho hb => rfl
  | created ho hn hb => exact PerDomain.get_set_of_ne _ _ (hne (by rw [ho]; rfl))
  | destroyed ho => exact PerDomain.get_set_of_ne _ _ (hne (by rw [ho]; rfl))
  | served ht hi code journal => exact PerDomain.get_set_of_ne _ _ (hne ht)
  | bound ho hi => rfl
  | unbound ho => rfl

lemma consistent (h : Effect r op r') (hr : r.Consistent) : r'.Consistent := by
  cases h with
  | kept => exact hr
  | registered ho hb => exact ⟨hr.active, hr.domain⟩
  | created ho hn hb => exact hr.set (create_eq_ok hb)
  | destroyed ho => exact hr.destroyed _
  | @served d i α ht hi code journal =>
    have hd : i.domain = d := hr.domain d i hi
    exact hr.set hd
  | @bound d i ho hi =>
    refine ⟨fun e he => ?_, hr.domain⟩
    obtain rfl : d = e := Option.some.inj he
    exact ⟨i, hi⟩
  | unbound ho => exact ⟨by simp, hr.domain⟩

end Effect

def served (d : Domain) (i : Instance) (service : Service Unit) : Manage Unit := fun ⟨r, journal⟩ =>
  match Instance.serve service.run ⟨i, journal⟩ with
  | (result, ⟨i, journal⟩) =>
    let s := ⟨{ r with instances := r.instances.set d (some i) }, journal⟩
    match result with
    | .ok a => .ok a s
    | .error err => .error err s

variable {s : Recorded Registry} {d : Domain} {i : Instance}

lemma onOrFail_eq_served (hi : s.state.instances.get d = some i) (code : Setup → Service Unit) :
    onOrFail d code s = served d i (code i.linked.setup) s := by
  obtain ⟨r, journal⟩ := s
  simp only [onOrFail, on, served, Bind.bind, EStateM.bind, hi]
  generalize Instance.serve (code i.linked.setup).run ⟨i, journal⟩ = out
  obtain ⟨result, ⟨i', journal'⟩⟩ := out
  cases result <;> rfl

lemma activeDomain_eq_ok (ha : s.state.active = some d) : activeDomain s = .ok d s := by
  have hget : (get : Manage (Recorded Registry)) s = .ok s s := rfl
  simp only [activeDomain, Bind.bind, EStateM.bind, hget, ha]
  rfl

lemma activeDomain_eq_error (ha : s.state.active = none) :
    activeDomain s = .error .noActiveVm s := by
  have hget : (get : Manage (Recorded Registry)) s = .ok s s := rfl
  simp only [activeDomain, Bind.bind, EStateM.bind, hget, ha]
  rfl

lemma execute_eq (ha : s.state.active = some d) (function : Nat) (caller : String) :
    execute function caller s = onOrFail d (fun _ => Service.execute function caller) s := by
  simp only [execute, Bind.bind, EStateM.bind, activeDomain_eq_ok ha]

lemma executeByName_eq (ha : s.state.active = some d) (name caller : String) :
    executeByName name caller s =
      onOrFail d (fun setup => Service.executeByName setup name caller) s := by
  simp only [executeByName, Bind.bind, EStateM.bind, activeDomain_eq_ok ha]

lemma executeIn_eq (ha : s.state.active = some d) (function : Nat) (caller : String) :
    executeIn d function caller s = onOrFail d (fun _ => Service.execute function caller) s := by
  have hget : (get : Manage (Recorded Registry)) s = .ok s s := rfl
  simp only [executeIn, Bind.bind, EStateM.bind, hget, ha, if_true]

lemma executeIn_refused (ha : s.state.active ≠ some d) (function : Nat) (caller : String) :
    executeIn d function caller s = .error (.wrongVmActive d s.state.active) s := by
  have hget : (get : Manage (Recorded Registry)) s = .ok s s := rfl
  simp only [executeIn, Bind.bind, EStateM.bind, hget, if_neg ha]
  rfl

section Effect

variable (s)

lemma effect_register (b : Builtin) :
    Effect s.state (.register b) (settle (register b) s).2.state := by
  obtain ⟨r, journal⟩ := s
  simp only [settle, register]
  cases hb : r.builtins.register b with
  | ok builtins => exact .registered rfl hb
  | error err => exact .kept

lemma effect_create (d : Domain) (bytes : Bytes) (options : InstanceOptions) :
    Effect s.state (.create d bytes options) (settle (create d bytes options) s).2.state := by
  obtain ⟨r, journal⟩ := s
  simp only [settle, create]
  split_ifs with hd
  · exact .kept
  · cases hb : create.bringUp d bytes options r journal with
    | ok i journal' => exact .created rfl (by simpa [contains] using hd) hb
    | error err journal' => exact .kept

lemma effect_destroy (d : Domain) :
    Effect s.state (.destroy d) (settle (destroy d) s).2.state := by
  obtain ⟨r, journal⟩ := s
  simp only [settle, destroy]
  by_cases hd : r.contains d = true
  · rw [if_pos hd]
    exact .destroyed rfl
  · rw [if_neg hd]
    exact .kept

lemma effect_bind (d : Domain) : Effect s.state (.bind d) (settle (bind d) s).2.state := by
  obtain ⟨r, journal⟩ := s
  simp only [settle, bind]
  by_cases hd : r.contains d = true
  · rw [if_pos hd]
    obtain ⟨i, hi⟩ := Option.isSome_iff_exists.mp hd
    exact .bound rfl hi
  · rw [if_neg hd]
    exact .kept

variable {s} {op : Op}

lemma effect_on {α : Type} (ht : op.target? s.state = some d) (code : Setup → Host α) :
    Effect s.state op (settle (on d code) s).2.state := by
  obtain ⟨r, journal⟩ := s
  simp only [settle, on]
  cases hi : r.instances.get d with
  | none => exact .kept
  | some i => exact .served ht hi (code i.linked.setup) journal

lemma effect_onOrFail (ht : op.target? s.state = some d) (code : Setup → Service Unit) :
    Effect s.state op (settle (onOrFail d code) s).2.state := by
  have hon : (settle (onOrFail d code) s).2 =
      (settle (on d fun setup => (code setup).run) s).2 := by
    simp only [settle, onOrFail, Bind.bind, EStateM.bind]
    cases on d (fun setup => (code setup).run) s with
    | ok result s' => cases result <;> rfl
    | error err s' => rfl
  rw [hon]
  exact effect_on ht _

theorem effect_run (s : Recorded Registry) (op : Op) : Effect s.state op (op.run s).2.state := by
  cases op with
  | register b => exact effect_register s b
  | create d bytes options => exact effect_create s d bytes options
  | destroy d => exact effect_destroy s d
  | reset d => exact effect_onOrFail rfl _
  | bind d => exact effect_bind s d
  | unbind => exact .unbound rfl
  | execute function caller =>
    cases ha : s.state.active with
    | none =>
      simp only [Op.run, settle, execute, Bind.bind, EStateM.bind, activeDomain_eq_error ha]
      exact .kept
    | some d =>
      have ht : (Op.execute function caller).target? s.state = some d := ha
      rw [Op.run, settle, execute_eq ha]
      exact effect_onOrFail ht _
  | executeByName name caller =>
    cases ha : s.state.active with
    | none =>
      simp only [Op.run, settle, executeByName, Bind.bind, EStateM.bind, activeDomain_eq_error ha]
      exact .kept
    | some d =>
      have ht : (Op.executeByName name caller).target? s.state = some d := ha
      rw [Op.run, settle, executeByName_eq ha]
      exact effect_onOrFail ht _
  | executeIn d function caller =>
    by_cases ha : s.state.active = some d
    · rw [Op.run, settle, executeIn_eq ha]
      exact effect_onOrFail rfl _
    · rw [Op.run, settle, executeIn_refused ha]
      exact .kept
  | on d code => exact effect_on rfl code

end Effect

lemma consistent_fresh (settings : Settings) : (fresh settings).Consistent where
  active := by simp [fresh]
  domain := by
    intro d i hi
    cases d <;> cases hi

lemma Consistent.after (hs : s.state.Consistent) (ops : List Op) :
    (after s ops).state.Consistent := by
  induction ops generalizing s with
  | nil => exact hs
  | cons op ops ih => exact ih ((effect_run s op).consistent hs)

lemma state_of_error {op : Op} (hop : op.allOrNothing = true) {err : VmError}
    (h : (op.run s).1 = .error err) : (op.run s).2.state = s.state := by
  obtain ⟨r, journal⟩ := s
  cases op with
  | register b =>
    simp only [Op.run, settle, register] at h ⊢
    cases hb : r.builtins.register b with
    | ok builtins =>
      rw [hb] at h
      cases h
    | error err => rfl
  | create d bytes options =>
    simp only [Op.run, settle, create] at h ⊢
    by_cases hd : r.contains d = true
    · rw [if_pos hd]
    · rw [if_neg hd] at h ⊢
      cases hb : create.bringUp d bytes options r journal with
      | ok i journal' =>
        rw [hb] at h
        cases h
      | error err journal' => rfl
  | destroy d =>
    simp only [Op.run, settle, destroy] at h ⊢
    by_cases hd : r.contains d = true
    · rw [if_pos hd] at h
      cases h
    · rw [if_neg hd]
  | bind d =>
    simp only [Op.run, settle, bind] at h ⊢
    by_cases hd : r.contains d = true
    · rw [if_pos hd] at h
      cases h
    · rw [if_neg hd]
  | _ => cases hop

/-- After any operations, however they have ended: the active domain has an instance, on which calls
run; every instance is the one of its own domain; another operation changes only the instance of the
domain it is for; and those that refuse to do what they are asked for change nothing. -/
theorem consistent_and_isolated (settings : Settings) (journal : Journal) (ops : List Op) :
    let s := after ⟨fresh settings, journal⟩ ops
    (∀ d i, s.state.instances.get d = some i → i.domain = d) ∧
    (∀ d, s.state.active = some d → ∃ i, s.state.instances.get d = some i ∧
      ∀ function name caller,
        execute function caller s = served d i (Service.execute function caller) s ∧
        executeByName name caller s =
          served d i (Service.executeByName i.linked.setup name caller) s ∧
        executeIn d function caller s = served d i (Service.execute function caller) s) ∧
    (∀ (op : Op) (e : Domain), op.target? s.state ≠ some e →
      (op.run s).2.state.instances.get e = s.state.instances.get e) ∧
    (∀ (op : Op) err, op.allOrNothing = true → (op.run s).1 = .error err →
      (op.run s).2.state = s.state) ∧
    ∀ d function caller, s.state.active ≠ some d →
      executeIn d function caller s = .error (.wrongVmActive d s.state.active) s := by
  intro s
  have hs : s.state.Consistent := Consistent.after (consistent_fresh settings) ops
  refine ⟨hs.domain, fun d ha => ?_, fun op e he => (effect_run s op).get_eq he,
    fun op err hop h => state_of_error hop h, fun d function caller ha => executeIn_refused ha ..⟩
  obtain ⟨i, hi⟩ := hs.active d ha
  refine ⟨i, hi, fun function name caller => ⟨?_, ?_, ?_⟩⟩
  · rw [execute_eq ha, onOrFail_eq_served hi]
  · rw [executeByName_eq ha, onOrFail_eq_served hi]
  · rw [executeIn_eq ha, onOrFail_eq_served hi]

/-! Two domains run the same program, and the server is active. -/

def preparations : List Op :=
  [.create .server Forger.parts.encode { entityCapacity := 4 },
    .create .client Forger.parts.encode { entityCapacity := 4 }, .bind .server]

def prepared : Recorded Registry := after ⟨fresh { maxInstructions := 100 }, #[]⟩ preparations

theorem prepared_isolated :
    prepared.state.active = some .server ∧
    (∃ i, prepared.state.instances.get .client = some i ∧ i.domain = .client) ∧
    ((Op.execute 1 "host").run prepared).2.state.instances.get .client =
      prepared.state.instances.get .client ∧
    executeIn .client 1 "host" prepared =
      .error (.wrongVmActive .client prepared.state.active) prepared := by
  have ha : prepared.state.active = some .server := by decide +kernel
  have hc : (prepared.state.instances.get .client).isSome = true := by decide +kernel
  have hne : prepared.state.active ≠ some .client := by
    rw [ha]
    decide
  obtain ⟨i, hi⟩ := Option.isSome_iff_exists.mp hc
  have hs : after ⟨fresh { maxInstructions := 100 }, #[]⟩ preparations = prepared := rfl
  have hall := consistent_and_isolated { maxInstructions := 100 } #[] preparations
  dsimp only at hall
  rw [hs] at hall
  obtain ⟨hdomain, -, hother, -, hrefused⟩ := hall
  exact ⟨ha, ⟨i, hi, hdomain _ i hi⟩, hother (.execute 1 "host") .client hne,
    hrefused .client 1 "host" hne⟩

end GameVm.Registry
