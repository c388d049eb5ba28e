import GameVm.Proofs.Activations
import GameVm.Proofs.Budget

/-! The counters of the functions: what a run adds to them, as its history tells it. -/

namespace GameVm

namespace Moment

def enters (function : Nat) : Moment → Bool
  | .pushed f _ => f = function
  | _ => false

/-- A call is dispatched, and the cell it reads holds the number of a builtin. -/
def callsBuiltin (image : Image) : Moment → Bool
  | .dispatched st m => st.op.argCount?.isSome &&
    (m.memory.globals.cell st.a.toNat).toOption.any fun v =>
      (image.function? v.toNat).any (·.isBuiltin)
  | _ => false

end Moment

namespace Exec

variable {setup : Setup} {st : Statement} {m : Machine}

end Exec

def Profile.builtinCalled (p : Profile) : Profile :=
  { p with statements := p.statements + 1, builtinCalls := p.builtinCalls + 1 }

lemma Machine.profileOf_modify {m m' : Machine} {function : Nat} {f : Profile → Profile}
    (hp : m'.profile = m.profile.modify function f) (hf : function < m.profile.size) (k : Nat) :
    m'.profileOf k = if function = k then f (m.profileOf k) else m.profileOf k := by
  rw [profileOf, profileOf, hp, Array.getElem?_modify]
  split_ifs with hk
  · rw [← hk, Array.getElem?_eq_getElem hf]
    rfl
  · rfl

/-- How much a counter goes up from one state of the machine to another, over all functions. -/
def Image.increase (image : Image) (count : Profile → Nat) (m m' : Machine) : Int :=
  ∑ f ∈ Finset.range image.parts.functions.size,
    ((count (m'.profileOf f) : Int) - count (m.profileOf f))

namespace Image

variable {image : Image} {count : Profile → Nat} {m m' m'' : Machine}

lemma lt_of_function? {function : Nat} {entry : FunctionEntry}
    (h : image.function? function = some entry) : function < image.parts.functions.size :=
  (Array.getElem?_eq_some_iff.mp h).1

lemma increase_of_profile (h : m'.profile = m.profile) : image.increase count m m' = 0 :=
  Finset.sum_eq_zero fun f _ => by rw [Machine.profileOf, Machine.profileOf, h, sub_self]

lemma increase_trans :
    image.increase count m m' + image.increase count m' m'' = image.increase count m m'' := by
  rw [increase, increase, ← Finset.sum_add_distrib]
  exact Finset.sum_congr rfl fun f _ => by ring

lemma increase_of_step {function d : Nat} {f : Profile → Profile}
    (hf : function < image.parts.functions.size)
    (hp : ∀ k, m'.profileOf k = if function = k then f (m.profileOf k) else m.profileOf k)
    (hc : ∀ p, count (f p) = count p + d) : image.increase count m m' = d := by
  have hterm : ∀ k ∈ Finset.range image.parts.functions.size,
      (count (m'.profileOf k) : Int) - count (m.profileOf k) =
        if function = k then (d : Int) else 0 := by
    intro k _
    rw [hp]
    split_ifs
    · rw [hc]
      push_cast
      ring
    · exact sub_self _
  rw [increase, Finset.sum_congr rfl hterm, Finset.sum_ite_eq, if_pos (Finset.mem_range.mpr hf)]

end Image

/-- The counters have gone up as the history tells: by one statement for each that was dispatched,
by one builtin call for each call of one, and by one call of a program's function for each frame
that was pushed for it. -/
structure Tallied (image : Image) (m : Machine) (h : History) (m' : Machine) : Prop where
  size : m'.profile.size = m.profile.size
  statements : image.increase (·.statements) m m' = h.dispatches
  builtinCalls : image.increase (·.builtinCalls) m m' = h.countP (·.callsBuiltin image)
  calls : ∀ function entry, image.function? function = some entry → entry.isBuiltin = false →
    (m'.profileOf function).calls = (m.profileOf function).calls + h.countP (·.enters function)

namespace Tallied

variable {image : Image} {m m' m'' : Machine} {h h' : History} {moment : Moment}

lemma of_profile (hp : m'.profile = m.profile) : Tallied image m [] m' where
  size := congrArg Array.size hp
  statements := Image.increase_of_profile hp
  builtinCalls := Image.increase_of_profile hp
  calls := fun function entry _ _ => by rw [Machine.profileOf, Machine.profileOf, hp]; rfl

lemma trans (ht : Tallied image m h m') (ht' : Tallied image m' h' m'') :
    Tallied image m (h ++ h') m'' where
  size := ht'.size.trans ht.size
  statements := by
    rw [← Image.increase_trans, ht.statements, ht'.statements, History.dispatches_append,
      Nat.cast_add]
  builtinCalls := by
    rw [← Image.increase_trans, ht.builtinCalls, ht'.builtinCalls, List.countP_append, Nat.cast_add]
  calls := fun function entry hf hb => by
    rw [ht'.calls function entry hf hb, ht.calls function entry hf hb, List.countP_append,
      Nat.add_assoc]

lemma cons (ht : Tallied image m [moment] m') (ht' : Tallied image m' h m'') :
    Tallied image m (moment :: h) m'' := ht.trans ht'

lemma concluded (ht : Tallied image m h m') (hp : m''.profile = m'.profile) :
    Tallied image m h m'' := by
  simpa using ht.trans (of_profile hp)

lemma quiet (hd : moment.dispatch? = none) (he : ∀ function m, moment ≠ .pushed function m) :
    Tallied image m [moment] m := by
  cases moment with
  | dispatched st m => cases hd
  | pushed function m => exact absurd rfl (he function m)
  | _ =>
    exact ⟨rfl, Image.increase_of_profile rfl, Image.increase_of_profile rfl, fun _ _ _ _ => rfl⟩

lemma nested {op : HostOp} {r : Except VmError Unit} {before after : Machine}
    (ht : Tallied image m h m') (ht' : Tallied image m' h' m'') :
    Tallied image m (.asked op before :: (h ++ .ended r after :: h')) m'' :=
  .cons (.quiet rfl (by simp)) (ht.trans (.cons (.quiet rfl (by simp)) ht'))

lemma of_step {function : Nat} {f : Profile → Profile} (hsize : m'.profile.size = m.profile.size)
    (hf : function < image.parts.functions.size)
    (hp : ∀ k, m'.profileOf k = if function = k then f (m.profileOf k) else m.profileOf k)
    (hs : ∀ p, (f p).statements = p.statements + History.dispatches [moment])
    (hb : ∀ p, (f p).builtinCalls = p.builtinCalls + [moment].countP (·.callsBuiltin image))
    (hc : ∀ k entry, image.function? k = some entry → entry.isBuiltin = false → ∀ p,
      (if function = k then f p else p).calls = p.calls + [moment].countP (·.enters k)) :
    Tallied image m [moment] m' where
  size := hsize
  statements := Image.increase_of_step hf hp hs
  builtinCalls := Image.increase_of_step hf hp hb
  calls := fun k entry hk hprog => by
    rw [hp, hc k entry hk hprog]

lemma pushed {function : Nat} {before : Machine} (hf : function < image.parts.functions.size)
    (hsize : m.profile.size = image.parts.functions.size)
    (hp : m'.profile = m.profile.modify function fun p => { p with calls := p.calls + 1 }) :
    Tallied image m [.pushed function before] m' := by
  refine of_step (hp ▸ Array.size_modify) hf (Machine.profileOf_modify hp (hsize ▸ hf))
    (fun _ => rfl) (fun _ => rfl) fun k entry _ _ p => ?_
  by_cases hk : function = k <;> simp [hk, Moment.enters]

lemma hosted {function : Nat} {before : Machine}
    (hf : (image.function? function).any (·.isBuiltin) = true)
    (hsize : m.profile.size = image.parts.functions.size)
    (hp : m'.profile = m.profile.modify function fun p => { p with calls := p.calls + 1 }) :
    Tallied image m [.hosted function before] m' := by
  obtain ⟨entry, hentry, hb⟩ := (Option.any_eq_true ..).mp hf
  have hlt := Image.lt_of_function? hentry
  refine of_step (hp ▸ Array.size_modify) hlt (Machine.profileOf_modify hp (hsize ▸ hlt))
    (fun _ => rfl) (fun _ => rfl) fun k entry' hk hprog p => ?_
  have hne : function ≠ k := by
    rintro rfl
    rw [hentry] at hk
    cases hk
    rw [hb] at hprog
    cases hprog
  rw [if_neg hne]
  rfl

end Tallied

def Context.Listed (image : Image) (c : Context) : Prop :=
  ∀ frame ∈ c.frames, frame.function < image.parts.functions.size

namespace Context.Listed

variable {image : Image} {c c' : Context}

lemma of_frames (h : Listed image c) (hf : c'.frames = c.frames) : Listed image c' := by
  rw [Listed, hf]
  exact h

lemma currentFunction (h : Listed image c) (hne : c.frames ≠ #[]) :
    c.currentFunction < image.parts.functions.size := by
  rw [Context.currentFunction]
  cases hb : c.frames.back? with
  | none => exact absurd (Array.back?_eq_none_iff.mp hb) hne
  | some frame => exact h frame (Array.mem_of_back? hb)

lemma entered {m : Machine} (h : m.context.Listed image) {function : Nat} {entry : FunctionEntry}
    (hf : image.function? function = some entry) (globals : Globals) :
    (m.enter function entry globals).context.Listed image := by
  intro frame hframe
  rcases Array.mem_push.mp hframe with hframe | rfl
  · exact h frame hframe
  · exact Image.lt_of_function? hf

lemma effect {setup : Setup} {m m' : Machine} {flow : Flow}
    (h : m.context.Listed setup.image) (he : Exec.Effect setup m flow m') :
    m'.context.Listed setup.image := by
  cases he with
  | moved hs hm => exact h
  | entered hz hf hb hg hp => exact h.entered hf _
  | returned hf hg =>
    intro frame hframe
    rw [Array.mem_def, Machine.leave, Context.popped, Array.toList_pop] at hframe
    exact h frame (Array.mem_def.mpr (List.mem_of_mem_dropLast hframe))
  | builtin hf hb => exact h

end Context.Listed

namespace Call

variable {linked : Linked} {s s' s'' : Recorded Machine} {h : History} {act act' : Activity}
  {r : Except VmError Unit}

def Activity.Listed (image : Image) : Activity → Context → Prop
  | .builtin _ function _, c =>
    c.Listed image ∧ (image.function? function).any (·.isBuiltin) = true
  | .call .., c | .loop .., c | .host .., c => c.Listed image

lemma ready_listed {image : Image} (h : s.state.context.Listed image) (setup : Setup)
    (st : Statement) : (ready setup st s).state.context.Listed image := by
  rw [ready_context]
  exact h.of_frames rfl

lemma any_isBuiltin_of_effect {setup : Setup} {m m' : Machine} {function argc : Nat}
    (he : Exec.Effect setup m (.builtin function argc) m') :
    (setup.image.function? function).any (·.isBuiltin) = true := by
  cases he with
  | builtin hf hb => simp [hf, hb]

lemma Proceeds.listed (hc : linked.setup.Checked) (hp : Proceeds linked act s h act' s')
    (hs : act.Stands linked.setup s.state)
    (hl : act.Listed linked.setup.image s.state.context) :
    act'.Listed linked.setup.image s'.state.context := by
  cases hp with
  | entered he =>
    obtain ⟨entry, globals, hf, rfl, -⟩ := enter_ok hc hs he
    have hbegin : (mapContext Context.beginCall s).state.context.Listed linked.setup.image :=
      Context.Listed.of_frames hl (Context.beginCall_frames _)
    exact hbegin.entered hf globals
  | @advanced _ _ _ st _ hf hd =>
    obtain ⟨base, first, rest, -, hs⟩ := hs
    exact (ready_listed hl linked.setup st).effect (effect_of_ok hc (dispatched_sound hs hf) hd)
  | @resumed _ _ _ st _ hf hd hx =>
    obtain ⟨base, first, rest, -, hs⟩ := hs
    exact ((ready_listed hl linked.setup st).effect
      (effect_of_ok hc (dispatched_sound hs hf) hd)).of_frames rfl
  | @builtinCalled _ _ _ st _ _ _ hf hd =>
    obtain ⟨base, first, rest, -, hs⟩ := hs
    have he := effect_of_ok hc (dispatched_sound hs hf) hd
    exact ⟨(ready_listed hl linked.setup st).effect he, any_isBuiltin_of_effect he⟩
  | @builtinReturned _ _ _ _ st _ _ _ _ hf hd hb =>
    obtain ⟨base, first, rest, -, hs⟩ := hs
    have he := effect_of_ok hc (dispatched_sound hs hf) hd
    obtain rfl := builtin_eq he
    have hn : Neutral linked.setup _ _ _ := hb.outcome hc (stands_builtin hs hf).1
    exact (ready_listed hl linked.setup st).of_frames hn.stack.frames
  | hosted hb hd => exact hl.1
  | answered ht ha => exact hl.of_frames (answer_neutral hs.1 ht ha).1.stack.frames
  | called hp => exact hl
  | executed => exact hl
  | callEnded hp hr =>
    have hn : Neutral linked.setup _ _ _ := hr.outcome hc hs.1
    exact hl.of_frames hn.stack.frames
  | executeEnded hr =>
    have hn : Neutral linked.setup _ _ _ := hr.outcome hc hs.1
    exact hl.of_frames hn.stack.frames

section Profile

variable (setup : Setup)

end Profile

section Fetched

variable {st : Statement} {base : Context} {first : Push} {rest : List Push}

end Fetched

end Call

end GameVm
