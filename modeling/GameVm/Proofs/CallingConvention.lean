import GameVm.Proofs.Handover
import GameVm.Proofs.Storage

/-! Calls from the program and the returns that match them, whatever runs in between. -/

namespace GameVm

lemma Context.Grown.frames_eq {n : Nat} {base c c' : Context} {ps : List Push}
    (h : Grown n base ps c) (h' : Grown n base ps c') : c.frames = c'.frames :=
  Array.toList_inj.mp (h.frames.trans h'.frames.symm)

lemma Context.Grown.saved_eq {n : Nat} {base c c' : Context} {ps : List Push}
    (h : Grown n base ps c) (h' : Grown n base ps c') : c.saved = c'.saved :=
  Array.toList_inj.mp (h.saved.trans h'.saved.symm)

lemma Image.WindowsApart.not_covers {image : Image} (h : image.WindowsApart) {function : Nat}
    {entry : FunctionEntry} (hf : image.function? function = some entry)
    (hb : entry.isBuiltin = false) (c : Context) {x : Nat} (hx : x < Slots.reserved) :
    ¬ (c.newFrame function entry).Covers x := by
  rintro ⟨hlo, hhi⟩
  simp only [Context.newFrame] at hlo hhi
  have hne : entry.locals ≠ 0 := by
    intro hz
    rw [hz, UInt32.toNat_zero] at hhi
    omega
  have hle := h entry (Array.mem_def.mp (Array.mem_of_getElem? hf)) hb hne
  omega

namespace Machine

def resumed (m : Machine) (frame : Frame) (a : Nat) : Machine :=
  (m.leave frame (m.memory.globals.withResult a)).mapContext
    fun c => c.setStatement (c.statement + 1)

/-- `after` is where the caller that stood at `before` goes on, when the function it has called
returns the value at `a` from `last`. -/
structure Resumed (entry : FunctionEntry) (a : Nat) (before last after : Machine) : Prop where
  frames : after.context.frames = before.context.frames
  saved : after.context.saved = before.context.saved
  statement : after.context.statement = before.context.statement + 1
  window : ∀ x, entry.parmStart.toNat ≤ x → x < entry.parmStart.toNat + entry.locals.toNat →
    after.memory.globals.cells[x]? = before.memory.globals.cells[x]?
  result : ∀ k < 3, after.memory.globals.cells[Slots.result + k]? =
    if a = Slots.null then last.memory.globals.cells[Slots.result + k]?
    else some (last.memory.globals.cells.getD (a + k) 0)

namespace InCall

variable {setup : Setup} {base : Context} {ps : List Push} {m : Machine}

lemma reserved_le (h : m.InCall setup base ps) (hc : setup.Checked) :
    Slots.reserved ≤ m.memory.globals.cells.size := by
  rw [h.sound.memory.globals]
  exact hc.parts.reserved

lemma dispatch_leave {p : Push} (h : m.InCall setup base (ps ++ [p])) (hc : setup.Checked)
    {st : Statement} (hl : Action.ofOpcode st.op = .leave) : Exec.dispatch setup st m =
      .ok .returned (m.leave p.frame (m.memory.globals.withResult st.a.toNat)) := by
  apply Exec.dispatch_leave hl (h.reserved_le hc) h.grown.back?
  rw [h.sound.memory.globals]
  exact (h.grown.fits p (by simp)).window

lemma resumed_grown {p : Push} (h : m.InCall setup base (ps ++ [p])) (a : Nat) :
    Context.Grown setup.image.parts.globals.size base ps (m.resumed p.frame a).context :=
  (h.returned (Globals.size_withResult m.memory.globals a)).1.grown.setStatement _

lemma getElem?_resumed {p : Push} (h : m.InCall setup base (ps ++ [p])) (a x : Nat) :
    (m.resumed p.frame a).memory.globals.cells[x]? =
      if p.frame.Covers x then p.machine.memory.globals.cells[x]?
      else (m.memory.globals.withResult a).cells[x]? := by
  have hsize := Globals.size_withResult m.memory.globals a
  have hmem : (m.resumed p.frame a).memory.globals = Push.restore [p] _ := (h.returned hsize).2.2
  have hfits (q : Push) (hq : q ∈ [p]) : q.Fits setup.image.parts.globals.size :=
    h.grown.fits q (List.mem_append_right _ hq)
  rw [hmem, Push.getElem?_restore hfits (hsize.trans h.sound.memory.globals)]
  by_cases hx : p.frame.Covers x <;> simp [hx]

end InCall

lemma resumed_of_newFrame {setup : Setup} {base : Context} {ps : List Push} {m before : Machine}
    (hc : setup.Checked) (hw : setup.image.WindowsApart) {function : Nat} {entry : FunctionEntry}
    (hf : setup.image.function? function = some entry) (hb : entry.isBuiltin = false)
    (hbefore : before.InCall setup base ps)
    (h : m.InCall setup base (ps ++ [⟨before.context.newFrame function entry, before⟩])) (a : Nat) :
    Resumed entry a before m (m.resumed (before.context.newFrame function entry) a) := by
  have hgrown := h.resumed_grown a
  refine ⟨hgrown.frames_eq hbefore.grown, hgrown.saved_eq hbefore.grown, rfl, ?_, ?_⟩
  · intro x hlo hhi
    have hx : (before.context.newFrame function entry).Covers x := ⟨hlo, hhi⟩
    exact (h.getElem?_resumed a x).trans (if_pos hx)
  · intro k hk
    have hx := hw.not_covers hf hb before.context (x := Slots.result + k)
      (by rw [Slots.result]; simp only [Slots.reserved, Slots.parm0]; omega)
    rw [← Globals.getElem?_withResult (h.reserved_le hc) a hk]
    exact (h.getElem?_resumed a _).trans (if_neg hx)

end Machine

namespace History

/-- `h` goes on with `inner`, during which more than `floor` frames are on the stack, and then with
the return of the frame on top of these. -/
structure Returns (floor : Nat) (h inner : History) (st : Statement) (m : Machine)
    (after : History) : Prop where
  eq : h = inner ++ .dispatched st m :: after
  inside : ∀ x ∈ inner, floor < x.machine.context.depth
  leave : Action.ofOpcode st.op = .leave
  depth : m.context.depth = floor + 1

namespace Returns

variable {floor : Nat} {h h' inner after : History} {x : Moment} {st : Statement} {m : Machine}

lemma mem (hr : Returns floor h inner st m after) : .dispatched st m ∈ h := by
  rw [hr.eq]
  simp

lemma cons_inv (hr : Returns floor (x :: h) inner st m after) :
    (x = .dispatched st m ∧ inner = [] ∧ h = after) ∨
      ∃ inner', inner = x :: inner' ∧ floor < x.machine.context.depth ∧
        Returns floor h inner' st m after := by
  cases inner with
  | nil =>
    obtain ⟨rfl, rfl⟩ := List.cons.inj hr.eq
    exact .inl ⟨rfl, rfl, rfl⟩
  | cons y inner' =>
    obtain ⟨rfl, he⟩ := List.cons.inj hr.eq
    obtain ⟨hx, hi⟩ := List.forall_mem_cons.mp hr.inside
    exact .inr ⟨inner', rfl, hx, he, hi, hr.leave, hr.depth⟩

lemma append_inv (hr : Returns floor (h ++ h') inner st m after) :
    (∃ after', after = after' ++ h' ∧ Returns floor h inner st m after') ∨
      ∃ inner', inner = h ++ inner' ∧ Returns floor h' inner' st m after := by
  induction h generalizing inner with
  | nil => exact .inr ⟨inner, rfl, hr⟩
  | cons x h ih =>
    rcases hr.cons_inv with ⟨rfl, rfl, rfl⟩ | ⟨inner', rfl, hx, hr'⟩
    · exact .inl ⟨h, rfl, rfl, by simp, hr.leave, hr.depth⟩
    · rcases ih hr' with ⟨after', rfl, hr''⟩ | ⟨inner'', rfl, hr''⟩
      · refine .inl ⟨after', rfl, ?_, ?_, hr.leave, hr.depth⟩
        · rw [hr''.eq]
          rfl
        · exact List.forall_mem_cons.mpr ⟨hx, hr''.inside⟩
      · exact .inr ⟨inner'', rfl, hr''⟩

end Returns

def Awaits (setup : Setup) (base : Context) (ps : List Push) (p : Push) (h : History) : Prop :=
  ∀ inner st m after, Returns (base.depth + ps.length) h inner st m after →
    m.InCall setup base (ps ++ [p]) ∧
      ∃ rest, after = .due (m.resumed p.frame st.a.toNat) :: rest

namespace Awaits

variable {setup : Setup} {base : Context} {ps : List Push} {p : Push} {h h' : History}

lemma nil : Awaits setup base ps p [] := by
  intro inner st m after hr
  cases hr.mem

lemma append (hn : ∀ st m, .dispatched st m ∈ h → Action.ofOpcode st.op = .leave →
      m.context.depth ≠ base.depth + ps.length + 1) (ha : Awaits setup base ps p h') :
    Awaits setup base ps p (h ++ h') := by
  intro inner st m after hr
  rcases hr.append_inv with ⟨after', rfl, hr'⟩ | ⟨inner', rfl, hr'⟩
  · exact absurd hr.depth (hn st m hr'.mem hr.leave)
  · exact ha inner' st m after hr'

lemma fetched {s m : Machine} {st : Statement} (hn : Action.ofOpcode st.op = .leave →
      m.context.depth ≠ base.depth + ps.length + 1) (ha : Awaits setup base ps p h) :
    Awaits setup base ps p (.due s :: .dispatched st m :: h) := by
  refine append (h := [.due s, .dispatched st m]) (fun st' m' hm => ?_) ha
  obtain ⟨rfl, rfl⟩ : st' = st ∧ m' = m := by simpa using hm
  exact hn

lemma here {s m next : Machine} {st : Statement} (hm : m.InCall setup base (ps ++ [p]))
    (hd : next.context.depth = base.depth + ps.length)
    (hn : Action.ofOpcode st.op = .leave → next = m.resumed p.frame st.a.toNat) :
    Awaits setup base ps p (.due s :: .dispatched st m :: .due next :: h) := by
  intro inner st' m' after hr
  rcases hr.cons_inv with ⟨hx, -⟩ | ⟨inner', -, -, hr'⟩
  · cases hx
  · rcases hr'.cons_inv with ⟨hx, -, rfl⟩ | ⟨inner'', -, -, hr''⟩
    · cases hx
      rw [hn hr.leave]
      exact ⟨hm, h, rfl⟩
    · -- The caller goes on at once, so what follows is not inside the call.
      rcases hr''.cons_inv with ⟨hx, -⟩ | ⟨-, -, hlt, -⟩
      · cases hx
      · exact absurd hlt (by rw [Moment.machine, hd]; exact lt_irrefl _)

end Awaits

/-- A call of `function` from `m` keeps to the convention if it returns in the history `h` that
follows. -/
def Honours (setup : Setup) (m : Machine) (function : Nat) (h : History) : Prop :=
  ∀ inner st m' after, Returns m.context.depth h inner st m' after →
    ∃ entry, setup.image.function? function = some entry ∧ entry.isBuiltin = false ∧
      (∃ m₁ rest, inner = .due m₁ :: rest ∧ Machine.Entered entry m m₁) ∧
      ∃ m₂ rest, after = .due m₂ :: rest ∧ Machine.Resumed entry st.a.toNat m m' m₂

lemma Honours.append {setup : Setup} {m : Machine} {function : Nat} {h h' : History} {x : Moment}
    (hh : Honours setup m function h) (hx : x.machine.context.depth ≤ m.context.depth) :
    Honours setup m function (h ++ x :: h') := by
  intro inner st m' after hr
  rcases hr.append_inv with ⟨after', rfl, hr'⟩ | ⟨inner', -, hr'⟩
  · obtain ⟨entry, hf, hb, hin, m₂, rest, rfl, hout⟩ := hh inner st m' after' hr'
    exact ⟨entry, hf, hb, hin, m₂, rest ++ x :: h', rfl, hout⟩
  · -- The call is over by then.
    rcases hr'.cons_inv with ⟨rfl, -⟩ | ⟨-, -, hlt, -⟩
    · rw [Moment.machine, hr.depth] at hx
      omega
    · omega

lemma Awaits.honours {setup : Setup} {base : Context} {ps : List Push} {m : Machine}
    {function : Nat} {entry : FunctionEntry} {globals : Globals} {h : History}
    (ha : Awaits setup base ps ⟨m.context.newFrame function entry, m⟩
      (.due (m.enter function entry globals) :: h))
    (hc : setup.Checked) (hw : setup.image.WindowsApart) (hm : m.InCall setup base ps)
    (hf : setup.image.function? function = some entry) (hb : entry.isBuiltin = false)
    (hp : Context.push function entry (m.context, m.memory.globals) =
      .ok () (m.context.pushed function entry m.memory.globals, globals)) :
    Honours setup m function (.due (m.enter function entry globals) :: h) := by
  intro inner st m' after hr
  rw [hm.grown.depth] at hr
  obtain ⟨hin, rest, rfl⟩ := ha inner st m' after hr
  refine ⟨entry, hf, hb, ?_, _, rest, rfl, ?_⟩
  · rcases hr.cons_inv with ⟨hx, -⟩ | ⟨inner', rfl, -, -⟩
    · cases hx
    · exact ⟨_, inner', rfl, Machine.entered_of_push hc hw hm.sound.memory hf hb hp⟩
  · exact Machine.resumed_of_newFrame hc hw hf hb hm hin st.a.toNat

/-- Statements are dispatched with more than `floor` frames on the stack only, and those that push
a frame keep to the calling convention. -/
structure Orderly (setup : Setup) (floor : Nat) (h : History) : Prop where
  above : ∀ st m, .dispatched st m ∈ h → floor < m.context.depth
  calls : ∀ before st m function rest,
    h = before ++ .dispatched st m :: .pushed function m :: rest → Honours setup m function rest

namespace Orderly

variable {setup : Setup} {floor : Nat} {h h' : History} {x : Moment}

lemma nil : Orderly setup floor [] where
  above := by simp
  calls := by simp

lemma mono {floor' : Nat} (ho : Orderly setup floor h) (hle : floor' ≤ floor) :
    Orderly setup floor' h where
  above := fun st m hm => lt_of_le_of_lt hle (ho.above st m hm)
  calls := ho.calls

lemma cons (hx : ∀ st m, x ≠ .dispatched st m) (ho : Orderly setup floor h) :
    Orderly setup floor (x :: h) where
  above := by
    intro st m hm
    rcases List.mem_cons.mp hm with rfl | hm
    · exact absurd rfl (hx st m)
    · exact ho.above st m hm
  calls := by
    intro before st m function rest he
    cases before with
    | nil => exact absurd (List.cons.inj he).1 (hx st m)
    | cons y before => exact ho.calls before st m function rest (List.cons.inj he).2

lemma dispatched {st : Statement} {m : Machine} (hd : floor < m.context.depth)
    (hc : ∀ function rest, h = .pushed function m :: rest → Honours setup m function rest)
    (ho : Orderly setup floor h) : Orderly setup floor (.dispatched st m :: h) where
  above := by
    intro st' m' hm
    rcases List.mem_cons.mp hm with heq | hm
    · cases heq
      exact hd
    · exact ho.above st' m' hm
  calls := by
    intro before st' m' function rest he
    cases before with
    | nil =>
      cases (List.cons.inj he).1
      exact hc function rest (List.cons.inj he).2
    | cons y before => exact ho.calls before st' m' function rest (List.cons.inj he).2

lemma fetched {base : Context} {first : Push} {rest : List Push} {s m : Machine} {st : Statement}
    (hm : m.InCall setup base (first :: rest))
    (hc : ∀ function rest, h = .pushed function m :: rest → Honours setup m function rest)
    (ho : Orderly setup base.depth h) :
    Orderly setup base.depth (.due s :: .dispatched st m :: h) :=
  cons (by simp) (ho.dispatched hm.lt_depth hc)

lemma tail (ho : Orderly setup floor (x :: h)) : Orderly setup floor h where
  above := fun st m hm => ho.above st m (List.mem_cons_of_mem _ hm)
  calls := by
    rintro before st m function rest rfl
    exact ho.calls (x :: before) st m function rest rfl

lemma append {floor' : Nat} (ho : Orderly setup floor' h) (hle : floor ≤ floor')
    (hx : ∀ function m, x ≠ .pushed function m) (hd : x.machine.context.depth ≤ floor')
    (ho' : Orderly setup floor (x :: h')) : Orderly setup floor (h ++ x :: h') := by
  induction h with
  | nil => exact ho'
  | cons y h ih =>
    have hrest := ih ho.tail
    cases y with
    | dispatched st m =>
      have hm := ho.above st m List.mem_cons_self
      apply hrest.dispatched (by omega)
      intro function rest he
      cases h with
      | nil => exact absurd (List.cons.inj he).1 (hx function m)
      | cons z h =>
        obtain ⟨rfl, rfl⟩ := List.cons.inj he
        exact (ho.calls [] st m function h rfl).append (by omega)
    | _ => exact hrest.cons (by simp)

lemma nested {op : HostOp} {r : Except VmError Unit} {m m' : Machine}
    (ho : Orderly setup m.context.depth h) (ho' : Orderly setup m'.context.depth h')
    (hd : m'.context.depth = m.context.depth) :
    Orderly setup m.context.depth (.asked op m :: (h ++ .ended r m' :: h')) := by
  rw [hd] at ho'
  apply cons (by simp)
  exact ho.append le_rfl (by simp) hd.le (ho'.cons (by simp))

end Orderly

end History

namespace Call

variable {linked : Linked} {caller : String} {exitDepth : Nat} {s s' : Recorded Machine}
  {h : History} {r : Except VmError Unit}

lemma Runs.loop_due (hr : Runs linked (.loop caller exitDepth) s h r s') :
    ∃ rest, h = .due s.state :: rest := by
  cases hr <;> exact ⟨_, rfl⟩

lemma Runs.builtin_ne_pushed {function argc : Nat}
    (hr : Runs linked (.builtin caller function argc) s h r s') (callee : Nat) (m : Machine)
    (rest : History) : h ≠ .pushed callee m :: rest := by
  cases hr <;> simp

/-- What is shown of the loop of a call that began at `base` and has pushed `first :: rest`: the
frames on top of the first one return to their callers. -/
structure LoopOrderly (setup : Setup) (base : Context) (first : Push) (rest : List Push)
    (h : History) : Prop where
  orderly : History.Orderly setup base.depth h
  awaits : ∀ qs p more, rest = qs ++ p :: more → History.Awaits setup base (first :: qs) p h

namespace LoopOrderly

variable {setup : Setup} {base : Context} {first q : Push} {rest rest' : List Push} {x : Moment}
  {s m next : Machine} {st : Statement} {h' : History}

lemma nil : LoopOrderly setup base first rest [] :=
  ⟨.nil, fun _ _ _ _ => .nil⟩

lemma cons (hx : ∀ st m, x ≠ .dispatched st m) (ho : LoopOrderly setup base first rest h) :
    LoopOrderly setup base first rest (x :: h) where
  orderly := ho.orderly.cons hx
  awaits := by
    intro qs p more hq
    refine .append (h := [x]) (fun st m hm => ?_) (ho.awaits qs p more hq)
    exact absurd (List.mem_singleton.mp hm).symm (hx st m)

lemma awaits_append (hm : m.InCall setup base (first :: rest))
    (ho : History.Orderly setup m.context.depth h) {qs more : List Push} {p : Push}
    (hq : rest = qs ++ p :: more) (ha : History.Awaits setup base (first :: qs) p h') :
    History.Awaits setup base (first :: qs) p (h ++ h') := by
  refine .append (fun st m' hm' _ => ?_) ha
  have hlt := ho.above st m' hm'
  rw [hm.grown.depth, hq] at hlt
  simp only [List.length_cons, List.length_append] at hlt ⊢
  omega

lemma of_orderly (hm : m.InCall setup base (first :: rest))
    (ho : History.Orderly setup m.context.depth h) : LoopOrderly setup base first rest h where
  orderly := ho.mono hm.lt_depth.le
  awaits := by
    intro qs p more hq
    rw [← List.append_nil h]
    exact awaits_append hm ho hq .nil

lemma append (hm : m.InCall setup base (first :: rest))
    (ho : History.Orderly setup m.context.depth h) (hd : s.context.depth = m.context.depth)
    (ho' : LoopOrderly setup base first rest (.due s :: h')) :
    LoopOrderly setup base first rest (h ++ .due s :: h') where
  orderly := ho.append hm.lt_depth.le (by simp) hd.le ho'.orderly
  awaits := fun qs p more hq => awaits_append hm ho hq (ho'.awaits qs p more hq)

lemma fetched (hm : m.InCall setup base (first :: rest)) (hl : Action.ofOpcode st.op ≠ .leave)
    (hcalls : ∀ function tail, h = .pushed function m :: tail →
      History.Honours setup m function tail)
    (hp : rest <+: rest') (ho : LoopOrderly setup base first rest' h) :
    LoopOrderly setup base first rest (.due s :: .dispatched st m :: h) where
  orderly := .fetched hm hcalls ho.orderly
  awaits := by
    rintro qs p more rfl
    obtain ⟨top, rfl⟩ := hp
    have ha := ho.awaits qs p (more ++ top) (by simp)
    exact .fetched (fun hl' => absurd hl' hl) ha

lemma exited (hm : m.InCall setup base [first]) :
    LoopOrderly setup base first [] [.due s, .dispatched st m] where
  orderly := .fetched hm (by simp) .nil
  awaits := by simp

lemma returned (hm : m.InCall setup base (first :: (rest ++ [q])))
    (hnext : next.context.depth = base.depth + (first :: rest).length)
    (hl : Action.ofOpcode st.op = .leave → next = m.resumed q.frame st.a.toNat)
    (ho : LoopOrderly setup base first rest (.due next :: h)) :
    LoopOrderly setup base first (rest ++ [q]) (.due s :: .dispatched st m :: .due next :: h) where
  orderly := .fetched hm (by simp) ho.orderly
  awaits := by
    intro qs p more hq
    rcases List.eq_nil_or_concat more with rfl | ⟨more, q', rfl⟩
    · -- The frame that is left is the one in question.
      obtain ⟨rfl, hqp⟩ := List.append_inj' hq rfl
      obtain rfl := List.singleton_inj.mp hqp
      exact .here hm hnext hl
    · rw [List.concat_eq_append, ← List.cons_append, ← List.append_assoc] at hq
      obtain ⟨rfl, -⟩ := List.append_inj' hq rfl
      refine .fetched (fun _ => ?_) (ho.awaits qs p more rfl)
      rw [hm.grown.depth]
      simp only [List.length_cons, List.length_append]
      omega

end LoopOrderly

lemma not_leave {setup : Setup} (hc : setup.Checked) {base : Context} {first : Push}
    {rest : List Push} {m : Machine} (hm : m.InCall setup base (first :: rest)) {st : Statement}
    {out : EStateM.Result Fault Machine Flow} (hd : Exec.dispatch setup st m = out)
    (hout : ∀ m', out ≠ .ok .returned m') : Action.ofOpcode st.op ≠ .leave := by
  intro hl
  obtain ⟨ps, p, hps⟩ := exists_concat first rest
  rw [hps] at hm
  exact hout _ (hd.symm.trans (hm.dispatch_leave hc hl))

def OrderlyOutcome (linked : Linked) : Activity → Recorded Machine → History → Prop
  | .loop _ exitDepth, s, h => ∀ base first rest, base.depth = exitDepth →
    s.state.InCall linked.setup base (first :: rest) →
    LoopOrderly linked.setup base first rest h
  | .call .., s, h | .builtin .., s, h | .host .., s, h =>
    s.state.AtHost linked.setup → History.Orderly linked.setup s.state.context.depth h

theorem Runs.orderly (hc : linked.setup.Checked) (hw : linked.setup.image.WindowsApart)
    {act : Activity} (hr : Runs linked act s h r s') : OrderlyOutcome linked act s h := by
  induction hr with
  | refused he => exact fun _ => .nil
  | @entered function caller s s' m h r he hl ih =>
    intro hs
    obtain ⟨entry, globals, -, rfl, hin⟩ := enter_ok hc hs he
    have ho := (ih _ _ _ (Context.beginCall_depth _) hin).orderly
    rw [Context.beginCall_depth] at ho
    exact ho.cons (by simp)
  | runaway hi => exact fun _ _ _ _ _ => .cons (by simp) .nil
  | fellOff hi hst => exact fun _ _ _ _ _ => .cons (by simp) .nil
  | @faulted caller exitDepth s st fault m hf hd =>
    intro base first rest hbase hs
    have hr := ready_inCall hs st
    exact .fetched hr (not_leave hc hr hd (by simp)) (by simp) List.prefix_rfl .nil
  | @advanced caller exitDepth s s' st m h r hf hd hl ih =>
    intro base first rest hbase hs
    have hr := ready_inCall hs st
    have hleave := not_leave hc hr hd (by simp)
    obtain ⟨tail, rfl⟩ := hl.loop_due
    have he := effect_of_ok hc (dispatched_sound hs hf) hd
    rcases pushes_cases hc hr (by simp) (fetches_lt hf) he with
      ⟨hp, hin⟩ | ⟨function, entry, globals, hfn, hb, hpush, hp, rfl, hin⟩
    · rw [hp]
      exact .fetched hr hleave (by simp) List.prefix_rfl (ih base first rest hbase hin)
    · rw [hp]
      have ho := ih base first _ hbase hin
      refine .fetched hr hleave ?_ (List.prefix_append _ _) (ho.cons (by simp))
      intro function' tail' he
      cases he
      exact (ho.awaits rest _ [] rfl).honours hc hw hr hfn hb hpush
  | @exited caller exitDepth s st m hf hd hx =>
    intro base first rest hbase hs
    have hr := ready_inCall hs st
    have he := effect_of_ok hc (dispatched_sound hs hf) hd
    obtain rfl := exited_rest hr he (hbase ▸ hx)
    exact .exited hr
  | @resumed caller exitDepth s s' st m h r hf hd hx hl ih =>
    intro base first rest hbase hs
    have hr := ready_inCall hs st
    have he := effect_of_ok hc (dispatched_sound hs hf) hd
    obtain ⟨rest', q, rfl, hin⟩ := resumed_inCall hr he (hbase ▸ hx)
    obtain ⟨tail, rfl⟩ := hl.loop_due
    refine .returned hr hin.grown.depth (fun hleave => ?_) (ih base first rest' hbase hin)
    have hr' : (ready linked.setup st s).state.InCall linked.setup base ((first :: rest') ++ [q]) :=
      hr
    cases hd.symm.trans (hr'.dispatch_leave hc hleave)
    rfl
  | @builtinFailed caller exitDepth s s' st m function argc h err hf hd hb ih =>
    intro base first rest hbase hs
    obtain rfl := builtin_eq (effect_of_ok hc (dispatched_sound hs hf) hd)
    have hr := ready_inCall hs st
    have ho := ih ⟨hr.sound, fun _ => fetches_lt hf⟩
    refine .fetched hr (not_leave hc hr hd (by simp)) ?_ List.prefix_rfl (.of_orderly hr ho)
    intro function' tail he
    exact absurd he (hb.builtin_ne_pushed function' _ tail)
  | @builtinReturned caller exitDepth s s' s'' st m function argc h h' r hf hd hb hl ihb ih =>
    intro base first rest hbase hs
    obtain rfl := builtin_eq (effect_of_ok hc (dispatched_sound hs hf) hd)
    have hr := ready_inCall hs st
    have hat : (ready linked.setup st s).state.AtHost linked.setup :=
      ⟨hr.sound, fun _ => fetches_lt hf⟩
    have hn : Neutral linked.setup _ _ _ := hb.outcome hc hat
    have hin := (hr.of_sameStack hn.atHost.toSound hn.stack).setStatement (fetches_lt hf)
    rw [ready_context] at hin
    have hdepth : (mapContext (·.setStatement (s.state.context.statement + 1))
      s').state.context.depth = (ready linked.setup st s).state.context.depth := hn.stack.depth_eq
    obtain ⟨tail, rfl⟩ := hl.loop_due
    refine .fetched hr (not_leave hc hr hd (by simp)) ?_ List.prefix_rfl
      (.append hr (ihb hat) hdepth (ih base first rest hbase hin))
    intro function' tail' he
    cases hb with
    | hosted => cases he
  | unbound hb => exact fun _ => .nil
  | unavailable hb hd => exact fun _ => .nil
  | @hosted caller function argc s s' s'' b h r r' hb hd hh hr ih =>
    intro hs
    exact (ih (Neutral.started hs function).atHost).cons (by simp)
  | done => exact fun _ => .nil
  | answered ht ha hh ih =>
    intro hs
    have hn := (answer_neutral hs ht ha).1
    have ho := ih hn.atHost
    rw [hn.stack.depth_eq] at ho
    exact ho.cons (by simp)
  | called hp hcall hh ihc ih =>
    intro hs
    have hn : Neutral linked.setup _ _ _ := hcall.outcome hc hs
    exact (ihc hs).nested (ih hn.atHost) hn.stack.depth_eq
  | executed hcall hh ihc ih =>
    intro hs
    have hn : Neutral linked.setup _ _ _ := hcall.outcome hc hs
    exact (ihc hs).nested (ih hn.atHost) hn.stack.depth_eq

end Call

/-- When a statement of the program has a function entered and the function returns later, however
much has run in between, the function has got its parameters at the start of its window, and the
caller goes on behind the call with its stack and the function's window as they were, and with the
returned value where results are left. -/
theorem Instance.calling_convention {i : Instance} (hi : i.Created)
    (hw : i.linked.setup.image.WindowsApart) {m₀ : Machine} (hm : i.Reaches m₀) (function : Nat)
    (caller : String) (journal : Journal) {before rest inner after : History}
    {st st' : Statement} {m m' : Machine} {callee : Nat}
    (hh : Call.history i.linked function caller ⟨m₀, journal⟩ =
      before ++ .dispatched st m :: .pushed callee m :: rest)
    (hr : History.Returns m.context.depth rest inner st' m' after) :
    ∃ entry, i.linked.setup.image.function? callee = some entry ∧ entry.isBuiltin = false ∧
      (∃ m₁ tail, inner = .due m₁ :: tail ∧ Machine.Entered entry m m₁) ∧
      ∃ m₂ tail, after = .due m₂ :: tail ∧ Machine.Resumed entry st'.a.toNat m m' m₂ := by
  have hs : (⟨m₀, journal⟩ : Recorded Machine).state.AtHost i.linked.setup := hi.reaches_atHost hm
  have hrun := Call.execute_runs hi.checked hs function caller
  have ho : History.Orderly i.linked.setup m₀.context.depth _ := hrun.orderly hi.checked hw hs
  exact ho.calls before st m callee rest hh inner st' m' after hr

/-! A function that calls itself as often as its parameter says, and then returns the parameter. -/

namespace Countdown

def functions : List FunctionEntry := [{},
  { first := 1, parmStart := 28, locals := 1, name := 1 },
  { first := 4, parmStart := 29, locals := 2, name := 6, numParms := 1,
    parmSizes := #v[1, 0, 0, 0, 0, 0, 0, 0] }]

def parts : Parts where
  entityCells := 1
  statements := #[⟨.done, 0, 0, 0⟩,
    ⟨.storeF, 32, 4, 0⟩, ⟨.call1, 31, 0, 0⟩, ⟨.done, 0, 0, 0⟩,
    ⟨.branchNot, 29, 3, 0⟩, ⟨.subI, 29, 33, 4⟩, ⟨.call1, 31, 0, 0⟩, ⟨.ret, 29, 0, 0⟩]
  globalDefs := #[]
  fieldDefs := #[]
  functions := functions.toArray
  strings := "\x00main\x00down\x00".toUTF8.toList.toArray
  globals := Array.replicate 29 0 ++ #[7, 8, 2, 2, 1]

def setup : Setup := Setup.ofImage .server (Image.ofParts parts) { maxInstructions := 100 }

def countdown : Instance where
  linked := ⟨setup, #[none, none, none]⟩
  machine := Machine.fresh setup 4 (Image.ofParts parts).parts.entityCells.toNat

lemma created : countdown.Created := by
  have hlt : parts.encode.length < 2 ^ 32 := by decide +kernel
  have hc : parts.check = .ok () := by decide +kernel
  have ho : Instance.optionsFlaw? (Image.ofParts parts) { entityCapacity := 4 } = none := by
    decide +kernel
  have hbind : BuiltinTable.empty.bind .server .strict (Image.ofParts parts) =
      .ok #[none, none, none] := rfl
  exact Instance.created_of_check hlt hc ho hbind

/-- The first function calls the second one, which calls itself twice before it returns. -/
theorem main_call_returns :
    countdown.Created ∧ setup.image.WindowsApart ∧ countdown.Reaches countdown.machine ∧
    ∃ before st m rest inner st' m' after,
      Call.history countdown.linked 1 "host" ⟨countdown.machine, #[]⟩ =
        before ++ .dispatched st m :: .pushed 2 m :: rest ∧
      History.Returns m.context.depth rest inner st' m' after ∧
      ∃ m₂ tail, after = .due m₂ :: tail ∧ m₂.context.statement = 3 ∧
        m₂.memory.globals.cells[29]? = some 7 ∧ m₂.memory.globals.cells[1]? = some 2 := by
  have hreach := countdown.reaches_machine
  have hw : setup.image.WindowsApart := by decide +kernel
  have hshape : (match (Call.history countdown.linked 1 "host" ⟨countdown.machine, #[]⟩).drop 4 with
      | x :: y :: rest => x.dispatch?.any fun ⟨_, m⟩ =>
        History.lastPush m.context.depth [y] = some (2, m) &&
          m.context.statement = 2 && m.memory.globals.cells[29]? = some 7 &&
          (rest.take 21).all (fun z => m.context.depth < z.machine.context.depth) &&
          (rest.drop 21).head?.any fun z => z.dispatch?.any fun ⟨st, m'⟩ =>
            st = ⟨.ret, 29, 0, 0⟩ && m'.context.depth = m.context.depth + 1 &&
              m'.memory.globals.cells.getD 29 0 = 2
      | [] | [_] => false) = true := by decide +kernel
  split at hshape
  case h_2 | h_3 => cases hshape
  case h_1 x y rest hcall =>
    obtain ⟨⟨st, m⟩, hx, hcalls⟩ := (Option.any_eq_true _ _).mp hshape
    simp only [Bool.and_eq_true, decide_eq_true_eq, List.all_eq_true] at hcalls
    obtain ⟨⟨⟨⟨hy, hst⟩, hcell⟩, hinside⟩, hreturns⟩ := hcalls
    obtain ⟨z, hz, hreturn⟩ := (Option.any_eq_true _ _).mp hreturns
    obtain ⟨⟨st', m'⟩, hz', hreturn⟩ := (Option.any_eq_true _ _).mp hreturn
    simp only [Bool.and_eq_true, decide_eq_true_eq] at hreturn
    obtain ⟨⟨rfl, hdepth⟩, hvalue⟩ := hreturn
    obtain ⟨after, hleave⟩ := List.head?_eq_some_iff.mp hz
    obtain rfl := Moment.dispatch?_eq_some hx
    obtain rfl := Moment.dispatch?_eq_some hz'
    obtain rfl : y = .pushed 2 m := by
      cases y with
      | pushed function m'' =>
        obtain ⟨-, rfl, rfl⟩ : _ ∧ function = 2 ∧ m'' = m := by simpa [History.lastPush] using hy
        rfl
      | _ => cases hy
    have hh : Call.history countdown.linked 1 "host" ⟨countdown.machine, #[]⟩ =
        (Call.history countdown.linked 1 "host" ⟨countdown.machine, #[]⟩).take 4 ++
          .dispatched st m :: .pushed 2 m :: rest := by
      rw [← hcall, List.take_append_drop]
    have hr : History.Returns m.context.depth rest (rest.take 21) ⟨.ret, 29, 0, 0⟩ m' after :=
      ⟨by rw [← hleave, List.take_append_drop], hinside, rfl, hdepth⟩
    obtain ⟨entry, hf, -, -, m₂, tail, htail, hres⟩ :=
      Instance.calling_convention created hw hreach 1 "host" #[] hh hr
    obtain rfl : functions[2] = entry := Option.some.inj hf
    refine ⟨created, hw, hreach, _, st, m, rest, _, _, m', after, hh, hr, m₂, tail, htail, ?_⟩
    refine ⟨?_, ?_, ?_⟩
    · rw [hres.statement, hst]
    · rw [hres.window 29 (by decide) (by decide), hcell]
    · exact (hres.result 0 (by decide)).trans (congrArg some hvalue)

end Countdown

end GameVm
