import GameVm.Proofs.PendingFaults

/-! The budget of a call: how many statements it dispatches, and what happens when none is left. -/

namespace GameVm

def Moment.Uncounted : Moment → Prop
  | .due _ | .dispatched .. => False
  | _ => True

namespace History

def dispatches (h : History) : Nat := h.countP (·.dispatch?.isSome)

lemma dispatches_append (h h' : History) : dispatches (h ++ h') = dispatches h + dispatches h' :=
  List.countP_append ..

lemma dispatches_of_uncounted {moment : Moment} (hm : moment.Uncounted) (h : History) :
    dispatches (moment :: h) = dispatches h := by
  cases moment with
  | due m => cases hm
  | dispatched st m => cases hm
  | _ => rfl

/-- Each statement that is due is counted, from `n` up to `n'`, and dispatched only if the limit
allows one more. -/
inductive Metered (limit : Nat) : Nat → History → Nat → Prop
  | nil (n : Nat) : Metered limit n [] n
  | uncounted {n n' : Nat} {moment : Moment} {h : History} (hm : moment.Uncounted)
      (ht : Metered limit n h n') : Metered limit n (moment :: h) n'
  | refused {n' : Nat} {m : Machine} {h : History}
      (ht : Metered limit (m.context.instructions + 1) h n') :
      Metered limit m.context.instructions (.due m :: h) n'
  | counted {n' : Nat} {m m' : Machine} {st : Statement} {h : History}
      (hl : m.context.instructions < limit)
      (ht : Metered limit (m.context.instructions + 1) h n') :
      Metered limit m.context.instructions (.due m :: .dispatched st m' :: h) n'

namespace Metered

variable {limit n n' n'' : Nat} {h h' : History}

lemma of_eq (hn : n = n') : Metered limit n [] n' := hn ▸ .nil n

lemma trans (ht : Metered limit n h n') (ht' : Metered limit n' h' n'') :
    Metered limit n (h ++ h') n'' := by
  induction ht with
  | nil n => exact ht'
  | uncounted hm _ ih => exact .uncounted hm (ih ht')
  | refused _ ih => exact .refused (ih ht')
  | counted hl _ ih => exact .counted hl (ih ht')

end Metered

end History

namespace Call

variable {linked : Linked}

def exhaustion (setup : Setup) (m : Machine) : RuntimeError :=
  .runaway (setup.image.functionName m.context.currentFunction) m.context.statement
    setup.settings.maxInstructions

/-- If a statement is due that the limit does not allow, that is the next fault of the history, or
the history ends there and this is its `result`. -/
def Exhausts (setup : Setup) (result : Option RuntimeError) (h : History) : Prop :=
  ∀ before m after, h = before ++ .due m :: after →
    setup.settings.maxInstructions ≤ m.context.instructions →
    History.firstFault after = some (exhaustion setup m) ∨
      after = [] ∧ result = some (exhaustion setup m)

namespace Exhausts

variable {setup : Setup} {result result' : Option RuntimeError} {h h' : History}

lemma nil : Exhausts setup result [] := by
  intro before m after hh
  simp at hh

lemma cons {moment : Moment}
    (hm : ∀ m, moment = .due m → m.context.instructions < setup.settings.maxInstructions)
    (hx : Exhausts setup result h) : Exhausts setup result (moment :: h) := by
  intro before m after hh hl
  cases before with
  | nil =>
    cases hh
    exact absurd (hm m rfl) hl.not_gt
  | cons x before =>
    cases hh
    exact hx before m after rfl hl

lemma append (hx : Exhausts setup result h) (hx' : Exhausts setup result' h')
    (hr : ∀ err, result = some err → History.firstFault h' = some err) :
    Exhausts setup result' (h ++ h') := by
  intro before m after hh hl
  rcases List.append_eq_append_iff.mp hh with ⟨rest, rfl, hrest⟩ | ⟨rest, rfl, hrest⟩
  · exact hx' rest m after hrest hl
  · cases rest with
    | nil => exact hx' [] m after hrest.symm hl
    | cons x rest =>
      obtain ⟨rfl, rfl⟩ : .due m = x ∧ after = rest ++ h' := by simpa using hrest
      left
      rw [History.firstFault_append]
      rcases hx before m rest rfl hl with hf | ⟨rfl, he⟩
      · rw [hf]
        rfl
      · exact hr _ he

lemma of_none (hx : Exhausts setup none h) : Exhausts setup result h := by
  intro before m after hh hl
  rcases hx before m after hh hl with hf | ⟨-, he⟩
  · exact .inl hf
  · cases he

lemma fetched {st : Statement} {s : Recorded Machine} (hf : Fetches linked s st)
    (hx : Exhausts linked.setup result h) : Exhausts linked.setup result
      (.due s.state :: .dispatched st (ready linked.setup st s).state :: h) := by
  apply cons
  · rintro m ⟨⟩
    exact hf.1
  · exact cons (by simp) hx

lemma nested {op : HostOp} {r : Except VmError Unit} {m m' : Machine}
    (hx : Exhausts setup (fault? r) h) (hx' : Exhausts setup none h') :
    Exhausts setup none (.asked op m :: (h ++ .ended r m' :: h')) := by
  apply cons (by simp)
  apply hx.append (cons (by simp) hx')
  intro err he
  rw [History.firstFault_ended, he]
  rfl

end Exhausts

def Activity.fault? : Activity → Except VmError Unit → Option RuntimeError
  | .call .., r | .loop .., r => Call.fault? r
  | .builtin .., _ | .host .., _ => none

section Outermost

variable {function : Nat} {caller : String} {s s' : Recorded Machine} {h : History}
  {r : Except VmError Unit}

end Outermost

end Call

namespace Relay

end Relay

end GameVm
