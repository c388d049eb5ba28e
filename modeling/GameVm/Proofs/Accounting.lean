import GameVm.Proofs.Counters
import GameVm.Proofs.FaultTraces
import GameVm.Proofs.Lifetimes

/-! The count of statements and the counters of the functions tell the same story of a call: they
differ by one when a statement was due and could not be dispatched, and agree otherwise. -/

namespace GameVm

def Moment.isDue : Moment → Bool
  | .due _ => true
  | _ => false

def RuntimeError.undispatched : RuntimeError → Bool
  | .runaway .. | .execution ⟨.statementOutOfRange _, _, _, _⟩ => true
  | .execution _ | .abort _ => false

namespace History

def dues (h : History) : Nat := h.countP (·.isDue)

lemma dues_append (h h' : History) : dues (h ++ h') = dues h + dues h' := List.countP_append ..

lemma dues_of_uncounted {moment : Moment} (hm : moment.Uncounted) (h : History) :
    dues (moment :: h) = dues h := by
  cases moment with
  | due m => cases hm
  | _ => rfl

namespace Metered

variable {limit n n' : Nat} {h : History}

end Metered

/-- Every statement that was due has been dispatched, but for the one that the error tells of. That
of a runaway call was due when the limit was reached. -/
structure Balanced (limit : Nat) (err : Option RuntimeError) (h : History) : Prop where
  dues : h.dues = h.dispatches + (err.any (·.undispatched)).toNat
  exhausted : ∀ function statement n, err = some (.runaway function statement n) →
    ∃ m, .due m ∈ h ∧ limit ≤ m.context.instructions

namespace Balanced

variable {limit : Nat} {err err' : Option RuntimeError} {h h' : History}

lemma of_none (hb : Balanced limit none h) (he : err.any (·.undispatched) = false) :
    Balanced limit err h where
  dues := by
    rw [hb.dues, he]
    rfl
  exhausted := by
    rintro function statement n rfl
    cases he

lemma nil (he : err.any (·.undispatched) = false) : Balanced limit err [] :=
  of_none ⟨rfl, by simp⟩ he

lemma cons {moment : Moment} (hm : moment.Uncounted) (hb : Balanced limit err h) :
    Balanced limit err (moment :: h) where
  dues := by rw [dues_of_uncounted hm, dispatches_of_uncounted hm, hb.dues]
  exhausted := by
    intro function statement n he
    obtain ⟨m, hmem, hl⟩ := hb.exhausted function statement n he
    exact ⟨m, List.mem_cons_of_mem _ hmem, hl⟩

lemma append (hb : Balanced limit err h) (hb' : Balanced limit err' h')
    (hn : err = none ∨ err' = none) : Balanced limit (err.or err') (h ++ h') where
  dues := by
    rw [dues_append, dispatches_append, hb.dues, hb'.dues]
    rcases hn with rfl | rfl <;> simp <;> omega
  exhausted := by
    intro function statement n he
    rcases Option.or_eq_some_iff.mp he with he | ⟨-, he⟩
    · obtain ⟨m, hmem, hl⟩ := hb.exhausted function statement n he
      exact ⟨m, List.mem_append_left _ hmem, hl⟩
    · obtain ⟨m, hmem, hl⟩ := hb'.exhausted function statement n he
      exact ⟨m, List.mem_append_right _ hmem, hl⟩

lemma dispatched (st : Statement) (m m' : Machine) :
    Balanced limit none [.due m, .dispatched st m'] := ⟨rfl, by simp⟩

lemma fetched {st : Statement} {m m' : Machine} (hb : Balanced limit err h) :
    Balanced limit err (.due m :: .dispatched st m' :: h) :=
  (dispatched st m m').append hb (.inl rfl)

end Balanced

end History

namespace Call

variable {linked : Linked} {act act' : Activity} {s s' : Recorded Machine} {h h' : History}
  {r r' : Except VmError Unit}

/-- Where code of the host ends with a runtime error in the course of the activity and none is
pending, it has asked to abort. -/
def Candid (linked : Linked) (act : Activity) (s : Recorded Machine) : Prop :=
  ∀ h label err s', Leads linked act s h (.host label (.done (.error (.runtime err)))) s' →
    s'.state.context.pending = none → ∃ text, err = .abort text

lemma Candid.stage (hw : Candid linked act s) (hp : Proceeds linked act s h act' s') :
    Candid linked act' s' :=
  fun _ label err s'' hl => hw _ label err s'' (hl.head hp)

lemma Candid.undispatched {label : String} {code : Host (Except VmError Unit)}
    (hw : Candid linked (.host label code) s) (hr : Runs linked (.host label code) s h r s')
    (hp : s'.state.context.pending = none) : (fault? r).any (·.undispatched) = false := by
  cases r with
  | ok u => rfl
  | error err =>
    cases err with
    | runtime err =>
      obtain ⟨text, rfl⟩ := hw h label err s' hr.leads_done hp
      rfl
    | _ => rfl

end Call

namespace Instance

variable {i : Instance} {m : Machine}

end Instance

namespace Relay

end Relay

end GameVm
