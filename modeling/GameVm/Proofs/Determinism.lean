import GameVm.Proofs.Adequacy

/-! Runs are determined by what is carried out and by the machine it starts from. -/

namespace GameVm.Call

variable {linked : Linked} {fuel : Nat} {s s' : Recorded Machine} {h : History}
  {r : Except VmError Unit}

lemma Fetches.unique {st st' : Statement} (hf : Fetches linked s st) (hf' : Fetches linked s st') :
    st = st' := by
  simpa using hf.2.symm.trans hf'.2

theorem Runs.unique {act : Activity} {s s₁ s₂ : Recorded Machine} {h₁ h₂ : History}
    {r₁ r₂ : Except VmError Unit} (hr₁ : Runs linked act s h₁ r₁ s₁)
    (hr₂ : Runs linked act s h₂ r₂ s₂) : h₁ = h₂ ∧ r₁ = r₂ ∧ s₁ = s₂ := by
  -- A rule that does not fit the other run disagrees with it about the limit, about the statement
  -- or about what the statement does.
  induction hr₁ generalizing h₂ r₂ s₂ with
  | refused he =>
    cases hr₂ with
    | refused he' =>
      cases he.symm.trans he'
      exact ⟨rfl, rfl, rfl⟩
    | entered he' hl => cases he.symm.trans he'
  | entered he hl ih =>
    cases hr₂ with
    | refused he' => cases he.symm.trans he'
    | entered he' hl' =>
      cases he.symm.trans he'
      obtain ⟨rfl, rfl, rfl⟩ := ih hl'
      exact ⟨rfl, rfl, rfl⟩
  | runaway hi =>
    cases hr₂ with
    | runaway hi' => exact ⟨rfl, rfl, rfl⟩
    | _ => grind [Fetches]
  | fellOff hi hs =>
    cases hr₂ with
    | fellOff hi' hs' => exact ⟨rfl, rfl, rfl⟩
    | _ => grind [Fetches]
  | faulted hf hd =>
    cases hr₂ with
    | faulted hf' hd' =>
      obtain rfl := hf.unique hf'
      cases hd.symm.trans hd'
      exact ⟨rfl, rfl, rfl⟩
    | _ => grind [Fetches]
  | advanced hf hd hl ih =>
    cases hr₂ with
    | advanced hf' hd' hl' =>
      obtain rfl := hf.unique hf'
      cases hd.symm.trans hd'
      obtain ⟨rfl, rfl, rfl⟩ := ih hl'
      exact ⟨rfl, rfl, rfl⟩
    | _ => grind [Fetches]
  | exited hf hd hx =>
    cases hr₂ with
    | exited hf' hd' hx' =>
      obtain rfl := hf.unique hf'
      cases hd.symm.trans hd'
      exact ⟨rfl, rfl, rfl⟩
    | _ => grind [Fetches]
  | resumed hf hd hx hl ih =>
    cases hr₂ with
    | resumed hf' hd' hx' hl' =>
      obtain rfl := hf.unique hf'
      cases hd.symm.trans hd'
      obtain ⟨rfl, rfl, rfl⟩ := ih hl'
      exact ⟨rfl, rfl, rfl⟩
    | _ => grind [Fetches]
  | builtinFailed hf hd hb ih =>
    cases hr₂ with
    | builtinFailed hf' hd' hb' =>
      obtain rfl := hf.unique hf'
      cases hd.symm.trans hd'
      obtain ⟨rfl, he, rfl⟩ := ih hb'
      cases he
      exact ⟨rfl, rfl, rfl⟩
    | builtinReturned hf' hd' hb' hl' =>
      obtain rfl := hf.unique hf'
      cases hd.symm.trans hd'
      cases (ih hb').2.1
    | _ => grind [Fetches]
  | builtinReturned hf hd hb hl ihb ih =>
    cases hr₂ with
    | builtinFailed hf' hd' hb' =>
      obtain rfl := hf.unique hf'
      cases hd.symm.trans hd'
      cases (ihb hb').2.1
    | builtinReturned hf' hd' hb' hl' =>
      obtain rfl := hf.unique hf'
      cases hd.symm.trans hd'
      obtain ⟨rfl, -, rfl⟩ := ihb hb'
      obtain ⟨rfl, rfl, rfl⟩ := ih hl'
      exact ⟨rfl, rfl, rfl⟩
    | _ => grind [Fetches]
  | unbound hb =>
    cases hr₂ with
    | unbound hb' => exact ⟨rfl, rfl, rfl⟩
    | _ => grind
  | unavailable hb hd =>
    cases hr₂ with
    | unavailable hb' hd' =>
      cases hb.symm.trans hb'
      exact ⟨rfl, rfl, rfl⟩
    | _ => grind
  | hosted hb hd hh hr ih =>
    cases hr₂ with
    | hosted hb' hd' hh' hr' =>
      cases hb.symm.trans hb'
      obtain ⟨rfl, rfl, rfl⟩ := ih hh'
      cases hr.symm.trans hr'
      exact ⟨rfl, rfl, rfl⟩
    | _ => grind
  | done =>
    cases hr₂ with
    | done => exact ⟨rfl, rfl, rfl⟩
  | answered ht ha hh ih =>
    cases hr₂ with
    | answered ht' ha' hh' =>
      cases ha.symm.trans ha'
      obtain ⟨rfl, rfl, rfl⟩ := ih hh'
      exact ⟨rfl, rfl, rfl⟩
    | called hp hc hh => simp [target?, hp] at ht
    | executed hc hh => cases ht
  | called hp hc hh ihc ih =>
    cases hr₂ with
    | answered ht ha hh => simp [target?, hp] at ht
    | called hp' hc' hh' =>
      obtain ⟨rfl, rfl, rfl⟩ := ihc hc'
      obtain ⟨rfl, rfl, rfl⟩ := ih hh'
      exact ⟨rfl, rfl, rfl⟩
  | executed hc hh ihc ih =>
    cases hr₂ with
    | answered ht ha hh => cases ht
    | executed hc' hh' =>
      obtain ⟨rfl, rfl, rfl⟩ := ihc hc'
      obtain ⟨rfl, rfl, rfl⟩ := ih hh'
      exact ⟨rfl, rfl, rfl⟩

theorem Runs.eq_execute (hc : linked.setup.Checked) (hs : s.state.AtHost linked.setup)
    {function : Nat} {caller : String} (hr : Runs linked (.call function caller) s h r s') :
    history linked function caller s = h ∧ settle (execute linked function caller) s = (r, s') := by
  obtain ⟨hh, hr, hs'⟩ := (execute_runs hc hs function caller).unique hr
  exact ⟨hh, Prod.ext hr hs'⟩

/-- A nested call has what is left of the budget of the call it stands in, and does the same as a
call with a budget of its own. -/
theorem nested_eq_execute (hc : linked.setup.Checked) (hs : s.state.AtHost linked.setup)
    (hpos : 0 < s.state.context.activeCalls) (hf : Enough linked fuel s) (function : Nat)
    (caller : String) :
    settle (framed linked.setup (loop linked fuel) function caller) s =
      settle (execute linked function caller) s := by
  have hrun := (loopsRun hc fuel).nested hc function caller s hs hpos hf
  exact (hrun.eq_execute hc hs).2.symm

end GameVm.Call
