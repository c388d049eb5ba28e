import GameVm.Registry.BuiltinTable
import Mathlib.Tactic

/-! Linking: which builtins a program gets from a table, when it gets none, and why a table that has
grown gives it the same ones. -/

namespace GameVm

lemma Image.mem_builtins {image : Image} {function : Nat} {name : String} :
    (function, name) ∈ image.builtins ↔ ∃ entry, image.function? function = some entry ∧
      entry.isBuiltin = true ∧ image.functionName function = name := by
  simp only [builtins, List.mem_map, List.mem_filter, Prod.exists, Prod.mk.injEq,
    List.mem_zipIdx_iff_getElem?, Array.getElem?_toList, function?]
  constructor
  · rintro ⟨entry, index, ⟨he, hb⟩, rfl, rfl⟩
    exact ⟨entry, he, hb, rfl⟩
  · rintro ⟨entry, he, hb, rfl⟩
    exact ⟨entry, function, ⟨he, hb⟩, rfl, rfl⟩

namespace BuiltinTable

variable {t t' : BuiltinTable} {b : Builtin} {name : String}

def Distinct (t : BuiltinTable) : Prop := (t.entries.toList.map Builtin.name).Nodup

def Extends (t' t : BuiltinTable) : Prop := ∀ name b, t.get? name = some b → t'.get? name = some b

lemma get?_eq_none_iff : t.get? name = none ↔ ∀ b ∈ t.entries.toList, b.name ≠ name := by
  simp [get?]

lemma mem_of_get? (h : t.get? name = some b) : b ∈ t.entries.toList ∧ b.name = name := by
  rw [get?] at h
  exact ⟨Array.mem_def.mp (Array.mem_of_find?_eq_some h), by simpa using Array.find?_some h⟩

lemma Distinct.get?_of_mem (ht : t.Distinct) (hb : b ∈ t.entries.toList) :
    t.get? b.name = some b := by
  cases hg : t.get? b.name with
  | none => exact absurd rfl (get?_eq_none_iff.mp hg b hb)
  | some b' =>
    obtain ⟨hb', hn⟩ := mem_of_get? hg
    rw [List.inj_on_of_nodup_map ht hb' hb hn]

section Register

variable (h : t.register b = .ok t')

include h

lemma register_eq_ok : t.get? b.name = none ∧ t' = ⟨t.entries.push b⟩ := by
  rw [register] at h
  cases hr : t.refusal? b with
  | some reason =>
    rw [hr] at h
    cases h
  | none =>
    rw [hr] at h
    cases h
    refine ⟨?_, rfl⟩
    rw [refusal?] at hr
    split_ifs at hr with _ _ hg
    simpa using hg

lemma entries_register : t'.entries.toList = t.entries.toList ++ [b] := by
  obtain ⟨-, rfl⟩ := register_eq_ok h
  exact Array.toList_push

lemma Distinct.register (ht : t.Distinct) : t'.Distinct := by
  have hfree := get?_eq_none_iff.mp (register_eq_ok h).1
  rw [Distinct, entries_register h, List.map_append, List.map_singleton]
  refine List.nodup_append.mpr ⟨ht, List.nodup_singleton _, ?_⟩
  intro name hname other hother
  obtain ⟨b', hb', rfl⟩ := List.mem_map.mp hname
  rw [List.mem_singleton.mp hother]
  exact hfree b' hb'

lemma extends_register : t'.Extends t := by
  obtain ⟨-, rfl⟩ := register_eq_ok h
  intro name b' hb'
  rw [get?] at hb' ⊢
  rw [Array.find?_push, hb']
  rfl

end Register

variable {domain : Domain} {policy : BuiltinBinding} {err : VmError}

lemma resolve_eq_ok_iff : t.resolve domain policy name = .ok b ↔
    t.get? name = some b ∧ (b.domains.contains domain = true ∨ policy = .deferred) := by
  rw [resolve]
  cases hg : t.get? name with
  | none => simp
  | some b' =>
    dsimp only
    split_ifs with hd
    · constructor
      · rintro ⟨⟩
        exact ⟨rfl, hd⟩
      · rintro ⟨⟨⟩, -⟩
        rfl
    · constructor
      · rintro ⟨⟩
      · rintro ⟨⟨⟩, hd'⟩
        exact absurd hd' hd

lemma resolve_eq_error (h : t.resolve domain policy name = .error err) :
    ∃ reason, err = .unresolvedBuiltin domain name reason := by
  rw [resolve] at h
  cases hg : t.get? name with
  | none =>
    rw [hg] at h
    cases h
    exact ⟨_, rfl⟩
  | some b =>
    simp only [hg] at h
    split_ifs at h
    cases h
    exact ⟨_, rfl⟩

lemma Extends.resolve (he : t'.Extends t) (h : t.resolve domain policy name = .ok b) :
    t'.resolve domain policy name = .ok b := by
  obtain ⟨hg, hd⟩ := resolve_eq_ok_iff.mp h
  exact resolve_eq_ok_iff.mpr ⟨he name b hg, hd⟩

lemma resolve_fails_iff (ht : t.Distinct) : (∀ b, t.resolve domain policy name ≠ .ok b) ↔
    ∀ b ∈ t.entries.toList, b.name = name →
      b.domains.contains domain = false ∧ policy ≠ .deferred := by
  constructor
  · rintro h b hb rfl
    have hn := mt resolve_eq_ok_iff.mpr (h b)
    simpa only [ht.get?_of_mem hb, true_and, not_or, Bool.not_eq_true] using hn
  · intro h b hb
    obtain ⟨hg, hd⟩ := resolve_eq_ok_iff.mp hb
    obtain ⟨hmem, hn⟩ := mem_of_get? hg
    obtain ⟨hc, hp⟩ := h b hmem hn
    rcases hd with hd | hd
    · rw [hc] at hd
      cases hd
    · exact hp hd

def Links (t : BuiltinTable) (domain : Domain) (policy : BuiltinBinding) (name : String)
    (entry : FunctionEntry) : Option Builtin → Prop
  | some b => entry.isBuiltin = true ∧ t.resolve domain policy name = .ok b
  | none => entry.isBuiltin = false

section Bind

variable {image : Image} {bound bound' : Array (Option Builtin)} {entries : List FunctionEntry}
  {index : Nat}

lemma bindFrom_cons {entry : FunctionEntry} {place : Option Builtin}
    (h : t.Links domain policy (image.functionName index) entry place) :
    t.bindFrom domain policy image index bound (entry :: entries) =
      t.bindFrom domain policy image (index + 1) (bound.push place) entries := by
  rw [bindFrom]
  cases place with
  | none =>
    rw [Links] at h
    simp only [h, Bool.false_eq_true, if_false]
    rfl
  | some b =>
    rw [if_pos h.1, h.2]
    rfl

lemma bindFrom_refused {entry : FunctionEntry} (he : entry.isBuiltin = true)
    (h : t.resolve domain policy (image.functionName index) = .error err) :
    t.bindFrom domain policy image index bound (entry :: entries) = .error err := by
  rw [bindFrom, if_pos he, h]
  rfl

lemma links_or_refused (t : BuiltinTable) (domain : Domain) (policy : BuiltinBinding)
    (name : String) (entry : FunctionEntry) :
    (∃ place, t.Links domain policy name entry place) ∨
      entry.isBuiltin = true ∧ ∃ err, t.resolve domain policy name = .error err := by
  cases he : entry.isBuiltin with
  | false => exact .inl ⟨none, he⟩
  | true =>
    cases hr : t.resolve domain policy name with
    | ok b => exact .inl ⟨some b, he, hr⟩
    | error err => exact .inr ⟨rfl, err, rfl⟩

lemma bindFrom_eq_ok (h : t.bindFrom domain policy image index bound entries = .ok bound') :
    ∃ places : List (Option Builtin), bound'.toList = bound.toList ++ places ∧
      places.length = entries.length ∧ ∀ k entry, entries[k]? = some entry →
        ∃ place, places[k]? = some place ∧
          t.Links domain policy (image.functionName (index + k)) entry place := by
  induction entries generalizing index bound with
  | nil =>
    cases h
    exact ⟨[], by simp, rfl, by simp⟩
  | cons entry entries ih =>
    rcases links_or_refused t domain policy (image.functionName index) entry with
      ⟨place, hl⟩ | ⟨he, err, hr⟩
    · rw [bindFrom_cons hl] at h
      obtain ⟨places, hp, hlen, hk⟩ := ih h
      refine ⟨place :: places, by simpa using hp, congrArg (· + 1) hlen, fun k e he => ?_⟩
      cases k with
      | zero =>
        cases he
        exact ⟨place, rfl, hl⟩
      | succ k =>
        obtain ⟨place', hp', hl'⟩ := hk k e he
        rw [Nat.add_assoc, Nat.add_comm 1] at hl'
        exact ⟨place', hp', hl'⟩
    · rw [bindFrom_refused he hr] at h
      cases h

lemma bindFrom_eq_error (h : t.bindFrom domain policy image index bound entries = .error err) :
    ∃ k entry, entries[k]? = some entry ∧ entry.isBuiltin = true ∧
      t.resolve domain policy (image.functionName (index + k)) = .error err := by
  induction entries generalizing index bound with
  | nil => cases h
  | cons entry entries ih =>
    rcases links_or_refused t domain policy (image.functionName index) entry with
      ⟨place, hl⟩ | ⟨he, err', hr⟩
    · rw [bindFrom_cons hl] at h
      obtain ⟨k, e, hk, he, hr⟩ := ih h
      rw [Nat.add_assoc, Nat.add_comm 1] at hr
      exact ⟨k + 1, e, hk, he, hr⟩
    · rw [bindFrom_refused he hr] at h
      cases h
      exact ⟨0, entry, rfl, he, hr⟩

lemma Extends.links (he : t'.Extends t) {entry : FunctionEntry} {place : Option Builtin}
    (h : t.Links domain policy name entry place) : t'.Links domain policy name entry place := by
  cases place with
  | none => exact h
  | some b => exact ⟨h.1, he.resolve h.2⟩

lemma Extends.bindFrom (he : t'.Extends t)
    (h : t.bindFrom domain policy image index bound entries = .ok bound') :
    t'.bindFrom domain policy image index bound entries = .ok bound' := by
  induction entries generalizing index bound with
  | nil => exact h
  | cons entry entries ih =>
    rcases links_or_refused t domain policy (image.functionName index) entry with
      ⟨place, hl⟩ | ⟨hb, err, hr⟩
    · rw [bindFrom_cons hl] at h
      rw [bindFrom_cons (he.links hl)]
      exact ih h
    · rw [bindFrom_refused hb hr] at h
      cases h

theorem Extends.bind (he : t'.Extends t) (h : t.bind domain policy image = .ok bound) :
    t'.bind domain policy image = .ok bound :=
  he.bindFrom h

lemma links_of_bind (h : t.bind domain policy image = .ok bound) {function : Nat}
    {entry : FunctionEntry} (he : image.function? function = some entry) :
    ∃ place, bound[function]? = some place ∧
      t.Links domain policy (image.functionName function) entry place := by
  obtain ⟨places, hp, -, hk⟩ := bindFrom_eq_ok h
  rw [Image.function?, ← Array.getElem?_toList] at he
  obtain ⟨place, hplace, hl⟩ := hk function entry he
  refine ⟨place, ?_, by simpa using hl⟩
  rw [← Array.getElem?_toList, hp]
  simpa using hplace

lemma declared_of_bound (h : t.bind domain policy image = .ok bound) {function : Nat}
    (hb : bound[function]? = some (some b)) :
    (function, image.functionName function) ∈ image.builtins ∧
      t.resolve domain policy (image.functionName function) = .ok b := by
  obtain ⟨places, hp, hlen, -⟩ := bindFrom_eq_ok h
  have hlt : function < image.parts.functions.size := by
    obtain ⟨hlt, -⟩ := Array.getElem?_eq_some_iff.mp hb
    rw [← Array.length_toList, hp] at hlt
    simpa [hlen] using hlt
  have he : image.function? function = some image.parts.functions[function] :=
    Array.getElem?_eq_getElem hlt
  obtain ⟨place, hplace, hl⟩ := links_of_bind h he
  rw [hb] at hplace
  cases hplace
  exact ⟨Image.mem_builtins.mpr ⟨_, he, hl.1, rfl⟩, hl.2⟩

theorem bind_fails_iff : (∃ err, t.bind domain policy image = .error err) ↔
    ∃ p ∈ image.builtins, ∀ b, t.resolve domain policy p.2 ≠ .ok b := by
  constructor
  · rintro ⟨err, h⟩
    obtain ⟨k, entry, hk, he, hr⟩ := bindFrom_eq_error h
    rw [Array.getElem?_toList] at hk
    rw [Nat.zero_add] at hr
    refine ⟨(k, image.functionName k), Image.mem_builtins.mpr ⟨entry, hk, he, rfl⟩, fun b => ?_⟩
    rw [hr]
    nofun
  · rintro ⟨⟨function, name⟩, hp, hr⟩
    obtain ⟨entry, hf, he, rfl⟩ := Image.mem_builtins.mp hp
    cases hb : t.bind domain policy image with
    | error err => exact ⟨err, rfl⟩
    | ok bound =>
      obtain ⟨place, -, hl⟩ := links_of_bind hb hf
      cases place with
      | none =>
        rw [Links, he] at hl
        cases hl
      | some b => exact absurd hl.2 (hr b)

lemma bind_eq_error (h : t.bind domain policy image = .error err) :
    ∃ name reason, err = .unresolvedBuiltin domain name reason := by
  obtain ⟨k, entry, -, -, hr⟩ := bindFrom_eq_error h
  obtain ⟨reason, rfl⟩ := resolve_eq_error hr
  exact ⟨_, reason, rfl⟩

end Bind

end BuiltinTable

end GameVm
