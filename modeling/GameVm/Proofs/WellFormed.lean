import GameVm.Program.Image
import Mathlib.Tactic

/-! What it means for the contents of an image to pass the checks. -/

namespace GameVm.Parts

def Named (p : Parts) (offset : Int32) : Prop :=
  0 ≤ offset ∧ offset.toInt < p.strings.size

def DefinitionFits (p : Parts) (limit : Nat) (d : Definition) : Prop :=
  p.Named d.name ∧ d.offset.toNat + d.type.cells ≤ limit

structure FunctionFits (p : Parts) (index : Nat) (f : FunctionEntry) : Prop where
  first : index ≠ 0 → f.first.toInt.toNat < p.statements.size
  window : f.parmStart.toNat + f.locals.toNat ≤ p.globals.size
  count : f.numParms.toNat ≤ Slots.maxParms
  sizes : ∀ size ∈ f.parms, size = 1 ∨ size = 3
  total : f.parmCells ≤ f.locals.toNat

def OperandFits (p : Parts) (index : Nat) (value : UInt16) : OperandKind → Prop
  | .unused => True
  | .cell => value.toNat < p.globals.size
  | .vector => value.toNat + 2 < p.globals.size
  | .jump => ∃ target, jumpTarget? index value.toInt16 = some target ∧ target < p.statements.size

structure StatementFits (p : Parts) (index : Nat) (st : Statement) : Prop where
  a : p.OperandFits index st.a st.op.kinds.a
  b : p.OperandFits index st.b st.op.kinds.b
  c : p.OperandFits index st.c st.op.kinds.c

structure WellFormed (p : Parts) : Prop where
  blob : p.strings[0]? = some 0 ∧ p.strings.back? = some 0
  reserved : Slots.reserved ≤ p.globals.size
  nullEntry : p.functions.isEmpty = false
  globalDefs : ∀ d ∈ p.globalDefs.toList, p.DefinitionFits p.globals.size d
  fieldDefs : ∀ d ∈ p.fieldDefs.toList, p.DefinitionFits p.entityCells.toNat d
  functions : ∀ i f, p.functions[i]? = some f →
    p.Named f.name ∧ p.Named f.file ∧ (f.isBuiltin = false → p.FunctionFits i f)
  statements : ∀ i st, p.statements[i]? = some st → p.StatementFits i st

lemma bind_eq_ok_iff {α β : Type} (x : Except FormatError α) (f : α → Except FormatError β)
    (b : β) : (x >>= f) = .ok b ↔ ∃ a, x = .ok a ∧ f a = .ok b := by
  cases x <;> simp [bind, Except.bind]

lemma refuse_eq_ok_iff {α : Type} {c : Prop} [Decidable c] (err : FormatError)
    (y : Except FormatError α) (a : α) :
    (if c then throw err else y) = .ok a ↔ ¬ c ∧ y = .ok a := by
  by_cases hc : c <;> simp [hc, throw, throwThe, MonadExceptOf.throw]

lemma refuse_bind_eq_ok_iff {α : Type} {c : Prop} [Decidable c] (err : FormatError)
    (x : PUnit → Except FormatError α) (y : Except FormatError α) (a : α) :
    (if c then throw err >>= x else y) = .ok a ↔ ¬ c ∧ y = .ok a :=
  refuse_eq_ok_iff err y a

lemma checkEach_eq_ok_iff {α : Type} (check : Nat → α → Except FormatError Unit) (index : Nat)
    (as : List α) :
    checkEach check index as = .ok () ↔ ∀ i a, as[i]? = some a → check (index + i) a = .ok () := by
  induction as generalizing index with
  | nil => simp [checkEach]
  | cons a as ih =>
    simp only [checkEach, bind_eq_ok_iff, Unique.exists_iff, PUnit.default_eq_unit, ih]
    constructor
    · rintro ⟨ha, has⟩ i b hb
      cases i with
      | zero => simpa using (by simpa using hb : a = b) ▸ ha
      | succ i => simpa [Nat.add_assoc, Nat.add_comm 1] using has i b (by simpa using hb)
    · intro h
      refine ⟨by simpa using h 0 a rfl, fun i b hb => ?_⟩
      simpa [Nat.add_assoc, Nat.add_comm 1] using h (i + 1) b (by simpa using hb)

lemma checkStrings_eq_ok_iff (p : Parts) :
    p.checkStrings = .ok () ↔ p.strings[0]? = some 0 ∧ p.strings.back? = some 0 := by
  rw [checkStrings]
  split <;> simp_all

lemma checkName_eq_ok_iff (p : Parts) (offset : Int32) :
    p.checkName offset = .ok () ↔ p.Named offset := by
  rw [checkName, Named]
  split <;> simp_all

lemma checkDefinition_eq_ok_iff (p : Parts) (table : SymbolKind) (limit : Nat) (d : Definition) :
    p.checkDefinition table limit d = .ok () ↔ p.DefinitionFits limit d := by
  simp only [checkDefinition, bind_eq_ok_iff, Unique.exists_iff, PUnit.default_eq_unit,
    checkName_eq_ok_iff, refuse_eq_ok_iff, not_lt, DefinitionFits, pure, Except.pure, and_true]

lemma functionFlaw?_eq_none_iff (p : Parts) (index : Nat) (f : FunctionEntry) :
    p.functionFlaw? index f = none ↔ p.FunctionFits index f := by
  rw [functionFlaw?]
  constructor
  · intro h
    split_ifs at h with h₁ h₂ h₃ h₄ h₅
    refine ⟨fun hi => ?_, by omega, by omega, ?_, by omega⟩
    · by_contra hf
      exact h₁ ⟨by omega, hi⟩
    · intro size hs
      simpa using List.all_eq_true.mp h₄ size hs
  · rintro ⟨h₁, h₂, h₃, h₄, h₅⟩
    rw [if_neg (fun h => absurd (h₁ h.2) (by omega)), if_neg (by omega), if_neg (by omega),
      if_neg (not_not.mpr (List.all_eq_true.mpr (by simpa using h₄))), if_neg (by omega)]

lemma functionFits_null (p : Parts) : p.FunctionFits 0 {} where
  first hi := absurd rfl hi
  window := Nat.zero_le _
  count := Nat.zero_le _
  sizes := by simp [FunctionEntry.parms]
  total := Nat.le_refl 0

lemma checkFunction_eq_ok_iff (p : Parts) (index : Nat) (f : FunctionEntry) :
    p.checkFunction index f = .ok () ↔
      p.Named f.name ∧ p.Named f.file ∧ (f.isBuiltin = false → p.FunctionFits index f) := by
  simp only [checkFunction, bind_eq_ok_iff, Unique.exists_iff, PUnit.default_eq_unit,
    checkName_eq_ok_iff, ← functionFlaw?_eq_none_iff]
  cases f.isBuiltin <;> cases p.functionFlaw? index f <;>
    simp [throw, throwThe, MonadExceptOf.throw, pure, Except.pure]

lemma checkOperand_eq_ok_iff (p : Parts) (index : Nat) (op : Opcode) (letter : Char)
    (value : UInt16) (kind : OperandKind) :
    p.checkOperand index op letter value kind = .ok () ↔ p.OperandFits index value kind := by
  cases kind with
  | unused => simp [checkOperand, OperandFits]
  | cell => simp only [checkOperand, OperandFits]; split <;> simp_all
  | vector => simp only [checkOperand, OperandFits]; split <;> simp_all
  | jump =>
    simp only [checkOperand, OperandFits]
    cases jumpTarget? index value.toInt16 with
    | none => simp
    | some target => simp only [Option.some.injEq, exists_eq_left']; split <;> simp_all

lemma checkStatement_eq_ok_iff (p : Parts) (index : Nat) (st : Statement) :
    p.checkStatement index st = .ok () ↔ p.StatementFits index st := by
  simp only [checkStatement, bind_eq_ok_iff, Unique.exists_iff, PUnit.default_eq_unit,
    checkOperand_eq_ok_iff]
  exact ⟨fun ⟨ha, hb, hc⟩ => ⟨ha, hb, hc⟩, fun ⟨ha, hb, hc⟩ => ⟨ha, hb, hc⟩⟩

theorem check_eq_ok_iff (p : Parts) : p.check = .ok () ↔ p.WellFormed := by
  simp only [check, bind_eq_ok_iff, Unique.exists_iff, PUnit.default_eq_unit,
    refuse_bind_eq_ok_iff, checkStrings_eq_ok_iff, checkEach_eq_ok_iff, checkDefinition_eq_ok_iff,
    checkFunction_eq_ok_iff, checkStatement_eq_ok_iff, not_lt, Bool.not_eq_true, zero_add,
    Array.getElem?_toList]
  constructor
  · rintro ⟨hb, hr, hn, hg, hf, hfn, hst⟩
    refine ⟨hb, hr, hn, fun d hd => ?_, fun d hd => ?_, hfn, hst⟩
    · obtain ⟨i, hi⟩ := List.mem_iff_getElem?.mp hd
      exact hg i d (by simpa using hi)
    · obtain ⟨i, hi⟩ := List.mem_iff_getElem?.mp hd
      exact hf i d (by simpa using hi)
  · rintro ⟨hb, hr, hn, hg, hf, hfn, hst⟩
    exact ⟨hb, hr, hn, fun i d hd => hg d (Array.mem_def.mp (Array.mem_of_getElem? hd)),
      fun i d hd => hf d (Array.mem_def.mp (Array.mem_of_getElem? hd)), hfn, hst⟩

end GameVm.Parts

namespace GameVm.Image

lemma wellFormed_of_decode {bs : Bytes} {image : Image} (h : decode bs = .ok image) :
    image.parts.WellFormed := by
  rw [decode] at h
  cases hp : Parts.decode bs with
  | error err => simp [hp, bind, Except.bind] at h
  | ok parts =>
    cases hc : parts.check with
    | error err => simp [hp, hc, bind, Except.bind] at h
    | ok u =>
      simp only [hp, hc, bind, Except.bind, pure, Except.pure, Except.ok.injEq] at h
      subst h
      exact (Parts.check_eq_ok_iff parts).mp hc

lemma findGlobal?_mem {image : Image} {name : String} {d : Definition}
    (h : image.findGlobal? name = some d) : d ∈ image.parts.globalDefs.toList := by
  rw [findGlobal?] at h
  split at h
  · cases h
  · obtain ⟨i, -, hi⟩ := Option.bind_eq_some_iff.mp h
    exact Array.mem_def.mp (Array.mem_of_getElem? hi)

lemma findField?_mem {image : Image} {name : String} {d : Definition}
    (h : image.findField? name = some d) : d ∈ image.parts.fieldDefs.toList := by
  rw [findField?] at h
  split at h
  · cases h
  · obtain ⟨i, -, hi⟩ := Option.bind_eq_some_iff.mp h
    exact Array.mem_def.mp (Array.mem_of_getElem? hi)

end GameVm.Image
