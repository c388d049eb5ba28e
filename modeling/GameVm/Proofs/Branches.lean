import GameVm.Program.Assembler
import GameVm.Proofs.Storage

/-! Branches of assembled programs: where a branch leads once its distance has been set. -/

namespace GameVm

lemma jumpTarget?_eq_some_iff {source target : Nat} {distance : Int16} :
    jumpTarget? source distance = some target ↔
      distance.toInt = (target : Int) - source ∧ target < UInt64.size := by
  simp only [jumpTarget?, Option.ite_none_right_eq_some, Option.some.injEq]
  omega

namespace Statement

variable {st : Statement} {distance : Int16}

structure SameBesidesJump (st st' : Statement) : Prop where
  op : st'.op = st.op
  condition : st.op ≠ .goto → st'.a = st.a
  unused : st.op = .goto → st'.b = st.b
  c : st'.c = st.c

lemma jump?_kinds (h : st.jump? = some distance) :
    (st.op.kinds.a = .jump ∧ st.a.toInt16 = distance) ∨
      (st.op.kinds.b = .jump ∧ st.b.toInt16 = distance) := by
  rw [jump?] at h
  split at h
  next hop => exact .inl ⟨by rw [hop]; rfl, by simpa using h⟩
  next hop => exact .inr ⟨by rw [hop]; rfl, by simpa using h⟩
  next hop => exact .inr ⟨by rw [hop]; rfl, by simpa using h⟩
  next => cases h

end Statement

lemma Parts.StatementFits.jump {p : Parts} {index : Nat} {st : Statement} {distance : Int16}
    (h : p.StatementFits index st) (hj : st.jump? = some distance) :
    ∃ landing, jumpTarget? index distance = some landing ∧ landing < p.statements.size := by
  rcases Statement.jump?_kinds hj with ⟨hk, rfl⟩ | ⟨hk, rfl⟩
  · have ha := h.a
    rw [hk] at ha
    exact ha
  · have hb := h.b
    rw [hk] at hb
    exact hb

namespace Assembler

variable {source target : Nat} {st : Statement} {asm : Assembler}

/-- The distance from one statement to another, cut to sixteen bits. -/
def reach (source target : Nat) : Int16 := (UInt16.ofInt ((target : Int) - source)).toInt16

lemma toInt_reach (source target : Nat) :
    (reach source target).toInt = Int.bmod ((target : Int) - source) 65536 := by
  have hbits : (UInt16.ofInt ((target : Int) - source)).toBitVec =
      BitVec.ofInt 16 ((target : Int) - source) := by
    apply BitVec.eq_of_toNat_eq
    simp only [UInt16.ofInt, UInt16.toBitVec_ofNat', BitVec.toNat_ofNat, BitVec.toNat_ofInt]
    omega
  rw [reach, Int16.toInt, Int16.toBitVec, UInt16.toInt16, hbits, BitVec.toInt_ofInt]

lemma reach_exact_iff (ht : target ≤ 2 ^ 31) :
    jumpTarget? source (reach source target) = some target ↔
      (source : Int) - 32768 ≤ target ∧ (target : Int) < source + 32768 := by
  have hlt : target < UInt64.size := lt_of_le_of_lt ht (by decide)
  rw [jumpTarget?_eq_some_iff, toInt_reach, Int.bmod_def]
  simp only [hlt, and_true]
  split <;> omega

lemma reach_modulo {landing : Nat}
    (h : jumpTarget? source (reach source target) = some landing) :
    landing % 65536 = target % 65536 := by
  have hd := (jumpTarget?_eq_some_iff.mp h).1
  rw [toInt_reach, Int.bmod_def] at hd
  split at hd <;> omega

lemma retarget_cases (source target : Nat) (st : Statement) :
    (st.op = .goto ∧ retarget source target st =
      { st with a := UInt16.ofInt ((target : Int) - source) }) ∨
    (st.op ≠ .goto ∧ retarget source target st =
      { st with b := UInt16.ofInt ((target : Int) - source) }) := by
  rw [retarget]
  split
  next hop => exact .inl ⟨hop, rfl⟩
  next hop => exact .inr ⟨hop, rfl⟩

lemma retarget_sameBesidesJump (source target : Nat) (st : Statement) :
    st.SameBesidesJump (retarget source target st) := by
  rcases retarget_cases source target st with ⟨hop, hr⟩ | ⟨hop, hr⟩
  · rw [hr]
    exact ⟨rfl, fun hne => absurd hop hne, fun _ => rfl, rfl⟩
  · rw [hr]
    exact ⟨rfl, fun _ => rfl, fun heq => absurd heq hop, rfl⟩

lemma retarget_jump? (h : st.jump?.isSome) :
    (retarget source target st).jump? = some (reach source target) := by
  rw [Statement.jump?] at h
  split at h
  next hop => simp [retarget, Statement.jump?, hop, reach]
  next hop => simp [retarget, Statement.jump?, hop, reach]
  next hop => simp [retarget, Statement.jump?, hop, reach]
  next => cases h

def withStatement (asm : Assembler) (source : Nat) (st : Statement) : Assembler :=
  { asm with parts := { asm.parts with
    statements := asm.parts.statements.setIfInBounds source st } }

lemma patchJump_eq (h : asm.parts.statements[source]? = some st) :
    patchJump source target asm =
      (some (), asm.withStatement source (retarget source target st)) := by
  obtain ⟨hlt, rfl⟩ := Array.getElem?_eq_some_iff.mp h
  have hmodify : asm.parts.statements.modify source (retarget source target) =
      asm.parts.statements.setIfInBounds source
        (retarget source target asm.parts.statements[source]) := by
    ext i hi hi'
    · simp
    · rw [Array.getElem_modify, Array.getElem_setIfInBounds (by simpa using hi)]
      split <;> simp_all
  change (if source < asm.parts.statements.size then _ else _ : Assemble _) asm = _
  rw [if_pos hlt, withStatement, ← hmodify]
  rfl

/-- Setting where a branch leads changes nothing but its distance. It leads to its target exactly
when that is within the reach of sixteen bits; farther off, a program that is accepted has it lead
to a statement that is some multiple of 65536 away from the target. -/
theorem patched_branch_lands (asm : Assembler) (hst : asm.parts.statements[source]? = some st)
    (hj : st.jump?.isSome) (ht : target ≤ 2 ^ 31) :
    ∃ st' distance, patchJump source target asm = (some (), asm.withStatement source st') ∧
      st.SameBesidesJump st' ∧ st'.jump? = some distance ∧
      (jumpTarget? source distance = some target ↔
        (source : Int) - 32768 ≤ target ∧ (target : Int) < source + 32768) ∧
      ((asm.withStatement source st').encode.length < 2 ^ 32 →
        ∀ image, (asm.withStatement source st').build = .ok image →
          image.parts.statements[source]? = some st' ∧
          ∃ landing < image.parts.statements.size, jumpTarget? source distance = some landing ∧
            landing % 65536 = target % 65536) := by
  have hjump : (retarget source target st).jump? = some (reach source target) := retarget_jump? hj
  refine ⟨_, _, patchJump_eq hst, retarget_sameBesidesJump source target st, hjump,
    reach_exact_iff ht, fun hlen image hb => ?_⟩
  obtain ⟨p, hp, hwf, rfl⟩ := (Image.decode_eq_ok_iff _ image).mp hb
  rw [encode, Parts.decode_encode hlen] at hp
  cases hp
  have hlt : source < asm.parts.statements.size := (Array.getElem?_eq_some_iff.mp hst).1
  have hpatched : (asm.withStatement source (retarget source target st)).parts.statements[source]? =
      some (retarget source target st) := Array.getElem?_setIfInBounds_self_of_lt hlt
  obtain ⟨landing, hl, hin⟩ := (hwf.statements source _ hpatched).jump hjump
  exact ⟨hpatched, landing, hin, hl, reach_modulo hl⟩

def standing : Assembler := (ret 0 (goto 0 empty).2).2

lemma standing_branch : standing.parts.statements[1]? = some ⟨.goto, 0, 0, 0⟩ := rfl

theorem near_patch_exact :
    ∃ st' distance, patchJump 1 2 standing = (some (), standing.withStatement 1 st') ∧
      st'.jump? = some distance ∧ jumpTarget? 1 distance = some 2 := by
  obtain ⟨st', distance, hp, -, hj, hexact, -⟩ := patched_branch_lands standing standing_branch
    (by decide) (show 2 ≤ 2 ^ 31 by decide)
  exact ⟨st', distance, hp, hj, hexact.mpr (by decide)⟩

/-- The target is 65536 statements on: the program is accepted, and the branch leads to itself. -/
theorem far_patch_accepted :
    ∃ asm' image, patchJump 1 65537 standing = (some (), asm') ∧ asm'.build = .ok image ∧
      ∃ st distance, image.parts.statements[1]? = some st ∧ st.jump? = some distance ∧
        jumpTarget? 1 distance = some 1 := by
  have hlen : (standing.withStatement 1 (retarget 1 65537 ⟨.goto, 0, 0, 0⟩)).encode.length <
      2 ^ 32 := by decide +kernel
  have hcheck : (standing.withStatement 1 (retarget 1 65537 ⟨.goto, 0, 0, 0⟩)).parts.check =
      .ok () := by decide +kernel
  refine ⟨_, _, patchJump_eq standing_branch,
    Image.decode_encode_of_wellFormed hlen ((Parts.check_eq_ok_iff _).mp hcheck),
    ⟨.goto, 0, 0, 0⟩, 0, ?_, rfl, rfl⟩
  decide +kernel

end Assembler

end GameVm
