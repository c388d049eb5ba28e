import GameVm.Proofs.Naming

/-! Spelling: which bytes are the UTF-8 of a text, and what the name at an offset of the blob is. -/

namespace GameVm

namespace Utf8

section Encoding

variable {b c d e : UInt8} {v : Nat}

lemma toNat_val_ofNat (hv : v < 0xD800 ∨ 0xDFFF < v ∧ v < 0x110000) :
    (Char.ofNat v).val.toNat = v := by
  have hvalid : v.isValidChar := hv
  rw [Char.ofNat, dif_pos hvalid]
  rfl

lemma ofNat_eq {n : Nat} (h : n = b.toNat) : UInt8.ofNat n = b := by
  rw [h, UInt8.ofNat_toNat]

lemma utf8EncodeChar_one (hb : b.toNat < 0x80) :
    String.utf8EncodeChar (Char.ofNat b.toNat) = [b] := by
  rw [String.utf8EncodeChar.eq_def, toNat_val_ofNat (by omega)]
  dsimp only
  rw [if_pos (by omega), UInt8.ofNat_toNat]

lemma utf8EncodeChar_two (hb : 0xC2 ≤ b.toNat) (hb' : b.toNat ≤ 0xDF) (hc : 0x80 ≤ c.toNat)
    (hc' : c.toNat ≤ 0xBF) :
    String.utf8EncodeChar (Char.ofNat ((b.toNat - 0xC0) * 64 + (c.toNat - 0x80))) = [b, c] := by
  rw [String.utf8EncodeChar.eq_def, toNat_val_ofNat (by omega)]
  dsimp only
  rw [if_neg (by omega), if_pos (by omega)]
  simp only [List.cons.injEq, and_true]
  exact ⟨ofNat_eq (by omega), ofNat_eq (by omega)⟩

lemma utf8EncodeChar_three (hb : 0xE0 ≤ b.toNat) (hb' : b.toNat ≤ 0xEF) (hc : 0x80 ≤ c.toNat)
    (hc' : c.toNat ≤ 0xBF) (hlong : b.toNat = 0xE0 → 0xA0 ≤ c.toNat)
    (hpair : b.toNat = 0xED → c.toNat ≤ 0x9F) (hd : 0x80 ≤ d.toNat) (hd' : d.toNat ≤ 0xBF) :
    String.utf8EncodeChar (Char.ofNat
      (((b.toNat - 0xE0) * 64 + (c.toNat - 0x80)) * 64 + (d.toNat - 0x80))) = [b, c, d] := by
  rw [String.utf8EncodeChar.eq_def, toNat_val_ofNat (by omega)]
  dsimp only
  rw [if_neg (by omega), if_neg (by omega), if_pos (by omega)]
  simp only [List.cons.injEq, and_true]
  exact ⟨ofNat_eq (by omega), ofNat_eq (by omega), ofNat_eq (by omega)⟩

lemma utf8EncodeChar_four (hb : 0xF0 ≤ b.toNat) (hb' : b.toNat ≤ 0xF4) (hc : 0x80 ≤ c.toNat)
    (hc' : c.toNat ≤ 0xBF) (hlong : b.toNat = 0xF0 → 0x90 ≤ c.toNat)
    (hlast : b.toNat = 0xF4 → c.toNat ≤ 0x8F) (hd : 0x80 ≤ d.toNat) (hd' : d.toNat ≤ 0xBF)
    (he : 0x80 ≤ e.toNat) (he' : e.toNat ≤ 0xBF) :
    String.utf8EncodeChar (Char.ofNat
      ((((b.toNat - 0xF0) * 64 + (c.toNat - 0x80)) * 64 + (d.toNat - 0x80)) * 64 +
        (e.toNat - 0x80))) = [b, c, d, e] := by
  rw [String.utf8EncodeChar.eq_def, toNat_val_ofNat (by omega)]
  dsimp only
  rw [if_neg (by omega), if_neg (by omega), if_neg (by omega)]
  simp only [List.cons.injEq, and_true]
  exact ⟨ofNat_eq (by omega), ofNat_eq (by omega), ofNat_eq (by omega), ofNat_eq (by omega)⟩

end Encoding

section Decoding

variable {b : UInt8} {bs : Bytes} {cs : List Char} {bits more : Nat} {low high : UInt8}

/-- A lead byte asks for one, two or three more bytes, the first of them in a range that rules out
what a shorter form or no character stands for. -/
lemma lead?_cases {p : Pending} (h : lead? b = some p) :
    (0xC2 ≤ b.toNat ∧ b.toNat ≤ 0xDF ∧ p = ⟨b.toNat - 0xC0, 0, 0x80, 0xBF⟩) ∨
    (0xE0 ≤ b.toNat ∧ b.toNat ≤ 0xEF ∧ ∃ low high : UInt8, p = ⟨b.toNat - 0xE0, 1, low, high⟩ ∧
      0x80 ≤ low.toNat ∧ high.toNat ≤ 0xBF ∧ (b.toNat = 0xE0 → 0xA0 ≤ low.toNat) ∧
      (b.toNat = 0xED → high.toNat ≤ 0x9F)) ∨
    0xF0 ≤ b.toNat ∧ b.toNat ≤ 0xF4 ∧ ∃ low high : UInt8, p = ⟨b.toNat - 0xF0, 2, low, high⟩ ∧
      0x80 ≤ low.toNat ∧ high.toNat ≤ 0xBF ∧ (b.toNat = 0xF0 → 0x90 ≤ low.toNat) ∧
      (b.toNat = 0xF4 → high.toNat ≤ 0x8F) := by
  rw [lead?_eq] at h
  split_ifs at h with h₁ h₂ h₃ h₄ h₅ h₆ h₇ <;> obtain rfl := Option.some.inj h
  · exact .inl ⟨h₁.1, h₁.2, rfl⟩
  · refine .inr (.inl ⟨by omega, by omega, _, _, by rw [h₂], ?_⟩)
    simp [h₂]
  · refine .inr (.inl ⟨by omega, by omega, _, _, by rw [h₃], ?_⟩)
    simp [h₃]
  · refine .inr (.inl ⟨by omega, by omega, _, _, rfl, ?_⟩)
    simp [h₂, h₃]
  · refine .inr (.inr ⟨by omega, by omega, _, _, by rw [h₅], ?_⟩)
    simp [h₅]
  · refine .inr (.inr ⟨by omega, by omega, _, _, rfl, ?_⟩)
    simp [h₅, show b.toNat ≠ 0xF4 by omega]
  · refine .inr (.inr ⟨by omega, by omega, _, _, by rw [h₇], ?_⟩)
    simp [h₇]

lemma pending_cons {p : Pending} (h : scan (some p) bs = cs.map some) :
    ∃ b rest, bs = b :: rest ∧ (p.low ≤ b && b ≤ p.high) = true ∧ p.low.toNat ≤ b.toNat ∧
      b.toNat ≤ p.high.toNat := by
  cases bs with
  | nil => cases cs <;> simp [scan] at h
  | cons b rest =>
    rw [scan] at h
    split_ifs at h with hin hb
    · refine ⟨b, rest, rfl, hin, ?_⟩
      simpa [UInt8.le_iff_toNat_le] using hin
    · cases cs <;> simp at h
    · cases hl : lead? b <;> cases cs <;> simp [hl] at h

lemma last_cons (h : scan (some ⟨bits, 0, low, high⟩) bs = cs.map some) :
    ∃ b rest cs', bs = b :: rest ∧ low.toNat ≤ b.toNat ∧ b.toNat ≤ high.toNat ∧
      cs = Char.ofNat (bits * 64 + (b.toNat - 0x80)) :: cs' ∧ scan none rest = cs'.map some := by
  obtain ⟨b, rest, rfl, hin, hlow, hhigh⟩ := pending_cons h
  rw [scan, if_pos hin] at h
  cases cs with
  | nil => cases h
  | cons c cs =>
    simp only [List.map_cons, List.cons.injEq, Option.some.injEq] at h
    exact ⟨b, rest, cs, rfl, hlow, hhigh, by rw [h.1], h.2⟩

lemma more_cons (h : scan (some ⟨bits, more + 1, low, high⟩) bs = cs.map some) :
    ∃ b rest, bs = b :: rest ∧ low.toNat ≤ b.toNat ∧ b.toNat ≤ high.toNat ∧
      scan (some ⟨bits * 64 + (b.toNat - 0x80), more, 0x80, 0xBF⟩) rest = cs.map some := by
  obtain ⟨b, rest, rfl, hin, hlow, hhigh⟩ := pending_cons h
  rw [scan, if_pos hin] at h
  exact ⟨b, rest, rfl, hlow, hhigh, h⟩

lemma scan_cons (h : scan none (b :: bs) = cs.map some) :
    ∃ c cs' tail rest, cs = c :: cs' ∧ bs = tail ++ rest ∧
      String.utf8EncodeChar c = b :: tail ∧ scan none rest = cs'.map some := by
  rw [scan] at h
  split_ifs at h with hb
  · cases cs with
    | nil => cases h
    | cons c cs =>
      simp only [List.map_cons, List.cons.injEq, Option.some.injEq] at h
      refine ⟨c, cs, [], bs, rfl, rfl, ?_, h.2⟩
      rw [← h.1, utf8EncodeChar_one (UInt8.lt_iff_toNat_lt.mp hb)]
  · cases hl : lead? b with
    | none => cases cs <;> simp [hl] at h
    | some p =>
      rw [hl] at h
      dsimp only at h
      rcases lead?_cases hl with ⟨hb, hb', rfl⟩ |
        ⟨hb, hb', low, high, rfl, hlow, hhigh, hlong, hpair⟩ |
        ⟨hb, hb', low, high, rfl, hlow, hhigh, hlong, hlast⟩
      · obtain ⟨c, rest, cs', rfl, hc, hc', rfl, hrest⟩ := last_cons h
        exact ⟨_, cs', [c], rest, rfl, rfl, utf8EncodeChar_two hb hb' hc hc', hrest⟩
      · obtain ⟨c, rest, rfl, hc, hc', h⟩ := more_cons h
        obtain ⟨d, rest, cs', rfl, hd, hd', rfl, hrest⟩ := last_cons h
        refine ⟨_, cs', [c, d], rest, rfl, rfl, ?_, hrest⟩
        exact utf8EncodeChar_three hb hb' (by omega) (by omega) (by omega) (by omega) hd hd'
      · obtain ⟨c, rest, rfl, hc, hc', h⟩ := more_cons h
        obtain ⟨d, rest, rfl, hd, hd', h⟩ := more_cons h
        obtain ⟨e, rest, cs', rfl, he, he', rfl, hrest⟩ := last_cons h
        refine ⟨_, cs', [c, d, e], rest, rfl, rfl, ?_, hrest⟩
        exact utf8EncodeChar_four hb hb' (by omega) (by omega) (by omega) (by omega) hd hd' he he'

lemma flatMap_of_scan (h : scan none bs = cs.map some) :
    cs.flatMap String.utf8EncodeChar = bs := by
  induction hn : bs.length using Nat.strong_induction_on generalizing bs cs with
  | h n ih =>
    cases bs with
    | nil =>
      cases cs with
      | nil => rfl
      | cons c cs => simp [scan] at h
    | cons b bs =>
      obtain ⟨c, cs', tail, rest, rfl, rfl, hc, hrest⟩ := scan_cons h
      have hlen : rest.length < n := by
        rw [← hn, List.length_cons, List.length_append]
        omega
      rw [List.flatMap_cons, hc, ih _ hlen hrest rfl, List.cons_append]

end Decoding

lemma mapM_id_eq_some_iff {α : Type} {xs : List (Option α)} {ys : List α} :
    xs.mapM id = some ys ↔ xs = ys.map some := by
  induction xs generalizing ys with
  | nil => cases ys <;> simp
  | cons x xs ih =>
    rw [List.mapM_cons]
    cases x with
    | none => cases ys <;> simp
    | some x =>
      cases ys with
      | nil => simp [Option.bind_eq_some_iff]
      | cons y ys => simp [Option.bind_eq_some_iff, ih, and_comm]

lemma decode?_eq_some_iff {bs : Bytes} {s : String} : decode? bs = some s ↔ bs = encode s := by
  constructor
  · intro h
    obtain ⟨cs, hcs, rfl⟩ := Option.map_eq_some_iff.mp h
    rw [encode_eq, String.toList_ofList, flatMap_of_scan (mapM_id_eq_some_iff.mp hcs)]
  · rintro rfl
    exact decode?_encode s

end Utf8

namespace Parts

variable {p : Parts} {offset : Int32}

/-- The bytes from the offset to the first zero are the name's; where they are no text at all, the
name is empty. -/
def Spells (p : Parts) (offset : Int32) (name : String) : Prop :=
  ∃ bytes, bytes ++ [0] <+: p.strings.toList.drop offset.toInt.toNat ∧ 0 ∉ bytes ∧
    (bytes = Utf8.encode name ∨ (∀ s, bytes ≠ Utf8.encode s) ∧ name = "")

lemma spells_nameAt (hz : p.strings.back? = some 0) (h : p.Named offset) :
    p.Spells offset (p.nameAt offset) := by
  have hnonneg : 0 ≤ offset.toInt := by simpa [Int32.le_iff_toInt_le] using h.1
  have hin : offset.toInt.toNat < p.strings.size := by
    have := h.2
    omega
  obtain ⟨bytes, hp, hnot⟩ := Blob.exists_terminated hz hin
  refine ⟨bytes, hp, hnot, ?_⟩
  rw [nameAt_of_isPrefix h hp hnot]
  cases hd : Utf8.decode? bytes with
  | some s => exact .inl (Utf8.decode?_eq_some_iff.mp hd)
  | none =>
    refine .inr ⟨fun s hs => ?_, rfl⟩
    rw [Utf8.decode?_eq_some_iff.mpr hs] at hd
    cases hd

end Parts

end GameVm
