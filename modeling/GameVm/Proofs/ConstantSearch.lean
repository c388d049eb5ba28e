import GameVm.Proofs.ConstantStrings

/-! The search for a constant finds the first string of the blob that has the given bytes. -/

namespace GameVm

/-- What a search from `start` on comes to: the lowest place with the property, or nothing where no
place has it. -/
def IsLowest (p : Nat → Prop) (start : Nat) : Option Nat → Prop
  | some i => start ≤ i ∧ p i ∧ ∀ k, start ≤ k → k < i → ¬ p k
  | none => ∀ k, start ≤ k → ¬ p k

lemma IsLowest.from_lower {p : Nat → Prop} {start start' : Nat} {found : Option Nat}
    (h : IsLowest p start' found) (hle : start ≤ start')
    (hnone : ∀ k, start ≤ k → k < start' → ¬ p k) : IsLowest p start found := by
  cases found with
  | none =>
    intro k hk
    by_cases hlt : k < start'
    · exact hnone k hk hlt
    · exact h k (by omega)
  | some i =>
    obtain ⟨hi, hp, hbefore⟩ := h
    refine ⟨hle.trans hi, hp, fun k hk hki => ?_⟩
    by_cases hlt : k < start'
    · exact hnone k hk hlt
    · exact hbefore k (by omega) hki

namespace Blob

/-- The bytes stand in the blob between zeros, or between its front and a zero, and none of them is
zero. -/
structure Segment (blob : Blob) (start : Nat) (text : Bytes) : Prop where
  front : start = 0 ∨ blob[start - 1]? = some 0
  plain : 0 ∉ text
  terminated : text ++ [0] <+: blob.toList.drop start

variable {blob : Blob} {start : Nat} {text text' : Bytes}

lemma Segment.unique (h : blob.Segment start text) (h' : blob.Segment start text') :
    text = text' := by
  rw [← stringFrom_of_isPrefix h.terminated h.plain, stringFrom_of_isPrefix h'.terminated h'.plain]

lemma Segment.zero_mem (h : blob.Segment start text) : 0 ∈ blob.toList.drop start :=
  h.terminated.subset (by simp)

lemma Segment.lt_size (h : blob.Segment start text) : start < blob.size := by
  have := List.length_pos_of_mem h.zero_mem
  rw [List.length_drop, Array.length_toList] at this
  omega

section Passed

/-! A search has come past `done`, where the next string may start, and `seen`, without a zero. -/

variable {done seen rest : Bytes} (hblob : blob.toList = done ++ seen.reverse ++ rest)
  (hdone : done = [] ∨ done.getLast? = some 0) (hseen : 0 ∉ seen)
include hblob

lemma getElem?_passed {k : Nat} (hk : k < done.length) : blob[k]? = done[k]? := by
  rw [← Array.getElem?_toList, hblob, List.append_assoc, List.getElem?_append_left hk]

include hseen

lemma not_segment_seen (hk : done.length < start) (hk' : start ≤ done.length + seen.length) :
    ¬ blob.Segment start text := by
  intro h
  have hfront : blob[start - 1]? = some 0 := h.front.resolve_left (by omega)
  rw [← Array.getElem?_toList, hblob, List.getElem?_append_left (by simp; omega),
    List.getElem?_append_right (by omega)] at hfront
  exact hseen (List.mem_reverse.mp (List.mem_of_getElem? hfront))

include hdone

lemma segment_seen (hrest : rest.head? = some 0) : blob.Segment done.length seen.reverse where
  front := by
    refine hdone.imp (fun h => by rw [h]; rfl) fun h => ?_
    have hpos : 0 < done.length := List.length_pos_of_mem (List.mem_of_getLast? h)
    rw [getElem?_passed hblob (by omega), ← List.getLast?_eq_getElem?]
    exact h
  plain := by simpa using hseen
  terminated := by
    obtain ⟨tail, rfl⟩ := List.head?_eq_some_iff.mp hrest
    rw [hblob, List.append_assoc, List.drop_left]
    exact ⟨tail, by simp⟩

end Passed

lemma findFrom_isLowest {done seen rest : Bytes}
    (hblob : blob.toList = done ++ seen.reverse ++ rest)
    (hdone : done = [] ∨ done.getLast? = some 0) (hseen : 0 ∉ seen) (text : Bytes) :
    IsLowest (blob.Segment · text) done.length (findFrom text done.length seen rest) := by
  induction rest generalizing done seen with
  | nil =>
    intro k hk h
    have hzero := h.zero_mem
    rw [hblob, List.append_nil, List.drop_append, List.drop_eq_nil_of_le hk,
      List.nil_append] at hzero
    exact hseen (List.mem_reverse.mp (List.mem_of_mem_drop hzero))
  | cons b rest ih =>
    rw [findFrom]
    split_ifs with hb heq
    · subst hb heq
      have hhere := segment_seen hblob hdone hseen rfl
      exact ⟨le_rfl, hhere, fun k hk hlt => absurd hlt (by omega)⟩
    · subst hb
      have hhere := segment_seen hblob hdone hseen rfl
      have hblob' : blob.toList =
          (done ++ seen.reverse ++ [(0 : UInt8)]) ++ ([] : Bytes).reverse ++ rest := by
        simpa using hblob
      have hnext := ih hblob' (by simp) (by simp)
      have hlen : (done ++ seen.reverse ++ [(0 : UInt8)]).length =
          done.length + seen.length + 1 := by
        simp only [List.length_append, List.length_reverse, List.length_singleton]
      rw [hlen] at hnext
      refine hnext.from_lower (by omega) fun k hk hlt h => ?_
      rcases hk.eq_or_lt with rfl | hk
      · exact heq (hhere.unique h)
      · exact not_segment_seen hblob hseen hk (by omega) h
    · refine ih (by simpa using hblob) hdone ?_
      simpa [eq_comm, hb] using hseen

lemma find?_isLowest (blob : Blob) (text : Bytes) :
    IsLowest (blob.Segment · text) 0 (blob.find? text) := by
  have hblob : blob.toList = [] ++ ([] : Bytes).reverse ++ blob.toList := by simp
  exact findFrom_isLowest hblob (.inl rfl) (by simp) text

end Blob

namespace StringTable

variable {text : Bytes}

lemma findConstant?_eq (t : StringTable) (h : text ≠ []) :
    t.findConstant? text = (t.constants.find? text).map Int32.ofNat := by
  rw [findConstant?, if_neg (by simpa using h)]

lemma findConstant?_eq_none_iff (t : StringTable) (hne : text ≠ []) :
    t.findConstant? text = none ↔ ∀ k, ¬ t.constants.Segment k text := by
  have hlowest := t.constants.find?_isLowest text
  rw [findConstant?_eq t hne, Option.map_eq_none_iff]
  cases hfind : t.constants.find? text with
  | none =>
    rw [hfind] at hlowest
    exact iff_of_true rfl fun k => hlowest k (Nat.zero_le k)
  | some i =>
    rw [hfind] at hlowest
    exact iff_of_false nofun fun hno => hno i hlowest.2.1

lemma findConstant?_eq_some_iff (t : StringTable) (hlt : t.constants.size < 2 ^ 31)
    (hne : text ≠ []) {h : Int32} :
    t.findConstant? text = some h ↔ 0 ≤ h.toInt ∧
      t.constants.Segment h.toInt.toNat text ∧
      ∀ k < h.toInt.toNat, ¬ t.constants.Segment k text := by
  have hlowest := t.constants.find?_isLowest text
  rw [findConstant?_eq t hne]
  cases hfind : t.constants.find? text with
  | none =>
    rw [hfind] at hlowest
    exact iff_of_false nofun fun hsome => hlowest _ (Nat.zero_le _) hsome.2.1
  | some i =>
    rw [hfind] at hlowest
    obtain ⟨-, hseg, hbefore⟩ := hlowest
    have hsize := hseg.lt_size
    have hi : (Int32.ofNat i).toInt = i := Int32.toInt_ofNat_of_lt (by omega)
    rw [Option.map_some, Option.some.injEq]
    constructor
    · rintro rfl
      rw [hi, Int.toNat_natCast]
      exact ⟨by omega, hseg, fun k => hbefore k (Nat.zero_le k)⟩
    · rintro ⟨hpos, hseg', hbefore'⟩
      -- Two places, each with nothing before it, are one.
      have hge : ¬ h.toInt.toNat < i := fun hk => hbefore _ (Nat.zero_le _) hk hseg'
      have hle : ¬ i < h.toInt.toNat := fun hk => hbefore' i hk hseg
      rw [← Int32.toInt_inj, hi]
      omega

/-- The search for a text that is not empty finds the lowest place where the blob has it as a string
of its own, and there the text is read. Texts with a zero in them are not found, and neither are the
ends of longer strings or what stands behind the last zero. -/
theorem lowest_constant_found (t : StringTable) (hlt : t.constants.size < 2 ^ 31)
    (hne : text ≠ []) :
    (∀ h, t.findConstant? text = some h ↔ 0 ≤ h.toInt ∧
      t.constants.Segment h.toInt.toNat text ∧
      ∀ k < h.toInt.toNat, ¬ t.constants.Segment k text) ∧
    (t.findConstant? text = none ↔ ∀ k, ¬ t.constants.Segment k text) ∧
    (∀ h, t.findConstant? text = some h → t.resolve h = .ok text) ∧
    (0 ∈ text → t.findConstant? text = none) ∧
    ((∀ k, text ++ [0] <+: t.constants.toList.drop k →
        k ≠ 0 ∧ t.constants[k - 1]? ≠ some 0) → t.findConstant? text = none) ∧
    ((∀ k, text <+: t.constants.toList.drop k → k + text.length = t.constants.size) →
      t.findConstant? text = none) := by
  have hnone : t.findConstant? text = none ↔ ∀ k, ¬ t.constants.Segment k text :=
    t.findConstant?_eq_none_iff hne
  refine ⟨fun h => t.findConstant?_eq_some_iff hlt hne, hnone, fun h hfound => ?_, fun hzero => ?_,
    fun hsuffix => ?_, fun htail => ?_⟩
  · obtain ⟨hpos, hseg, -⟩ := (t.findConstant?_eq_some_iff hlt hne).mp hfound
    have hsize := hseg.lt_size
    have hblob : t.constants ≠ #[] := by
      intro hempty
      simp [hempty] at hsize
    rw [t.resolve_eq (by simpa [Int32.le_iff_toInt_le] using hpos) hblob, if_pos (by omega),
      Blob.stringFrom_of_isPrefix hseg.terminated hseg.plain]
  · exact hnone.mpr fun k hseg => hseg.plain hzero
  · refine hnone.mpr fun k hseg => ?_
    obtain ⟨hk, hbefore⟩ := hsuffix k hseg.terminated
    exact hbefore (hseg.front.resolve_left hk)
  · refine hnone.mpr fun k hseg => ?_
    have hend := htail k ((List.prefix_append text [0]).trans hseg.terminated)
    have hle := hseg.terminated.length_le
    rw [← Array.length_toList] at hend
    rw [List.length_append, List.length_singleton, List.length_drop] at hle
    omega

/-- Behind a longer string with the same end and an empty one, and before a rest without a zero. -/
theorem suffix_and_tail_passed_over :
    let t := fresh "\x00hello\x00\x00lo\x00hell".toUTF8.toList.toArray 1 8
    let text := "lo".toUTF8.toList
    let tail := "hell".toUTF8.toList
    t.constants.size < 2 ^ 31 ∧ text ≠ [] ∧ tail ≠ [] ∧
    t.findConstant? text = some 8 ∧ t.resolve 8 = .ok text ∧
    (∀ k < 8, ¬ t.constants.Segment k text) ∧ ∀ k, ¬ t.constants.Segment k tail := by
  intro t text tail
  have hlt : t.constants.size < 2 ^ 31 := by decide +kernel
  have htext : text ≠ [] := by decide +kernel
  have htail : tail ≠ [] := by decide +kernel
  have hfound : t.findConstant? text = some 8 := by decide +kernel
  obtain ⟨hsome, -, hresolve, -⟩ := lowest_constant_found t hlt htext
  obtain ⟨-, hnone, -⟩ := lowest_constant_found t hlt htail
  exact ⟨hlt, htext, htail, hfound, hresolve 8 hfound, ((hsome 8).mp hfound).2.2,
    hnone.mp (by decide +kernel)⟩

end StringTable

end GameVm
