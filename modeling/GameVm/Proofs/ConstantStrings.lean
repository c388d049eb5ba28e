import GameVm.Proofs.Lifetimes
import GameVm.Proofs.Naming

/-! Constant strings: what the image and the string table of a running program read at a handle. -/

namespace GameVm

variable {handle : Int32}

lemma Parts.stringAt?_eq (p : Parts) (h : 0 ≤ handle) :
    p.stringAt? handle =
      if handle.toInt ≤ p.strings.size then some (p.strings.stringFrom handle.toInt.toNat)
      else none := by
  have hn : ¬ handle < 0 := by simpa using h
  have hpos : 0 ≤ handle.toInt := by simpa [Int32.le_iff_toInt_le] using h
  rw [stringAt?, if_neg hn]
  by_cases hend : handle.toInt ≤ p.strings.size
  · rw [if_neg (by omega), if_pos hend]
  · rw [if_pos (by omega), if_neg hend]

lemma StringTable.resolve_eq (t : StringTable) (h : 0 ≤ handle) (hne : t.constants ≠ #[]) :
    t.resolve handle =
      if handle.toInt < t.constants.size then .ok (t.constants.stringFrom handle.toInt.toNat)
      else .error (.string handle) := by
  have hpos : 0 ≤ handle.toInt := by simpa [Int32.le_iff_toInt_le] using h
  have hsize : 0 < t.constants.size := Array.size_pos_iff.mpr hne
  obtain ⟨offset, ho⟩ := Int.eq_ofNat_of_zero_le hpos
  have hk : t.kind? handle =
      if offset < t.constants.size then some (.constant offset) else none := by
    simp only [kind?, ho]
    by_cases hlt : offset < t.constants.size
    · rw [if_pos (.inr hlt), if_pos hlt]
    · rw [if_neg (by omega), if_neg hlt]
  rw [resolve, hk, ho]
  by_cases hlt : offset < t.constants.size
  · simp [hlt]
  · simp [hlt]

namespace Instance

variable {i : Instance} {m : Machine}

lemma Created.reaches_constants (hi : i.Created) (hm : i.Reaches m) :
    m.memory.strings.constants = i.image.parts.strings := by
  have hfirst : i.machine.memory.strings.constants = i.image.parts.strings := by
    obtain ⟨bytes, image, -, table, domain, settings, options, journal, journal', hb⟩ := hi
    obtain ⟨-, recordCells, -, hfresh⟩ := bringUp_eq_ok hb
    rw [hfresh]
    rfl
  exact (congrArg Sizes.constants (hi.reaches_sizes hm)).trans hfirst

/-- At a handle that is not negative, the image and the string table of any state an instance gets
to read the same string, which goes up to the first zero byte, or both read none; except at the very
end of the blob, where the table alone refuses. -/
theorem constant_strings_agree (hi : i.Created) (hm : i.Reaches m) (h : 0 ≤ handle) :
    let blob := i.image.parts.strings
    (handle.toInt < blob.size → ∃ text,
      text ++ [0] <+: blob.toList.drop handle.toInt.toNat ∧ 0 ∉ text ∧
      i.image.parts.stringAt? handle = some text ∧ m.memory.strings.resolve handle = .ok text) ∧
    (blob.size ≤ handle.toInt → m.memory.strings.resolve handle = .error (.string handle)) ∧
    (blob.size < handle.toInt → i.image.parts.stringAt? handle = none) ∧
    (handle.toInt ≠ blob.size → ∀ text,
      i.image.parts.stringAt? handle = some text ↔ m.memory.strings.resolve handle = .ok text) := by
  intro blob
  have hconst := hi.reaches_constants hm
  have hzero : blob.back? = some 0 := hi.checked.parts.blob.2
  have hne : m.memory.strings.constants ≠ #[] := by
    rw [hconst]
    intro hempty
    simp [blob, hempty] at hzero
  have himage := i.image.parts.stringAt?_eq h
  have htable := m.memory.strings.resolve_eq h hne
  rw [hconst] at htable
  refine ⟨fun hlt => ?_, fun hle => ?_, fun hgt => ?_, fun hend text => ?_⟩
  · have hpos : 0 ≤ handle.toInt := by simpa [Int32.le_iff_toInt_le] using h
    obtain ⟨text, hpre, hnot⟩ := Blob.exists_terminated (i := handle.toInt.toNat) hzero (by omega)
    have htext := Blob.stringFrom_of_isPrefix hpre hnot
    refine ⟨text, hpre, hnot, ?_, ?_⟩
    · rw [himage, if_pos hlt.le, htext]
    · rw [htable, if_pos hlt, htext]
  · rw [htable, if_neg (not_lt.mpr hle)]
  · rw [himage, if_neg (not_le.mpr hgt)]
  · by_cases hlt : handle.toInt < blob.size
    · rw [himage, htable, if_pos hlt.le, if_pos hlt]
      simp
    · have hle : ¬ handle.toInt ≤ blob.size := fun hle => hlt (lt_of_le_of_ne hle hend)
      rw [himage, htable, if_neg hlt, if_neg hle]
      simp

end Instance

namespace Relay

theorem both_read_inside_name :
    relay.image.parts.stringAt? 3 = some "in".toUTF8.toList ∧
    relay.machine.memory.strings.resolve 3 = .ok "in".toUTF8.toList := by
  have hagree := (Instance.constant_strings_agree created relay.reaches_machine
    (show (0 : Int32) ≤ 3 by decide)).2.2.2 (by decide +kernel) "in".toUTF8.toList
  have hread : relay.image.parts.stringAt? 3 = some "in".toUTF8.toList := by decide +kernel
  exact ⟨hread, hagree.mp hread⟩

/-- Where the blob ends, the image reads the empty string and the table refuses. -/
theorem image_reads_past_blob :
    Image.decode parts.encode = .ok relay.image ∧ relay.image.parts.strings.size = 22 ∧
    relay.image.parts.stringAt? 22 = some [] ∧
    relay.machine.memory.strings.resolve 22 = .error (.string 22) := by
  refine ⟨decode_encode, ?_, ?_, ?_⟩
  · decide +kernel
  · decide +kernel
  · decide +kernel

end Relay

end GameVm
