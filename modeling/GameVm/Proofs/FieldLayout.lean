import GameVm.Program.Layout
import GameVm.Proofs.Symbols

/-! The layout of entity records: the named fields by offset, and which of the fields with a name is
found there. -/

namespace GameVm

section Stable

variable {α : Type} {le : α → α → Bool} {R : α → α → Prop}

lemma pairwise_mergeSort_stable (trans : ∀ a b c, le a b = true → le b c = true → le a c = true)
    (total : ∀ a b, (le a b || le b a) = true) {l : List α} (h : l.Pairwise R) :
    (l.mergeSort le).Pairwise fun a b => le a b = true ∧ (le b a = true → R a b) := by
  have hsorted := List.pairwise_mergeSort (List.zipIdxLE_trans trans) (List.zipIdxLE_total total)
    l.zipIdx
  have hperm := List.mergeSort_perm l.zipIdx (List.zipIdxLE le)
  have hnodup : (l.zipIdx.mergeSort (List.zipIdxLE le)).Nodup := by
    apply hperm.nodup_iff.mpr
    apply List.Nodup.of_map Prod.snd
    rw [List.zipIdx_map_snd]
    exact List.nodup_range'
  rw [← List.mergeSort_zipIdx, List.pairwise_map]
  apply (hsorted.and hnodup).imp_of_mem
  rintro ⟨a, i⟩ ⟨b, j⟩ ha hb ⟨hle, hne⟩
  have hi : l[i]? = some a := List.mem_zipIdx_iff_getElem?.mp (hperm.mem_iff.mp ha)
  have hj : l[j]? = some b := List.mem_zipIdx_iff_getElem?.mp (hperm.mem_iff.mp hb)
  obtain ⟨hil, rfl⟩ := List.getElem?_eq_some_iff.mp hi
  obtain ⟨hjl, rfl⟩ := List.getElem?_eq_some_iff.mp hj
  rw [List.zipIdxLE] at hle
  split_ifs at hle with hab hba
  · refine ⟨hab, fun _ => List.pairwise_iff_getElem.mp h i j hil hjl ?_⟩
    have hij : i ≠ j := by
      rintro rfl
      exact hne rfl
    have hle : i ≤ j := by simpa using hle
    omega
  · exact ⟨hab, fun h => absurd h hba⟩

end Stable

section First

variable {α : Type} {p q : α → Prop} {entries : List α} {start : Nat}

lemma IsFirst.eq_some {i : Nat} (h : IsFirst p entries start (some i)) {found : Option Nat}
    (hf : IsFirst p entries start found) : found = some i := by
  obtain ⟨hi, ⟨a, ha, hpa⟩, hbefore⟩ := h
  cases found with
  | none => exact absurd hpa (hf i a hi ha)
  | some j =>
    obtain ⟨hj, ⟨b, hb, hpb⟩, hbefore'⟩ := hf
    rcases Nat.lt_trichotomy i j with hij | rfl | hij
    · exact absurd hpa (hbefore' i a hi hij ha)
    · rfl
    · exact absurd hpb (hbefore j b hj hij hb)

lemma IsFirst.mono {i : Nat} (h : IsFirst q entries start (some i)) (himp : ∀ a, p a → q a)
    (hi : ∀ a, entries[i]? = some a → p a) : IsFirst p entries start (some i) := by
  obtain ⟨hle, ⟨a, ha, -⟩, hbefore⟩ := h
  exact ⟨hle, ⟨a, ha, hi a ha⟩, fun j b hj hlt hb hpb => hbefore j b hj hlt hb (himp b hpb)⟩

end First

namespace Parts

variable {p : Parts} {name : String}

def layoutField (p : Parts) (d : Definition) : LayoutField := ⟨p.nameAt d.name, d.type, d.offset⟩

/-- The field has the name, and no other field with the name has a smaller offset. -/
def Lowest (p : Parts) (name : String) (d : Definition) : Prop :=
  p.nameAt d.name = name ∧
    ∀ d' ∈ p.fieldDefs.toList, p.nameAt d'.name = name → d.offset ≤ d'.offset

/-- Of two fields with their numbers in the table, the one with the smaller offset comes first, and
of fields at one offset the one with the smaller number. -/
def Precedes (x y : Definition × Nat) : Prop :=
  x.1.offset < y.1.offset ∨ x.1.offset = y.1.offset ∧ x.2 < y.2

def listed (p : Parts) : List (Definition × Nat) :=
  (p.fieldDefs.toList.zipIdx.filter (·.1.name ≠ 0)).mergeSort fun x y => x.1.offset ≤ y.1.offset

lemma listed_perm (p : Parts) :
    p.listed.Perm (p.fieldDefs.toList.zipIdx.filter (·.1.name ≠ 0)) :=
  List.mergeSort_perm _ _

lemma mem_listed {x : Definition × Nat} :
    x ∈ p.listed ↔ p.fieldDefs[x.2]? = some x.1 ∧ x.1.name ≠ 0 := by
  rw [p.listed_perm.mem_iff, List.mem_filter, List.mem_zipIdx_iff_getElem?]
  simp

lemma listed_pairwise (p : Parts) : p.listed.Pairwise Precedes := by
  have hnumbers : (p.fieldDefs.toList.zipIdx.filter (·.1.name ≠ 0)).Pairwise (·.2 < ·.2) := by
    apply List.Pairwise.filter
    rw [← List.pairwise_map, List.zipIdx_map_snd]
    exact List.pairwise_lt_range'
  refine (pairwise_mergeSort_stable ?_ ?_ hnumbers).imp ?_
  · intro x y z
    simp only [decide_eq_true_eq]
    exact UInt16.le_trans
  · intro x y
    simpa using UInt16.le_total x.1.offset y.1.offset
  · rintro x y ⟨hle, htie⟩
    simp only [decide_eq_true_eq] at hle htie
    rcases UInt16.lt_or_eq_of_le hle with hlt | heq
    · exact .inl hlt
    · exact .inr ⟨heq, htie (UInt16.le_of_eq heq.symm)⟩

lemma listed_first {found : Definition × Nat}
    (h : p.listed.find? (p.nameAt ·.1.name == name) = some found) :
    p.fieldDefs[found.2]? = some found.1 ∧ p.nameAt found.1.name = name ∧
      ∀ x ∈ p.listed, p.nameAt x.1.name = name → x = found ∨ Precedes found x := by
  obtain ⟨hname, before, after, hsplit, hbefore⟩ := List.find?_eq_some_iff_append.mp h
  have hmem : found ∈ p.listed := List.mem_of_find?_eq_some h
  refine ⟨(mem_listed.mp hmem).1, by simpa using hname, fun x hx hxname => ?_⟩
  have hpair := p.listed_pairwise
  rw [hsplit] at hx hpair
  rcases List.mem_append.mp hx with hin | hin
  · exact absurd hxname (by simpa using hbefore x hin)
  · rcases List.mem_cons.mp hin with rfl | hin
    · exact .inl rfl
    · have htail := (List.pairwise_append.mp hpair).2.1
      exact .inr ((List.pairwise_cons.mp htail).1 x hin)

lemma nameAt_zero (hz : p.strings[0]? = some 0) : p.nameAt 0 = "" := by
  obtain ⟨hpos, hb⟩ := Array.getElem?_eq_some_iff.mp hz
  have hend : p.strings.zeroFrom 0 = 0 := by rw [Blob.zeroFrom, dif_pos hpos, if_pos hb]
  have hempty : p.strings.stringFrom 0 = [] := by rw [Blob.stringFrom, hend]; simp
  rw [nameAt, stringAt?, if_neg (by decide), if_neg (by simp), show (0 : Int32).toInt.toNat = 0 from
    rfl, hempty]
  rfl

lemma listed_isFirst (hz : p.strings[0]? = some 0) (hn : name ≠ "") :
    IsFirst (p.Lowest name) p.fieldDefs.toList 0
      ((p.listed.find? (p.nameAt ·.1.name == name)).map (·.2)) := by
  have hlisted {j : Nat} {d : Definition} (hd : p.fieldDefs.toList[j]? = some d)
      (hname : p.nameAt d.name = name) : (d, j) ∈ p.listed := by
    refine mem_listed.mpr ⟨by simpa using hd, fun h0 => hn ?_⟩
    rw [← hname, h0, nameAt_zero hz]
  cases hf : p.listed.find? (p.nameAt ·.1.name == name) with
  | none =>
    intro j d _ hd hlow
    have hne := List.find?_eq_none.mp hf _ (hlisted hd hlow.1)
    exact hne (by simpa using hlow.1)
  | some found =>
    obtain ⟨hd, hname, hleast⟩ := listed_first hf
    have hlow : p.Lowest name found.1 := by
      refine ⟨hname, fun d' hd' hname' => ?_⟩
      obtain ⟨j, hj⟩ := List.mem_iff_getElem?.mp hd'
      rcases hleast _ (hlisted hj hname') hname' with heq | hlt | ⟨heq, -⟩
      · rw [← heq]
        exact UInt16.le_refl _
      · exact UInt16.le_of_lt hlt
      · exact UInt16.le_of_eq heq
    refine ⟨Nat.zero_le _, ⟨found.1, by simpa using hd, hlow⟩, fun j d _ hlt hj hlow' => ?_⟩
    have hle := hlow'.2 found.1 (List.mem_of_getElem? (by simpa using hd)) hname
    rcases hleast _ (hlisted hj hlow'.1) hlow'.1 with rfl | hlt' | ⟨-, hlt'⟩
    · exact absurd hlt (Nat.lt_irrefl _)
    · exact absurd hle (UInt16.not_le.mpr hlt')
    · exact absurd hlt (Nat.lt_asymm hlt')

end Parts

namespace Image

variable {p : Parts} {image : Image} {name : String}

lemma layout_eq (image : Image) :
    image.layout = image.parts.listed.map fun x => image.parts.layoutField x.1 := by
  rw [layout, Parts.listed]
  rw [List.map_mergeSort (s := fun x y : LayoutField => x.offset ≤ y.offset)]
  · congr 1
    rw [← List.zipIdx_map_fst 0 image.parts.fieldDefs.toList, List.filter_map, List.map_map]
    simp [Function.comp_def, Parts.layoutField]
  · intro x _ y _
    rfl

lemma mem_layout {f : LayoutField} :
    f ∈ image.layout ↔
      ∃ d, (d ∈ image.parts.fieldDefs.toList ∧ d.name ≠ 0) ∧ image.parts.layoutField d = f := by
  rw [layout, List.mem_mergeSort]
  simp [Parts.layoutField]

lemma find?_layout_isFirst (hz : image.parts.strings[0]? = some 0) (hn : name ≠ "") :
    ∃ found, IsFirst (image.parts.Lowest name) image.parts.fieldDefs.toList 0 found ∧
      LayoutField.find? image.layout name =
        (found.bind (image.parts.fieldDefs[·]?)).map image.parts.layoutField := by
  refine ⟨_, Parts.listed_isFirst hz hn, ?_⟩
  rw [LayoutField.find?, layout_eq, List.find?_map,
    show ((fun f : LayoutField => decide (f.name = name)) ∘ fun x : Definition × Nat =>
      image.parts.layoutField x.1) = fun x => image.parts.nameAt x.1.name == name from rfl]
  cases hf : image.parts.listed.find? (image.parts.nameAt ·.1.name == name) with
  | none => rfl
  | some found => simp [(Parts.listed_first hf).1]

/-- The layout lists each field that is named by an offset other than zero once, by offset and then
by number. Under a name it finds the first of the fields with the least offset, which is the first
of all fields with the name only if that has the least offset. -/
theorem layout_finds_lowest_field {bs : Bytes} (h : decode bs = .ok image) :
    let p := image.parts
    (∃ listed : List (Definition × Nat),
      listed.Perm (p.fieldDefs.toList.zipIdx.filter (·.1.name ≠ 0)) ∧
      listed.Pairwise Parts.Precedes ∧ image.layout = listed.map fun x => p.layoutField x.1) ∧
    ∀ name, name ≠ "" →
      (∃ found, IsFirst (p.Lowest name) p.fieldDefs.toList 0 found ∧
        LayoutField.find? image.layout name =
          (found.bind (p.fieldDefs[·]?)).map p.layoutField) ∧
      ((LayoutField.find? image.layout name).map (fun f => (f.type, f.offset)) =
          (image.findField? name).map (fun d => (d.type, d.offset)) ↔
        ∀ d, image.findField? name = some d → p.Lowest name d) := by
  intro p
  have hwf : p.WellFormed := wellFormed_of_decode h
  obtain ⟨q, -, -, rfl⟩ := (decode_eq_ok_iff bs image).mp h
  refine ⟨⟨p.listed, p.listed_perm, p.listed_pairwise, layout_eq _⟩, fun name hn => ?_⟩
  obtain ⟨low, hlow, hlayout⟩ := find?_layout_isFirst hwf.blob.1 hn
  obtain ⟨first, hfirst, hfield⟩ := findField?_isFirst (p := p) hn
  refine ⟨⟨low, hlow, hlayout⟩, ?_⟩
  rw [show (ofParts q).findField? name = _ from hfield, hlayout]
  cases first with
  | none =>
    -- Without a field of the name there is no lowest one.
    have hnone : low = none := by
      cases low with
      | none => rfl
      | some i =>
        obtain ⟨-, ⟨d, hd, hl⟩, -⟩ := hlow
        exact absurd hl.1 (hfirst i d (Nat.zero_le i) hd)
    simp [hnone]
  | some i =>
    have ⟨_, ⟨d, hd, hname⟩, _⟩ := hfirst
    have hd' : p.fieldDefs[i]? = some d := by simpa using hd
    simp only [Option.bind_some, hd', Option.map_some, Option.some.injEq, forall_eq']
    constructor
    · intro heq
      cases low with
      | none => cases heq
      | some k =>
        obtain ⟨-, ⟨e, he, hl⟩, -⟩ := hlow
        have he' : p.fieldDefs[k]? = some e := by simpa using he
        obtain ⟨-, hoffset⟩ : e.type = d.type ∧ e.offset = d.offset := by
          simpa [p, Parts.layoutField, show (ofParts q).parts.fieldDefs[k]? = some e from he']
            using heq
        exact ⟨hname, fun d' hd' hname' => hoffset ▸ hl.2 d' hd' hname'⟩
    · intro hl
      have hi : IsFirst (p.Lowest name) p.fieldDefs.toList 0 (some i) := by
        apply IsFirst.mono hfirst (fun a ha => ha.1)
        intro a ha
        obtain rfl : d = a := Option.some.inj (hd.symm.trans ha)
        exact hl
      rw [hi.eq_some hlow, Option.bind_some, show (ofParts q).parts.fieldDefs[i]? = some d from hd']
      rfl

end Image

namespace Twice

lemma lowest_iff {name : String} {d : Definition} :
    parts.Lowest name d ↔ parts.nameAt d.name = name ∧
      ("x" = name → d.offset ≤ 0) ∧ ("y" = name → d.offset ≤ 2) := by
  rw [Parts.Lowest, show parts.fieldDefs.toList = [⟨.float, false, 1, 6⟩, ⟨.int, false, 0, 6⟩,
    ⟨.float, false, 2, 8⟩] from rfl]
  simp only [List.forall_mem_cons, names]
  refine and_congr_right fun _ => ⟨fun h => ⟨h.2.1, h.2.2.1⟩, fun h => ?_⟩
  exact ⟨fun hx => UInt16.le_trans (h.1 hx) (by decide), h.1, h.2, by simp⟩

/-- The field `y` is the only one of its name. -/
theorem layout_agrees_on_single_field :
    Image.decode parts.encode = .ok (Image.ofParts parts) ∧ "y" ≠ "" ∧
    (LayoutField.find? (Image.ofParts parts).layout "y").map (fun f => (f.type, f.offset)) =
      some (.float, 2) := by
  have hfield : (Image.ofParts parts).findField? "y" = some ⟨.float, false, 2, 8⟩ := by
    rw [Image.findField?_ofParts (by decide), show parts.fieldDefs.toList = _ :: _ from rfl]
    simp [names]
  have hlow : parts.Lowest "y" ⟨.float, false, 2, 8⟩ := lowest_iff.mpr ⟨names.2.2.1, by decide⟩
  have hagree := ((Image.layout_finds_lowest_field decode_encode).2 "y" (by decide)).2
  rw [hfield] at hagree
  exact ⟨decode_encode, by decide, hagree.mpr fun d hd => Option.some.inj hd ▸ hlow⟩

lemma lowest_x : IsFirst (parts.Lowest "x") parts.fieldDefs.toList 0 (some 1) := by
  refine ⟨Nat.zero_le 1, ⟨⟨.int, false, 0, 6⟩, rfl, lowest_iff.mpr ⟨names.2.1, by decide⟩⟩, ?_⟩
  intro j a _ hlt ha hlow
  obtain rfl : j = 0 := by omega
  obtain rfl : _ = a := Option.some.inj ha
  exact absurd ((lowest_iff.mp hlow).2.1 rfl) (by decide)

/-- Of the two fields `x`, the table has the one with the larger offset first. -/
theorem layout_and_table_differ :
    Image.decode parts.encode = .ok (Image.ofParts parts) ∧
    (Image.ofParts parts).findField? "x" = some ⟨.float, false, 1, 6⟩ ∧
    (LayoutField.find? (Image.ofParts parts).layout "x").map (fun f => (f.type, f.offset)) =
      some (.int, 0) := by
  have hz := (Image.wellFormed_of_decode decode_encode).blob.1
  have hn : "x" ≠ "" := by decide
  obtain ⟨found, hfound, hlayout⟩ := Image.find?_layout_isFirst hz hn
  refine ⟨decode_encode, findField?_x, ?_⟩
  rw [hlayout, lowest_x.eq_some hfound]
  rfl

end Twice

end GameVm
