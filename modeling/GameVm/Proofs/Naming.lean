import GameVm.Program.Assembler
import GameVm.Proofs.WellFormed

/-! Names: what is written into the blob is read back, and the first symbol with a name is the one
that is found. -/

namespace GameVm

namespace Utf8

lemma toList_loop (bs : ByteArray) (i : Nat) (seen : Bytes) :
    ByteArray.toList.loop bs i seen = seen.reverse ++ bs.data.toList.drop i := by
  induction i, seen using ByteArray.toList.loop.induct bs with
  | case1 i seen hlt ih =>
    have hlen : i < bs.data.toList.length := by
      rw [Array.length_toList]
      exact hlt
    have hget : bs.get! i = bs.data.toList[i] := by
      rw [Array.getElem_toList]
      exact getElem!_pos bs.data i hlt
    rw [ByteArray.toList.loop.eq_def, if_pos hlt, ih, List.drop_eq_getElem_cons hlen, hget]
    simp
  | case2 i seen hge =>
    have hlen : bs.data.toList.length ≤ i := by
      rw [Array.length_toList]
      exact Nat.le_of_not_lt hge
    rw [ByteArray.toList.loop.eq_def, if_neg hge, List.drop_eq_nil_of_le hlen, List.append_nil]

lemma encode_eq (s : String) : encode s = s.toList.flatMap String.utf8EncodeChar := by
  rw [encode, String.toUTF8_eq_toByteArray, ← String.utf8Encode_toList, List.utf8Encode,
    ByteArray.toList, toList_loop, List.data_toByteArray]
  simp

lemma scan_ascii {b : UInt8} (h : b.toNat < 0x80) (rest : Bytes) :
    scan none (b :: rest) = some (Char.ofNat b.toNat) :: scan none rest := by
  have hb : b < 0x80 := UInt8.lt_iff_toNat_lt.mpr h
  rw [scan, if_pos hb]

lemma scan_lead {b : UInt8} {p : Pending} (h : 0x80 ≤ b.toNat) (hp : lead? b = some p)
    (rest : Bytes) : scan none (b :: rest) = scan (some p) rest := by
  have hb : ¬ b < 0x80 := by
    rw [UInt8.lt_iff_toNat_lt]
    exact Nat.not_lt.mpr h
  rw [scan, if_neg hb, hp]

lemma toNat_ofNat {n : Nat} (h : n < 256) : (UInt8.ofNat n).toNat = n :=
  UInt8.toNat_ofNat_of_lt h

section Continued

variable {bits more n : Nat} {low high : UInt8}

lemma scan_last (hn : n < 64) (hlow : low.toNat ≤ n + 128) (hhigh : n + 128 ≤ high.toNat)
    (rest : Bytes) : scan (some ⟨bits, 0, low, high⟩) (UInt8.ofNat (n + 128) :: rest) =
      some (Char.ofNat (bits * 64 + n)) :: scan none rest := by
  have hb : (UInt8.ofNat (n + 128)).toNat = n + 128 := toNat_ofNat (by omega)
  rw [scan, if_pos]
  · rw [hb, Nat.add_sub_cancel]
  · simp only [UInt8.le_iff_toNat_le, hb, Bool.and_eq_true, decide_eq_true_eq]
    exact ⟨hlow, hhigh⟩

lemma scan_more (hn : n < 64) (hlow : low.toNat ≤ n + 128) (hhigh : n + 128 ≤ high.toNat)
    (rest : Bytes) : scan (some ⟨bits, more + 1, low, high⟩) (UInt8.ofNat (n + 128) :: rest) =
      scan (some ⟨bits * 64 + n, more, 0x80, 0xBF⟩) rest := by
  have hb : (UInt8.ofNat (n + 128)).toNat = n + 128 := toNat_ofNat (by omega)
  rw [scan, if_pos]
  · rw [hb, Nat.add_sub_cancel]
  · simp only [UInt8.le_iff_toNat_le, hb, Bool.and_eq_true, decide_eq_true_eq]
    exact ⟨hlow, hhigh⟩

end Continued

lemma lead?_eq (b : UInt8) : lead? b =
    if 0xC2 ≤ b.toNat ∧ b.toNat ≤ 0xDF then some ⟨b.toNat - 0xC0, 0, 0x80, 0xBF⟩
    else if b.toNat = 0xE0 then some ⟨0, 1, 0xA0, 0xBF⟩
    else if b.toNat = 0xED then some ⟨0xD, 1, 0x80, 0x9F⟩
    else if 0xE1 ≤ b.toNat ∧ b.toNat ≤ 0xEF then some ⟨b.toNat - 0xE0, 1, 0x80, 0xBF⟩
    else if b.toNat = 0xF0 then some ⟨0, 2, 0x90, 0xBF⟩
    else if 0xF1 ≤ b.toNat ∧ b.toNat ≤ 0xF3 then some ⟨b.toNat - 0xF0, 2, 0x80, 0xBF⟩
    else if b.toNat = 0xF4 then some ⟨4, 2, 0x80, 0x8F⟩
    else none := by
  simp only [lead?, UInt8.le_iff_toNat_le, ← UInt8.toNat_inj, Bool.and_eq_true, decide_eq_true_eq]
  rfl

lemma lead?_three {v : Nat} (h : 2047 < v) (h' : v ≤ 65535) (hv : v < 0xD800 ∨ 0xDFFF < v) :
    ∃ low high : UInt8, lead? (UInt8.ofNat (v / 4096 + 224)) = some ⟨v / 4096, 1, low, high⟩ ∧
      low.toNat ≤ v / 64 % 64 + 128 ∧ v / 64 % 64 + 128 ≤ high.toNat := by
  rw [lead?_eq, toNat_ofNat (by omega), if_neg (by omega)]
  by_cases hzero : v / 4096 = 0
  · rw [hzero]
    exact ⟨_, _, rfl, by simp; omega, by simp; omega⟩
  · rw [if_neg (by omega)]
    by_cases hd : v / 4096 = 13
    · rw [hd]
      exact ⟨_, _, rfl, by simp, by simp; omega⟩
    · rw [if_neg (by omega), if_pos (by omega), Nat.add_sub_cancel]
      exact ⟨_, _, rfl, by simp, by simp; omega⟩

lemma lead?_four {v : Nat} (h : 65535 < v) (h' : v < 0x110000) :
    ∃ low high : UInt8, lead? (UInt8.ofNat (v / 262144 + 240)) = some ⟨v / 262144, 2, low, high⟩ ∧
      low.toNat ≤ v / 4096 % 64 + 128 ∧ v / 4096 % 64 + 128 ≤ high.toNat := by
  rw [lead?_eq, toNat_ofNat (by omega), if_neg (by omega), if_neg (by omega), if_neg (by omega),
    if_neg (by omega)]
  by_cases hzero : v / 262144 = 0
  · rw [hzero]
    exact ⟨_, _, rfl, by simp; omega, by simp; omega⟩
  · rw [if_neg (by omega)]
    by_cases hfour : v / 262144 = 4
    · rw [hfour]
      exact ⟨_, _, rfl, by simp, by simp; omega⟩
    · rw [if_pos (by omega), Nat.add_sub_cancel]
      exact ⟨_, _, rfl, by simp, by simp; omega⟩

lemma scan_utf8EncodeChar (c : Char) (rest : Bytes) :
    scan none (String.utf8EncodeChar c ++ rest) = some c :: scan none rest := by
  have hvalid : c.val.toNat < 0xD800 ∨ 0xDFFF < c.val.toNat ∧ c.val.toNat < 0x110000 := c.valid
  have hc : Char.ofNat c.val.toNat = c := Char.ofNat_toNat c
  rw [String.utf8EncodeChar.eq_def]
  dsimp only
  generalize c.val.toNat = v at hvalid hc
  split_ifs with h₁ h₂ h₃
  · rw [List.singleton_append, scan_ascii (by rw [toNat_ofNat (by omega)]; omega),
      toNat_ofNat (by omega), hc]
  · have hb : (UInt8.ofNat (v / 64 % 32 + 192)).toNat = v / 64 + 192 := by
      rw [toNat_ofNat (by omega)]
      omega
    have hlead : lead? (UInt8.ofNat (v / 64 % 32 + 192)) = some ⟨v / 64, 0, 0x80, 0xBF⟩ := by
      rw [lead?_eq, hb, if_pos (by omega), Nat.add_sub_cancel]
    rw [List.cons_append, List.singleton_append, scan_lead (by omega) hlead,
      scan_last (by omega) (by simp) (by simp; omega), Nat.div_add_mod', hc]
  · have hb : (UInt8.ofNat (v / 4096 % 16 + 224)).toNat = v / 4096 + 224 := by
      rw [toNat_ofNat (by omega)]
      omega
    obtain ⟨low, high, hlead, hlow, hhigh⟩ := lead?_three (v := v) (by omega) (by omega) (by omega)
    rw [← hb, UInt8.ofNat_toNat] at hlead
    simp only [List.cons_append, List.nil_append]
    rw [scan_lead (by omega) hlead, scan_more (by omega) hlow hhigh,
      scan_last (by omega) (by simp) (by simp; omega),
      show (v / 4096 * 64 + v / 64 % 64) * 64 + v % 64 = v by omega, hc]
  · have hb : (UInt8.ofNat (v / 262144 % 8 + 240)).toNat = v / 262144 + 240 := by
      rw [toNat_ofNat (by omega)]
      omega
    obtain ⟨low, high, hlead, hlow, hhigh⟩ := lead?_four (v := v) (by omega) (by omega)
    rw [← hb, UInt8.ofNat_toNat] at hlead
    simp only [List.cons_append, List.nil_append]
    rw [scan_lead (by omega) hlead, scan_more (by omega) hlow hhigh,
      scan_more (by omega) (by simp) (by simp; omega),
      scan_last (by omega) (by simp) (by simp; omega),
      show ((v / 262144 * 64 + v / 4096 % 64) * 64 + v / 64 % 64) * 64 + v % 64 = v by omega, hc]

lemma mapM_scan (s : List Char) :
    (scan none (s.flatMap String.utf8EncodeChar)).mapM id = some s := by
  induction s with
  | nil => rfl
  | cons c s ih =>
    rw [List.flatMap_cons, scan_utf8EncodeChar, List.mapM_cons, ih]
    rfl

lemma decode?_encode (s : String) : decode? (encode s) = some s := by
  rw [decode?, encode_eq, mapM_scan, Option.map_some, String.ofList_toList]

lemma zero_notMem_encode {s : String} (h : '\x00' ∉ s.toList) : 0 ∉ encode s := by
  rw [encode_eq, List.mem_flatMap]
  rintro ⟨c, hc, hz⟩
  have hne : c.val.toNat ≠ 0 := by
    intro hv
    obtain rfl : c = '\x00' := Char.ext (UInt32.toNat_inj.mp hv)
    exact h hc
  have hbyte {n : Nat} (hpos : 0 < n) (hlt : n < 256) : 0 ≠ UInt8.ofNat n := by
    intro heq
    have := congrArg UInt8.toNat heq
    rw [toNat_ofNat hlt] at this
    exact hpos.ne this
  rw [String.utf8EncodeChar.eq_def] at hz
  dsimp only at hz
  split_ifs at hz with h₁ h₂ h₃
  · exact hbyte (by omega) (by omega) (List.mem_singleton.mp hz)
  · simp only [List.mem_cons, List.not_mem_nil, or_false] at hz
    rcases hz with hz | hz <;> exact hbyte (by omega) (by omega) hz
  · simp only [List.mem_cons, List.not_mem_nil, or_false] at hz
    rcases hz with hz | hz | hz <;> exact hbyte (by omega) (by omega) hz
  · simp only [List.mem_cons, List.not_mem_nil, or_false] at hz
    rcases hz with hz | hz | hz | hz <;> exact hbyte (by omega) (by omega) hz

end Utf8

namespace Blob

lemma drop_of_cons_isPrefix {blob : Blob} {i : Nat} {b : UInt8} {bs : Bytes}
    (h : b :: bs <+: blob.toList.drop i) :
    ∃ hi : i < blob.size, blob[i] = b ∧ bs <+: blob.toList.drop (i + 1) := by
  have hi : i < blob.toList.length := by
    have hlen := h.length_le
    rw [List.length_cons, List.length_drop] at hlen
    omega
  rw [List.drop_eq_getElem_cons hi, List.cons_prefix_cons] at h
  exact ⟨hi, h.1.symm, h.2⟩

lemma zeroFrom_of_isPrefix {blob : Blob} {i : Nat} {text : Bytes}
    (h : text ++ [0] <+: blob.toList.drop i) (hz : 0 ∉ text) :
    blob.zeroFrom i = i + text.length := by
  induction text generalizing i with
  | nil =>
    obtain ⟨hi, hb, -⟩ := drop_of_cons_isPrefix h
    rw [zeroFrom, dif_pos hi, if_pos hb, List.length_nil, Nat.add_zero]
  | cons b text ih =>
    obtain ⟨hi, hb, hrest⟩ := drop_of_cons_isPrefix h
    obtain ⟨hne, hz⟩ : 0 ≠ b ∧ 0 ∉ text := by simpa using hz
    rw [zeroFrom, dif_pos hi, if_neg (by rw [hb]; exact Ne.symm hne), ih hrest hz,
      List.length_cons]
    omega

lemma stringFrom_of_isPrefix {blob : Blob} {i : Nat} {text : Bytes}
    (h : text ++ [0] <+: blob.toList.drop i) (hz : 0 ∉ text) : blob.stringFrom i = text := by
  rw [stringFrom, zeroFrom_of_isPrefix h hz]
  obtain ⟨rest, hrest⟩ := h
  simp only [Array.toList_extract, List.extract_eq_take_drop, Nat.add_sub_cancel_left, ← hrest,
    List.append_assoc, List.take_left]

lemma exists_terminated {blob : Blob} {i : Nat} (hz : blob.back? = some 0) (hi : i < blob.size) :
    ∃ text, text ++ [0] <+: blob.toList.drop i ∧ 0 ∉ text := by
  have hlast : (blob.toList.drop i).getLast? = some 0 := by
    rw [List.getLast?_drop, if_neg (by simpa using hi)]
    simpa using hz
  obtain ⟨text, rest, hsplit, hnot⟩ := List.eq_append_cons_of_mem (List.mem_of_getLast? hlast)
  exact ⟨text, ⟨rest, by simp [hsplit]⟩, hnot⟩

end Blob

lemma Parts.nameAt_of_isPrefix {p : Parts} {offset : Int32} {bytes : Bytes} (h : p.Named offset)
    (hp : bytes ++ [0] <+: p.strings.toList.drop offset.toInt.toNat) (hz : 0 ∉ bytes) :
    p.nameAt offset = (Utf8.decode? bytes).getD "" := by
  obtain ⟨hnonneg, hlt⟩ := h
  rw [nameAt, stringAt?, if_neg (Int32.not_lt.mpr hnonneg), if_neg (by omega),
    Blob.stringFrom_of_isPrefix hp hz, Option.bind_some]

section Lookup

variable {κ : Type} [BEq κ] [Hashable κ] [LawfulBEq κ] [LawfulHashable κ]

lemma getElem?_foldl_insertIfNew (keys : List κ) (index : Std.HashMap κ Nat) (n : Nat) (k : κ) :
    (keys.foldl (fun (index, n) key => (index.insertIfNew key n, n + 1)) (index, n)).1[k]? =
      index[k]?.or ((keys.idxOf? k).map (n + ·)) := by
  induction keys generalizing index n with
  | nil => simp
  | cons key keys ih =>
    rw [List.foldl_cons, ih, Std.HashMap.getElem?_insertIfNew, List.idxOf?_cons]
    by_cases hk : key = k
    · subst hk
      cases hi : index[key]? with
      | some i =>
        have hmem : key ∈ index := Std.HashMap.mem_iff_isSome_getElem?.mpr (by rw [hi]; rfl)
        simp [hmem]
      | none =>
        have hmem : key ∉ index := by
          rw [Std.HashMap.mem_iff_isSome_getElem?, hi]
          simp
        simp [hmem]
    · rw [if_neg (by simp [hk]), if_neg (by simpa using hk), Option.map_map]
      congr 2
      funext i
      simp only [Function.comp_apply]
      omega

lemma getElem?_firstPositions (keys : List κ) (k : κ) :
    (firstPositions keys)[k]? = keys.idxOf? k := by
  rw [firstPositions, getElem?_foldl_insertIfNew]
  simp

end Lookup

lemma bind_idxOf?_map {α κ : Type} [BEq κ] (f : α → κ) (xs : List α) (k : κ) :
    ((xs.map f).idxOf? k).bind (xs[·]?) = xs.find? (f · == k) := by
  induction xs with
  | nil => rfl
  | cons x xs ih =>
    rw [List.map_cons, List.idxOf?_cons, List.find?_cons]
    cases hx : f x == k with
    | true => simp
    | false => simpa [Option.bind_map, Function.comp_def] using ih

namespace Image

variable {p : Parts} {name : String}

lemma findField?_ofParts (hn : name ≠ "") :
    (ofParts p).findField? name = p.fieldDefs.toList.find? (p.nameAt ·.name == name) := by
  have he : name.isEmpty = false := by simpa using hn
  rw [findField?, he, ← bind_idxOf?_map, ← getElem?_firstPositions]
  simp [ofParts]

lemma findGlobal?_ofParts (hn : name ≠ "") :
    (ofParts p).findGlobal? name = p.globalDefs.toList.find? (p.nameAt ·.name == name) := by
  have he : name.isEmpty = false := by simpa using hn
  rw [findGlobal?, he, ← bind_idxOf?_map, ← getElem?_firstPositions]
  simp [ofParts]

lemma findFunction?_ofParts (hn : name ≠ "") {null : FunctionEntry} {entries : List FunctionEntry}
    (hf : p.functions.toList = null :: entries) : (ofParts p).findFunction? name =
      ((entries.map (p.nameAt ·.name)).idxOf? name).map (· + 1) := by
  have he : name.isEmpty = false := by simpa using hn
  rw [findFunction?, he]
  simp only [ofParts, Bool.false_eq_true, if_false, getElem?_firstPositions, Array.toList_map, hf,
    List.map_cons, List.drop_one, List.tail_cons, List.idxOf?_cons]
  rw [if_neg (by simpa using Ne.symm hn)]

end Image

@[simp] lemma size_appendList {α : Type} (as : Array α) (bs : List α) :
    (as ++ bs).size = as.size + bs.length := by
  rw [← Array.length_toList, Array.toList_appendList, List.length_append, Array.length_toList]

namespace Assembler

lemma string_of_interned {s : String} {asm : Assembler} {offset : Int32}
    (h : asm.interned[Utf8.encode s]? = some offset) : string s asm = (offset, asm) := by
  rw [string, h]

lemma string_of_new {s : String} {asm : Assembler} (h : asm.interned[Utf8.encode s]? = none) :
    string s asm = (Int32.ofNat asm.parts.strings.size, { asm with
      parts := { asm.parts with strings := (asm.parts.strings ++ Utf8.encode s).push 0 }
      interned := asm.interned.insert (Utf8.encode s) (Int32.ofNat asm.parts.strings.size) }) := by
  rw [string, h]

def Spells (asm : Assembler) (name : String) (offset : Int32) : Prop :=
  asm.interned[Utf8.encode name]? = some offset

lemma spells_string (s : String) (asm : Assembler) :
    Spells (string s asm).2 s (string s asm).1 := by
  rw [string]
  dsimp only
  split
  case h_1 offset h => exact h
  case h_2 => exact Std.HashMap.getElem?_insert_self

/-- Every interned text stands in the blob with a zero behind it. -/
structure Legible (asm : Assembler) : Prop where
  first : asm.parts.strings[0]? = some 0
  last : asm.parts.strings.back? = some 0
  stored : ∀ text offset, asm.interned[text]? = some offset →
    0 ≤ offset.toInt ∧ text ++ [0] <+: asm.parts.strings.toList.drop offset.toInt.toNat

lemma legible_empty : empty.Legible := by
  refine ⟨rfl, rfl, fun text offset h => ?_⟩
  simp only [empty, Std.HashMap.getElem?_insert, Std.HashMap.getElem?_emptyWithCapacity] at h
  split_ifs at h with htext
  obtain rfl : [] = text := by simpa using htext
  obtain rfl := Option.some.inj h
  exact ⟨by decide, by simp [empty]⟩

structure Grows (asm asm' : Assembler) : Prop where
  globals : asm.parts.globals.size ≤ asm'.parts.globals.size
  statements : asm.parts.statements.size ≤ asm'.parts.statements.size
  functions : asm.parts.functions.size ≤ asm'.parts.functions.size
  strings : asm.parts.strings.size ≤ asm'.parts.strings.size
  spells : ∀ name offset, asm.Spells name offset → asm'.Spells name offset
  legible : asm'.parts.strings.size < 2 ^ 31 → asm.Legible → asm'.Legible

namespace Grows

variable {asm asm' asm'' : Assembler}

lemma refl (asm : Assembler) : Grows asm asm :=
  ⟨le_rfl, le_rfl, le_rfl, le_rfl, fun _ _ h => h, fun _ h => h⟩

lemma trans (h : Grows asm asm') (h' : Grows asm' asm'') : Grows asm asm'' where
  globals := h.globals.trans h'.globals
  statements := h.statements.trans h'.statements
  functions := h.functions.trans h'.functions
  strings := h.strings.trans h'.strings
  spells name offset hs := h'.spells name offset (h.spells name offset hs)
  legible hlt hl := h'.legible hlt (h.legible (h'.strings.trans_lt hlt) hl)

lemma of_strings (hg : asm.parts.globals.size ≤ asm'.parts.globals.size)
    (hs : asm.parts.statements.size ≤ asm'.parts.statements.size)
    (hf : asm.parts.functions.size ≤ asm'.parts.functions.size)
    (hb : asm'.parts.strings = asm.parts.strings) (hi : asm'.interned = asm.interned) :
    Grows asm asm' where
  globals := hg
  statements := hs
  functions := hf
  strings := by rw [hb]
  spells name offset h := by rwa [Spells, hi]
  legible _ h := {
    first := by rw [hb]; exact h.first
    last := by rw [hb]; exact h.last
    stored := by rw [hb, hi]; exact h.stored }

lemma string (s : String) (asm : Assembler) : Grows asm (string s asm).2 := by
  cases hi : asm.interned[Utf8.encode s]? with
  | some offset =>
    rw [string_of_interned hi]
    exact refl asm
  | none =>
    rw [string_of_new hi]
    have hblob : ((asm.parts.strings ++ Utf8.encode s).push 0).toList =
        asm.parts.strings.toList ++ (Utf8.encode s ++ [0]) := by
      rw [Array.toList_push, Array.toList_appendList, List.append_assoc]
    refine ⟨le_rfl, le_rfl, le_rfl, by simp; omega, fun name offset h => ?_, fun hlt h => ?_⟩
    · -- An interned name is not the new text, so its offset stays.
      have hne : Utf8.encode s ≠ Utf8.encode name := by
        intro he
        rw [Spells, ← he, hi] at h
        cases h
      rwa [Spells, Std.HashMap.getElem?_insert, if_neg (by simpa using hne)]
    · refine ⟨?_, by simp, fun text offset ht => ?_⟩
      · obtain ⟨hpos, hfirst⟩ := Array.getElem?_eq_some_iff.mp h.first
        rw [← Array.getElem?_toList, hblob, List.getElem?_append_left (by simpa using hpos)]
        simpa using h.first
      · rw [Std.HashMap.getElem?_insert] at ht
        dsimp only
        rw [hblob]
        split_ifs at ht with htext
        · obtain rfl : Utf8.encode s = text := by simpa using htext
          obtain rfl := Option.some.inj ht
          have hoffset : (Int32.ofNat asm.parts.strings.size).toInt = asm.parts.strings.size := by
            rw [Array.size_push, size_appendList] at hlt
            exact Int32.toInt_ofNat_of_lt (by omega)
          rw [hoffset, Int.toNat_natCast, ← Array.length_toList, List.drop_left]
          exact ⟨by omega, List.prefix_rfl⟩
        · obtain ⟨hnonneg, hp⟩ := h.stored text offset ht
          exact ⟨hnonneg, hp.trans ((List.prefix_append ..).drop _)⟩

end Grows

section Reading

variable {asm : Assembler} {name : String} {offset : Int32}

lemma Spells.named (h : asm.Spells name offset) (hl : asm.Legible) : asm.parts.Named offset := by
  obtain ⟨hnonneg, hp⟩ := hl.stored _ _ h
  have hlen := hp.length_le
  rw [List.length_append, List.length_singleton, List.length_drop] at hlen
  refine ⟨Int32.le_iff_toInt_le.mpr hnonneg, ?_⟩
  rw [← Array.length_toList]
  omega

lemma Spells.nameAt (h : asm.Spells name offset) (hl : asm.Legible) (hz : '\x00' ∉ name.toList) :
    asm.parts.nameAt offset = name := by
  obtain ⟨-, hp⟩ := hl.stored _ _ h
  rw [Parts.nameAt_of_isPrefix (h.named hl) hp (Utf8.zero_notMem_encode hz), Utf8.decode?_encode,
    Option.getD_some]

end Reading

end Assembler

end GameVm
