import GameVm.Proofs.Reachable
import GameVm.Proofs.Records

/-! Which bytes store which contents: reading is the inverse of writing, and writing what has been
read gives back the bytes exactly when they were packed. -/

namespace GameVm

namespace Section

def all : List Section := [.statements, .globalDefs, .fieldDefs, .functions, .strings, .globals]

def recordSize : Section → Nat
  | .statements => Statement.size
  | .globalDefs => Definition.size
  | .fieldDefs => Definition.size
  | .functions => FunctionEntry.size
  | .strings => 1
  | .globals => 4

lemma recordSize_pos (part : Section) : 0 < part.recordSize := by
  cases part <;> decide

end Section

namespace Parts

def sectionOffset (bs : Bytes) (part : Section) : Nat := (bs.uint32At (sectionEntry part)).toNat

def sectionCount (bs : Bytes) (part : Section) : Nat :=
  (bs.uint32At (sectionEntry part + 4)).toNat

def PackedFrom (bs : Bytes) (offset : Nat) : List Section → Prop
  | [] => bs.length = offset
  | part :: rest =>
    sectionOffset bs part = offset ∧
      PackedFrom bs (offset + sectionCount bs part * part.recordSize) rest

def Packed (bs : Bytes) : Prop := PackedFrom bs headerSize Section.all

instance decidablePackedFrom (bs : Bytes) (offset : Nat) :
    (parts : List Section) → Decidable (PackedFrom bs offset parts)
  | [] => inferInstanceAs (Decidable (bs.length = offset))
  | part :: rest =>
    have := decidablePackedFrom bs (offset + sectionCount bs part * part.recordSize) rest
    inferInstanceAs (Decidable (sectionOffset bs part = offset ∧ _))

instance (bs : Bytes) : Decidable (Packed bs) :=
  inferInstanceAs (Decidable (PackedFrom bs headerSize Section.all))

def TabledFrom (pos : Nat) : List Section → Prop
  | [] => True
  | part :: rest => sectionEntry part = pos ∧ TabledFrom (pos + 8) rest

lemma tabled : TabledFrom 16 Section.all := ⟨rfl, rfl, rfl, rfl, rfl, rfl, trivial⟩

def Sized (part : Section) (content : Bytes × Nat) : Prop :=
  content.1.length = content.2 * part.recordSize

/-- The table locates a section with the given bytes and number of records. -/
structure Holds (bs : Bytes) (part : Section) (content : Bytes × Nat) : Prop where
  count : sectionCount bs part = content.2
  behind : 0 < content.2 → headerSize ≤ sectionOffset bs part
  inside : sectionOffset bs part + content.1.length ≤ bs.length
  bytes : (bs.drop (sectionOffset bs part)).take content.1.length = content.1

structure Stores (bs : Bytes) (p : Parts) : Prop where
  length : headerSize ≤ bs.length
  magic : bs.take 4 = magic
  version : bs.uint32At 4 = version
  checksum : bs.uint32At 8 = p.checksum
  entityCells : bs.uint32At 12 = p.entityCells
  sections : List.Forall₂ (Holds bs) Section.all p.sections

lemma locate_eq_ok_iff (bs : Bytes) (part : Section) (record : Nat) (found : Nat × Nat) :
    locate bs part record = .ok found ↔
      found = (sectionOffset bs part, sectionCount bs part) ∧
        (0 < sectionCount bs part → headerSize ≤ sectionOffset bs part) ∧
        sectionOffset bs part + sectionCount bs part * record ≤ bs.length := by
  have hpos : 0 < bs.uint32At (sectionEntry part + 4) ↔ 0 < sectionCount bs part :=
    UInt32.lt_iff_toNat_lt
  simp only [locate, hpos]
  rw [← sectionOffset, ← sectionCount]
  split
  · simp only [reduceCtorEq, false_iff]
    omega
  · split
    · simp only [reduceCtorEq, false_iff]
      omega
    · simp only [Except.ok.injEq, eq_comm]
      constructor
      · intro hf
        exact ⟨hf, by omega, by omega⟩
      · exact fun h => h.1

lemma readSection_eq_ok_iff {α : Type} {size : Nat} {encode : α → Bytes}
    {read : Nat → Bytes → Except FormatError α} (hf : RecordFormat size encode read)
    (bs : Bytes) (part : Section) (out : Array α) :
    readSection bs part size read = .ok out ↔
      Holds bs part (out.toList.flatMap encode, out.size) := by
  have hlen : (out.toList.flatMap encode).length = out.size * size := hf.length_flatMap out.toList
  simp only [readSection, bind_eq_ok_iff, locate_eq_ok_iff]
  constructor
  · rintro ⟨_, ⟨rfl, hbehind, hinside⟩, hread⟩
    have hroom : sectionCount bs part * size ≤ (bs.drop (sectionOffset bs part)).length := by
      rw [List.length_drop]
      omega
    obtain ⟨as, hcount, hout, hbytes⟩ := (hf.readRecords_eq_ok_iff hroom 0 #[] out).mp hread
    obtain rfl : out.toList = as := hout
    rw [← show out.size = sectionCount bs part from hcount] at hbehind hinside hbytes
    rw [← hlen] at hinside hbytes
    exact ⟨hcount.symm, hbehind, hinside, hbytes.symm⟩
  · rintro ⟨hcount, hbehind, hinside, hbytes⟩
    dsimp only at hcount hbehind hinside hbytes
    rw [hlen] at hinside hbytes
    have hroom : out.size * size ≤ (bs.drop (sectionOffset bs part)).length := by
      rw [List.length_drop]
      omega
    refine ⟨_, ⟨rfl, by rwa [hcount], by rwa [hcount]⟩, ?_⟩
    rw [hcount]
    exact (hf.readRecords_eq_ok_iff hroom 0 #[] out).mpr ⟨out.toList, rfl, rfl, hbytes.symm⟩

lemma locate_strings_eq_ok_iff (bs : Bytes) (strings : Blob) :
    (∃ found, locate bs .strings 1 = .ok found ∧
        ((bs.drop found.1).take found.2).toArray = strings) ↔
      Holds bs .strings (strings.toList, strings.size) := by
  simp only [locate_eq_ok_iff, Nat.mul_one]
  constructor
  · rintro ⟨_, ⟨rfl, hbehind, hinside⟩, rfl⟩
    have hlen : ((bs.drop (sectionOffset bs .strings)).take (sectionCount bs .strings)).length =
        sectionCount bs .strings := by
      rw [List.length_take, List.length_drop]
      omega
    exact ⟨hlen.symm, by simpa only [List.size_toArray, hlen] using hbehind,
      by simpa only [hlen] using hinside, by simp only [hlen]⟩
  · rintro ⟨hcount, hbehind, hinside, hbytes⟩
    simp only [Array.length_toList] at hcount hbehind hinside hbytes
    refine ⟨_, ⟨rfl, by rwa [hcount], by rwa [hcount]⟩, ?_⟩
    simp only [hcount, hbytes]

lemma readParts_eq_ok_iff (bs : Bytes) (p : Parts) :
    readParts bs = .ok p ↔
      bs.uint32At 12 = p.entityCells ∧ List.Forall₂ (Holds bs) Section.all p.sections := by
  simp only [readParts, bind_eq_ok_iff, readSection_eq_ok_iff Statement.recordFormat,
    readSection_eq_ok_iff (Definition.recordFormat _),
    readSection_eq_ok_iff FunctionEntry.recordFormat,
    readSection_eq_ok_iff Bytes.recordFormat_uint32, pure, Except.pure, Except.ok.injEq]
  constructor
  · rintro ⟨statements, hst, globalDefs, hgd, fieldDefs, hfd, functions, hfn, found, hfound,
      globals, hgl, rfl⟩
    have hstr := (locate_strings_eq_ok_iff bs _).mp ⟨found, hfound, rfl⟩
    exact ⟨rfl, .cons hst (.cons hgd (.cons hfd (.cons hfn (.cons hstr (.cons hgl .nil)))))⟩
  · rintro ⟨hcells, hsections⟩
    simp only [Section.all, sections, List.forall₂_cons] at hsections
    obtain ⟨hst, hgd, hfd, hfn, hstr, hgl, -⟩ := hsections
    obtain ⟨found, hfound, hstrings⟩ := (locate_strings_eq_ok_iff bs _).mpr hstr
    exact ⟨_, hst, _, hgd, _, hfd, _, hfn, found, hfound, _, hgl, by rw [hcells, hstrings]⟩

lemma decode_eq_ok_iff (bs : Bytes) (p : Parts) : decode bs = .ok p ↔ Stores bs p := by
  simp only [decode, refuse_bind_eq_ok_iff, bind_eq_ok_iff, readParts_eq_ok_iff, not_lt, ne_eq,
    not_not, pure, Except.pure, Except.ok.injEq]
  constructor
  · rintro ⟨hlen, hmagic, hversion, p, ⟨hcells, hsections⟩, hsum, rfl⟩
    exact ⟨hlen, hmagic, hversion, hsum.symm, hcells, hsections⟩
  · rintro ⟨hlen, hmagic, hversion, hsum, hcells, hsections⟩
    exact ⟨hlen, hmagic, hversion, p, ⟨hcells, hsections⟩, hsum.symm, rfl⟩

/-! The table and the sections of what is written. -/

lemma length_sectionTable (offset : Nat) (contents : List (Bytes × Nat)) :
    (sectionTable offset contents).length = 8 * contents.length := by
  induction contents generalizing offset with
  | nil => rfl
  | cons content rest ih =>
    simp only [sectionTable, List.length_append, Bytes.length_ofNat, ih, List.length_cons]
    omega

lemma sections_sized (p : Parts) : List.Forall₂ Sized Section.all p.sections :=
  .cons (Statement.recordFormat.length_flatMap _) (.cons
    ((Definition.recordFormat .global).length_flatMap _) (.cons
    ((Definition.recordFormat .field).length_flatMap _) (.cons
    (FunctionEntry.recordFormat.length_flatMap _) (.cons (Nat.mul_one _).symm (.cons
    (Bytes.recordFormat_uint32.length_flatMap _) .nil)))))

lemma Sized.count_le {part : Section} {content : Bytes × Nat} (h : Sized part content) :
    content.2 ≤ content.1.length := by
  rw [h]
  exact Nat.le_mul_of_pos_right _ part.recordSize_pos

lemma holds_of_table {bs rest : Bytes} {parts : List Section} {contents : List (Bytes × Nat)}
    {pos offset : Nat} (hs : List.Forall₂ Sized parts contents) (hp : TabledFrom pos parts)
    (htable : bs.drop pos = sectionTable offset contents ++ rest)
    (hdata : bs.drop offset = contents.flatMap Prod.fst) (hbehind : headerSize ≤ offset)
    (hinside : offset ≤ bs.length) (hlt : bs.length < 2 ^ 32) :
    PackedFrom bs offset parts ∧ List.Forall₂ (Holds bs) parts contents := by
  induction hs generalizing pos offset with
  | nil =>
    have hend := List.drop_eq_nil_iff.mp hdata
    exact ⟨by rw [PackedFrom]; omega, .nil⟩
  | @cons part content parts contents hsized hs ih =>
    obtain ⟨data, count⟩ := content
    obtain ⟨rfl, hp⟩ := hp
    rw [List.flatMap_cons] at hdata
    have hlen := congrArg List.length hdata
    rw [List.length_drop, List.length_append] at hlen
    dsimp only at hlen hdata
    have hle : count ≤ data.length := hsized.count_le
    rw [sectionTable, List.append_assoc, List.append_assoc] at htable
    have hoffset : sectionOffset bs part = offset := by
      have hw := Bytes.uint32At_ofNat offset
        (Bytes.ofNat 4 count ++ (sectionTable (offset + data.length) contents ++ rest))
      rwa [← htable, Bytes.uint32At_drop, Nat.mod_eq_of_lt (by omega)] at hw
    have hcounts : bs.drop (sectionEntry part + 4) =
        Bytes.ofNat 4 count ++ (sectionTable (offset + data.length) contents ++ rest) := by
      rw [← List.drop_drop, htable, List.drop_left' (Bytes.length_ofNat 4 offset)]
    have hcount : sectionCount bs part = count := by
      have hw := Bytes.uint32At_ofNat count
        (sectionTable (offset + data.length) contents ++ rest)
      rwa [← hcounts, Bytes.uint32At_drop, Nat.mod_eq_of_lt (by omega)] at hw
    have hrest : bs.drop (sectionEntry part + 4 + 4) =
        sectionTable (offset + data.length) contents ++ rest := by
      rw [← List.drop_drop, hcounts, List.drop_left' (Bytes.length_ofNat 4 count)]
    have hdata' : bs.drop (offset + data.length) = contents.flatMap Prod.fst := by
      rw [← List.drop_drop, hdata, List.drop_left]
    obtain ⟨hpacked, hholds⟩ := ih hp hrest hdata' (by omega) (by omega)
    refine ⟨⟨hoffset, ?_⟩, .cons ⟨hcount, ?_, ?_, ?_⟩ hholds⟩
    · rwa [hcount, ← show data.length = count * part.recordSize from hsized]
    · intro
      rwa [hoffset]
    · rw [hoffset]
      dsimp only
      omega
    · rw [hoffset, hdata, List.take_left]

lemma length_encode (p : Parts) :
    p.encode.length = headerSize + (p.sections.flatMap Prod.fst).length := by
  simp only [encode, List.length_append, Bytes.length_ofUInt32, length_sectionTable]
  rfl

def preamble (p : Parts) : Bytes :=
  magic ++ Bytes.ofUInt32 version ++ Bytes.ofUInt32 p.checksum ++ Bytes.ofUInt32 p.entityCells

lemma encode_eq (p : Parts) :
    p.encode = p.preamble ++ (sectionTable headerSize p.sections ++ p.sections.flatMap Prod.fst) :=
  List.append_assoc ..

lemma length_preamble (p : Parts) : p.preamble.length = 16 := rfl

lemma drop_encode (p : Parts) :
    p.encode.drop 16 = sectionTable headerSize p.sections ++ p.sections.flatMap Prod.fst := by
  rw [encode_eq, List.drop_left' p.length_preamble]

lemma drop_headerSize_encode (p : Parts) :
    p.encode.drop headerSize = p.sections.flatMap Prod.fst := by
  have hlen : (sectionTable headerSize p.sections).length = 48 := length_sectionTable ..
  rw [show headerSize = 16 + 48 from rfl, ← List.drop_drop, drop_encode, List.drop_left' hlen]

lemma stores_encode {p q : Parts} (hsum : q.checksum = p.checksum)
    (hcells : q.entityCells = p.entityCells)
    (hsections : List.Forall₂ (Holds p.encode) Section.all q.sections) : Stores p.encode q := by
  refine ⟨?_, rfl, ?_, ?_, ?_, hsections⟩
  · rw [length_encode]
    omega
  all_goals
    rw [encode_eq, preamble]
    simp [show magic.length = 4 from rfl, Bytes.uint32At_append_right, hsum, hcells]

lemma packed_and_stores_encode {p : Parts} (hlt : p.encode.length < 2 ^ 32) :
    Packed p.encode ∧ Stores p.encode p := by
  have hlen : headerSize ≤ p.encode.length := by
    rw [length_encode]
    omega
  obtain ⟨hpacked, hsections⟩ := holds_of_table p.sections_sized tabled p.drop_encode
    p.drop_headerSize_encode le_rfl hlen hlt
  exact ⟨hpacked, stores_encode rfl rfl hsections⟩

lemma table_of_packed {bs : Bytes} {parts : List Section} {contents : List (Bytes × Nat)}
    {pos offset : Nat} (hs : List.Forall₂ Sized parts contents) (hp : TabledFrom pos parts)
    (hroom : pos + 8 * parts.length ≤ bs.length) (hh : List.Forall₂ (Holds bs) parts contents)
    (hpacked : PackedFrom bs offset parts) :
    sectionTable offset contents = (bs.drop pos).take (8 * parts.length) ∧
      contents.flatMap Prod.fst = bs.drop offset := by
  induction hs generalizing pos offset with
  | nil => exact ⟨by simp [sectionTable], by simp [← show bs.length = offset from hpacked]⟩
  | @cons part content parts contents hsized hs ih =>
    obtain ⟨data, count⟩ := content
    obtain ⟨rfl, hp⟩ := hp
    obtain ⟨rfl, hpacked⟩ := hpacked
    obtain ⟨hholds, hrest⟩ := List.forall₂_cons.mp hh
    rw [List.length_cons] at hroom
    obtain rfl : sectionCount bs part = count := hholds.count
    rw [← show data.length = sectionCount bs part * part.recordSize from hsized] at hpacked
    obtain ⟨htable, hdata⟩ := ih hp (by omega) hrest hpacked
    constructor
    · have hoffset : Bytes.ofNat 4 (sectionOffset bs part) = (bs.drop (sectionEntry part)).take 4 :=
        Bytes.ofUInt32_uint32At (by omega)
      have hcount : Bytes.ofNat 4 (sectionCount bs part) =
          (bs.drop (sectionEntry part + 4)).take 4 := Bytes.ofUInt32_uint32At (by omega)
      rw [sectionTable, hoffset, hcount, htable, Bytes.take_drop_append, Bytes.take_drop_append,
        List.length_cons, Nat.mul_add, Nat.add_comm]
    · rw [List.flatMap_cons, hdata, ← List.drop_drop]
      nth_rewrite 1 [← show _ = data from hholds.bytes]
      exact List.take_append_drop ..

lemma encode_eq_of_packed {bs : Bytes} {p : Parts} (hs : Stores bs p) (hp : Packed bs) :
    p.encode = bs := by
  obtain ⟨htable, hdata⟩ := table_of_packed p.sections_sized tabled hs.length hs.sections hp
  have hlen := hs.length
  rw [headerSize] at hlen
  calc
    p.encode = (bs.drop 0).take 4 ++ (bs.drop 4).take 4 ++ (bs.drop 8).take 4 ++
        (bs.drop 12).take 4 ++ (bs.drop 16).take 48 ++ bs.drop 64 := by
      rw [encode, ← hs.magic, ← hs.version, ← hs.checksum, ← hs.entityCells, htable, hdata,
        Bytes.ofUInt32_uint32At (by omega), Bytes.ofUInt32_uint32At (by omega),
        Bytes.ofUInt32_uint32At (by omega)]
      rfl
    _ = bs := by
      rw [Bytes.take_drop_append bs 0 4 4, Bytes.take_drop_append bs 0 8 4,
        Bytes.take_drop_append bs 0 12 4, Bytes.take_drop_append bs 0 16 48, List.drop_zero,
        List.take_append_drop]

lemma decode_encode {p : Parts} (hlt : p.encode.length < 2 ^ 32) : decode p.encode = .ok p :=
  (decode_eq_ok_iff _ p).mpr (packed_and_stores_encode hlt).2

end Parts

namespace Image

lemma decode_eq_ok_iff (bs : Bytes) (image : Image) :
    decode bs = .ok image ↔ ∃ p, Parts.decode bs = .ok p ∧ p.WellFormed ∧ ofParts p = image := by
  simp only [decode, Parts.bind_eq_ok_iff, Unique.exists_iff, PUnit.default_eq_unit,
    Parts.check_eq_ok_iff, pure, Except.pure, Except.ok.injEq]

lemma decode_encode_of_wellFormed {p : Parts} (hlt : p.encode.length < 2 ^ 32)
    (hwf : p.WellFormed) : decode p.encode = .ok (ofParts p) :=
  (decode_eq_ok_iff _ _).mpr ⟨p, Parts.decode_encode hlt, hwf, rfl⟩

/-- Written contents are read exactly when they are well formed, and then as what they were. -/
theorem decode_encode_iff_wellFormed (p : Parts) (hlt : p.encode.length < 2 ^ 32) :
    ((∃ image, decode p.encode = .ok image) ↔ p.WellFormed) ∧
      ∀ image, decode p.encode = .ok image →
        image.parts = p ∧ p.encode.uint32At 8 = image.checksum := by
  have hdecode := Parts.decode_encode hlt
  simp only [decode_eq_ok_iff, hdecode, Except.ok.injEq]
  constructor
  · constructor
    · rintro ⟨image, q, rfl, hwf, -⟩
      exact hwf
    · intro hwf
      exact ⟨ofParts p, p, rfl, hwf, rfl⟩
  · rintro image ⟨q, rfl, -, rfl⟩
    exact ⟨rfl, (Parts.packed_and_stores_encode hlt).2.checksum⟩

def labelled : Parts :=
  { Relay.parts with
    entityCells := 3
    globalDefs := #[⟨.float, true, 28, 1⟩]
    fieldDefs := #[⟨.vector, false, 0, 6⟩] }

lemma labelled_wellFormed : labelled.WellFormed := by
  rw [← Parts.check_eq_ok_iff]
  decide +kernel

theorem labelled_decode_encode : labelled.encode.length < 2 ^ 32 ∧
    ∃ image, decode labelled.encode = .ok image ∧ image.parts = labelled ∧
      labelled.encode.uint32At 8 = image.checksum := by
  have hlt : labelled.encode.length < 2 ^ 32 := by decide +kernel
  obtain ⟨hiff, hsame⟩ := decode_encode_iff_wellFormed labelled hlt
  obtain ⟨image, himage⟩ := hiff.mpr labelled_wellFormed
  exact ⟨hlt, image, himage, hsame image himage⟩

/-- What has been read is written in a canonical form, which is the form it was read from only if
that was packed. -/
theorem encode_canonical {bs : Bytes} {image : Image} (h : decode bs = .ok image)
    (hlt : image.encode.length < 2 ^ 32) :
    decode image.encode = .ok image ∧ (image.encode = bs ↔ Parts.Packed bs) := by
  obtain ⟨p, hp, hwf, rfl⟩ := (decode_eq_ok_iff bs image).mp h
  constructor
  · exact decode_encode_of_wellFormed hlt hwf
  · constructor
    · intro he
      rw [← he]
      exact (Parts.packed_and_stores_encode hlt).1
    · exact Parts.encode_eq_of_packed ((Parts.decode_eq_ok_iff bs p).mp hp)

/-- A byte behind the last section is accepted and lost. -/
theorem labelled_canonical :
    decode (labelled.encode ++ [7]) = .ok (ofParts labelled) ∧
      decode (ofParts labelled).encode = .ok (ofParts labelled) ∧
      (ofParts labelled).encode ≠ labelled.encode ++ [7] := by
  have hparts : Parts.decode (labelled.encode ++ [7]) = .ok labelled := by decide +kernel
  have hdecode : decode (labelled.encode ++ [7]) = .ok (ofParts labelled) :=
    (decode_eq_ok_iff _ _).mpr ⟨labelled, hparts, labelled_wellFormed, rfl⟩
  have hlt : (ofParts labelled).encode.length < 2 ^ 32 := by
    rw [show (ofParts labelled).encode = labelled.encode from rfl]
    decide +kernel
  have hpacked : ¬ Parts.Packed (labelled.encode ++ [7]) := by decide +kernel
  obtain ⟨hsame, hiff⟩ := encode_canonical hdecode hlt
  exact ⟨hdecode, hsame, fun he => hpacked (hiff.mp he)⟩

end Image

lemma Instance.created_of_check {p : Parts} (hlt : p.encode.length < 2 ^ 32)
    (hc : p.check = .ok ()) {table : BuiltinTable} {domain : Domain} {settings : Settings}
    {options : InstanceOptions} {bound : Array (Option Builtin)}
    (ho : optionsFlaw? (Image.ofParts p) options = none)
    (hb : table.bind domain settings.builtinBinding (Image.ofParts p) = .ok bound) :
    Created ⟨⟨Setup.ofImage domain (Image.ofParts p) settings, bound⟩,
      Machine.fresh (Setup.ofImage domain (Image.ofParts p) settings) options.entityCapacity
        (options.recordCells.getD (Image.ofParts p).parts.entityCells.toNat)⟩ := by
  have hdecode := Image.decode_encode_of_wellFormed hlt ((Parts.check_eq_ok_iff p).mp hc)
  obtain ⟨journal, hup⟩ := bringUp_of_bind ho hb #[]
  exact ⟨p.encode, _, hdecode, table, domain, settings, options, #[], journal, hup⟩

end GameVm
