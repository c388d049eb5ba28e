import GameVm.Proofs.Building
import GameVm.Proofs.ConstantStrings

/-! Interned strings: an assembler gives a string one offset for good, and there it is read from the
blob, whether that is still being assembled or has been built. -/

namespace GameVm

namespace Parts

variable {p q : Parts}

/-- Where a section starts in the stored form; the header keeps the low 32 bits of it. -/
def sectionStart (p : Parts) (part : Section) : Nat :=
  headerSize + ((p.sections.take part.ctorIdx).flatMap Prod.fst).length

lemma drop_sectionTable (offset n : Nat) (contents : List (Bytes × Nat)) :
    (sectionTable offset contents).drop (8 * n) =
      sectionTable (offset + ((contents.take n).flatMap Prod.fst).length) (contents.drop n) := by
  induction n generalizing offset contents with
  | zero => simp
  | succ n ih =>
    cases contents with
    | nil => simp [sectionTable]
    | cons content rest =>
      obtain ⟨data, count⟩ := content
      have hentry : (Bytes.ofNat 4 offset ++ Bytes.ofNat 4 count).length = 8 := by simp
      rw [sectionTable, Nat.mul_succ, Nat.add_comm (8 * n), ← List.drop_drop,
        List.drop_left' hentry, ih, List.take_succ_cons, List.flatMap_cons, List.length_append,
        List.drop_succ_cons, Nat.add_assoc]

lemma section_encode (part : Section) {content : Bytes × Nat} {rest : List (Bytes × Nat)}
    (hp : p.sections.drop part.ctorIdx = content :: rest) :
    sectionOffset p.encode part = p.sectionStart part % 2 ^ 32 ∧
    sectionCount p.encode part = content.2 % 2 ^ 32 ∧
      content.1 <+: p.encode.drop (p.sectionStart part) := by
  obtain ⟨data, count⟩ := content
  have hidx : part.ctorIdx < p.sections.length := by
    by_contra hge
    simp [List.drop_eq_nil_of_le (Nat.le_of_not_lt hge)] at hp
  have htable : p.encode.drop (sectionEntry part) = Bytes.ofNat 4 (p.sectionStart part) ++
      (Bytes.ofNat 4 count ++ (sectionTable (p.sectionStart part + data.length) rest ++
        p.sections.flatMap Prod.fst)) := by
    rw [sectionEntry, ← List.drop_drop, drop_encode, Nat.mul_comm,
      List.drop_append_of_le_length (by rw [length_sectionTable]; omega), drop_sectionTable, hp]
    simp only [sectionTable, List.append_assoc, sectionStart]
  have hdata : p.encode.drop (p.sectionStart part) = data ++ rest.flatMap Prod.fst := by
    rw [sectionStart, ← List.drop_drop, drop_headerSize_encode]
    nth_rewrite 2 [← List.take_append_drop part.ctorIdx p.sections]
    rw [List.flatMap_append, List.drop_left, hp, List.flatMap_cons]
  refine ⟨?_, ?_, ?_⟩
  · have hw := Bytes.uint32At_ofNat (p.sectionStart part) (Bytes.ofNat 4 count ++
      (sectionTable (p.sectionStart part + data.length) rest ++ p.sections.flatMap Prod.fst))
    rwa [← htable, Bytes.uint32At_drop] at hw
  · have hw := Bytes.uint32At_ofNat count
      (sectionTable (p.sectionStart part + data.length) rest ++ p.sections.flatMap Prod.fst)
    have hcounts := congrArg (List.drop 4) htable
    rw [List.drop_drop, List.drop_left' (Bytes.length_ofNat 4 _)] at hcounts
    rwa [← hcounts, Bytes.uint32At_drop] at hw
  · rw [hdata]
    exact List.prefix_append ..

lemma strings_of_decode_encode (h : decode p.encode = .ok q)
    (hstart : p.sectionStart .strings < 2 ^ 32) (hsize : p.strings.size < 2 ^ 32) :
    q.strings = p.strings := by
  have hsections := ((decode_eq_ok_iff _ _).mp h).sections
  simp only [Section.all, sections, List.forall₂_cons] at hsections
  obtain ⟨-, -, -, -, hstrings, -⟩ := hsections
  obtain ⟨hoffset, hcount, hwritten⟩ := p.section_encode .strings rfl
  rw [Nat.mod_eq_of_lt hstart] at hoffset
  rw [Nat.mod_eq_of_lt hsize] at hcount
  have hlen : q.strings.toList.length = p.strings.toList.length :=
    hstrings.count.symm.trans hcount
  have hread := hstrings.bytes
  dsimp only at hread
  rw [hoffset, hlen, ← List.prefix_iff_eq_take.mp hwritten] at hread
  exact Array.ext' hread.symm

end Parts

namespace Assembler

section Interned

variable {steps : List Step} {asm asm' : Assembler} {s : String} {offset : Int32}

def Gives (steps : List Step) (s : String) (offset : Int32) : Prop := ⟨.string s, offset⟩ ∈ steps

lemma spells_of_run (h : (Op.string s).run asm = (some offset, asm')) : asm'.Spells s offset := by
  have hstring : string s asm = (offset, asm') := Advances.of_map h
  have hspells := spells_string s asm
  rwa [hstring] at hspells

lemma Assembled.spells (h : Assembled steps asm) (hg : Gives steps s offset) :
    asm.Spells s offset := by
  induction h with
  | start => cases hg
  | step before run ih =>
    rcases List.mem_append.mp hg with hearlier | hlast
    · exact (Grows.of_run run).spells s offset (ih hearlier)
    · cases List.mem_singleton.mp hlast
      exact spells_of_run run

lemma Assembled.legible (h : Assembled steps asm) (hlt : asm.parts.strings.size < 2 ^ 31) :
    asm.Legible := by
  induction h with
  | start => exact legible_empty
  | step before run ih =>
    have hgrows := Grows.of_run run
    exact hgrows.legible hlt (ih (hgrows.strings.trans_lt hlt))

section Reading

variable (hs : asm.Spells s offset) (hl : asm.Legible) (hz : '\x00' ∉ s.toList)
include hs hl hz

lemma Spells.stringFrom :
    asm.parts.strings.stringFrom offset.toInt.toNat = Utf8.encode s :=
  Blob.stringFrom_of_isPrefix (hl.stored _ _ hs).2 (Utf8.zero_notMem_encode hz)

lemma Spells.stringAt? {p : Parts} (hp : p.strings = asm.parts.strings) :
    p.stringAt? offset = some (Utf8.encode s) := by
  obtain ⟨hnonneg, hlt⟩ := hs.named hl
  rw [p.stringAt?_eq hnonneg, hp, if_pos hlt.le, hs.stringFrom hl hz]

lemma Spells.resolve {t : StringTable} (ht : t.constants = asm.parts.strings) :
    t.resolve offset = .ok (Utf8.encode s) := by
  obtain ⟨hnonneg, hlt⟩ := hs.named hl
  have hne : t.constants ≠ #[] := by
    intro hempty
    have hfirst := hl.first
    simp [← ht, hempty] at hfirst
  rw [t.resolve_eq hnonneg hne, ht, if_pos hlt, hs.stringFrom hl hz]

end Reading

lemma strings_of_build {image : Image} (h : asm.build = .ok image)
    (hstart : asm.parts.sectionStart .strings < 2 ^ 32)
    (hlt : asm.parts.strings.size < 2 ^ 31) : image.parts.strings = asm.parts.strings := by
  obtain ⟨p, hdecode, -, rfl⟩ := (Image.decode_eq_ok_iff _ _).mp h
  exact Parts.strings_of_decode_encode hdecode hstart (hlt.trans (by decide))

/-- A string is given the same offset each time, and keeps its place in the blob. Where it has no
zero character it is read there as what it was, so no other such string has the offset. -/
theorem interned_strings_kept (h : Assembled steps asm)
    (hlt : asm.parts.strings.size < 2 ^ 31) :
    (asm.parts.strings[0]? = some 0 ∧ asm.parts.strings.back? = some 0) ∧
    (∀ s offset, Gives steps s offset →
      string s asm = (offset, asm) ∧ 0 ≤ offset.toInt ∧
      Utf8.encode s ++ [0] <+: asm.parts.strings.toList.drop offset.toInt.toNat) ∧
    (∀ s offset offset', Gives steps s offset → Gives steps s offset' → offset = offset') ∧
    (∀ s offset, Gives steps s offset → '\x00' ∉ s.toList →
      asm.parts.stringAt? offset = some (Utf8.encode s) ∧
      (∀ t : StringTable, t.constants = asm.parts.strings →
        t.resolve offset = .ok (Utf8.encode s)) ∧
      -- The header has 32 bits for the place of the blob.
      (asm.parts.sectionStart .strings < 2 ^ 32 → ∀ image, asm.build = .ok image →
        image.parts.strings = asm.parts.strings ∧
        image.parts.stringAt? offset = some (Utf8.encode s))) ∧
    (∀ s s' offset offset', Gives steps s offset → Gives steps s' offset' →
      '\x00' ∉ s.toList → '\x00' ∉ s'.toList → s ≠ s' → offset ≠ offset') := by
  have hl := h.legible hlt
  refine ⟨⟨hl.first, hl.last⟩, fun s offset hg => ?_, fun s offset offset' hg hg' => ?_,
    fun s offset hg hz => ?_, fun s s' offset offset' hg hg' hz hz' hne => ?_⟩
  · exact ⟨string_of_interned (h.spells hg), hl.stored _ _ (h.spells hg)⟩
  · exact Option.some.inj ((h.spells hg).symm.trans (h.spells hg'))
  · have hs := h.spells hg
    refine ⟨hs.stringAt? hl hz rfl, fun t => hs.resolve hl hz, fun hstart image hbuild => ?_⟩
    have hblob := strings_of_build hbuild hstart hlt
    exact ⟨hblob, hs.stringAt? hl hz hblob⟩
  · rintro rfl
    have hread := (h.spells hg).stringFrom hl hz
    rw [(h.spells hg').stringFrom hl hz'] at hread
    have hsame := congrArg Utf8.decode? hread
    rw [Utf8.decode?_encode, Utf8.decode?_encode] at hsame
    exact hne (Option.some.inj hsame).symm

end Interned

/-! A string with a zero in it ends like the name that is declared after it. -/

namespace Embedded

def steps : List Step :=
  [⟨.string "a\x00b", 1⟩, ⟨.global "b" .float false, 28⟩, ⟨.string "b", 5⟩,
    ⟨.string "a\x00b", 1⟩]

def withString : Assembler :=
  { empty with
    parts := { empty.parts with strings := #[0, 97, 0, 98, 0] }
    interned := empty.interned.insert [97, 0, 98] 1 }

def finished : Assembler :=
  { withString with
    parts := { empty.parts with
      globalDefs := #[⟨.float, false, 28, 5⟩]
      strings := #[0, 97, 0, 98, 0, 98, 0]
      globals := Array.replicate 29 0 }
    interned := withString.interned.insert [98] 5 }

lemma encode_long : Utf8.encode "a\x00b" = [97, 0, 98] := by decide +kernel

lemma encode_short : Utf8.encode "b" = [98] := by decide +kernel

lemma string_empty : string "a\x00b" empty = (1, withString) := by
  have hnew : empty.interned[Utf8.encode "a\x00b"]? = none := by simp [empty, encode_long]
  rw [string_of_new hnew, encode_long]
  rfl

lemma global_withString : global "b" .float false withString = (28, finished) := by
  have hnew : (alloc 1 withString).2.interned[Utf8.encode "b"]? = none := by
    simp [alloc, withString, empty, encode_short]
  let defined (spelled : Int32 × Assembler) : Assembler :=
    { spelled.2 with parts := { spelled.2.parts with
      globalDefs := spelled.2.parts.globalDefs.push ⟨.float, false, 28, spelled.1⟩ } }
  change (28, defined (string "b" (alloc 1 withString).2)) = _
  rw [string_of_new hnew, encode_short]
  rfl

lemma assembled : Assembled steps finished := by
  have hshort : string "b" finished = (5, finished) :=
    string_of_interned (by simp [finished, encode_short])
  have hlong : string "a\x00b" finished = (1, finished) :=
    string_of_interned (by simp [finished, withString, encode_long, Std.HashMap.getElem_insert])
  have hfirst : (Op.string "a\x00b").run empty = (some 1, withString) :=
    congrArg (Prod.map some id) string_empty
  have hglobal : (Op.global "b" .float false).run withString = (some 28, finished) :=
    congrArg (Prod.map some id) global_withString
  have hthird : (Op.string "b").run finished = (some 5, finished) :=
    congrArg (Prod.map some id) hshort
  have hlast : (Op.string "a\x00b").run finished = (some 1, finished) :=
    congrArg (Prod.map some id) hlong
  exact .step (.step (.step (.step .start hfirst) hglobal) hthird) hlast

/-- The long string is read up to its zero only, and the short one has its own offset. -/
theorem short_string_stored_apart :
    finished.parts.strings.size < 2 ^ 31 ∧ Gives steps "a\x00b" 1 ∧ Gives steps "b" 5 ∧
    string "b" finished = (5, finished) ∧ string "a\x00b" finished = (1, finished) ∧
    finished.parts.sectionStart .strings < 2 ^ 32 ∧
    ∃ image, finished.build = .ok image ∧ image.parts.stringAt? 5 = some (Utf8.encode "b") ∧
      image.parts.stringAt? 1 = some (Utf8.encode "a") := by
  have hlt : finished.parts.strings.size < 2 ^ 31 := by decide
  have hlong : Gives steps "a\x00b" 1 := by simp [Gives, steps]
  have hshort : Gives steps "b" 5 := by simp [Gives, steps]
  have hstart : finished.parts.sectionStart .strings < 2 ^ 32 := by decide +kernel
  have hwf : finished.parts.WellFormed := by
    rw [← Parts.check_eq_ok_iff]
    decide +kernel
  have hbuild : finished.build = .ok (Image.ofParts finished.parts) :=
    Image.decode_encode_of_wellFormed (by decide +kernel) hwf
  obtain ⟨-, hkept, -, hread, -⟩ := interned_strings_kept assembled hlt
  obtain ⟨-, -, himage⟩ := hread "b" 5 hshort (by decide)
  exact ⟨hlt, hlong, hshort, (hkept _ _ hshort).1, (hkept _ _ hlong).1, hstart, _, hbuild,
    (himage hstart _ hbuild).2, by decide +kernel⟩

end Embedded

/-! Behind so many statements that the header has no room for the place of the blob, the bytes that
are read for it are those of statements. -/

namespace Crowded

def steps : Nat → List Step
  | 0 => [⟨.string "hi", 1⟩]
  | n + 1 => steps n ++ [⟨.emit ⟨.done, 0, 0, 0⟩, n + 1⟩]

def contents (n : Nat) (strings : Blob) : Parts :=
  { empty.parts with statements := Array.replicate n ⟨.done, 0, 0, 0⟩, strings }

def written (n : Nat) : Parts := contents n #[0, 104, 105, 0]

def finished (n : Nat) : Assembler :=
  { empty with
    parts := written (n + 1)
    interned := empty.interned.insert [104, 105] 1 }

lemma encode_hi : Utf8.encode "hi" = [104, 105] := by decide +kernel

lemma assembled (n : Nat) : Assembled (steps n) (finished n) := by
  induction n with
  | zero =>
    have hnew : empty.interned[Utf8.encode "hi"]? = none := by simp [empty, encode_hi]
    have hrun : (Op.string "hi").run empty = (some 1, finished 0) := by
      change Prod.map some id (string "hi" empty) = _
      rw [string_of_new hnew, encode_hi]
      rfl
    exact .step .start hrun
  | succ n ih =>
    have hrun : (Op.emit ⟨.done, 0, 0, 0⟩).run (finished n) = (some (n + 1), finished (n + 1)) := by
      change (some (Array.replicate (n + 1) (⟨.done, 0, 0, 0⟩ : Statement)).size, _) = _
      simp only [finished, written, contents, Array.size_replicate,
        Array.replicate_succ (n := n + 1)]
    exact .step ih hrun

lemma gives (n : Nat) : Gives (steps n) "hi" 1 := by
  induction n with
  | zero => exact List.mem_singleton_self _
  | succ n ih => exact List.mem_append_left _ ih

lemma wellFormed {n : Nat} {strings : Blob} (h : strings[0]? = some 0 ∧ strings.back? = some 0) :
    (contents n strings).WellFormed where
  blob := h
  reserved := Array.size_replicate.ge
  nullEntry := rfl
  globalDefs := by simp [contents, empty]
  fieldDefs := by simp [contents, empty]
  functions i f hf := by
    obtain ⟨hi, rfl⟩ := Array.getElem?_eq_some_iff.mp hf
    obtain rfl : i = 0 := Nat.lt_one_iff.mp hi
    obtain ⟨hpos, -⟩ := Array.getElem?_eq_some_iff.mp h.1
    have hnamed : (contents n strings).Named 0 := ⟨Int32.le_refl 0, Int.natCast_pos.mpr hpos⟩
    exact ⟨hnamed, hnamed, fun _ => Parts.functionFits_null _⟩
  statements i st hst := by
    obtain ⟨-, rfl⟩ := Array.mem_replicate.mp (Array.mem_of_getElem? hst)
    exact ⟨show 0 < 28 by decide, trivial, trivial⟩

lemma sections_contents (n : Nat) (strings : Blob) : (contents n strings).sections = [
    (List.replicate (n * 8) 0, n), ([], 0), ([], 0), (List.replicate 36 0, 1),
    (strings.toList, strings.size), (List.replicate 112 0, 28)] := by
  have hstatements : (contents n strings).statements.toList.flatMap Statement.encode =
      List.replicate (n * 8) 0 := by
    have hencode : (⟨.done, 0, 0, 0⟩ : Statement).encode = List.replicate 8 0 := rfl
    rw [contents, Array.toList_replicate, List.flatMap_replicate, hencode,
      List.flatten_replicate_replicate]
  have hsize : (contents n strings).statements.size = n := Array.size_replicate
  rw [Parts.sections, hstatements, hsize]
  rfl

def wrapped : Section → Nat
  | .strings => 100
  | .globals => 104
  | _ => 64

section Wrapped

variable {n : Nat} (hn : n * 8 = 2 ^ 32)
include hn

lemma zeros_encode {start k : Nat} (hstart : Parts.headerSize ≤ start)
    (hend : start + k ≤ Parts.headerSize + 2 ^ 32) :
    start + k ≤ (written n).encode.length ∧
      ((written n).encode.drop start).take k = List.replicate k 0 := by
  obtain ⟨i, rfl⟩ := Nat.exists_eq_add_of_le hstart
  constructor
  · rw [Parts.length_encode, written, sections_contents, List.flatMap_cons, List.length_append,
      List.length_replicate]
    omega
  · have hfit : k ≤ n * 8 - i := by omega
    rw [← List.drop_drop, Parts.drop_headerSize_encode, written, sections_contents,
      List.flatMap_cons, List.drop_append_of_le_length (by rw [List.length_replicate]; omega),
      List.drop_replicate, List.take_append_of_le_length (by rwa [List.length_replicate]),
      List.take_replicate, Nat.min_eq_left hfit]

lemma sectionStart_wraps (part : Section) :
    (written n).sectionStart part % 2 ^ 32 = wrapped part := by
  -- With `hn` for a rewrite rule, the zeros of the statements would be written out.
  cases part <;>
    simp only [Parts.sectionStart, written, sections_contents, Parts.headerSize, Section.ctorIdx,
      List.take_succ_cons, List.take_zero, List.flatMap_cons, List.flatMap_nil, List.length_append,
      List.length_replicate, List.length_cons, List.length_nil, wrapped] <;>
    omega

lemma holds_zeros (part : Section) {content : Bytes × Nat} {rest : List (Bytes × Nat)} {k : Nat}
    (hp : (written n).sections.drop part.ctorIdx = content :: rest) (hcount : content.2 < 2 ^ 32)
    (hend : wrapped part + k ≤ Parts.headerSize + 2 ^ 32) :
    Parts.Holds (written n).encode part (List.replicate k 0, content.2) := by
  obtain ⟨hoffset, hcounted, -⟩ := Parts.section_encode part hp
  rw [sectionStart_wraps hn] at hoffset
  have hstart : Parts.headerSize ≤ wrapped part := by cases part <;> decide
  rw [← hoffset] at hstart hend
  obtain ⟨hinside, hzeros⟩ := zeros_encode hn hstart hend
  refine ⟨hcounted.trans (Nat.mod_eq_of_lt hcount), fun _ => hstart, ?_, ?_⟩
  · rwa [List.length_replicate]
  · rwa [List.length_replicate]

lemma decode_encode : Parts.decode (written n).encode = .ok (contents n #[0, 0, 0, 0]) := by
  have hs : (written n).sections = _ := sections_contents n _
  have hlt : n < 2 ^ 32 := by omega
  have hend : 64 + n * 8 ≤ Parts.headerSize + 2 ^ 32 := hn ▸ le_rfl
  refine (Parts.decode_eq_ok_iff _ _).mpr (Parts.stores_encode rfl rfl ?_)
  rw [sections_contents, Section.all]
  refine .cons ?_ (.cons ?_ (.cons ?_ (.cons ?_ (.cons ?_ (.cons ?_ .nil)))))
  · exact holds_zeros hn .statements (congrArg (List.drop _) hs) hlt hend
  · exact holds_zeros hn .globalDefs (k := 0) (congrArg (List.drop _) hs) (by decide) (by decide)
  · exact holds_zeros hn .fieldDefs (k := 0) (congrArg (List.drop _) hs) (by decide) (by decide)
  · exact holds_zeros hn .functions (congrArg (List.drop _) hs) (by decide) (by decide)
  · exact holds_zeros hn .strings (k := 4) (congrArg (List.drop _) hs) (by decide) (by decide)
  · exact holds_zeros hn .globals (congrArg (List.drop _) hs) (by decide) (by decide)

end Wrapped

lemma build_finished {n : Nat} (hn : (n + 1) * 8 = 2 ^ 32) :
    ∃ image, (finished n).build = .ok image ∧ image.parts.stringAt? 1 = some [] := by
  have hwf : (contents (n + 1) #[0, 0, 0, 0]).WellFormed := wellFormed ⟨rfl, rfl⟩
  refine ⟨_, (Image.decode_eq_ok_iff _ _).mpr ⟨_, decode_encode hn, hwf, rfl⟩, ?_⟩
  have hread : Blob.stringFrom #[0, 0, 0, 0] 1 = [] := by decide +kernel
  exact (Parts.stringAt?_eq _ (by decide)).trans (congrArg some hread)

/-- The string is in the blob, and an empty one is read from the image. -/
theorem interned_string_lost :
    Assembled (steps (2 ^ 29 - 1)) (finished (2 ^ 29 - 1)) ∧
    (finished (2 ^ 29 - 1)).parts.strings.size < 2 ^ 31 ∧
    Gives (steps (2 ^ 29 - 1)) "hi" 1 ∧ '\x00' ∉ "hi".toList ∧
    ∃ image, (finished (2 ^ 29 - 1)).build = .ok image ∧
      image.parts.stringAt? 1 = some [] ∧ image.parts.stringAt? 1 ≠ some (Utf8.encode "hi") := by
  obtain ⟨image, hbuild, hread⟩ := build_finished (n := 2 ^ 29 - 1) (by decide)
  have hlost : some [] ≠ some (Utf8.encode "hi") := by simp [encode_hi]
  exact ⟨assembled _, show 4 < 2 ^ 31 by decide, gives _, by decide, image, hbuild, hread,
    hread ▸ hlost⟩

end Crowded

end Assembler

end GameVm
