import GameVm.Proofs.Lifetimes
import GameVm.Proofs.Spelling

/-! Symbols: what is found under a name is the first entry with it, and a host that asks for symbols
is told of the first one that is not found. -/

namespace GameVm

section First

variable {α κ : Type} [BEq κ] [LawfulBEq κ]

/-- What a search from entry `start` on comes to: the number of the first entry with the property,
or nothing where no entry has it. -/
def IsFirst (p : α → Prop) (entries : List α) (start : Nat) : Option Nat → Prop
  | some i => start ≤ i ∧ (∃ a, entries[i]? = some a ∧ p a) ∧
      ∀ j a, start ≤ j → j < i → entries[j]? = some a → ¬ p a
  | none => ∀ j a, start ≤ j → entries[j]? = some a → ¬ p a

lemma isFirst_idxOf? (key : α → κ) (entries : List α) (k : κ) :
    IsFirst (key · = k) entries 0 ((entries.map key).idxOf? k) := by
  cases hi : (entries.map key).idxOf? k with
  | none =>
    intro j a _ ha hk
    rw [List.idxOf?_eq_none_iff] at hi
    exact hi (List.mem_map.mpr ⟨a, List.mem_of_getElem? ha, hk⟩)
  | some i =>
    obtain ⟨hlt, hk, hbefore⟩ := List.idxOf?_eq_some_iff.mp hi
    rw [List.length_map] at hlt
    rw [List.getElem_map] at hk
    refine ⟨Nat.zero_le i, ⟨entries[i], List.getElem?_eq_getElem hlt, hk⟩, ?_⟩
    intro j a _ hj ha hka
    apply hbefore j hj
    obtain ⟨hjl, rfl⟩ := List.getElem?_eq_some_iff.mp ha
    rw [List.getElem_map, hka]

lemma IsFirst.cons {p : α → Prop} {entries : List α} {start : Nat} {found : Option Nat}
    (h : IsFirst p entries start found) (a : α) :
    IsFirst p (a :: entries) (start + 1) (found.map (· + 1)) := by
  cases found with
  | none =>
    intro j b hj hb
    obtain ⟨k, rfl⟩ : ∃ k, j = k + 1 := ⟨j - 1, by omega⟩
    exact h k b (by omega) (by simpa using hb)
  | some i =>
    obtain ⟨hle, ⟨b, hb, hp⟩, hbefore⟩ := h
    rw [Option.map_some]
    refine ⟨by omega, ⟨b, by simpa using hb, hp⟩, ?_⟩
    intro j c hj hlt hc
    obtain ⟨k, rfl⟩ : ∃ k, j = k + 1 := ⟨j - 1, by omega⟩
    exact hbefore k c (by omega) (by omega) (by simpa using hc)

end First

def LoadOptions.required (options : LoadOptions) : List (SymbolKind × String) :=
  options.requiredFunctions.map (.function, ·) ++ options.requiredFields.map (.field, ·) ++
    options.requiredGlobals.map (.global, ·)

namespace Image

variable {p : Parts} {image : Image} {name : String}

def has (image : Image) : SymbolKind × String → Bool
  | (.function, name) => (image.findFunction? name).isSome
  | (.field, name) => (image.findField? name).isSome
  | (.global, name) => (image.findGlobal? name).isSome

inductive Lacks (image : Image) (options : LoadOptions) : FormatError → Prop
  | checksum {expected : UInt32} (he : options.expectedChecksum = some expected)
      (hne : expected ≠ image.checksum) :
      Lacks image options (.checksumMismatch expected image.checksum)
  | symbol {kind : SymbolKind} {name : String} {before after : List (SymbolKind × String)}
      (hc : ∀ expected, options.expectedChecksum = some expected → expected = image.checksum)
      (hr : options.required = before ++ (kind, name) :: after)
      (hb : ∀ r ∈ before, image.has r = true) (hn : image.has (kind, name) = false) :
      Lacks image options (.missingRequired kind name)

lemma findGlobal?_isFirst (hn : name ≠ "") :
    ∃ found, IsFirst (p.nameAt ·.name = name) p.globalDefs.toList 0 found ∧
      (ofParts p).findGlobal? name = found.bind (p.globalDefs[·]?) := by
  have he : name.isEmpty = false := by simpa using hn
  have hfirst := isFirst_idxOf? (fun d : Definition => p.nameAt d.name) p.globalDefs.toList name
  refine ⟨_, hfirst, ?_⟩
  rw [findGlobal?, he, ← getElem?_firstPositions]
  simp [ofParts]

lemma findField?_isFirst (hn : name ≠ "") :
    ∃ found, IsFirst (p.nameAt ·.name = name) p.fieldDefs.toList 0 found ∧
      (ofParts p).findField? name = found.bind (p.fieldDefs[·]?) := by
  have he : name.isEmpty = false := by simpa using hn
  have hfirst := isFirst_idxOf? (fun d : Definition => p.nameAt d.name) p.fieldDefs.toList name
  refine ⟨_, hfirst, ?_⟩
  rw [findField?, he, ← getElem?_firstPositions]
  simp [ofParts]

lemma globalDefAt?_isFirst (offset : UInt16) :
    ∃ found, IsFirst (·.offset = offset) p.globalDefs.toList 0 found ∧
      (ofParts p).globalDefAt? offset = found.bind (p.globalDefs[·]?) := by
  refine ⟨_, isFirst_idxOf? Definition.offset _ offset, ?_⟩
  rw [globalDefAt?, ← getElem?_firstPositions]
  simp [ofParts]

lemma findFunction?_isFirst (hp : p.functions.isEmpty = false) (hn : name ≠ "") :
    IsFirst (p.nameAt ·.name = name) p.functions.toList 1 ((ofParts p).findFunction? name) := by
  cases hf : p.functions.toList with
  | nil => simp [Array.toList_eq_nil_iff.mp hf] at hp
  | cons null entries =>
    rw [findFunction?_ofParts hn hf]
    exact (isFirst_idxOf? (fun f : FunctionEntry => p.nameAt f.name) entries name).cons null

end Image

namespace Loader

lemma shortfall?_eq (image : Image) (options : LoadOptions) : shortfall? image options =
    ((options.expectedChecksum.filter (· ≠ image.checksum)).map
      (.checksumMismatch · image.checksum)).or
    ((options.required.find? (!image.has ·)).map fun r => .missingRequired r.1 r.2) := by
  have hor (x y : Option FormatError) : (x <|> y) = x.or y := by
    cases x <;> rfl
  simp only [shortfall?, LoadOptions.required, List.find?_append, List.find?_map, Option.map_or,
    Option.map_map, Function.comp_def, hor, Image.has, Option.or_assoc]

lemma shortfall?_cases (image : Image) (options : LoadOptions) :
    match shortfall? image options with
    | some flaw => image.Lacks options flaw
    | none =>
      (∀ expected, options.expectedChecksum = some expected → expected = image.checksum) ∧
      ∀ r ∈ options.required, image.has r = true := by
  rw [shortfall?_eq]
  cases hc : options.expectedChecksum.filter (· ≠ image.checksum) with
  | some expected =>
    obtain ⟨he, hne⟩ := Option.filter_eq_some_iff.mp hc
    exact .checksum he (by simpa using hne)
  | none =>
    have hsum : ∀ expected, options.expectedChecksum = some expected →
        expected = image.checksum := by
      simpa using hc
    cases hr : options.required.find? (!image.has ·) with
    | none => exact ⟨hsum, by simpa using hr⟩
    | some r =>
      obtain ⟨hn, before, after, hsplit, hb⟩ := List.find?_eq_some_iff_append.mp hr
      exact .symbol hsum hsplit (by simpa using hb) (by simpa using hn)

lemma load_cases {bs : Bytes} {image : Image} (h : Image.decode bs = .ok image) (domain : Domain)
    (options : LoadOptions) (journal : Journal) :
    match load domain bs options journal with
    | .error err _ => ∃ flaw, err = .programFormat flaw ∧ image.Lacks options flaw
    | .ok loaded _ => loaded = image ∧
      (∀ expected, options.expectedChecksum = some expected → expected = image.checksum) ∧
      ∀ r ∈ options.required, image.has r = true := by
  obtain ⟨journal', hl⟩ := Logged.gives_load domain bs options journal
  have hs := shortfall?_cases image options
  have ha : accept bs options = match shortfall? image options with
      | some flaw => .error flaw
      | none => .ok image := by
    rw [accept, h]
    simp only [bind, Except.bind]
    cases shortfall? image options <;> rfl
  rw [hl, ha]
  cases hf : shortfall? image options with
  | some flaw =>
    rw [hf] at hs
    exact ⟨flaw, rfl, hs⟩
  | none =>
    rw [hf] at hs
    exact ⟨rfl, hs⟩

end Loader

/-- Names are read as they are spelled, each symbol that is found is the first one of its kind with
the name (the null function and unnamed entries are never found), and a program is loaded unless the
check value or a required symbol is missing, of which the first one is reported. -/
theorem Image.symbols_found_first {bs : Bytes} {image : Image} (h : decode bs = .ok image) :
    let p := image.parts
    (∀ f ∈ p.functions.toList, p.Spells f.name (p.nameAt f.name)) ∧
    (∀ d ∈ p.globalDefs.toList ++ p.fieldDefs.toList, p.Spells d.name (p.nameAt d.name)) ∧
    (∀ name, name ≠ "" →
      IsFirst (p.nameAt ·.name = name) p.functions.toList 1 (image.findFunction? name) ∧
      (∃ found, IsFirst (p.nameAt ·.name = name) p.globalDefs.toList 0 found ∧
        image.findGlobal? name = found.bind (p.globalDefs[·]?)) ∧
      ∃ found, IsFirst (p.nameAt ·.name = name) p.fieldDefs.toList 0 found ∧
        image.findField? name = found.bind (p.fieldDefs[·]?)) ∧
    (image.findFunction? "" = none ∧ image.findGlobal? "" = none ∧ image.findField? "" = none) ∧
    (∀ offset, ∃ found, IsFirst (·.offset = offset) p.globalDefs.toList 0 found ∧
      image.globalDefAt? offset = found.bind (p.globalDefs[·]?)) ∧
    ∀ domain options journal, match Loader.load domain bs options journal with
      | .error err _ => ∃ flaw, err = .programFormat flaw ∧ image.Lacks options flaw
      | .ok loaded _ => loaded = image ∧
        (∀ expected, options.expectedChecksum = some expected → expected = image.checksum) ∧
        ∀ r ∈ options.required, image.has r = true := by
  intro p
  have hwf : p.WellFormed := wellFormed_of_decode h
  obtain ⟨q, -, -, rfl⟩ := (decode_eq_ok_iff bs image).mp h
  refine ⟨fun f hf => ?_, fun d hd => ?_, fun name hn => ?_, ⟨rfl, rfl, rfl⟩,
    globalDefAt?_isFirst, Loader.load_cases h⟩
  · obtain ⟨i, hi⟩ := List.mem_iff_getElem?.mp hf
    exact Parts.spells_nameAt hwf.blob.2 (hwf.functions i f (by simpa using hi)).1
  · apply Parts.spells_nameAt hwf.blob.2
    rcases List.mem_append.mp hd with hd | hd
    · exact (hwf.globalDefs d hd).1
    · exact (hwf.fieldDefs d hd).1
  · exact ⟨findFunction?_isFirst hwf.nullEntry hn, findGlobal?_isFirst hn, findField?_isFirst hn⟩

/-! A program that uses its names more than once: the null function is called `main` as well, and
the field `x` with the larger offset comes first. One name is no text. -/

namespace Twice

def functions : List FunctionEntry :=
  [{ name := 1 }, { first := -1, name := 10 }, { first := -1, name := 1 },
    { first := -2, name := 1 }]

def parts : Parts where
  entityCells := 3
  statements := #[]
  globalDefs := #[⟨.float, false, 28, 10⟩, ⟨.float, false, 29, 6⟩, ⟨.int, false, 28, 6⟩]
  fieldDefs := #[⟨.float, false, 1, 6⟩, ⟨.int, false, 0, 6⟩, ⟨.float, false, 2, 8⟩]
  functions := functions.toArray
  strings := ("\x00main\x00x\x00y\x00".toUTF8.toList ++ [0xFF, 0]).toArray
  globals := Array.replicate 30 0

lemma decode_encode : Image.decode parts.encode = .ok (Image.ofParts parts) := by
  have hc : parts.check = .ok () := by decide +kernel
  exact Image.decode_encode_of_wellFormed (by decide +kernel) ((Parts.check_eq_ok_iff parts).mp hc)

lemma names : parts.nameAt 1 = "main" ∧ parts.nameAt 6 = "x" ∧ parts.nameAt 8 = "y" ∧
    parts.nameAt 10 = "" := by
  decide +kernel

lemma findFunction?_main : (Image.ofParts parts).findFunction? "main" = some 2 := by
  rw [Image.findFunction?_ofParts (by decide) (show parts.functions.toList = _ :: _ from rfl)]
  simp [names, List.idxOf?_cons]

lemma findField?_x : (Image.ofParts parts).findField? "x" = some ⟨.float, false, 1, 6⟩ := by
  rw [Image.findField?_ofParts (by decide), show parts.fieldDefs.toList = _ :: _ from rfl]
  simp [names]

theorem main_is_second_function :
    Image.decode parts.encode = .ok (Image.ofParts parts) ∧
    IsFirst (parts.nameAt ·.name = "main") parts.functions.toList 1 (some 2) ∧
    parts.Spells 10 "" := by
  obtain ⟨hspells, -, hfound, -⟩ := Image.symbols_found_first decode_encode
  have hmain := (hfound "main" (by decide)).1
  rw [findFunction?_main] at hmain
  have hlast := hspells { first := -1, name := 10 } (by decide)
  rw [show (Image.ofParts parts).parts = parts from rfl, names.2.2.2] at hlast
  exact ⟨decode_encode, hmain, hlast⟩

end Twice

end GameVm
