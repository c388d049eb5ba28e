import GameVm.Program.Decode
import Mathlib.Data.Nat.Bitwise
import Mathlib.Tactic

/-! Words and records: what is written is read back, and what has been read is written back as the
same bytes. -/

namespace GameVm

namespace Bytes

lemma value_lt (bs : Bytes) : value bs < 256 ^ bs.length := by
  induction bs with
  | nil => simp [value]
  | cons b bs ih =>
    have hb : b.toNat < 256 := b.toNat_lt
    rw [value, List.length_cons, pow_succ]
    omega

lemma value_take_lt (bs : Bytes) (n : Nat) : value (bs.take n) < 256 ^ n := by
  apply lt_of_lt_of_le (value_lt _)
  exact Nat.pow_le_pow_right (by decide) (List.length_take_le _ _)

lemma value_ofNat (k v : Nat) : value (ofNat k v) = v % 256 ^ k := by
  induction k generalizing v with
  | zero => rw [ofNat, value, pow_zero, Nat.mod_one]
  | succ k ih => rw [ofNat, value, ih, UInt8.toNat_ofNat', pow_succ' 256 k, Nat.mod_mul]

@[simp] lemma length_ofUInt16 (w : UInt16) : (ofUInt16 w).length = 2 := length_ofNat ..

@[simp] lemma length_ofUInt32 (w : UInt32) : (ofUInt32 w).length = 4 := length_ofNat ..

@[simp] lemma length_ofInt32 (w : Int32) : (ofInt32 w).length = 4 := length_ofNat ..

@[simp]
lemma uint16At_ofUInt16_append (w : UInt16) (bs : Bytes) :
    uint16At (ofUInt16 w ++ bs) 0 = w := by
  rw [uint16At, List.drop_zero, List.take_left' (length_ofUInt16 w), value_ofUInt16]
  simp

@[simp]
lemma uint16At_ofUInt16 (w : UInt16) : uint16At (ofUInt16 w) 0 = w := by
  simpa using uint16At_ofUInt16_append w []

/-- A word keeps the low bits of what is written. -/
lemma uint32At_ofNat (v : Nat) (bs : Bytes) :
    (uint32At (ofNat 4 v ++ bs) 0).toNat = v % 2 ^ 32 := by
  rw [uint32At, List.drop_zero, List.take_left' (length_ofNat 4 v), value_ofNat,
    UInt32.toNat_ofNat']
  exact Nat.mod_mod ..

@[simp]
lemma uint32At_ofUInt32_append (w : UInt32) (bs : Bytes) : uint32At (ofUInt32 w ++ bs) 0 = w :=
  UInt32.toNat_inj.mp ((uint32At_ofNat w.toNat bs).trans (Nat.mod_eq_of_lt w.toNat_lt))

@[simp]
lemma uint32At_ofUInt32 (w : UInt32) : uint32At (ofUInt32 w) 0 = w := by
  simpa using uint32At_ofUInt32_append w []

@[simp]
lemma int32At_ofInt32_append (w : Int32) (bs : Bytes) : int32At (ofInt32 w ++ bs) 0 = w := by
  rw [int32At, ofInt32, uint32At_ofUInt32_append]
  simp

@[simp]
lemma int32At_ofInt32 (w : Int32) : int32At (ofInt32 w) 0 = w := by
  simpa using int32At_ofInt32_append w []

lemma uint16At_append_right {xs : Bytes} (ys : Bytes) {pos : Nat} (h : xs.length ≤ pos) :
    uint16At (xs ++ ys) pos = uint16At ys (pos - xs.length) := by
  rw [uint16At, uint16At, List.drop_append, List.drop_eq_nil_of_le h, List.nil_append]

lemma uint32At_append_right {xs : Bytes} (ys : Bytes) {pos : Nat} (h : xs.length ≤ pos) :
    uint32At (xs ++ ys) pos = uint32At ys (pos - xs.length) := by
  rw [uint32At, uint32At, List.drop_append, List.drop_eq_nil_of_le h, List.nil_append]

lemma int32At_append_right {xs : Bytes} (ys : Bytes) {pos : Nat} (h : xs.length ≤ pos) :
    int32At (xs ++ ys) pos = int32At ys (pos - xs.length) :=
  congrArg UInt32.toInt32 (uint32At_append_right ys h)

lemma uint32At_drop (bs : Bytes) (n pos : Nat) :
    uint32At (bs.drop n) pos = uint32At bs (n + pos) := by
  rw [uint32At, uint32At, List.drop_drop]

lemma ofNat_value_take {bs : Bytes} {pos k : Nat} (h : pos + k ≤ bs.length) :
    ofNat k (value ((bs.drop pos).take k)) = (bs.drop pos).take k := by
  have hl : ((bs.drop pos).take k).length = k := by
    rw [List.length_take, List.length_drop]
    omega
  have hv := ofNat_value ((bs.drop pos).take k)
  rwa [hl] at hv

lemma ofUInt16_uint16At {bs : Bytes} {pos : Nat} (h : pos + 2 ≤ bs.length) :
    ofUInt16 (bs.uint16At pos) = (bs.drop pos).take 2 := by
  have hv : _ < 2 ^ 16 := value_take_lt (bs.drop pos) 2
  rw [ofUInt16, uint16At, UInt16.toNat_ofNat', Nat.mod_eq_of_lt hv, ofNat_value_take h]

lemma ofUInt32_uint32At {bs : Bytes} {pos : Nat} (h : pos + 4 ≤ bs.length) :
    ofUInt32 (bs.uint32At pos) = (bs.drop pos).take 4 := by
  have hv : _ < 2 ^ 32 := value_take_lt (bs.drop pos) 4
  rw [ofUInt32, uint32At, UInt32.toNat_ofNat', Nat.mod_eq_of_lt hv, ofNat_value_take h]

lemma ofInt32_int32At {bs : Bytes} {pos : Nat} (h : pos + 4 ≤ bs.length) :
    ofInt32 (bs.int32At pos) = (bs.drop pos).take 4 := by
  rw [ofInt32, int32At, UInt32.toUInt32_toInt32, ofUInt32_uint32At h]

lemma take_drop_append (bs : Bytes) (pos m n : Nat) :
    (bs.drop pos).take m ++ (bs.drop (pos + m)).take n = (bs.drop pos).take (m + n) := by
  rw [List.take_add, List.drop_drop]

end Bytes

/-- Records of `size` bytes that `read` and `encode` turn into values and back. -/
structure RecordFormat {α : Type} (size : Nat) (encode : α → Bytes)
    (read : Nat → Bytes → Except FormatError α) : Prop where
  length_encode : ∀ a, (encode a).length = size
  read_encode : ∀ index a, read index (encode a) = .ok a
  encode_read : ∀ index bs a, bs.length = size → read index bs = .ok a → encode a = bs

namespace RecordFormat

variable {α : Type} {size : Nat} {encode : α → Bytes} {read : Nat → Bytes → Except FormatError α}

lemma of_decode {ε : Type} {decode : Bytes → Except ε α} {wrap : Nat → ε → FormatError}
    (hl : ∀ a, (encode a).length = size) (hde : ∀ a, decode (encode a) = .ok a)
    (hed : ∀ {bs a}, bs.length = size → decode bs = .ok a → encode a = bs) :
    RecordFormat size encode fun index bs => (decode bs).mapError (wrap index) where
  length_encode := hl
  read_encode index a := by
    rw [hde]
    rfl
  encode_read index bs a hb hr := by
    cases hd : decode bs with
    | error err => simp [hd, Except.mapError] at hr
    | ok a' =>
      rw [hd] at hr
      cases hr
      exact hed hb hd

lemma length_flatMap (hf : RecordFormat size encode read) (as : List α) :
    (as.flatMap encode).length = as.length * size := by
  induction as with
  | nil => simp
  | cons a as ih =>
    rw [List.flatMap_cons, List.length_append, hf.length_encode, ih, List.length_cons, Nat.add_mul]
    omega

lemma read_eq_ok_iff (hf : RecordFormat size encode read) (index : Nat) {bs : Bytes} {a : α}
    (hl : bs.length = size) : read index bs = .ok a ↔ encode a = bs := by
  constructor
  · exact hf.encode_read index bs a hl
  · rintro rfl
    exact hf.read_encode index a

lemma readRecords_eq_ok_iff (hf : RecordFormat size encode read) {count : Nat} {bs : Bytes}
    (hl : count * size ≤ bs.length) (index : Nat) (done out : Array α) :
    Parts.readRecords size read count index done bs = .ok out ↔
      ∃ as, as.length = count ∧ out.toList = done.toList ++ as ∧
        as.flatMap encode = bs.take (count * size) := by
  induction count generalizing index done bs with
  | zero => simp [Parts.readRecords, ← Array.toList_inj, eq_comm]
  | succ count ih =>
    rw [Nat.add_mul, Nat.one_mul] at hl
    have hrest : count * size ≤ (bs.drop size).length := by
      rw [List.length_drop]
      omega
    have hfirst : (bs.take size).length = size := by
      rw [List.length_take]
      omega
    have hsplit : bs.take ((count + 1) * size) =
        bs.take size ++ (bs.drop size).take (count * size) := by
      rw [Nat.add_mul, Nat.one_mul, Nat.add_comm, List.take_add]
    have hstep : Parts.readRecords size read (count + 1) index done bs = .ok out ↔
        ∃ a, encode a = bs.take size ∧
          Parts.readRecords size read count (index + 1) (done.push a) (bs.drop size) = .ok out := by
      simp only [← hf.read_eq_ok_iff index hfirst, Parts.readRecords]
      cases read index (bs.take size) <;> simp [bind, Except.bind]
    simp only [hstep, ih hrest, hsplit]
    constructor
    · rintro ⟨a, ha, as, hlen, ho, he⟩
      exact ⟨a :: as, by simp [hlen], by simp [ho], by rw [List.flatMap_cons, ha, he]⟩
    · rintro ⟨as, hlen, ho, he⟩
      cases as with
      | nil => cases hlen
      | cons a as =>
        rw [List.flatMap_cons] at he
        obtain ⟨ha, he⟩ := List.append_inj he ((hf.length_encode a).trans hfirst.symm)
        exact ⟨a, ha, as, by simpa using hlen, by simp [ho], he⟩

end RecordFormat

namespace Opcode

lemma ofCode?_code (op : Opcode) : ofCode? op.code = some op := by
  cases op <;> rfl

lemma code_of_ofCode? {code : UInt16} {op : Opcode} (h : ofCode? code = some op) :
    op.code = code := by
  have hall : ∀ i : Fin all.size, all[i].ctorIdx = i := by decide
  obtain ⟨hlt, rfl⟩ := Array.getElem?_eq_some_iff.mp h
  have hi := hall ⟨code.toNat, hlt⟩
  simp only [Fin.getElem_fin] at hi
  rw [Opcode.code, hi]
  simp

end Opcode

namespace ValueType

lemma tag_of_ofTag? {tag : UInt16} {type : ValueType} (h : ofTag? tag = some type) :
    type.tag = tag &&& 0x7FFF := by
  have hall : ∀ i : Fin all.size, all[i].ctorIdx = i := by decide
  obtain ⟨hlt, rfl⟩ := Array.getElem?_eq_some_iff.mp h
  have hi := hall ⟨(tag &&& 0x7FFF).toNat, hlt⟩
  simp only [Fin.getElem_fin] at hi
  rw [ValueType.tag, hi]
  simp

lemma low_or_saveBit (tag : UInt16) : (tag &&& 0x7FFF) ||| (tag &&& saveBit) = tag := by
  apply UInt16.toNat_inj.mp
  rw [UInt16.toNat_or, UInt16.toNat_and, UInt16.toNat_and, ← Nat.and_or_distrib_left]
  exact (Nat.and_two_pow_sub_one_eq_mod _ 16).trans (Nat.mod_eq_of_lt tag.toNat_lt)

lemma and_saveBit {tag : UInt16} (h : tag &&& saveBit ≠ 0) : tag &&& saveBit = saveBit := by
  have hbit : (tag &&& saveBit).toNat = (tag.toNat.testBit 15).toNat * 2 ^ 15 := by
    rw [UInt16.toNat_and]
    exact Nat.and_two_pow _ 15
  cases hb : tag.toNat.testBit 15 with
  | false =>
    rw [hb] at hbit
    exact absurd (UInt16.toNat_inj.mp (by simpa using hbit)) h
  | true =>
    rw [hb] at hbit
    exact UInt16.toNat_inj.mp hbit

end ValueType

namespace Statement

lemma decode_encode (st : Statement) : decode st.encode = .ok st := by
  simp [decode, encode, Bytes.uint16At_append_right, Opcode.ofCode?_code]

lemma encode_of_decode {bs : Bytes} {st : Statement} (hl : bs.length = size)
    (hd : decode bs = .ok st) : st.encode = bs := by
  rw [size] at hl
  rw [decode] at hd
  cases hc : Opcode.ofCode? (bs.uint16At 0) with
  | none => simp [hc] at hd
  | some op =>
    rw [hc] at hd
    cases hd
    simp only [encode, Opcode.code_of_ofCode? hc]
    rw [Bytes.ofUInt16_uint16At (by omega), Bytes.ofUInt16_uint16At (by omega),
      Bytes.ofUInt16_uint16At (by omega), Bytes.ofUInt16_uint16At (by omega),
      Bytes.take_drop_append bs 0 2 2, Bytes.take_drop_append bs 0 4 2,
      Bytes.take_drop_append bs 0 6 2, List.drop_zero, List.take_of_length_le hl.le]

lemma recordFormat : RecordFormat size encode Parts.readStatement :=
  .of_decode (fun st => by simp [encode, size]) decode_encode encode_of_decode

end Statement

namespace Definition

lemma decode_encode (d : Definition) : decode d.encode = .ok d := by
  have htype : ValueType.ofTag? d.tag = some d.type := by
    rw [tag]
    cases d.type <;> cases d.save <;> rfl
  have hsave : decide (d.tag &&& ValueType.saveBit ≠ 0) = d.save := by
    rw [tag]
    cases d.type <;> cases d.save <;> rfl
  simp only [decode, encode, List.append_assoc, Bytes.uint16At_ofUInt16_append, htype, hsave]
  simp [Bytes.uint16At_append_right, Bytes.int32At_append_right]

lemma tag_eq {tag offset : UInt16} {type : ValueType} {name : Int32}
    (h : ValueType.ofTag? tag = some type) :
    Definition.tag ⟨type, tag &&& ValueType.saveBit ≠ 0, offset, name⟩ = tag := by
  have hsplit := ValueType.low_or_saveBit tag
  rw [Definition.tag, ValueType.tag_of_ofTag? h]
  by_cases hs : tag &&& ValueType.saveBit = 0
  · rw [hs, UInt16.or_zero] at hsplit
    simpa [hs] using hsplit
  · rw [ValueType.and_saveBit hs] at hsplit
    simpa [hs] using hsplit

lemma encode_of_decode {bs : Bytes} {d : Definition} (hl : bs.length = size)
    (hd : decode bs = .ok d) : d.encode = bs := by
  rw [size] at hl
  simp only [decode] at hd
  cases ht : ValueType.ofTag? (bs.uint16At 0) with
  | none => simp [ht] at hd
  | some type =>
    rw [ht] at hd
    cases hd
    rw [encode, tag_eq ht, Bytes.ofUInt16_uint16At (by omega), Bytes.ofUInt16_uint16At (by omega),
      Bytes.ofInt32_int32At (by omega), Bytes.take_drop_append bs 0 2 2,
      Bytes.take_drop_append bs 0 4 4, List.drop_zero, List.take_of_length_le hl.le]

lemma recordFormat (table : SymbolKind) : RecordFormat size encode (Parts.readDefinition table) :=
  .of_decode (fun d => by simp [encode, size]) decode_encode encode_of_decode

end Definition

namespace FunctionEntry

lemma decode_encode (f : FunctionEntry) : decode f.encode = f := by
  have hsizes : (Vector.ofFn fun i : Fin 8 => f.encode.getD (28 + i) 0) = f.parmSizes := by
    ext i hi
    simp only [encode, Vector.getElem_ofFn, List.getD_eq_getElem?_getD]
    rw [List.getElem?_append_right (by simp)]
    simp [hi]
  rw [decode, hsizes]
  simp [encode, Bytes.uint32At_append_right, Bytes.int32At_append_right]

lemma encode_decode {bs : Bytes} (hl : bs.length = size) : (decode bs).encode = bs := by
  rw [size] at hl
  have hsizes : (decode bs).parmSizes.toList = (bs.drop 28).take 8 := by
    apply List.ext_getElem
    · simp [hl]
    · intro i hi hi'
      have hlt : 28 + i < bs.length := by
        simp at hi
        omega
      simp [decode, hlt]
  rw [encode, hsizes]
  simp only [decode]
  rw [Bytes.ofInt32_int32At (by omega), Bytes.ofInt32_int32At (by omega),
    Bytes.ofInt32_int32At (by omega), Bytes.ofUInt32_uint32At (by omega),
    Bytes.ofUInt32_uint32At (by omega), Bytes.ofUInt32_uint32At (by omega),
    Bytes.ofUInt32_uint32At (by omega), Bytes.take_drop_append bs 0 4 4,
    Bytes.take_drop_append bs 0 8 4, Bytes.take_drop_append bs 0 12 4,
    Bytes.take_drop_append bs 0 16 4, Bytes.take_drop_append bs 0 20 4,
    Bytes.take_drop_append bs 0 24 4, Bytes.take_drop_append bs 0 28 8, List.drop_zero,
    List.take_of_length_le hl.le]

lemma recordFormat : RecordFormat size encode fun _ record => .ok (decode record) where
  length_encode f := by simp [encode, size]
  read_encode index f := by rw [decode_encode]
  encode_read index bs f hl hr := by
    cases hr
    exact encode_decode hl

end FunctionEntry

lemma Bytes.recordFormat_uint32 :
    RecordFormat 4 Bytes.ofUInt32 fun _ record => .ok (record.uint32At 0) where
  length_encode w := Bytes.length_ofUInt32 w
  read_encode index w := by rw [Bytes.uint32At_ofUInt32]
  encode_read index bs w hl hr := by
    cases hr
    rw [Bytes.ofUInt32_uint32At hl.ge, List.drop_zero, List.take_of_length_le hl.le]

end GameVm
