import Mathlib.Data.Nat.Digits.Defs
import OverlayControl.Proofs.Socket.Grant

/-!
# Headers are little-endian words

A header is a row of words, and each of its bytes counts: what is read from a response header is
exactly what was written into it, and only such headers are read.

* `littleEndian`, `ofLittleEndian` — the bytes of a number and the number of bytes, of any width;
* `wordAt` — the word at a place of a row of words;
* `ResponseHeader.encode`, `ResponseHeader.Writable` — a response header as bytes, and the headers
  that have such a form;
* `ResponseHeader.decode_eq_ok_iff_encode` — the headers that are read are those that are written;
* `headers_exact` — this, and the words that are read back from a request header.
-/

namespace OverlayControl.Socket

/-- The bytes of a number, the lowest first, as many as are asked for. -/
def littleEndian : Nat → Nat → List UInt8
  | 0, _ => []
  | width + 1, n => UInt8.ofNat n :: littleEndian width (n / 256)

/-- The number that bytes are, the lowest first. -/
def ofLittleEndian (bytes : List UInt8) : Nat := Nat.ofDigits 256 (bytes.map UInt8.toNat)

/-- The number that four bytes are, from the place of a word on. -/
def wordAt (bytes : List UInt8) (i : Nat) : Nat := ofLittleEndian ((bytes.drop (4 * i)).take 4)

section Numbers

theorem length_littleEndian (width n : Nat) : (littleEndian width n).length = width := by
  induction width generalizing n with
  | zero => rfl
  | succ width ih => rw [littleEndian, List.length_cons, ih]

theorem ofLittleEndian_cons (b : UInt8) (bytes : List UInt8) :
    ofLittleEndian (b :: bytes) = b.toNat + 256 * ofLittleEndian bytes :=
  Nat.ofDigits_cons ..

/-- Of a number so many bytes tell its remainder. -/
theorem ofLittleEndian_littleEndian (width n : Nat) :
    ofLittleEndian (littleEndian width n) = n % 256 ^ width := by
  induction width generalizing n with
  | zero => simp [littleEndian, ofLittleEndian, Nat.mod_one]
  | succ width ih =>
    have hbyte : (UInt8.ofNat n).toNat = n % 256 := UInt8.toNat_ofNat'
    rw [littleEndian, ofLittleEndian_cons, ih, hbyte, Nat.pow_succ', Nat.mod_mul]

/-- Bytes are those of the number that they are. -/
theorem littleEndian_ofLittleEndian (bytes : List UInt8) :
    littleEndian bytes.length (ofLittleEndian bytes) = bytes := by
  induction bytes with
  | nil => rfl
  | cons b bytes ih =>
    have hb := b.toNat_lt
    have hbyte : UInt8.ofNat (b.toNat + 256 * ofLittleEndian bytes) = b := by
      rw [← UInt8.toNat_inj, UInt8.toNat_ofNat']
      omega
    have hrest : (b.toNat + 256 * ofLittleEndian bytes) / 256 = ofLittleEndian bytes := by omega
    rw [ofLittleEndian_cons, List.length_cons, littleEndian, hbyte, hrest, ih]

/-- The word that four bytes are is the number that they are. -/
theorem toNat_wordOf_eq (a b c d : UInt8) :
    (wordOf a b c d).toNat = ofLittleEndian [a, b, c, d] := by
  rw [toNat_wordOf]
  simp only [ofLittleEndian_cons]
  simp only [ofLittleEndian, List.map_nil, Nat.ofDigits_nil]
  omega

/-- Four bytes are a word exactly when they are the bytes of its number. -/
theorem toNat_wordOf_eq_iff {a b c d : UInt8} {n : Nat} (hn : n < 4294967296) :
    (wordOf a b c d).toNat = n ↔ [a, b, c, d] = littleEndian 4 n := by
  rw [toNat_wordOf_eq]
  constructor
  · rintro rfl
    exact (littleEndian_ofLittleEndian [a, b, c, d]).symm
  · intro h
    rw [h, ofLittleEndian_littleEndian]
    exact Nat.mod_eq_of_lt hn

theorem wordOf_eq_iff {a b c d : UInt8} {w : UInt32} :
    wordOf a b c d = w ↔ [a, b, c, d] = littleEndian 4 w.toNat := by
  rw [← UInt32.toNat_inj]
  exact toNat_wordOf_eq_iff w.toNat_lt

/-- The bytes of a word, cut out by shifts, are those of its number. -/
theorem wordBytes_eq (w : UInt32) : wordBytes w = littleEndian 4 w.toNat :=
  wordOf_eq_iff.1 (wordOf_bytes w)

/-- A word is a signed number exactly when the number is in the range of signed words, and the word
is its remainder. -/
theorem signed_eq_iff {w : UInt32} {n : Int} :
    signed w = n ↔ (-2147483648 ≤ n ∧ n < 2147483648) ∧ w.toNat = (n % 4294967296).toNat := by
  have hw : w.toNat < 4294967296 := w.toNat_lt
  have hsigned : signed w = (w.toNat : Int).bmod 4294967296 := BitVec.toInt_eq_toNat_bmod _
  rw [hsigned, Int.bmod_def]
  omega

end Numbers

namespace ResponseHeader

/-- A response header as sixteen bytes: the magic word, the number of the request, the result in
two's complement, and the length of the payload. -/
def encode (h : ResponseHeader) : List UInt8 :=
  littleEndian 4 0x4D525341 ++ littleEndian 4 h.seq.toNat ++
    littleEndian 4 (h.result % 4294967296).toNat ++ littleEndian 4 h.size.toNat

/-- The header of a response that may be sent: its result is a signed word, and its payload is not
too long. -/
structure Writable (h : ResponseHeader) : Prop where
  /-- The result is a signed word. -/
  result : -2147483648 ≤ h.result ∧ h.result < 2147483648
  /-- The payload is not too long. -/
  size : h.size.toNat ≤ 65536

theorem length_encode (h : ResponseHeader) : h.encode.length = 16 := by
  simp only [encode, List.length_append, length_littleEndian]

/-- Sixteen bytes, four by four. -/
theorem toList_eq (raw : Vector UInt8 16) :
    raw.toList = [raw.get 0, raw.get 1, raw.get 2, raw.get 3] ++
      [raw.get 4, raw.get 5, raw.get 6, raw.get 7] ++
      [raw.get 8, raw.get 9, raw.get 10, raw.get 11] ++
      [raw.get 12, raw.get 13, raw.get 14, raw.get 15] := by
  have hraw : Vector.ofFn raw.get = raw := Vector.ext fun i hi => Vector.getElem_ofFn hi
  rw [← congrArg Vector.toList hraw, Vector.toList_ofFn]
  rfl

/-- The headers that are read are the writable ones, each from the bytes that it is written as. -/
theorem decode_eq_ok_iff_encode {raw : Vector UInt8 16} {h : ResponseHeader} :
    decode raw = .ok h ↔ h.Writable ∧ raw.toList = h.encode := by
  have hlength (n : Nat) : (littleEndian 4 n).length = 4 := length_littleEndian 4 n
  rw [decode_eq_ok_iff, toList_eq, encode]
  constructor
  · rintro ⟨hmagic, hseq, hresult, hsize, hbounded⟩
    obtain ⟨hrange, hresult⟩ := signed_eq_iff.1 hresult
    refine ⟨⟨hrange, hbounded⟩, ?_⟩
    rw [wordOf_eq_iff.1 hmagic, wordOf_eq_iff.1 hseq, (toNat_wordOf_eq_iff (by omega)).1 hresult,
      wordOf_eq_iff.1 hsize]
    rfl
  · rintro ⟨⟨hrange, hbounded⟩, hbytes⟩
    -- Both sides are cut after every fourth byte.
    obtain ⟨hbytes, hsize⟩ := List.append_inj' hbytes (hlength _).symm
    obtain ⟨hbytes, hresult⟩ := List.append_inj' hbytes (hlength _).symm
    obtain ⟨hmagic, hseq⟩ := List.append_inj' hbytes (hlength _).symm
    exact ⟨wordOf_eq_iff.2 hmagic, wordOf_eq_iff.2 hseq,
      signed_eq_iff.2 ⟨hrange, (toNat_wordOf_eq_iff (by omega)).2 hresult⟩,
      wordOf_eq_iff.2 hsize, hbounded⟩

/-- The result -17 in two's complement, between the words around it. -/
example : encode ⟨3, -17, 65536⟩ =
    [0x41, 0x53, 0x52, 0x4D, 3, 0, 0, 0, 0xEF, 0xFF, 0xFF, 0xFF, 0, 0, 1, 0] := by decide

/-- Sixteen bytes are a header if they start with the magic word, and end with a length that is not
too long; the words between may be any. -/
theorem exists_decode_eq_ok_iff {raw : Vector UInt8 16} :
    (∃ h, decode raw = .ok h) ↔
      wordAt raw.toList 0 = 0x4D525341 ∧ wordAt raw.toList 3 ≤ 65536 := by
  have hmagic : wordAt raw.toList 0 =
      (wordOf (raw.get 0) (raw.get 1) (raw.get 2) (raw.get 3)).toNat := by
    rw [toNat_wordOf_eq, toList_eq]
    rfl
  have hsize : wordAt raw.toList 3 =
      (wordOf (raw.get 12) (raw.get 13) (raw.get 14) (raw.get 15)).toNat := by
    rw [toNat_wordOf_eq, toList_eq]
    rfl
  have hword : magic.toNat = 0x4D525341 := rfl
  simp only [decode_eq_ok_iff]
  rw [hmagic, hsize, ← hword, UInt32.toNat_inj]
  constructor
  · rintro ⟨h, hreads⟩
    refine ⟨hreads.magic, ?_⟩
    rw [hreads.size]
    exact hreads.bounded
  · rintro ⟨hmagic, hbounded⟩
    exact ⟨⟨_, _, _⟩, hmagic, rfl, rfl, rfl, hbounded⟩

end ResponseHeader

section Requests

theorem wordAt_append_zero (w : UInt32) (rest : List UInt8) :
    wordAt (wordBytes w ++ rest) 0 = w.toNat := by
  rw [wordAt, Nat.mul_zero, List.drop_zero, List.take_left' (length_wordBytes w), wordBytes_eq,
    ofLittleEndian_littleEndian]
  exact Nat.mod_eq_of_lt w.toNat_lt

theorem wordAt_append_succ (w : UInt32) (rest : List UInt8) (i : Nat) :
    wordAt (wordBytes w ++ rest) (i + 1) = wordAt rest i := by
  rw [wordAt, Nat.mul_add, Nat.mul_one, Nat.add_comm, ← length_wordBytes w,
    List.drop_length_add_append, length_wordBytes, wordAt]

/-- The words of a row of words are read back one by one. -/
theorem map_wordAt_flatMap (ws : List UInt32) :
    (List.range ws.length).map (wordAt (ws.flatMap wordBytes)) = ws.map UInt32.toNat := by
  induction ws with
  | nil => rfl
  | cons w ws ih =>
    have hrest : wordAt (wordBytes w ++ ws.flatMap wordBytes) ∘ Nat.succ =
        wordAt (ws.flatMap wordBytes) :=
      funext fun i => wordAt_append_succ w _ i
    rw [List.flatMap_cons, List.length_cons, List.range_succ_eq_map, List.map_cons, List.map_map,
      wordAt_append_zero, hrest, ih, List.map_cons]

namespace RequestHeader

/-- A request header tells its fields, between words that are the same in every one. -/
theorem map_wordAt_encode (h : RequestHeader) :
    (List.range 6).map (wordAt h.encode) =
      [0x4D525341, 1, h.opcode.toNat, h.seq.toNat, h.size.toNat, 0] :=
  map_wordAt_flatMap [magic, framingVersion, h.opcode, h.seq, h.size, 0]

theorem encode_injective : Function.Injective encode := by
  intro h h' heq
  have hwords := map_wordAt_encode h
  rw [heq, map_wordAt_encode h'] at hwords
  obtain ⟨opcode, seq, size⟩ := h
  obtain ⟨opcode', seq', size'⟩ := h'
  simp only [List.cons.injEq, UInt32.toNat_inj] at hwords
  obtain ⟨-, -, rfl, rfl, rfl, -⟩ := hwords
  rfl

end RequestHeader

end Requests

/-- Headers are read and written byte by byte. Sixteen bytes are read as a response header exactly
if they are the little-endian words of that header: the magic word, the number of the request, the
result as a signed word, and a length of at most 65536 bytes. Every header with such a result and
such a length is read from some bytes, and any sixteen bytes are read that have the right first word
and such a length for their last one. A request header is written as 24 bytes, from which six words
are read back: the magic word, the version of the framing, the fields and a zero; so no two headers
are written alike. -/
theorem headers_exact :
    (∀ (raw : Vector UInt8 16) (h : ResponseHeader),
      ResponseHeader.decode raw = .ok h ↔ h.Writable ∧ raw.toList = h.encode) ∧
    (∀ h : ResponseHeader, h.Writable ↔ ∃ raw, ResponseHeader.decode raw = .ok h) ∧
    (∀ raw : Vector UInt8 16, (∃ h, ResponseHeader.decode raw = .ok h) ↔
      wordAt raw.toList 0 = 0x4D525341 ∧ wordAt raw.toList 3 ≤ 65536) ∧
    (∀ h : RequestHeader, h.encode.length = 24 ∧ (List.range 6).map (wordAt h.encode) =
      [0x4D525341, 1, h.opcode.toNat, h.seq.toNat, h.size.toNat, 0]) ∧
    Function.Injective RequestHeader.encode := by
  refine ⟨fun raw h => ResponseHeader.decode_eq_ok_iff_encode, fun h => ?_,
    fun raw => ResponseHeader.exists_decode_eq_ok_iff,
    fun h => ⟨length_encode h, h.map_wordAt_encode⟩, RequestHeader.encode_injective⟩
  simp only [ResponseHeader.decode_eq_ok_iff_encode]
  constructor
  · intro hwritable
    exact ⟨⟨h.encode.toArray, h.length_encode⟩, hwritable, rfl⟩
  · rintro ⟨raw, hwritable, -⟩
    exact hwritable

end OverlayControl.Socket
