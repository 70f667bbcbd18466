import Mathlib.Data.List.Basic
import Mathlib.Algebra.Group.Nat.Basic

/-!
# The zenoh serializer

The attachment is written with `ze_serializer_serialize_str`, `…_int64` and `…_buf`, and read
back with the matching `ze_deserializer_deserialize_*` calls. The serializer belongs to the
transport, not to this repository, so it is modelled here rather than translated: a string or
a buffer is a length prefix followed by its bytes, and an `int64` is eight little-endian bytes.
The length prefix is any `LengthCodec`, a writer with a reader that reads back what it writes.
The reader may accept more than the writer writes: zenoh's LEB128 reader, `leb128`, takes a
length written with redundant zero groups as well as its shortest form.

* `ofLeBytes_leBytes`, `leBytes_ofLeBytes`: fixed-width little-endian round trips;
* `LengthCodec.Reads`, `LengthCodec.SelfDelimiting`: the prefixes a reader takes for a length,
  and readers that look at nothing after the prefix;
* `leb128`, `leb128_selfDelimiting`, and `leb128_reads_iff`: the prefixes it takes for `n` are
  `n` written in any number of groups that can hold it;
* `deserializeInt64_serializeInt64`, `eq_of_deserializeInt64`;
* `deserializeSlice_reads`, `exists_reads_of_deserializeSlice`.
-/

namespace RmwZenoh

/-- Byte strings, as the transport carries them. -/
abbrev Bytes := List UInt8

/-- The UTF-8 bytes of a string. -/
def strBytes (s : String) : Bytes := s.toUTF8.data.toList

/-- A length prefix for strings and buffers: the writer, and the reader that takes a prefix off
the front of the bytes. The reader reads back what the writer writes, whatever follows. -/
structure LengthCodec where
  /-- The prefix written for a length. -/
  encode : Nat → Bytes
  /-- Read a prefix off the front: the length and the bytes after the prefix. -/
  decode : Bytes → Option (Nat × Bytes)
  decode_encode (n : Nat) (rest : Bytes) : decode (encode n ++ rest) = some (n, rest)

namespace LengthCodec

variable (c : LengthCodec)

/-- `p` is a prefix the reader takes for the length `n`, whatever follows it. -/
def Reads (p : Bytes) (n : Nat) : Prop := ∀ x, c.decode (p ++ x) = some (n, x)

/-- The reader looks at nothing after the prefix it takes: whatever it reads is a prefix it takes
for that length, followed by the bytes it leaves. -/
def SelfDelimiting : Prop :=
  ∀ {b rest : Bytes} {n : Nat}, c.decode b = some (n, rest) → ∃ p, c.Reads p n ∧ b = p ++ rest

theorem reads_encode (n : Nat) : c.Reads (c.encode n) n := c.decode_encode n

end LengthCodec

/-! ## Bytes as numbers -/

theorem toNat_ofNat_byte (n : Nat) : (UInt8.ofNat n).toNat = n % 256 := rfl

theorem toNat_byte_lt (b : UInt8) : b.toNat < 256 := b.val.isLt

theorem ofNat_toNat_byte (b : UInt8) : UInt8.ofNat b.toNat = b :=
  UInt8.eq_of_val_eq (Fin.ext (Nat.mod_eq_of_lt (toNat_byte_lt b)))

/-- The `k` low bytes of `n`, least significant first. -/
def leBytes : Nat → Nat → Bytes
  | 0, _ => []
  | k + 1, n => UInt8.ofNat (n % 256) :: leBytes k (n / 256)

/-- The number whose little-endian bytes are `l`. -/
def ofLeBytes : Bytes → Nat
  | [] => 0
  | b :: l => b.toNat + 256 * ofLeBytes l

@[simp] theorem length_leBytes (k n : Nat) : (leBytes k n).length = k := by
  induction k generalizing n with
  | zero => rfl
  | succ k ih => simp [leBytes, ih]

theorem ofLeBytes_leBytes (k n : Nat) : ofLeBytes (leBytes k n) = n % 256 ^ k := by
  induction k generalizing n with
  | zero => simp [leBytes, ofLeBytes, Nat.mod_one]
  | succ k ih =>
    rw [leBytes, ofLeBytes, ih, toNat_ofNat_byte, Nat.mod_mod, Nat.pow_succ, Nat.mul_comm _ 256,
      Nat.mod_mul]

theorem ofLeBytes_lt (l : Bytes) : ofLeBytes l < 256 ^ l.length := by
  induction l with
  | nil => simp [ofLeBytes]
  | cons b l ih =>
    have := toNat_byte_lt b
    rw [ofLeBytes, List.length_cons, Nat.pow_succ]
    omega

theorem leBytes_ofLeBytes (l : Bytes) : leBytes l.length (ofLeBytes l) = l := by
  induction l with
  | nil => rfl
  | cons b l ih =>
    have := toNat_byte_lt b
    have hmod : (b.toNat + 256 * ofLeBytes l) % 256 = b.toNat := by omega
    have hdiv : (b.toNat + 256 * ofLeBytes l) / 256 = ofLeBytes l := by omega
    rw [List.length_cons, leBytes, ofLeBytes, hmod, hdiv, ih, ofNat_toNat_byte]

/-! ## The LEB128 length code -/

/-- Zenoh's length prefix: seven bits a byte, the low group first, the high bit set on every
byte but the last. -/
def leb128Encode (n : Nat) : Bytes :=
  if n < 128 then [UInt8.ofNat n] else UInt8.ofNat (n % 128 + 128) :: leb128Encode (n / 128)
termination_by n
decreasing_by omega

theorem leb128Encode_of_lt {n : Nat} (h : n < 128) : leb128Encode n = [UInt8.ofNat n] := by
  rw [leb128Encode, if_pos h]

/-- Zenoh's LEB128 reader: seven bits a byte, the low group first, up to the first byte without
the high bit. A zero group above the highest set one is read like any other. -/
def leb128Decode : Bytes → Option (Nat × Bytes)
  | [] => none
  | b :: bs =>
    if b.toNat < 128 then some (b.toNat, bs)
    else (leb128Decode bs).map fun r => (b.toNat - 128 + 128 * r.1, r.2)

theorem leb128Decode_encode (n : Nat) (rest : Bytes) :
    leb128Decode (leb128Encode n ++ rest) = some (n, rest) := by
  induction n using Nat.strongRecOn with
  | ind n ih =>
    rw [leb128Encode]
    split
    · rename_i h
      simp [leb128Decode, toNat_ofNat_byte, Nat.mod_eq_of_lt (by omega : n < 256), h]
    · rename_i h
      have hb : (UInt8.ofNat (n % 128 + 128)).toNat = n % 128 + 128 := by
        rw [toNat_ofNat_byte]; omega
      rw [List.cons_append, leb128Decode, hb, if_neg (by omega), ih (n / 128) (by omega),
        Option.map_some', show n % 128 + 128 - 128 + 128 * (n / 128) = n by omega]

/-- The LEB128 length code, with zenoh's reader. -/
def leb128 : LengthCodec := ⟨leb128Encode, leb128Decode, leb128Decode_encode⟩

@[simp] theorem leb128_decode : leb128.decode = leb128Decode := rfl

/-- `n` written in `k + 1` groups of seven bits, the low group first, the high bit set on every
byte but the last. -/
def leb128EncodeGroups : Nat → Nat → Bytes
  | 0, n => [UInt8.ofNat n]
  | k + 1, n => UInt8.ofNat (n % 128 + 128) :: leb128EncodeGroups k (n / 128)

theorem leb128Decode_encodeGroups {k n : Nat} (h : n < 128 ^ (k + 1)) (rest : Bytes) :
    leb128Decode (leb128EncodeGroups k n ++ rest) = some (n, rest) := by
  induction k generalizing n with
  | zero =>
    have hn : n < 128 := by simpa using h
    simp [leb128EncodeGroups, leb128Decode, toNat_ofNat_byte, Nat.mod_eq_of_lt (by omega : n < 256),
      hn]
  | succ k ih =>
    have hb : (UInt8.ofNat (n % 128 + 128)).toNat = n % 128 + 128 := by
      rw [toNat_ofNat_byte]; omega
    have hq : n / 128 < 128 ^ (k + 1) := by
      rw [Nat.div_lt_iff_lt_mul (by omega), ← Nat.pow_succ]
      exact h
    rw [leb128EncodeGroups, List.cons_append, leb128Decode, hb, if_neg (by omega), ih hq,
      Option.map_some', show n % 128 + 128 - 128 + 128 * (n / 128) = n by omega]

/-- What the reader reads is `n` in some number of groups that can hold it, followed by the bytes
it leaves. -/
theorem exists_groups_of_leb128Decode {b rest : Bytes} {n : Nat}
    (h : leb128Decode b = some (n, rest)) :
    ∃ k, n < 128 ^ (k + 1) ∧ b = leb128EncodeGroups k n ++ rest := by
  induction b generalizing n with
  | nil => cases h
  | cons b bs ih =>
    have hb := toNat_byte_lt b
    rw [leb128Decode] at h
    split at h
    · rename_i hlt
      obtain ⟨rfl, rfl⟩ := Option.some.inj h
      exact ⟨0, by simpa using hlt, by rw [leb128EncodeGroups, ofNat_toNat_byte]; rfl⟩
    · rename_i hge
      obtain ⟨⟨m, r⟩, hd, he⟩ := Option.map_eq_some'.1 h
      obtain ⟨rfl, rfl⟩ := Prod.ext_iff.1 he
      obtain ⟨k, hk, rfl⟩ := ih hd
      have hmod : (b.toNat - 128 + 128 * m) % 128 + 128 = b.toNat := by omega
      have hdiv : (b.toNat - 128 + 128 * m) / 128 = m := by omega
      refine ⟨k + 1, ?_, ?_⟩
      · rw [Nat.pow_succ]
        omega
      · rw [leb128EncodeGroups, hmod, hdiv, ofNat_toNat_byte]
        rfl

/-- **Zenoh's reader is lax.** The prefixes it takes for `n` are exactly `n` written in any
number of groups that can hold it: the shortest form, or one followed by redundant zero groups. -/
theorem leb128_reads_iff {p : Bytes} {n : Nat} :
    leb128.Reads p n ↔ ∃ k, n < 128 ^ (k + 1) ∧ p = leb128EncodeGroups k n := by
  refine ⟨fun h => ?_, fun ⟨k, hk, hp⟩ x => hp ▸ leb128Decode_encodeGroups hk x⟩
  simpa using exists_groups_of_leb128Decode (h [])

/-- The reader takes nothing after the prefix into account. -/
theorem leb128_selfDelimiting : leb128.SelfDelimiting := fun h => by
  obtain ⟨k, hk, rfl⟩ := exists_groups_of_leb128Decode h
  exact ⟨_, fun x => leb128Decode_encodeGroups hk x, rfl⟩

/-- `15` in two groups, the second one redundant: the reader takes it, the writer never writes
it. -/
theorem leb128_reads_redundant : leb128.Reads [0x8F, 0x00] 15 ∧ leb128.encode 15 = [0x0F] :=
  ⟨fun _ => rfl, leb128Encode_of_lt (by omega)⟩

/-! ## Writing and reading fields -/

section Fields

variable (c : LengthCodec)

/-- `ze_serializer_serialize_int64`: eight little-endian bytes of the two's-complement value. -/
def serializeInt64 (x : BitVec 64) : Bytes := leBytes 8 x.toNat

/-- `ze_serializer_serialize_buf`: the length, then the bytes. -/
def serializeBuf (b : Bytes) : Bytes := c.encode b.length ++ b

/-- `ze_serializer_serialize_str`: the length of the UTF-8 bytes, then the bytes. -/
def serializeStr (s : String) : Bytes := serializeBuf c (strBytes s)

/-- `ze_deserializer_deserialize_int64`: eight bytes, or a failure when fewer are left. -/
def deserializeInt64 (b : Bytes) : Option (BitVec 64 × Bytes) :=
  if 8 ≤ b.length then some (BitVec.ofNat 64 (ofLeBytes (b.take 8)), b.drop 8) else none

/-- `ze_deserializer_deserialize_slice`: a length, then that many bytes. -/
def deserializeSlice (b : Bytes) : Option (Bytes × Bytes) :=
  match c.decode b with
  | some (n, rest) => if n ≤ rest.length then some (rest.take n, rest.drop n) else none
  | none => none

/-- `ze_deserializer_deserialize_string`: a slice holding the string's bytes. The attachment
only compares the result with ASCII tags, so the bytes stand for the string. -/
def deserializeString (b : Bytes) : Option (Bytes × Bytes) := deserializeSlice c b

theorem deserializeInt64_serializeInt64 (x : BitVec 64) (rest : Bytes) :
    deserializeInt64 (serializeInt64 x ++ rest) = some (x, rest) := by
  have hlen : (serializeInt64 x).length = 8 := length_leBytes 8 _
  have hval : ofLeBytes (serializeInt64 x) = x.toNat := by
    rw [serializeInt64, ofLeBytes_leBytes]
    exact Nat.mod_eq_of_lt x.isLt
  simp only [deserializeInt64, List.length_append, hlen, List.take_left' hlen,
    List.drop_left' hlen, hval, BitVec.ofNat_toNat, BitVec.setWidth_eq]
  simp

theorem eq_of_deserializeInt64 {b rest : Bytes} {x : BitVec 64}
    (h : deserializeInt64 b = some (x, rest)) : b = serializeInt64 x ++ rest := by
  unfold deserializeInt64 at h
  split at h
  · rename_i hb
    obtain ⟨rfl, rfl⟩ := Option.some.inj h
    have hlen : (b.take 8).length = 8 := List.length_take_of_le hb
    have hx : (BitVec.ofNat 64 (ofLeBytes (b.take 8))).toNat = ofLeBytes (b.take 8) := by
      rw [BitVec.toNat_ofNat]
      exact Nat.mod_eq_of_lt (by simpa [hlen] using ofLeBytes_lt (b.take 8))
    have hbytes := leBytes_ofLeBytes (b.take 8)
    rw [hlen] at hbytes
    rw [serializeInt64, hx, hbytes, List.take_append_drop]
  · cases h

theorem deserializeSlice_reads {p s : Bytes} (h : c.Reads p s.length) (rest : Bytes) :
    deserializeSlice c (p ++ (s ++ rest)) = some (s, rest) := by
  simp [deserializeSlice, h (s ++ rest)]

theorem deserializeSlice_serializeBuf (b rest : Bytes) :
    deserializeSlice c (serializeBuf c b ++ rest) = some (b, rest) := by
  rw [serializeBuf, List.append_assoc]
  exact deserializeSlice_reads c (c.reads_encode b.length) rest

/-- What a self-delimiting reader takes as a slice stands behind a prefix it takes for the
slice's length. -/
theorem exists_reads_of_deserializeSlice (hc : c.SelfDelimiting) {b s rest : Bytes}
    (h : deserializeSlice c b = some (s, rest)) : ∃ p, c.Reads p s.length ∧ b = p ++ s ++ rest := by
  unfold deserializeSlice at h
  split at h
  · rename_i n r hd
    split at h
    · rename_i hn
      obtain ⟨rfl, rfl⟩ := Option.some.inj h
      obtain ⟨p, hp, rfl⟩ := hc hd
      refine ⟨p, by rwa [List.length_take_of_le hn], ?_⟩
      rw [List.append_assoc, List.take_append_drop]
    · cases h
  · cases h

end Fields

end RmwZenoh
