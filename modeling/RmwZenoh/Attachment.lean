import RmwZenoh.Zenoh.Serializer

/-!
# Attachment data

`AttachmentData` (`attachment_helpers.cpp`) carries the correlation fields of a request and of
its replies: a sequence number, a source timestamp and the 16-byte gid of the sender.
`serialize_to_zbytes` writes the three fields behind their tags, and the constructor from bytes
reads them back in the same order, throwing on the first one it cannot read. A thrown
`std::runtime_error` is an `Except.error` carrying its message.

* `ofZbytes_serializeToZbytes_append`: the constructor reads back what `serialize_to_zbytes`
  wrote, whatever follows it;
* `AttachmentData.serializeWith`: the same fields behind any length prefixes; with a reader that
  takes prefixes other than the writer's (zenoh's LEB128 reader takes redundant zero groups),
  the constructor accepts these too;
* **`ofZbytes_eq_ok_iff`**: for a self-delimiting reader, the constructor returns `d` exactly on
  the bytes that start with `d`'s fields behind prefixes the reader takes for their lengths;
* `createMapAndSetSequenceNum`: the attachment a request carries.
-/

namespace RmwZenoh

/-- A gid: the `RMW_GID_STORAGE_SIZE` = 16 bytes that `copy_gid` writes. -/
structure Gid where
  bytes : Bytes
  length_eq : bytes.length = 16
  deriving DecidableEq

/-- The fields of an `AttachmentData`. -/
structure AttachmentData where
  sequenceNumber : BitVec 64
  sourceTimestamp : BitVec 64
  sourceGid : Gid
  gidHash : Nat
  deriving DecidableEq

/-- `std::runtime_error(msg)` when a field could not be read. -/
def orThrow {α : Type} (x : Option α) (msg : String) : Except String α :=
  match x with
  | some a => .ok a
  | none => .error msg

@[simp] theorem ok_bind {α β : Type} (a : α) (f : α → Except String β) :
    (Except.ok a >>= f) = f a := rfl

theorem bind_eq_ok {α β : Type} {x : Except String α} {f : α → Except String β} {r : β} :
    x >>= f = .ok r ↔ ∃ a, x = .ok a ∧ f a = .ok r := by
  cases x <;> simp [bind, Except.bind]

theorem orThrow_eq_ok {α : Type} {x : Option α} {msg : String} {a : α} :
    orThrow x msg = .ok a ↔ x = some a := by
  cases x <;> simp [orThrow]

section Codec

-- `hash_gid` (`liveliness_utils`), which both constructors call on the gid.
variable (hashGid : Gid → Nat)

/-- `AttachmentData(sequence_number, source_timestamp, source_gid)`. -/
def AttachmentData.new (s t : BitVec 64) (g : Gid) : AttachmentData := ⟨s, t, g, hashGid g⟩

variable (c : LengthCodec)

/-- `AttachmentData::serialize_to_zbytes`. -/
def AttachmentData.serializeToZbytes (d : AttachmentData) : Bytes :=
  serializeStr c "sequence_number" ++ serializeInt64 d.sequenceNumber ++
    serializeStr c "source_timestamp" ++ serializeInt64 d.sourceTimestamp ++
    serializeStr c "source_gid" ++ serializeBuf c d.sourceGid.bytes

/-- Read the key `tag` and throw `missing` if another key, or none, is there. The status of the
read is not checked: a failed read leaves the key empty, which is never a tag. -/
def expectKey (tag missing : String) (b : Bytes) : Except String Bytes :=
  match deserializeString c b with
  | some (key, rest) => if key = strBytes tag then .ok rest else .error missing
  | none => .error missing

/-- `AttachmentData(const z_loaned_bytes_t *)`. -/
def AttachmentData.ofZbytes (b : Bytes) : Except String AttachmentData := do
  let b ← expectKey c "sequence_number" "sequence_number is not found in the attachment." b
  let (s, b) ← orThrow (deserializeInt64 b) "Failed to deserialize the sequence_number."
  let b ← expectKey c "source_timestamp" "source_timestamp is not found in the attachment" b
  let (t, b) ← orThrow (deserializeInt64 b) "Failed to deserialize the source_timestamp."
  let b ← expectKey c "source_gid" "Invalid attachment: the key source_gid is not found" b
  let (g, _) ← orThrow (deserializeSlice c b) "Failed to deserialize the source_gid."
  if h : g.length = 16 then
    return AttachmentData.new hashGid s t ⟨g, h⟩
  else
    throw "The length of source_gid mismatched."

/-- `create_map_and_set_sequence_num`: the attachment of a request, stamped with the clock
reading `now` (nanoseconds since the epoch). -/
def createMapAndSetSequenceNum (sequenceNumber : BitVec 64) (gid : Gid) (now : BitVec 64) :
    Bytes :=
  (AttachmentData.new hashGid sequenceNumber now gid).serializeToZbytes c

/-- The bytes of `d`'s fields with the length prefixes `p₁`, `p₂`, `p₃` of the three tags and
`p₄` of the gid: `serialize_to_zbytes` is the case of the writer's own prefixes. -/
def AttachmentData.serializeWith (p₁ p₂ p₃ p₄ : Bytes) (d : AttachmentData) : Bytes :=
  p₁ ++ strBytes "sequence_number" ++ serializeInt64 d.sequenceNumber ++
    p₂ ++ strBytes "source_timestamp" ++ serializeInt64 d.sourceTimestamp ++
    p₃ ++ strBytes "source_gid" ++ p₄ ++ d.sourceGid.bytes

theorem serializeToZbytes_eq_serializeWith (d : AttachmentData) :
    d.serializeToZbytes c = d.serializeWith (c.encode (strBytes "sequence_number").length)
      (c.encode (strBytes "source_timestamp").length) (c.encode (strBytes "source_gid").length)
      (c.encode 16) := by
  simp [AttachmentData.serializeToZbytes, AttachmentData.serializeWith, serializeStr, serializeBuf,
    d.sourceGid.length_eq]

/-! ## Reading back -/

theorem expectKey_reads {tag : String} {p : Bytes} (h : c.Reads p (strBytes tag).length)
    (missing : String) (rest : Bytes) :
    expectKey c tag missing (p ++ (strBytes tag ++ rest)) = .ok rest := by
  simp [expectKey, deserializeString, deserializeSlice_reads c h]

/-- What a self-delimiting reader takes for the key `tag` is the tag behind a prefix the reader
takes for its length. -/
theorem exists_reads_of_expectKey (hc : c.SelfDelimiting) {tag missing : String} {b rest : Bytes}
    (h : expectKey c tag missing b = .ok rest) :
    ∃ p, c.Reads p (strBytes tag).length ∧ b = p ++ strBytes tag ++ rest := by
  unfold expectKey at h
  split at h
  · rename_i key r hd
    split at h
    · rename_i hk
      cases h
      subst hk
      exact exists_reads_of_deserializeSlice c hc hd
    · cases h
  · cases h

/-- **Reading back.** Behind any prefixes the reader takes for their lengths, the constructor
reads `d`'s fields, whatever follows them, and recomputes the hash of the gid. -/
theorem ofZbytes_serializeWith_append {p₁ p₂ p₃ p₄ : Bytes}
    (h₁ : c.Reads p₁ (strBytes "sequence_number").length)
    (h₂ : c.Reads p₂ (strBytes "source_timestamp").length)
    (h₃ : c.Reads p₃ (strBytes "source_gid").length) (h₄ : c.Reads p₄ 16)
    (d : AttachmentData) (rest : Bytes) :
    AttachmentData.ofZbytes hashGid c (d.serializeWith p₁ p₂ p₃ p₄ ++ rest) =
      .ok (AttachmentData.new hashGid d.sequenceNumber d.sourceTimestamp d.sourceGid) := by
  rw [← d.sourceGid.length_eq] at h₄
  simp only [AttachmentData.ofZbytes, AttachmentData.serializeWith, List.append_assoc,
    expectKey_reads c h₁, expectKey_reads c h₂, expectKey_reads c h₃,
    deserializeInt64_serializeInt64, deserializeSlice_reads c h₄, orThrow, ok_bind,
    d.sourceGid.length_eq, dite_true]
  rfl

/-- **Round trip.** The constructor reads back the fields `serialize_to_zbytes` wrote, whatever
follows them, and recomputes the hash of the gid. -/
theorem ofZbytes_serializeToZbytes_append (d : AttachmentData) (rest : Bytes) :
    AttachmentData.ofZbytes hashGid c (d.serializeToZbytes c ++ rest) =
      .ok (AttachmentData.new hashGid d.sequenceNumber d.sourceTimestamp d.sourceGid) := by
  rw [serializeToZbytes_eq_serializeWith]
  exact ofZbytes_serializeWith_append hashGid c (c.reads_encode _) (c.reads_encode _)
    (c.reads_encode _) (c.reads_encode _) d rest

/-- **Acceptance.** With a self-delimiting reader, whatever the constructor accepts starts with
the fields it returns behind prefixes the reader takes for their lengths, and its hash is the
hash of its gid. -/
theorem exists_serializeWith_of_ofZbytes (hc : c.SelfDelimiting) {b : Bytes} {d : AttachmentData}
    (h : AttachmentData.ofZbytes hashGid c b = .ok d) :
    d = AttachmentData.new hashGid d.sequenceNumber d.sourceTimestamp d.sourceGid ∧
      ∃ p₁ p₂ p₃ p₄ rest, c.Reads p₁ (strBytes "sequence_number").length ∧
        c.Reads p₂ (strBytes "source_timestamp").length ∧
        c.Reads p₃ (strBytes "source_gid").length ∧ c.Reads p₄ 16 ∧
        b = d.serializeWith p₁ p₂ p₃ p₄ ++ rest := by
  simp only [AttachmentData.ofZbytes, bind_eq_ok] at h
  obtain ⟨b₁, h₁, ⟨s, b₂⟩, h₂, b₃, h₃, ⟨t, b₄⟩, h₄, b₅, h₅, ⟨g, rest⟩, h₆, h₇⟩ := h
  dsimp only at h₃ h₅ h₇
  split at h₇
  · rename_i hg
    cases h₇
    rw [orThrow_eq_ok] at h₂ h₄ h₆
    obtain ⟨p₁, hp₁, rfl⟩ := exists_reads_of_expectKey c hc h₁
    obtain ⟨p₂, hp₂, rfl⟩ := exists_reads_of_expectKey c hc h₃
    obtain ⟨p₃, hp₃, rfl⟩ := exists_reads_of_expectKey c hc h₅
    obtain ⟨p₄, hp₄, rfl⟩ := exists_reads_of_deserializeSlice c hc h₆
    refine ⟨rfl, p₁, p₂, p₃, p₄, rest, hp₁, hp₂, hp₃, hg ▸ hp₄, ?_⟩
    rw [eq_of_deserializeInt64 h₂, eq_of_deserializeInt64 h₄]
    simp [AttachmentData.serializeWith, AttachmentData.new]
  · cases h₇

/-- **Attachment round trip.** For every sequence number, timestamp and gid, the constructor
from bytes accepts what `serialize_to_zbytes` writes for them and returns the same fields, with
the hash of the gid. -/
theorem ofZbytes_serializeToZbytes (s t : BitVec 64) (g : Gid) :
    ∃ d, AttachmentData.ofZbytes hashGid c
        ((AttachmentData.new hashGid s t g).serializeToZbytes c) = .ok d ∧
      d.sequenceNumber = s ∧ d.sourceTimestamp = t ∧ d.sourceGid = g ∧ d.gidHash = hashGid g :=
  ⟨_, by simpa using ofZbytes_serializeToZbytes_append hashGid c (.new hashGid s t g) [],
    rfl, rfl, rfl, rfl⟩

/-- **The accepted bytes.** With a self-delimiting length reader, the constructor returns `d`
exactly when the bytes start with `d`'s tags, numbers and gid, each string behind a prefix the
reader takes for its length; the bytes after the gid are not looked at. -/
theorem ofZbytes_eq_ok_iff (hc : c.SelfDelimiting) (b : Bytes) (d : AttachmentData) :
    AttachmentData.ofZbytes hashGid c b = .ok d ↔
      d = AttachmentData.new hashGid d.sequenceNumber d.sourceTimestamp d.sourceGid ∧
        ∃ p₁ p₂ p₃ p₄ rest, c.Reads p₁ (strBytes "sequence_number").length ∧
          c.Reads p₂ (strBytes "source_timestamp").length ∧
          c.Reads p₃ (strBytes "source_gid").length ∧ c.Reads p₄ 16 ∧
          b = d.serializeWith p₁ p₂ p₃ p₄ ++ rest := by
  refine ⟨exists_serializeWith_of_ofZbytes hashGid c hc, ?_⟩
  rintro ⟨hd, p₁, p₂, p₃, p₄, rest, h₁, h₂, h₃, h₄, rfl⟩
  rw [ofZbytes_serializeWith_append hashGid c h₁ h₂ h₃ h₄, ← hd]

end Codec

/-- Zenoh's reader is self-delimiting, and the constructor accepts the attachment of a zero
sequence number, timestamp and gid with the first length written in two groups and a byte after
the gid. -/
theorem ofZbytes_eq_ok_iff_redundant_group :
    let d := AttachmentData.new (fun _ => 0) 0 0 ⟨List.replicate 16 0, rfl⟩
    leb128.SelfDelimiting ∧ AttachmentData.ofZbytes (fun _ => 0) leb128
      (d.serializeWith [0x8F, 0x00] [0x10] [0x0A] [0x10] ++ [0]) = .ok d := by
  have h₁ : leb128.Reads [0x8F, 0x00] (strBytes "sequence_number").length := fun _ => rfl
  have h₂ : leb128.Reads [0x10] (strBytes "source_timestamp").length := fun _ => rfl
  have h₃ : leb128.Reads [0x0A] (strBytes "source_gid").length := fun _ => rfl
  have h₄ : leb128.Reads [0x10] 16 := fun _ => rfl
  exact ⟨leb128_selfDelimiting, (ofZbytes_eq_ok_iff _ leb128 leb128_selfDelimiting _ _).2
    ⟨rfl, _, _, _, _, [0], h₁, h₂, h₃, h₄, rfl⟩⟩

/-- The constructor accepts bytes of which no `serialize_to_zbytes` output is a prefix: zenoh's
reader takes the first length written in two groups, and nothing checks that the gid ends the
bytes. -/
theorem ofZbytes_accepts_outside_image :
    let d := AttachmentData.new (fun _ => 0) 0 0 ⟨List.replicate 16 0, rfl⟩
    let b := d.serializeWith [0x8F, 0x00] [0x10] [0x0A] [0x10] ++ [0]
    AttachmentData.ofZbytes (fun _ => 0) leb128 b = .ok d ∧
      ∀ d' : AttachmentData, ∀ rest, b ≠ d'.serializeToZbytes leb128 ++ rest := by
  have h₁ : leb128.Reads [0x8F, 0x00] (strBytes "sequence_number").length := fun _ => rfl
  have h₂ : leb128.Reads [0x10] (strBytes "source_timestamp").length := fun _ => rfl
  have h₃ : leb128.Reads [0x0A] (strBytes "source_gid").length := fun _ => rfl
  have h₄ : leb128.Reads [0x10] 16 := fun _ => rfl
  refine ⟨ofZbytes_serializeWith_append _ leb128 h₁ h₂ h₃ h₄ _ [0], fun d' rest h => ?_⟩
  have h15 : (strBytes "sequence_number").length = 15 := by decide
  have := congrArg List.head? h
  simp [AttachmentData.serializeWith, AttachmentData.serializeToZbytes, serializeStr, serializeBuf,
    leb128, h15, leb128Encode_of_lt] at this

end RmwZenoh
