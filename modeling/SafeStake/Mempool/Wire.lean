import Mathlib

/-!
# The mempool wire format: bincode's encoding of `MempoolMessage`

`MempoolReceiverHandler::dispatch` (`hotstuff/mempool/src/mempool.rs`) decodes every
inbound frame with `bincode::deserialize` and, on a `Batch`, forwards the *original*
frame to the `Processor`, which hashes it. Whether that digest is the producer's is a
question about the codec, so this file models it byte for byte.

bincode 1.x's free functions use the fixed-width little-endian integer encoding: a
derived enum writes its variant index as a `u32`, a `Vec` writes its length as a `u64`
and then its elements, and a `[u8; 32]` writes its 32 bytes with no length. They also
accept trailing bytes after the value, and that is the one place where the format is not
canonical: `deserialize_serialize_append` reads a message back through any suffix, and
`batch_frame_eq_serialize_append` shows that a suffix is *all* a `Batch` frame can add.

Every codec below carries its round-trip law as a field (`Codec.read_write`), so the
message codec is assembled from the laws of its parts; canonicity (`Codec.Canonical`)
is proved part by part in the same way.

Mirroring notes:
- The `crypto` crate is not in the source. `Digest` follows the spec ("fixed-size
  cryptographic hash") as the 32 bytes of a `[u8; 32]`; the requestor's `PublicKey` is a
  type `K` with a codec of its own, assumed only to read back what it writes. Its
  reader is a total function, so the absent `PublicKey` decoder is assumed never to
  panic: on any input it either reads a key or fails, and a failure makes the whole frame
  a decode error.
- A Rust `Vec` cannot hold `2 ^ 64` elements; `RVec` carries that bound, which is what
  makes the `u64` length prefix lossless.
- `dispatch` only logs bincode's error, so a failed decode is `none`.
-/

namespace SafeStake.Mempool

/-! ## Codecs -/

/-- A bincode reader: the value read from the front of the input and the bytes left
after it, or `none` when the input does not start with an encoding. -/
abbrev Reader (α : Type) := List UInt8 → Option (α × List UInt8)

/-- A wire encoding: the writer, the reader, and the law that the reader takes back
exactly what the writer wrote, whatever follows it. -/
structure Codec (α : Type) where
  write : α → List UInt8
  read : Reader α
  read_write : ∀ a rest, read (write a ++ rest) = some (a, rest)

/-- Every successful read consumed exactly the writer's bytes for the value it read. -/
def Codec.Canonical {α : Type} (c : Codec α) : Prop :=
  ∀ bs a rest, c.read bs = some (a, rest) → bs = c.write a ++ rest

/-! ## Fixed-width little-endian integers -/

/-- The `w` low bytes of `n`, least significant first. -/
def leBytes : Nat → Nat → List UInt8
  | 0, _ => []
  | w + 1, n => UInt8.ofNat n :: leBytes w (n / 256)

/-- The number a little-endian byte string denotes. -/
def leValue : List UInt8 → Nat
  | [] => 0
  | b :: bs => b.toNat + 256 * leValue bs

theorem toNat_uint8_ofNat (n : Nat) : (UInt8.ofNat n).toNat = n % 256 := by
  show (BitVec.ofNat 8 n).toNat = _
  simp [BitVec.toNat_ofNat]

@[simp] theorem length_leBytes : ∀ w n, (leBytes w n).length = w
  | 0, _ => rfl
  | w + 1, n => by simp [leBytes, length_leBytes w]

theorem leValue_leBytes : ∀ w n, leValue (leBytes w n) = n % 256 ^ w
  | 0, n => by simp [leBytes, leValue, Nat.mod_one]
  | w + 1, n => by
    rw [leBytes, leValue, leValue_leBytes w, toNat_uint8_ofNat, Nat.pow_succ', Nat.mod_mul]

theorem leValue_lt : ∀ bs : List UInt8, leValue bs < 256 ^ bs.length
  | [] => by simp [leValue]
  | b :: bs => by
    have := leValue_lt bs
    have := UInt8.toNat_lt b
    rw [leValue, List.length_cons, Nat.pow_succ']
    omega

theorem leBytes_leValue : ∀ bs : List UInt8, leBytes bs.length (leValue bs) = bs
  | [] => rfl
  | b :: bs => by
    have hb := UInt8.toNat_lt b
    have hdiv : (b.toNat + 256 * leValue bs) / 256 = leValue bs := by omega
    have hbyte : UInt8.ofNat (b.toNat + 256 * leValue bs) = b :=
      UInt8.toNat.inj (by rw [toNat_uint8_ofNat]; omega)
    rw [List.length_cons, leBytes, leValue, hdiv, hbyte, leBytes_leValue bs]

/-- Read exactly `n` bytes, as bincode's slice reader does for a fixed-size field. -/
def takeExact : (n : Nat) → Reader {xs : List UInt8 // xs.length = n}
  | 0, bs => some (⟨[], rfl⟩, bs)
  | _ + 1, [] => none
  | n + 1, b :: bs =>
    (takeExact n bs).map fun p => (⟨b :: p.1.1, by simp [p.1.2]⟩, p.2)

theorem takeExact_append : ∀ {n : Nat} (xs rest : List UInt8) (h : xs.length = n),
    takeExact n (xs ++ rest) = some (⟨xs, h⟩, rest)
  | 0, [], _, _ => rfl
  | n + 1, x :: xs, rest, h => by
    rw [List.cons_append, takeExact, takeExact_append xs rest (Nat.succ.inj h)]
    rfl

theorem takeExact_some : ∀ {n : Nat} {bs : List UInt8} {xs rest},
    takeExact n bs = some (xs, rest) → bs = xs.1 ++ rest
  | 0, _, _, _, h => by cases h; rfl
  | _ + 1, [], _, _, h => by cases h
  | n + 1, b :: bs, xs, rest, h => by
    simp only [takeExact, Option.map_eq_some'] at h
    obtain ⟨p, hp, h⟩ := h
    simp only [Prod.mk.injEq] at h
    obtain ⟨rfl, rfl⟩ := h
    simp [takeExact_some hp]

/-- bincode's fixint encoding of a `w`-byte unsigned integer: `u32` is `w = 4`, the
`u64` of a sequence length is `w = 8`. -/
def wordCodec (w : Nat) : Codec (Fin (256 ^ w)) where
  write n := leBytes w n
  read bs := (takeExact w bs).map fun p =>
    (⟨leValue p.1.1, lt_of_lt_of_eq (leValue_lt p.1.1) (by rw [p.1.2])⟩, p.2)
  read_write n rest := by
    simp [takeExact_append _ rest (length_leBytes w n), leValue_leBytes,
      Nat.mod_eq_of_lt n.isLt]

theorem wordCodec_canonical (w : Nat) : (wordCodec w).Canonical := by
  intro bs a rest h
  simp only [wordCodec, Option.map_eq_some'] at h
  obtain ⟨⟨xs, rest'⟩, hp, h⟩ := h
  simp only [Prod.mk.injEq] at h
  obtain ⟨rfl, rfl⟩ := h
  have hle := leBytes_leValue xs.1
  rw [xs.2] at hle
  rw [takeExact_some hp]
  exact congrArg (· ++ rest') hle.symm

/-- A `u8` is its one byte. -/
def byteCodec : Codec UInt8 where
  write b := [b]
  read
    | [] => none
    | b :: bs => some (b, bs)
  read_write _ _ := rfl

theorem byteCodec_canonical : byteCodec.Canonical := by
  intro bs a rest h
  cases bs with
  | nil => cases h
  | cons b bs => cases h; rfl

/-! ## Sequences -/

/-- The `u64` length prefix covers every `usize`. -/
theorem two_pow_64 : (2 : Nat) ^ 64 = 256 ^ 8 := rfl

/-- A Rust `Vec` (or `Bytes` buffer): a list whose length fits the 64-bit `usize`. -/
structure RVec (α : Type) where
  toList : List α
  length_lt : toList.length < 2 ^ 64
deriving DecidableEq

/-- Read `n` values one after another, as serde's sequence visitor does for a `Vec`
whose length prefix said `n`. -/
def readSeq {α : Type} (r : Reader α) : (n : Nat) → Reader {l : List α // l.length = n}
  | 0, bs => some (⟨[], rfl⟩, bs)
  | n + 1, bs => (r bs).bind fun p =>
    (readSeq r n p.2).map fun q => (⟨p.1 :: q.1.1, by simp [q.1.2]⟩, q.2)

theorem readSeq_flatMap {α : Type} (c : Codec α) :
    ∀ (l : List α) (rest : List UInt8),
      readSeq c.read l.length (l.flatMap c.write ++ rest) = some (⟨l, rfl⟩, rest)
  | [], _ => rfl
  | a :: l, rest => by
    simp only [List.flatMap_cons, List.append_assoc, List.length_cons, readSeq,
      c.read_write, Option.some_bind, readSeq_flatMap c l rest, Option.map_some']

theorem readSeq_canonical {α : Type} {c : Codec α} (hc : c.Canonical) :
    ∀ (n : Nat) (bs : List UInt8) l rest,
      readSeq c.read n bs = some (l, rest) → bs = l.1.flatMap c.write ++ rest
  | 0, _, _, _, h => by cases h; rfl
  | n + 1, bs, l, rest, h => by
    simp only [readSeq, Option.bind_eq_some, Option.map_eq_some'] at h
    obtain ⟨⟨a, mid⟩, ha, q, hq, h⟩ := h
    simp only [Prod.mk.injEq] at h
    obtain ⟨rfl, rfl⟩ := h
    rw [hc _ _ _ ha, readSeq_canonical hc n mid _ _ hq]
    simp

/-- A `Vec<T>`: its length as a `u64`, then its elements. -/
def vecCodec {α : Type} (c : Codec α) : Codec (RVec α) where
  write v := (wordCodec 8).write ⟨v.toList.length, Nat.lt_of_lt_of_eq v.length_lt two_pow_64⟩ ++
    v.toList.flatMap c.write
  read bs := ((wordCodec 8).read bs).bind fun p =>
    (readSeq c.read p.1 p.2).map fun q =>
      (⟨q.1.1, by rw [q.1.2]; exact Nat.lt_of_lt_of_eq p.1.isLt two_pow_64.symm⟩, q.2)
  read_write v rest := by
    simp only [List.append_assoc, (wordCodec 8).read_write, Option.some_bind,
      readSeq_flatMap c, Option.map_some']

theorem vecCodec_canonical {α : Type} {c : Codec α} (hc : c.Canonical) :
    (vecCodec c).Canonical := by
  intro bs a rest h
  simp only [vecCodec, Option.bind_eq_some, Option.map_eq_some'] at h
  obtain ⟨⟨n, mid⟩, hn, q, hq, h⟩ := h
  simp only [Prod.mk.injEq] at h
  obtain ⟨rfl, rfl⟩ := h
  dsimp only at hq
  rw [wordCodec_canonical 8 _ _ _ hn, readSeq_canonical hc _ _ _ _ hq]
  simp only [vecCodec, List.append_assoc]
  congr 2
  exact Fin.ext q.1.2.symm

/-! ## Messages -/

/-- A batch digest: serde writes the `[u8; 32]` it wraps as its 32 bytes. -/
structure Digest where
  bytes : List UInt8
  length_eq : bytes.length = 32
deriving DecidableEq

def digestCodec : Codec Digest where
  write d := d.bytes
  read bs := (takeExact 32 bs).map fun p => (⟨p.1.1, p.1.2⟩, p.2)
  read_write d rest := by simp [takeExact_append _ rest d.length_eq]

theorem digestCodec_canonical : digestCodec.Canonical := by
  intro bs a rest h
  simp only [digestCodec, Option.map_eq_some'] at h
  obtain ⟨p, hp, h⟩ := h
  simp only [Prod.mk.injEq] at h
  obtain ⟨rfl, rfl⟩ := h
  exact takeExact_some hp

/-- `Transaction`: an opaque byte string. -/
abbrev Transaction := RVec UInt8

/-- `Batch`: the transactions a `BatchMaker` sealed, in arrival order. -/
abbrev Batch := RVec Transaction

/-- `MempoolMessage`, the peer-to-peer wire type; `K` is the requestor's public key. -/
inductive MempoolMessage (K : Type) where
  | batch (b : Batch)
  | batchRequest (missing : RVec Digest) (origin : K)
deriving DecidableEq

section Message

variable {K : Type} (kc : Codec K)

/-- `bincode::serialize`: the variant index as a `u32`, then the fields in order. -/
def serialize : MempoolMessage K → List UInt8
  | .batch b => (wordCodec 4).write 0 ++ (vecCodec (vecCodec byteCodec)).write b
  | .batchRequest missing origin =>
    (wordCodec 4).write 1 ++ (vecCodec digestCodec).write missing ++ kc.write origin

/-- The message read from the front of a frame: the variant index, then that
variant's fields. An index other than `0` or `1` is an error. -/
def readMessage : Reader (MempoolMessage K) := fun bs =>
  ((wordCodec 4).read bs).bind fun p =>
    match p.1.val with
    | 0 => ((vecCodec (vecCodec byteCodec)).read p.2).map fun q => (.batch q.1, q.2)
    | 1 => ((vecCodec digestCodec).read p.2).bind fun q =>
        (kc.read q.2).map fun r => (.batchRequest q.1 r.1, r.2)
    | _ => none

/-- `bincode::deserialize` as the free function does it: read one message and ignore
whatever bytes follow it. -/
def deserialize (frame : List UInt8) : Option (MempoolMessage K) :=
  (readMessage kc frame).map Prod.fst

theorem readMessage_serialize (m : MempoolMessage K) (rest : List UInt8) :
    readMessage kc (serialize kc m ++ rest) = some (m, rest) := by
  cases m <;>
    simp only [serialize, readMessage, List.append_assoc, (wordCodec 4).read_write,
      Option.some_bind, (vecCodec _).read_write, kc.read_write, Option.map_some',
      Option.some_bind]

/-- Every message is read back from its encoding, whatever bytes trail it. -/
theorem deserialize_serialize_append (m : MempoolMessage K) (rest : List UInt8) :
    deserialize kc (serialize kc m ++ rest) = some m := by
  simp [deserialize, readMessage_serialize]

/-- What a successful read has consumed, variant by variant. -/
theorem readMessage_eq_some {bs rest : List UInt8} {m : MempoolMessage K}
    (h : readMessage kc bs = some (m, rest)) :
    (∃ b mid, (wordCodec 4).read bs = some (0, mid) ∧
      (vecCodec (vecCodec byteCodec)).read mid = some (b, rest) ∧ m = .batch b) ∨
    (∃ missing origin mid mid', (wordCodec 4).read bs = some (1, mid) ∧
      (vecCodec digestCodec).read mid = some (missing, mid') ∧
      kc.read mid' = some (origin, rest) ∧ m = .batchRequest missing origin) := by
  simp only [readMessage, Option.bind_eq_some] at h
  obtain ⟨⟨tag, mid⟩, htag, h⟩ := h
  match tag, h with
  | ⟨0, _⟩, h =>
    simp only [Option.map_eq_some'] at h
    obtain ⟨q, hq, h⟩ := h
    simp only [Prod.mk.injEq] at h
    exact .inl ⟨q.1, mid, htag, h.2 ▸ hq, h.1.symm⟩
  | ⟨1, _⟩, h =>
    simp only [Option.bind_eq_some, Option.map_eq_some'] at h
    obtain ⟨q, hq, r, hr, h⟩ := h
    simp only [Prod.mk.injEq] at h
    exact .inr ⟨q.1, r.1, mid, q.2, htag, hq, h.2 ▸ hr, h.1.symm⟩
  | ⟨n + 2, _⟩, h => cases h

/-- A read that produced a `Batch` consumed exactly that batch's encoding, whatever the
key codec. -/
theorem readMessage_batch {bs rest : List UInt8} {b : Batch}
    (h : readMessage kc bs = some (.batch b, rest)) : bs = serialize kc (.batch b) ++ rest := by
  rcases readMessage_eq_some kc h with ⟨b', mid, htag, hb, h⟩ | ⟨_, _, _, _, _, _, _, h⟩
  · cases h
    rw [wordCodec_canonical 4 _ _ _ htag,
      vecCodec_canonical (vecCodec_canonical byteCodec_canonical) _ _ _ hb]
    simp [serialize]
  · cases h

/-- A frame that decodes as a `Batch` is that batch's encoding followed by bytes the
decoder ignored, whatever the key codec. -/
theorem batch_frame_eq_serialize_append {frame : List UInt8} {b : Batch}
    (h : deserialize kc frame = some (.batch b)) :
    ∃ rest, frame = serialize kc (.batch b) ++ rest := by
  simp only [deserialize, Option.map_eq_some'] at h
  obtain ⟨⟨m, rest⟩, hm, rfl⟩ := h
  exact ⟨rest, readMessage_batch kc hm⟩

/-- With a canonical key codec every accepted frame is a message's encoding plus a
suffix; the suffix is the only freedom the decoder leaves. -/
theorem frame_eq_serialize_append (hk : kc.Canonical) {frame : List UInt8}
    {m : MempoolMessage K} (h : deserialize kc frame = some m) :
    ∃ rest, frame = serialize kc m ++ rest := by
  simp only [deserialize, Option.map_eq_some'] at h
  obtain ⟨⟨m, rest⟩, hm, rfl⟩ := h
  refine ⟨rest, ?_⟩
  cases m with
  | batch b => exact readMessage_batch kc hm
  | batchRequest missing origin =>
    rcases readMessage_eq_some kc hm with ⟨_, _, _, _, h⟩ |
      ⟨_, _, mid, mid', htag, hmiss, hor, h⟩
    · cases h
    · cases h
      rw [wordCodec_canonical 4 _ _ _ htag, vecCodec_canonical digestCodec_canonical _ _ _ hmiss,
        hk _ _ _ hor]
      simp [serialize]

/-- No frame extends another: a message's encoding followed by more bytes is never
another message's encoding, so `serialize` is injective and a frame ends where its
message ends. -/
theorem serialize_prefix_free {m₁ m₂ : MempoolMessage K} {t : List UInt8}
    (h : serialize kc m₁ ++ t = serialize kc m₂) : m₁ = m₂ ∧ t = [] := by
  have h₂ := readMessage_serialize kc m₂ []
  rw [List.append_nil, ← h, readMessage_serialize] at h₂
  simpa using h₂

end Message

/-- An empty batch's frame, extended by nothing, is only its own. -/
theorem empty_batch_frame_is_its_own :
    (MempoolMessage.batch ⟨[], by decide⟩ : MempoolMessage Digest) =
        MempoolMessage.batch ⟨[], by decide⟩ ∧ ([] : List UInt8) = [] :=
  serialize_prefix_free digestCodec (List.append_nil _)

/-- With digests as keys, the frame of an empty batch with one more byte is that batch's
encoding followed by the byte. -/
theorem trailing_frame_splits :
    ∃ rest, [0, 0, 0, 0, 0, 0, 0, 0, 0, 0, 0, 0, 9] =
      serialize digestCodec (MempoolMessage.batch ⟨[], by decide⟩) ++ rest :=
  frame_eq_serialize_append digestCodec digestCodec_canonical (by decide)

section Message

variable {K : Type} (kc : Codec K)

/-- bincode's codec for `MempoolMessage`: it inverts `serialize` through any suffix,
and a suffix is all that a `Batch` frame can hold beyond the batch's encoding. -/
theorem mempoolMessage_codec_inverse :
    (∀ (m : MempoolMessage K) (rest : List UInt8),
      deserialize kc (serialize kc m ++ rest) = some m) ∧
    (∀ (frame : List UInt8) (b : Batch), deserialize kc frame = some (.batch b) →
      ∃ rest, frame = serialize kc (.batch b) ++ rest) :=
  ⟨deserialize_serialize_append kc, fun _ _ => batch_frame_eq_serialize_append kc⟩

end Message

/-- An empty batch followed by one more byte is accepted as that batch, yet it is not
the batch's encoding: the decoder is not a two-way inverse of `serialize`. -/
theorem trailing_byte_breaks_reencoding :
    ¬ ∀ (m : MempoolMessage Digest) (frame : List UInt8),
      deserialize digestCodec frame = some m → serialize digestCodec m = frame := by
  intro h
  have := h (.batch ⟨[], by decide⟩) [0, 0, 0, 0, 0, 0, 0, 0, 0, 0, 0, 0, 0] (by decide)
  exact absurd this (by decide)

end SafeStake.Mempool
