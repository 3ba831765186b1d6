import LnGossipSim.Library.Slice

/-!
# Fundamental Types

Byte strings, fixed-size arrays and the small types every message is built
from, together with what the code uses of the secp256k1 library.

A slice `&[u8]` is a `Bytes`, and a fixed-size array `[u8; N]` is a list with
its length in the type. A vector whose length is itself written to the wire as
a 64-bit number is a `ByteVec`: the length of a vector is a `usize`, so the
cast to `u64` that the encoder performs loses nothing, and the bound is part
of the type.

The elliptic curve library is not part of the repository. `Secp256k1` lists
the operations the code calls, and the predicates below it state the
documented behaviour a result may rely on.

## Main definitions

* `ByteVec`: A byte vector whose length fits the 64-bit `usize`.
* `toVec`: A slice copied into a vector.
* `Secp256k1`: The operations of the elliptic curve library.
* `Secp256k1.ParsesSerialized`: Parsing undoes serialization.
* `Secp256k1.SerializesParsed`: Serialization undoes parsing.
* `Secp256k1.EcdhCommutes`: Both sides compute the same secret.
* `Secp256k1.transparent`: A library that meets every assumption.
* `ChannelId`, `Txid`, `BigSize`: The fundamental types of the wire format.
* `BoltError`, `BoltError.text`: What encoding and decoding can report.
-/

namespace LnGossipSim

/-- A byte slice. -/
abbrev Bytes := List UInt8

/-- A fixed-size byte array. -/
abbrev ByteArr (n : Nat) := List.Vector UInt8 n

/-- A byte vector whose length fits the 64-bit `usize`. -/
abbrev ByteVec := { bytes : Bytes // bytes.length < 2 ^ 64 }

/-- A slice copied into a vector, panicking when no vector is that long. -/
def toVec {ε : Type} (bytes : Bytes) : Outcome ε ByteVec :=
  if h : bytes.length < 2 ^ 64 then .ok ⟨bytes, h⟩ else .panicked

theorem toVec_of_lt {ε : Type} (bytes : Bytes) (h : bytes.length < 2 ^ 64) :
    (toVec bytes : Outcome ε ByteVec) = .ok ⟨bytes, h⟩ := by
  rw [toVec, dif_pos h]

namespace Bolt

/-- Maximum Lightning message size (2-byte length prefix limit). -/
def maxMessageSize : Nat := 65535

/-- Size of a channel ID in bytes. -/
def channelIdSize : Nat := 32

/-- Size of a chain hash. -/
def chainHashSize : Nat := 32

/-- Size of a transaction ID in bytes. -/
def txidSize : Nat := 32

/-- Size of a compact ECDSA signature in bytes. -/
def compactSignatureSize : Nat := 64

/-- Size of a compressed secp256k1 public key. -/
def publicKeySize : Nat := 33

end Bolt

/-- The operations of the elliptic curve library. `ecdh` is the SHA-256 of the
    compressed shared point. -/
structure Secp256k1 where
  PublicKey : Type
  SecretKey : Type
  Signature : Type
  publicKey : SecretKey → PublicKey
  fromSlice : Bytes → Option PublicKey
  serialize : PublicKey → ByteArr Bolt.publicKeySize
  fromCompact : Bytes → Option Signature
  serializeCompact : Signature → ByteArr Bolt.compactSignatureSize
  ecdh : SecretKey → PublicKey → ByteArr 32

/-- A public key survives serialization. -/
def Secp256k1.KeyReparses (S : Secp256k1) (k : S.PublicKey) : Prop :=
  S.fromSlice (S.serialize k).toList = some k

/-- A signature survives serialization. -/
def Secp256k1.SignatureReparses (S : Secp256k1) (sig : S.Signature) : Prop :=
  S.fromCompact (S.serializeCompact sig).toList = some sig

/-- Parsing a serialized key or compact signature returns the same value. -/
structure Secp256k1.ParsesSerialized (S : Secp256k1) : Prop where
  key : ∀ k : S.PublicKey, S.KeyReparses k
  signature : ∀ sig : S.Signature, S.SignatureReparses sig

/-- Serializing a parsed 33-byte key or 64-byte compact signature returns the
    same bytes. -/
structure Secp256k1.SerializesParsed (S : Secp256k1) : Prop where
  key : ∀ (b : ByteArr Bolt.publicKeySize) (k : S.PublicKey),
    S.fromSlice b.toList = some k → S.serialize k = b
  signature : ∀ (b : ByteArr Bolt.compactSignatureSize) (sig : S.Signature),
    S.fromCompact b.toList = some sig → S.serializeCompact sig = b

/-- Both sides of a key agreement compute the same secret. -/
def Secp256k1.EcdhCommutes (S : Secp256k1) : Prop :=
  ∀ x y : S.SecretKey, S.ecdh x (S.publicKey y) = S.ecdh y (S.publicKey x)

/-- A curve library whose keys and signatures are their own serialization, with
    a key agreement that commutes. It meets every assumption made of the real
    one. -/
def Secp256k1.transparent : Secp256k1 where
  PublicKey := ByteArr Bolt.publicKeySize
  SecretKey := ByteArr 32
  Signature := ByteArr Bolt.compactSignatureSize
  publicKey sk := List.Vector.cons 2 sk
  fromSlice b := if h : b.length = Bolt.publicKeySize then some (Slice.pack b h) else none
  serialize k := k
  fromCompact b := if h : b.length = Bolt.compactSignatureSize then some (Slice.pack b h) else none
  serializeCompact sig := sig
  ecdh sk k := List.Vector.map₂ (fun a b => a + b) sk (List.Vector.tail k)

instance : DecidableEq Secp256k1.transparent.PublicKey :=
  inferInstanceAs (DecidableEq (ByteArr Bolt.publicKeySize))

theorem Secp256k1.transparent_parsesSerialized : transparent.ParsesSerialized where
  key k := dif_pos (List.Vector.toList_length k)
  signature sig := dif_pos (List.Vector.toList_length sig)

theorem Secp256k1.transparent_serializesParsed : transparent.SerializesParsed where
  key b k h := by
    have hparse : transparent.fromSlice b.toList = some b := dif_pos b.toList_length
    rw [hparse] at h
    exact (Option.some.inj h).symm
  signature b sig h := by
    have hparse : transparent.fromCompact b.toList = some b := dif_pos b.toList_length
    rw [hparse] at h
    exact (Option.some.inj h).symm

theorem Secp256k1.transparent_ecdhCommutes : transparent.EcdhCommutes := by
  have hcomm : ∀ x y : ByteArr 32, List.Vector.map₂ (fun a b => a + b) x y
      = List.Vector.map₂ (fun a b => a + b) y x := by
    intro x y
    refine List.Vector.ext (fun i => ?_)
    rw [List.Vector.get_map₂, List.Vector.get_map₂, UInt8.add_comm]
  exact fun x y => hcomm x y

namespace Bolt

/-- A 32-byte channel identifier. -/
structure ChannelId where
  bytes : ByteArr channelIdSize
  deriving DecidableEq

/-- The all-zero channel ID, which stands for all channels. -/
def ChannelId.all : ChannelId := ⟨List.Vector.replicate channelIdSize 0⟩

/-- A transaction ID, in the byte order it has on the wire. -/
structure Txid where
  bytes : ByteArr txidSize
  deriving DecidableEq

/-- A variable-length unsigned integer, big-endian. -/
structure BigSize where
  value : UInt64
  deriving DecidableEq

/-- The encoded length of a `BigSize`. -/
def BigSize.len (n : BigSize) : Nat :=
  if n.value < 0xfd then 1
  else if n.value < 0x10000 then 3
  else if n.value < 0x100000000 then 5
  else 9

/-- What encoding and decoding can report. -/
inductive BoltError where
  | truncated (expected actual : Nat)
  | unknownEvenType (msgType : UInt16)
  | invalidPublicKey (bytes : ByteArr publicKeySize)
  | invalidSignature (bytes : ByteArr compactSignatureSize)
  | unknownEncoding (encodingType : UInt8)
  | bigSizeNotMinimal
  | bigSizeTruncated
  | tlvNotIncreasing (previous current : UInt64)
  | tlvLengthOverflow
  | tlvUnknownEvenType (tlvType : UInt64)
  deriving DecidableEq

/-- The text of an error. Bytes are printed in hex, by a library. -/
def BoltError.text (hexEncode : Bytes → String) : BoltError → String
  | .truncated expected actual => s!"TRUNCATED expected {expected} got {actual}"
  | .unknownEvenType msgType => s!"UNKNOWN_EVEN_TYPE {msgType}"
  | .invalidPublicKey bytes =>
    let hex := hexEncode bytes.toList
    s!"INVALID_PUBLIC_KEY {hex}"
  | .invalidSignature bytes =>
    let hex := hexEncode bytes.toList
    s!"INVALID_SIGNATURE {hex}"
  | .unknownEncoding encodingType => s!"UNKNOWN_ENCODING {encodingType}"
  | .bigSizeNotMinimal => "BIGSIZE_NOT_MINIMAL"
  | .bigSizeTruncated => "BIGSIZE_TRUNCATED"
  | .tlvNotIncreasing previous current =>
    s!"TLV_NOT_INCREASING previous {previous} current {current}"
  | .tlvLengthOverflow => "TLV_LENGTH_OVERFLOW"
  | .tlvUnknownEvenType tlvType => s!"TLV_UNKNOWN_EVEN_TYPE {tlvType}"

end Bolt

end LnGossipSim
