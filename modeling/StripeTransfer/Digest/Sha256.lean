/-
StripeTransfer/Digest/Sha256.lean

The SHA-256 digest and the keyed digest HMAC built from it.

A message is padded to whole blocks of 64 octets, with its length in bits at the
end.  Each block is expanded to 64 words, and 64 rounds mix them into a state of
eight words; the digest is the state after the last block.
-/
import StripeTransfer.Text.Numeral

namespace StripeTransfer.Sha256

/-! ### Words -/

/-- The first 32 bits of the fractional parts of the cube roots of the first 64 primes. -/
def roundConstants : Array UInt32 := #[
  0x428a2f98, 0x71374491, 0xb5c0fbcf, 0xe9b5dba5, 0x3956c25b, 0x59f111f1,
  0x923f82a4, 0xab1c5ed5, 0xd807aa98, 0x12835b01, 0x243185be, 0x550c7dc3,
  0x72be5d74, 0x80deb1fe, 0x9bdc06a7, 0xc19bf174, 0xe49b69c1, 0xefbe4786,
  0x0fc19dc6, 0x240ca1cc, 0x2de92c6f, 0x4a7484aa, 0x5cb0a9dc, 0x76f988da,
  0x983e5152, 0xa831c66d, 0xb00327c8, 0xbf597fc7, 0xc6e00bf3, 0xd5a79147,
  0x06ca6351, 0x14292967, 0x27b70a85, 0x2e1b2138, 0x4d2c6dfc, 0x53380d13,
  0x650a7354, 0x766a0abb, 0x81c2c92e, 0x92722c85, 0xa2bfe8a1, 0xa81a664b,
  0xc24b8b70, 0xc76c51a3, 0xd192e819, 0xd6990624, 0xf40e3585, 0x106aa070,
  0x19a4c116, 0x1e376c08, 0x2748774c, 0x34b0bcb5, 0x391c0cb3, 0x4ed8aa4a,
  0x5b9cca4f, 0x682e6ff3, 0x748f82ee, 0x78a5636f, 0x84c87814, 0x8cc70208,
  0x90befffa, 0xa4506ceb, 0xbef9a3f7, 0xc67178f2]

/-- Rotation to the right. -/
def rotate (x : UInt32) (n : UInt32) : UInt32 := (x >>> n) ||| (x <<< (32 - n))

/-- The word at a place of a block, the first octet highest. -/
def wordAt (message : ByteArray) (i : Nat) : UInt32 :=
  let octet (k : Nat) : UInt32 := ((message[i + k]?).getD 0).toUInt32
  (octet 0 <<< 24) ||| (octet 1 <<< 16) ||| (octet 2 <<< 8) ||| octet 3

/-- The octets of a word, the highest first. -/
def octetsOf (w : UInt32) : List UInt8 :=
  [(w >>> 24).toUInt8, (w >>> 16).toUInt8, (w >>> 8).toUInt8, w.toUInt8]

/-! ### Blocks -/

/-- The state between blocks. -/
structure State where
  a : UInt32
  b : UInt32
  c : UInt32
  d : UInt32
  e : UInt32
  f : UInt32
  g : UInt32
  h : UInt32

/-- The first 32 bits of the fractional parts of the square roots of the first eight primes. -/
def State.initial : State := ⟨
  0x6a09e667, 0xbb67ae85, 0x3c6ef372, 0xa54ff53a,
  0x510e527f, 0x9b05688c, 0x1f83d9ab, 0x5be0cd19⟩

/-- The 64 words of the block at an offset. -/
def schedule (message : ByteArray) (offset : Nat) : Array UInt32 :=
  let first := (List.range 16).foldl (fun ws i => ws.push (wordAt message (offset + 4 * i)))
    (Array.emptyWithCapacity 64)
  (List.range 48).foldl (fun ws i =>
    let w (k : Nat) : UInt32 := (ws[i + k]?).getD 0
    let s0 := rotate (w 1) 7 ^^^ rotate (w 1) 18 ^^^ (w 1 >>> 3)
    let s1 := rotate (w 14) 17 ^^^ rotate (w 14) 19 ^^^ (w 14 >>> 10)
    ws.push (w 0 + s0 + w 9 + s1)) first

/-- One round. -/
def State.round (s : State) (word constant : UInt32) : State :=
  let s1 := rotate s.e 6 ^^^ rotate s.e 11 ^^^ rotate s.e 25
  let choice := (s.e &&& s.f) ^^^ (~~~s.e &&& s.g)
  let t1 := s.h + s1 + choice + constant + word
  let s0 := rotate s.a 2 ^^^ rotate s.a 13 ^^^ rotate s.a 22
  let majority := (s.a &&& s.b) ^^^ (s.a &&& s.c) ^^^ (s.b &&& s.c)
  ⟨t1 + (s0 + majority), s.a, s.b, s.c, s.d + t1, s.e, s.f, s.g⟩

/-- The state after the block at an offset. -/
def State.absorb (s : State) (message : ByteArray) (offset : Nat) : State :=
  let words := schedule message offset
  let r := (List.range 64).foldl
    (fun r i => r.round ((words[i]?).getD 0) ((roundConstants[i]?).getD 0)) s
  ⟨s.a + r.a, s.b + r.b, s.c + r.c, s.d + r.d, s.e + r.e, s.f + r.f, s.g + r.g, s.h + r.h⟩

/-- The message with its padding. -/
def padded (message : ByteArray) : ByteArray :=
  let bits := 8 * message.size
  let zeros := (119 - message.size % 64) % 64
  let length := (List.range 8).map fun i => (bits / Nat.pow 256 (7 - i)).toUInt8
  message.push 0x80 ++ ⟨(List.replicate zeros 0 ++ length).toArray⟩

/-- The digest of a message: 32 octets. -/
def digest (message : ByteArray) : ByteArray :=
  let padded := padded message
  let s := (List.range (padded.size / 64)).foldl (fun s i => s.absorb padded (64 * i)) State.initial
  ⟨(octetsOf s.a ++ octetsOf s.b ++ octetsOf s.c ++ octetsOf s.d ++ octetsOf s.e ++ octetsOf s.f ++
    octetsOf s.g ++ octetsOf s.h).toArray⟩

/-- The digest as lower-case hexadecimal digits. -/
def hexDigest (message : ByteArray) : String := String.ofList (Text.hexOctets (digest message).toList)

/-! ### Keyed digests -/

/-- The key as exactly one block: digested if it is longer, zeros behind it if it is shorter. -/
def keyBlock (key : ByteArray) : ByteArray :=
  let key := if 64 < key.size then digest key else key
  key ++ ⟨Array.replicate (64 - key.size) 0⟩

/-- Every octet of a block combined with a constant. -/
def masked (block : ByteArray) (mask : UInt8) : ByteArray := ⟨block.data.map fun x => x ^^^ mask⟩

/-- The keyed digest of a message. -/
def hmac (key message : ByteArray) : ByteArray :=
  let block := keyBlock key
  digest (masked block 0x5C ++ digest (masked block 0x36 ++ message))

end StripeTransfer.Sha256
