import RiverGang.Lib.Py

/-!
# SHA-256

`hashlib.sha256(b).hexdigest()` by the steps of FIPS 180-4: padding to blocks of 16 words, the message schedule, 64
rounds a block.
-/

namespace Py.Sha256

def K : List UInt32 := [
  0x428a2f98, 0x71374491, 0xb5c0fbcf, 0xe9b5dba5, 0x3956c25b, 0x59f111f1, 0x923f82a4, 0xab1c5ed5,
  0xd807aa98, 0x12835b01, 0x243185be, 0x550c7dc3, 0x72be5d74, 0x80deb1fe, 0x9bdc06a7, 0xc19bf174,
  0xe49b69c1, 0xefbe4786, 0x0fc19dc6, 0x240ca1cc, 0x2de92c6f, 0x4a7484aa, 0x5cb0a9dc, 0x76f988da,
  0x983e5152, 0xa831c66d, 0xb00327c8, 0xbf597fc7, 0xc6e00bf3, 0xd5a79147, 0x06ca6351, 0x14292967,
  0x27b70a85, 0x2e1b2138, 0x4d2c6dfc, 0x53380d13, 0x650a7354, 0x766a0abb, 0x81c2c92e, 0x92722c85,
  0xa2bfe8a1, 0xa81a664b, 0xc24b8b70, 0xc76c51a3, 0xd192e819, 0xd6990624, 0xf40e3585, 0x106aa070,
  0x19a4c116, 0x1e376c08, 0x2748774c, 0x34b0bcb5, 0x391c0cb3, 0x4ed8aa4a, 0x5b9cca4f, 0x682e6ff3,
  0x748f82ee, 0x78a5636f, 0x84c87814, 0x8cc70208, 0x90befffa, 0xa4506ceb, 0xbef9a3f7, 0xc67178f2]

/-- The eight working variables. -/
structure Hash where
  (a b c d e f g h : UInt32)

def Hash.initial : Hash :=
  ⟨0x6a09e667, 0xbb67ae85, 0x3c6ef372, 0xa54ff53a, 0x510e527f, 0x9b05688c, 0x1f83d9ab, 0x5be0cd19⟩

def Hash.words (s : Hash) : List UInt32 := [s.a, s.b, s.c, s.d, s.e, s.f, s.g, s.h]

def Hash.add (s t : Hash) : Hash :=
  ⟨s.a + t.a, s.b + t.b, s.c + t.c, s.d + t.d, s.e + t.e, s.f + t.f, s.g + t.g, s.h + t.h⟩

def rotr (x : UInt32) (n : UInt32) : UInt32 := (x >>> n) ||| (x <<< (32 - n))

def Hash.round (s : Hash) (k w : UInt32) : Hash :=
  let s1 := rotr s.e 6 ^^^ rotr s.e 11 ^^^ rotr s.e 25
  let ch := (s.e &&& s.f) ^^^ (~~~s.e &&& s.g)
  let t1 := s.h + s1 + ch + k + w
  let s0 := rotr s.a 2 ^^^ rotr s.a 13 ^^^ rotr s.a 22
  let maj := (s.a &&& s.b) ^^^ (s.a &&& s.c) ^^^ (s.b &&& s.c)
  ⟨t1 + (s0 + maj), s.a, s.b, s.c, s.d + t1, s.e, s.f, s.g⟩

/-- The next word of the schedule, from the last sixteen. -/
def scheduled (win : List UInt32) : UInt32 :=
  let σ0 (x : UInt32) := rotr x 7 ^^^ rotr x 18 ^^^ (x >>> 3)
  let σ1 (x : UInt32) := rotr x 17 ^^^ rotr x 19 ^^^ (x >>> 10)
  σ1 (win.getD 14 0) + win.getD 9 0 + σ0 (win.getD 1 0) + win.getD 0 0

/-- The rounds of one block: `win` holds the sixteen schedule words from the current one on. -/
def rounds : List UInt32 → List UInt32 → Hash → Hash
  | [], _, s => s
  | k :: ks, win, s => rounds ks (win.tail ++ [scheduled win]) (s.round k (win.headD 0))

/-- Big-endian words. -/
def toWords : List UInt8 → List UInt32
  | a :: b :: c :: d :: l =>
    ((a.toUInt32 <<< 24) ||| (b.toUInt32 <<< 16) ||| (c.toUInt32 <<< 8) ||| d.toUInt32) :: toWords l
  | _ => []

/-- The message, a one bit, zeros up to 56 bytes modulo 64, the length in bits. -/
def pad (m : List UInt8) : List UInt8 :=
  let bits := 8 * m.length
  m ++ [0x80] ++ List.replicate ((119 - m.length % 64) % 64) 0 ++
    (List.range 8).map fun i => UInt8.ofNat (bits / 256 ^ (7 - i))

def blocks : Nat → List UInt32 → Hash → Hash
  | 0, _, s => s
  | n + 1, ws, s => blocks n (ws.drop 16) ((rounds K (ws.take 16) s).add s)

def hexDigit (n : Nat) : CodePoint := Fin.ofNat 0x110000 (if n < 10 then 48 + n else 87 + n)

def hex (w : UInt32) : Str := (List.range 8).map fun i => hexDigit (w.toNat / 16 ^ (7 - i) % 16)

/-- `sha256(m).hexdigest()` -/
def hexdigest (m : List UInt8) : Str :=
  let ws := toWords (pad m)
  (blocks (ws.length / 16) ws Hash.initial).words.flatMap hex

example : hexdigest [0x61, 0x62, 0x63] = py "ba7816bf8f01cfea414140de5dae2223b00361a396177a9cb410ff61f20015ad" := by
  decide +kernel

end Py.Sha256
