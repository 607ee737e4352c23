import Mathlib.Algebra.Order.Ring.Nat

/-!
# SHA-256

The hash of FIPS 180-4 on byte lists, written so that it can be evaluated: `strict` hands an
evaluated number to its continuation, or the rounds would be unfolded before the first sum.
-/

namespace Astronomer

abbrev Bytes := List UInt8

namespace Sha256

def strict {α : Type} (n : Nat) (f : Nat → α) : α :=
  match n with
  | 0 => f 0
  | m + 1 => f (m + 1)

def add (x y : Nat) : Nat := (x + y) % 4294967296

def rotr (n x : Nat) : Nat := (x >>> n) ||| ((x <<< (32 - n)) % 4294967296)

def sigma0 (x : Nat) : Nat := rotr 7 x ^^^ rotr 18 x ^^^ (x >>> 3)

def sigma1 (x : Nat) : Nat := rotr 17 x ^^^ rotr 19 x ^^^ (x >>> 10)

def sum0 (x : Nat) : Nat := rotr 2 x ^^^ rotr 13 x ^^^ rotr 22 x

def sum1 (x : Nat) : Nat := rotr 6 x ^^^ rotr 11 x ^^^ rotr 25 x

def choose (x y z : Nat) : Nat := (x &&& y) ^^^ ((4294967295 - x) &&& z)

def majority (x y z : Nat) : Nat := (x &&& y) ^^^ (x &&& z) ^^^ (y &&& z)

structure State where
  (a b c d e f g h : Nat)

def initial : State :=
  ⟨0x6a09e667, 0xbb67ae85, 0x3c6ef372, 0xa54ff53a, 0x510e527f, 0x9b05688c, 0x1f83d9ab, 0x5be0cd19⟩

def constants : List Nat :=
  [0x428a2f98, 0x71374491, 0xb5c0fbcf, 0xe9b5dba5, 0x3956c25b, 0x59f111f1, 0x923f82a4, 0xab1c5ed5,
   0xd807aa98, 0x12835b01, 0x243185be, 0x550c7dc3, 0x72be5d74, 0x80deb1fe, 0x9bdc06a7, 0xc19bf174,
   0xe49b69c1, 0xefbe4786, 0x0fc19dc6, 0x240ca1cc, 0x2de92c6f, 0x4a7484aa, 0x5cb0a9dc, 0x76f988da,
   0x983e5152, 0xa831c66d, 0xb00327c8, 0xbf597fc7, 0xc6e00bf3, 0xd5a79147, 0x06ca6351, 0x14292967,
   0x27b70a85, 0x2e1b2138, 0x4d2c6dfc, 0x53380d13, 0x650a7354, 0x766a0abb, 0x81c2c92e, 0x92722c85,
   0xa2bfe8a1, 0xa81a664b, 0xc24b8b70, 0xc76c51a3, 0xd192e819, 0xd6990624, 0xf40e3585, 0x106aa070,
   0x19a4c116, 0x1e376c08, 0x2748774c, 0x34b0bcb5, 0x391c0cb3, 0x4ed8aa4a, 0x5b9cca4f, 0x682e6ff3,
   0x748f82ee, 0x78a5636f, 0x84c87814, 0x8cc70208, 0x90befffa, 0xa4506ceb, 0xbef9a3f7, 0xc67178f2]

def nextWord (w : List Nat) : Nat :=
  add (add (sigma1 (w.getD 14 0)) (w.getD 9 0)) (add (sigma0 (w.getD 1 0)) (w.getD 0 0))

def rounds : List Nat → List Nat → State → State
  | [], _, s => s
  | k :: ks, w, s =>
    strict (add (add s.h (sum1 s.e)) (add (add (choose s.e s.f s.g) k) (w.getD 0 0))) fun t1 =>
    strict (add t1 (add (sum0 s.a) (majority s.a s.b s.c))) fun a =>
    strict (add s.d t1) fun e =>
    strict (nextWord w) fun x =>
      rounds ks (w.tail ++ [x]) ⟨a, s.a, s.b, s.c, e, s.e, s.f, s.g⟩

def compress (s : State) (block : List Nat) : State :=
  let r := rounds constants block s
  strict (add s.a r.a) fun a => strict (add s.b r.b) fun b =>
  strict (add s.c r.c) fun c => strict (add s.d r.d) fun d =>
  strict (add s.e r.e) fun e => strict (add s.f r.f) fun f =>
  strict (add s.g r.g) fun g => strict (add s.h r.h) fun h => ⟨a, b, c, d, e, f, g, h⟩

def compressBlocks : Nat → List Nat → State → State
  | 0, _, s => s
  | n + 1, ws, s => compressBlocks n (ws.drop 16) (compress s (ws.take 16))

def toWords : List Nat → List Nat
  | a :: b :: c :: d :: rest =>
    strict (a * 16777216 + b * 65536 + c * 256 + d) fun w => w :: toWords rest
  | _ => []

def bigEndian : Nat → Nat → List Nat
  | 0, _ => []
  | n + 1, x => x / 256 ^ n % 256 :: bigEndian n x

def pad (message : Bytes) : List Nat :=
  message.map UInt8.toNat ++ 128 :: List.replicate ((119 - message.length % 64) % 64) 0 ++
    bigEndian 8 (message.length * 8)

def State.words (s : State) : List Nat := [s.a, s.b, s.c, s.d, s.e, s.f, s.g, s.h]

end Sha256

def sha256 (message : Bytes) : List Nat :=
  let ws := Sha256.toWords (Sha256.pad message)
  (Sha256.compressBlocks (ws.length / 16) ws Sha256.initial).words

def hexDigit (n : Nat) : Char := if n < 10 then Char.ofNat (48 + n) else Char.ofNat (87 + n)

def hexDigest (digest : List Nat) : String :=
  String.ofList (digest.flatMap fun w => (List.range 8).map fun i =>
    hexDigit (w / 16 ^ (7 - i) % 16))

example : sha256 [] = [0xe3b0c442, 0x98fc1c14, 0x9afbf4c8, 0x996fb924, 0x27ae41e4, 0x649b934c,
    0xa495991b, 0x7852b855] := by decide +kernel

example : hexDigest (sha256 "abc".toByteArray.data.toList) =
    "ba7816bf8f01cfea414140de5dae2223b00361a396177a9cb410ff61f20015ad" := by decide +kernel

end Astronomer
