import Mathlib.Algebra.Order.Ring.Nat
import Astronomer.Base.Except

/-!
# Identities, times and errors of the delivery packages

A UUID is the 128-bit number it spells, whose order is that of the texts; `uuid.Nil` is zero.
A `time.Time` is the number of nanoseconds since Go's zero time.
-/

namespace Astronomer.Delivery

abbrev UUID := Nat

abbrev Time := Int

abbrev Duration := Int

structure Clock where
  (now dbNow : Time)

abbrev Digest := String

def goBytes (s : String) : List UInt8 := s.toUTF8.data.toList

def isLowerHex (b : UInt8) : Bool :=
  (decide (48 ≤ b) && decide (b ≤ 57)) || (decide (97 ≤ b) && decide (b ≤ 102))

def Digest.valid (d : Digest) : Bool :=
  (goBytes d).take 7 == goBytes "sha256:" && ((goBytes d).drop 7).length == 64 &&
    ((goBytes d).drop 7).all isLowerHex

/-- `\r`, `\n` and NUL, the bytes `strings.ContainsAny` refuses in owners, actors,
keys and reason codes. -/
def hasUnsafeByte (s : String) : Bool :=
  s.toList.any fun c => c == '\r' || c == '\n' || c == '\x00'

def isSpace (c : Char) : Bool :=
  [0x09, 0x0a, 0x0b, 0x0c, 0x0d, 0x20, 0x85, 0xa0, 0x1680, 0x2028, 0x2029, 0x202f, 0x205f,
    0x3000].contains c.toNat || (decide (0x2000 ≤ c.toNat) && decide (c.toNat ≤ 0x200a))

def trimSpace (s : String) : String :=
  String.ofList ((s.toList.dropWhile isSpace).reverse.dropWhile isSpace).reverse

inductive ErrorCode where
  | invalidInput | idempotencyConflict | leaseLost | staleFence | invariant
  | auditUnavailable | noRows | validation | noClusters | invalidCohorts
  | previewStale | targetChanged
  deriving DecidableEq

structure Error where
  code : ErrorCode
  (field message : String)
  deriving DecidableEq

def fail (code : ErrorCode) (field message : String) : Error := ⟨code, field, message⟩

end Astronomer.Delivery
