import Mathlib.Data.List.Basic

/-!
# Base64 without padding

The URL-safe alphabet: three bytes are four characters, and a rest of one or two bytes is
two or three characters. The decoder skips line breaks and the unused low bits of the last
character, as Go's does.
-/

namespace Astronomer.Base64

open List

def alphabet : List Char :=
  "ABCDEFGHIJKLMNOPQRSTUVWXYZabcdefghijklmnopqrstuvwxyz0123456789-_".toList

def digit (n : Nat) : Char := alphabet.getD n 'A'

def value (c : Char) : Option Nat := alphabet.idxOf? c

def encode : List UInt8 → List Char
  | [] => []
  | [a] => [digit (a.toNat / 4), digit (a.toNat % 4 * 16)]
  | [a, b] =>
    [digit (a.toNat / 4), digit (a.toNat % 4 * 16 + b.toNat / 16), digit (b.toNat % 16 * 4)]
  | a :: b :: c :: rest =>
    digit (a.toNat / 4) :: digit (a.toNat % 4 * 16 + b.toNat / 16) ::
      digit (b.toNat % 16 * 4 + c.toNat / 64) :: digit (c.toNat % 64) :: encode rest

def decodeGroups : List Char → Option (List UInt8)
  | [] => some []
  | [_] => none
  | [p, q] => do
    let x ← value p
    let y ← value q
    return [.ofNat (x * 4 + y / 16)]
  | [p, q, r] => do
    let x ← value p
    let y ← value q
    let z ← value r
    return [.ofNat (x * 4 + y / 16), .ofNat (y % 16 * 16 + z / 4)]
  | p :: q :: r :: s :: rest => do
    let x ← value p
    let y ← value q
    let z ← value r
    let w ← value s
    let bytes ← decodeGroups rest
    return .ofNat (x * 4 + y / 16) :: .ofNat (y % 16 * 16 + z / 4) ::
      .ofNat (z % 4 * 64 + w) :: bytes

def decode (cs : List Char) : Option (List UInt8) :=
  decodeGroups (cs.filter fun c => c != '\r' && c != '\n')

theorem value_digit {n} (h : n < 64) : value (digit n) = some n := by
  have ha : ∀ n < 64, value (digit n) = some n := by decide +kernel
  exact ha n h

theorem digit_mem (n : Nat) : digit n ∈ alphabet := by
  unfold digit
  rw [getD_eq_getElem?_getD]
  cases h : alphabet[n]? with
  | none => decide +kernel
  | some c => exact mem_of_getElem? h

theorem mem_alphabet_of_mem_encode {bytes c} (h : c ∈ encode bytes) :
    c ∈ alphabet := by
  fun_induction encode bytes with
  | case1 => cases h
  | case2 a =>
    simp only [mem_cons, not_mem_nil, or_false] at h
    rcases h with rfl | rfl <;> exact digit_mem _
  | case3 a b =>
    simp only [mem_cons, not_mem_nil, or_false] at h
    rcases h with rfl | rfl | rfl <;> exact digit_mem _
  | case4 a b c' rest ih =>
    simp only [mem_cons] at h
    rcases h with rfl | rfl | rfl | rfl | h
    · exact digit_mem _
    · exact digit_mem _
    · exact digit_mem _
    · exact digit_mem _
    · exact ih h

theorem ofNat_eq {n} {a : UInt8} (h : n = a.toNat) : UInt8.ofNat n = a := by
  subst h
  exact UInt8.ofNat_toNat

theorem decodeGroups_encode (bytes : List UInt8) : decodeGroups (encode bytes) = some bytes := by
  fun_induction encode bytes with
  | case1 => rfl
  | case2 a =>
    have ha := a.toNat_lt
    simp only [decodeGroups, value_digit (show a.toNat / 4 < 64 by omega),
      value_digit (show a.toNat % 4 * 16 < 64 by omega), Option.bind_eq_bind, Option.bind_some,
      Option.pure_def]
    rw [ofNat_eq (a := a) (by omega)]
  | case3 a b =>
    have ha := a.toNat_lt
    have hb := b.toNat_lt
    simp only [decodeGroups, value_digit (show a.toNat / 4 < 64 by omega),
      value_digit (show a.toNat % 4 * 16 + b.toNat / 16 < 64 by omega),
      value_digit (show b.toNat % 16 * 4 < 64 by omega), Option.bind_eq_bind, Option.bind_some,
      Option.pure_def]
    rw [ofNat_eq (a := a) (by omega), ofNat_eq (a := b) (by omega)]
  | case4 a b c rest ih =>
    have ha := a.toNat_lt
    have hb := b.toNat_lt
    have hc := c.toNat_lt
    simp only [decodeGroups, value_digit (show a.toNat / 4 < 64 by omega),
      value_digit (show a.toNat % 4 * 16 + b.toNat / 16 < 64 by omega),
      value_digit (show b.toNat % 16 * 4 + c.toNat / 64 < 64 by omega),
      value_digit (show c.toNat % 64 < 64 by omega), ih, Option.bind_eq_bind, Option.bind_some,
      Option.pure_def]
    rw [ofNat_eq (a := a) (by omega), ofNat_eq (a := b) (by omega), ofNat_eq (a := c) (by omega)]

theorem decode_encode (bytes : List UInt8) : decode (encode bytes) = some bytes := by
  have hk : (encode bytes).filter (fun c => c != '\r' && c != '\n') = encode bytes := by
    refine filter_eq_self.mpr fun c hc => ?_
    have hne : alphabet.all (fun c => c != '\r' && c != '\n') = true := by decide +kernel
    exact all_eq_true.mp hne c (mem_alphabet_of_mem_encode hc)
  rw [decode, hk, decodeGroups_encode]

end Astronomer.Base64
