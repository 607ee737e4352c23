import Mathlib.Data.List.Basic

/-!
# UUIDs

A UUID is kept as the text its `String` method prints, so that code that passes it
around as a string and code that compares the sixteen bytes see the same value.
What `Parse` makes of other spellings is left to the callers' parameters.
-/

namespace Astronomer

def canonicalUUID (s : String) : Bool :=
  let cs := s.toList
  cs.length == 36 && cs.zipIdx.all fun (c, i) =>
    if [8, 13, 18, 23].contains i then c == '-'
    else c.isDigit || ('a' ≤ c && c ≤ 'f')

structure UUID where
  text : String
  canonical : canonicalUUID text
deriving DecidableEq

namespace UUID

protected def nil : UUID := ⟨"00000000-0000-0000-0000-000000000000", by decide +kernel⟩

def ones : UUID := ⟨"11111111-1111-4111-8111-111111111111", by decide +kernel⟩

def twos : UUID := ⟨"22222222-2222-4222-8222-222222222222", by decide +kernel⟩

def threes : UUID := ⟨"33333333-3333-4333-8333-333333333333", by decide +kernel⟩

def fours : UUID := ⟨"44444444-4444-4444-8444-444444444444", by decide +kernel⟩

def fives : UUID := ⟨"55555555-5555-4555-8555-555555555555", by decide +kernel⟩

def sixes : UUID := ⟨"66666666-6666-4666-8666-666666666666", by decide +kernel⟩

variable {u w : UUID}

theorem eq_of_text (h : u.text = w.text) : u = w := by
  cases u
  cases w
  cases h
  rfl

theorem text_ne_empty : u.text ≠ "" := by
  intro h
  have hc := u.canonical
  rw [h] at hc
  revert hc
  decide

def ofText? (s : String) : Option UUID := if h : canonicalUUID s = true then some ⟨s, h⟩ else none

theorem ofText?_text (u : UUID) : ofText? u.text = some u := dif_pos u.canonical

end UUID

end Astronomer
