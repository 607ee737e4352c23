import Astronomer.Base.Binary64
import Astronomer.Tunnel.NsFilter

/-!
# What a filtered list keeps

`filterK8sListByNamespace` decodes the whole body into a `map[string]any` and encodes what it
keeps. On the way a number becomes a float64, and what is no character in a string U+FFFD.
-/

namespace Astronomer.Tunnel

open List Binary64

/-! ## The code -/

/-- What a string of the text is made of: characters, bytes outside UTF-8 and halves of
surrogate pairs. -/
inductive Rune where
  | char (c : Char)
  | broken (code : UInt16)
deriving DecidableEq

def Rune.isChar : Rune → Bool
  | .char _ => true
  | .broken _ => false

abbrev Literal := List Rune

/-- The body as it is in the text, with the exact value of each number. -/
abbrev Document := Json Rat Literal

def unquote (s : Literal) : String :=
  String.ofList (s.map fun
    | .char c => c
    | .broken _ => '\uFFFD')

def quote (s : String) : Literal := s.toList.map .char

mutual

/-- Of two fields with one key the map has the last. -/
def decode : Document → Value
  | .null => .null
  | .bool b => .bool b
  | .num q => .num (nearest q)
  | .str s => .str (unquote s)
  | .arr xs => .arr (decodeElements xs)
  | .obj fields => .obj (decodeFields [] fields)

def decodeElements : List Document → List Value
  | [] => []
  | x :: xs => decode x :: decodeElements xs

def decodeFields (m : List (String × Value)) : List (Literal × Document) → List (String × Value)
  | [] => m
  | (key, x) :: rest => decodeFields (setKey (unquote key) (decode x) m) rest

end

mutual

def encode : Value → Document
  | .null => .null
  | .bool b => .bool b
  | .num f => .num (shortest f)
  | .str s => .str (quote s)
  | .arr xs => .arr (encodeElements xs)
  | .obj fields => .obj (encodeFields fields)

def encodeElements : List Value → List Document
  | [] => []
  | x :: xs => encode x :: encodeElements xs

def encodeFields : List (String × Value) → List (Literal × Document)
  | [] => []
  | (key, x) :: rest => (quote key, encode x) :: encodeFields rest

end

def maxNestingDepth : Nat := 10000

def unmarshal (body : Document) : Option Value :=
  if body.depth ≤ maxNestingDepth ∧ body.numbers.all inRange then some (decode body) else none

def filterBody (body : Option Document) (allowed : List String) : Option Document :=
  (filterK8sListByNamespace (body.bind unmarshal) allowed).map encode

/-! ## Documents that come back -/

mutual

/-- Every string is one of characters, and no object has a key twice. -/
def Plain : Document → Prop
  | .str s => s.all Rune.isChar
  | .arr xs => PlainElements xs
  | .obj fields => (fields.map Prod.fst).Nodup ∧ PlainFields fields
  | .null | .bool _ | .num _ => True

def PlainElements : List Document → Prop
  | [] => True
  | x :: xs => Plain x ∧ PlainElements xs

def PlainFields : List (Literal × Document) → Prop
  | [] => True
  | (key, x) :: rest => key.all Rune.isChar ∧ Plain x ∧ PlainFields rest

end

variable {fields list : List (Literal × Document)} {m : List (String × Value)} {key : String}

theorem quote_unquote_iff {s : Literal} : quote (unquote s) = s ↔ s.all Rune.isChar := by
  rw [quote, unquote, String.toList_ofList, map_map]
  induction s with
  | nil => simp
  | cons u s ih => cases u <;> simp_all [Rune.isChar]

@[simp] theorem unquote_quote : unquote (quote key) = key := by
  simp [unquote, quote, Function.comp_def]

theorem encodeFields_eq : encodeFields m = m.map fun e => (quote e.1, encode e.2) := by
  induction m with
  | nil => rfl
  | cons e m ih => rw [encodeFields, ih, map_cons]

theorem nodup_setKey {x} (h : (m.map Prod.fst).Nodup) : ((setKey key x m).map Prod.fst).Nodup := by
  rw [setKey, map_append, nodup_append]
  refine ⟨(filter_sublist.map _).nodup h, nodup_singleton _, ?_⟩
  simp [eraseKey]

theorem nodup_decodeFields (h : (m.map Prod.fst).Nodup) :
    ((decodeFields m fields).map Prod.fst).Nodup := by
  induction fields generalizing m with
  | nil => exact h
  | cons e fields ih => exact ih (nodup_setKey h)

theorem decodeFields_eq (h : (m.map Prod.fst ++ fields.map fun e => unquote e.1).Nodup) :
    decodeFields m fields = m ++ fields.map fun e => (unquote e.1, decode e.2) := by
  induction fields generalizing m with
  | nil => simp [decodeFields]
  | cons e fields ih =>
    have hm : setKey (unquote e.1) (decode e.2) m = m ++ [(unquote e.1, decode e.2)] := by
      have hne : unquote e.1 ∉ m.map Prod.fst := fun hmem =>
        (nodup_append.mp h).2.2 _ hmem _ mem_cons_self rfl
      rw [setKey, eraseKey, filter_eq_self.mpr]
      exact fun e' he' => decide_eq_true fun heq => hne (heq ▸ mem_map_of_mem he')
    rw [decodeFields, hm, ih]
    · simp
    · simpa using h

theorem encodeFields_decode (h : (fields.map fun e => unquote e.1).Nodup) :
    encodeFields (decodeFields [] fields) =
      fields.map fun e => (quote (unquote e.1), encode (decode e.2)) := by
  have hm : decodeFields [] fields = [] ++ fields.map fun e => (unquote e.1, decode e.2) :=
    decodeFields_eq h
  rw [hm, nil_append, encodeFields_eq, map_map]
  rfl

/-- The keys that come back are those of a map. -/
theorem encodeFields_decode_iff : encodeFields (decodeFields [] fields) = fields ↔
    (fields.map Prod.fst).Nodup ∧
      (fields.map fun e => (quote (unquote e.1), encode (decode e.2))) = fields := by
  constructor
  · intro h
    have hnd : ((decodeFields [] fields).map Prod.fst).Nodup := nodup_decodeFields nodup_nil
    have hk : fields.map Prod.fst = ((decodeFields [] fields).map Prod.fst).map quote := by
      conv_lhs => rw [← h, encodeFields_eq, map_map]
      rw [map_map]
      rfl
    have hu : (fields.map fun e => unquote e.1) = (decodeFields [] fields).map Prod.fst := by
      simpa [Function.comp_def] using congrArg (map unquote) hk
    rw [← encodeFields_decode (hu ▸ hnd)]
    exact ⟨hk ▸ hnd.map (Function.LeftInverse.injective fun _ => unquote_quote), h⟩
  · rintro ⟨hnd, h⟩
    have hk : (fields.map fun e => unquote e.1).map quote = fields.map Prod.fst := by
      simpa [Function.comp_def] using congrArg (map Prod.fst) h
    rw [encodeFields_decode (.of_map quote (hk ▸ hnd))]
    exact h

mutual

theorem encode_decode_iff : ∀ d : Document, encode (decode d) = d ↔
    (∀ q ∈ d.numbers, shortest (nearest q) = q) ∧ Plain d
  | .null | .bool _ | .num q => by simp [decode, encode, Json.numbers, Plain]
  | .str s => by simp [decode, encode, Json.numbers, Plain, quote_unquote_iff]
  | .arr xs => by simpa [decode, encode, Json.numbers, Plain] using encodeElements_decode_iff xs
  | .obj fields => by
    simp only [decode, encode, Json.numbers, Plain, Json.obj.injEq, encodeFields_decode_iff,
      encodeFields_map_iff fields]
    exact and_left_comm

theorem encodeElements_decode_iff : ∀ xs : List Document, encodeElements (decodeElements xs) = xs ↔
    (∀ q ∈ Json.elementNumbers xs, shortest (nearest q) = q) ∧ PlainElements xs
  | [] => by simp [decodeElements, encodeElements, Json.elementNumbers, PlainElements]
  | x :: xs => by
    simp only [decodeElements, encodeElements, Json.elementNumbers, PlainElements, cons.injEq,
      encode_decode_iff x, encodeElements_decode_iff xs, forall_mem_append]
    exact and_and_and_comm

theorem encodeFields_map_iff : ∀ fields : List (Literal × Document),
    (fields.map fun e => (quote (unquote e.1), encode (decode e.2))) = fields ↔
      (∀ q ∈ Json.fieldNumbers fields, shortest (nearest q) = q) ∧ PlainFields fields
  | [] => by simp [Json.fieldNumbers, PlainFields]
  | (key, x) :: rest => by
    simp only [map_cons, Json.fieldNumbers, PlainFields, cons.injEq, Prod.mk.injEq,
      quote_unquote_iff, encode_decode_iff x, encodeFields_map_iff rest, forall_mem_append]
    tauto

end

/-! ## The filter on a decoded document -/

theorem eq_quote_of_unquote {s : Literal} (hk : '\uFFFD' ∉ key.toList) (h : unquote s = key) :
    s = quote key := by
  subst h
  refine (quote_unquote_iff.mpr (all_eq_true.mpr fun u hu => ?_)).symm
  cases u with
  | char c => rfl
  | broken code =>
    refine absurd ?_ hk
    rw [unquote, String.toList_ofList]
    exact mem_map.mpr ⟨_, hu, rfl⟩

theorem lookup_decodeFields (hk : '\uFFFD' ∉ key.toList) (hnd : (fields.map Prod.fst).Nodup) :
    (decodeFields m fields).lookup key =
      ((fields.lookup (quote key)).map decode).or (m.lookup key) := by
  induction fields generalizing m with
  | nil => rfl
  | cons e fields ih =>
    obtain ⟨s, x⟩ := e
    rw [map_cons, nodup_cons] at hnd
    rw [decodeFields, ih hnd.2]
    by_cases hs : s = quote key
    · subst hs
      have hn : fields.lookup (quote key) = none := by
        refine lookup_eq_none_iff.mpr fun e he => bne_iff_ne.mpr fun heq => hnd.1 ?_
        exact mem_map.mpr ⟨e, he, heq.symm⟩
      rw [hn, unquote_quote, lookup_setKey_self, lookup_cons_self]
      rfl
    · have hne : key ≠ unquote s := fun heq => hs (eq_quote_of_unquote hk heq.symm)
      rw [lookup_setKey_of_ne hne, lookup_cons, beq_false_of_ne (Ne.symm hs)]

theorem eraseKey_decodeFields (hk : '\uFFFD' ∉ key.toList) :
    eraseKey key (decodeFields m fields) =
      decodeFields (eraseKey key m) (eraseKey (quote key) fields) := by
  induction fields generalizing m with
  | nil => rfl
  | cons e fields ih =>
    obtain ⟨s, x⟩ := e
    rw [decodeFields, ih]
    by_cases hs : s = quote key
    · have he : eraseKey (quote key) ((s, x) :: fields) = eraseKey (quote key) fields := by
        simp [eraseKey, hs]
      rw [he, hs, unquote_quote, eraseKey_setKey]
    · have hne : unquote s ≠ key := fun heq => hs (eq_quote_of_unquote hk heq)
      have he : eraseKey (quote key) ((s, x) :: fields) =
          (s, x) :: eraseKey (quote key) fields := by simp [eraseKey, hs]
      rw [he, decodeFields, eraseKey_setKey_of_ne hne]

theorem decodeFields_append {rest} :
    decodeFields m (fields ++ rest) = decodeFields (decodeFields m fields) rest := by
  induction fields generalizing m with
  | nil => rfl
  | cons e fields ih => exact ih

theorem decodeFields_setKey {x} (hk : '\uFFFD' ∉ key.toList) :
    decodeFields m (setKey (quote key) x fields) =
      setKey key (decode x) (decodeFields m fields) := by
  have hidem : eraseKey (quote key) (eraseKey (quote key) fields) =
      eraseKey (quote key) fields := by simp [eraseKey]
  rw [setKey, decodeFields_append, decodeFields, decodeFields, unquote_quote, setKey, setKey,
    eraseKey_decodeFields hk, eraseKey_decodeFields hk, hidem]

theorem decodeElements_eq : ∀ xs, decodeElements xs = xs.map decode
  | [] => rfl
  | x :: xs => by rw [decodeElements, decodeElements_eq xs, map_cons]

/-- The list with the items the filter keeps. -/
def keptList (allowed : List String) (kind : String) (items : List Document)
    (list : List (Literal × Document)) : Document :=
  let kept := items.filter fun x => keepsItem allowed kind (decode x)
  .obj (setKey (quote "items") (.arr kept) list)

theorem filterK8sListByNamespace_decode {allowed : List String} {kind : Literal}
    {items : List Document} (hkeys : (list.map Prod.fst).Nodup)
    (hkind : list.lookup (quote "kind") = some (.str kind))
    (hlist : hasSuffix (unquote kind) "List")
    (hitems : list.lookup (quote "items") = some (.arr items)) :
    filterK8sListByNamespace (some (decode (.obj list))) allowed =
      some (decode (keptList allowed (unquote kind) items list)) := by
  have htext : textOf (decodeFields [] list) "kind" = unquote kind := by
    rw [textOf, lookup_decodeFields (by decide) hkeys, hkind]
    rfl
  have helems : ((decodeFields [] list).lookup "items").bind Json.elements? =
      some (decodeElements items) := by
    rw [lookup_decodeFields (by decide) hkeys, hitems]
    rfl
  have hne : unquote kind ≠ "" := fun h => absurd (h ▸ hlist) (by decide)
  have hfilter : (items.filter fun x => keepsItem allowed (unquote kind) (decode x)).map decode =
      (items.map decode).filter (keepsItem allowed (unquote kind)) := by
    rw [filter_map]
    rfl
  rw [keptList, decode, decode, decodeFields_setKey (by decide), decode, decodeElements_eq, hfilter]
  unfold filterK8sListByNamespace unmarshalMap
  simp only [htext, if_neg hne, helems, hlist, Bool.not_true, Bool.false_eq_true, if_false,
    decodeElements_eq]

/-- **What a filtered list keeps.** A list comes back with the kept items, every value of it
as it was, exactly when the body nests no deeper than the decoder goes, no number of it
overflows a float64, and in what is kept every number is the shortest decimal of its float64,
every string is one of characters and every key stands once. Integers below `2 ^ 53` are such
numbers. -/
theorem filterBody_exact_iff (allowed : List String) {kind : Literal} {items : List Document}
    (hkeys : (list.map Prod.fst).Nodup)
    (hkind : list.lookup (quote "kind") = some (.str kind))
    (hlist : hasSuffix (unquote kind) "List")
    (hitems : list.lookup (quote "items") = some (.arr items)) :
    (filterBody (some (.obj list)) allowed =
        some (keptList allowed (unquote kind) items list) ↔
      (Json.obj list).depth ≤ maxNestingDepth ∧
        (∀ q ∈ (Json.obj list).numbers, inRange q) ∧
        (∀ q ∈ (keptList allowed (unquote kind) items list).numbers, shortest (nearest q) = q) ∧
        Plain (keptList allowed (unquote kind) items list)) ∧
      ∀ n : ℤ, n.natAbs < 2 ^ 53 → inRange n ∧ shortest (nearest n) = n := by
  refine ⟨?_, fun n hn => ⟨inRange_intCast hn, shortest_nearest_intCast hn⟩⟩
  rw [← encode_decode_iff, ← all_eq_true, ← and_assoc, filterBody, Option.bind_some, unmarshal]
  split
  next h =>
    rw [filterK8sListByNamespace_decode hkeys hkind hlist hitems, Option.map_some,
      Option.some.injEq]
    exact (and_iff_right h).symm
  next h => exact iff_of_false nofun fun hkept => h hkept.1

namespace Counters

def counter (namespaceName : String) (count : Rat) : Document :=
  .obj [(quote "metadata", .obj [(quote "namespace", .str (quote namespaceName))]),
    (quote "count", .num count)]

def counterList (items : List Document) : List (Literal × Document) :=
  [(quote "kind", .str (quote "CounterList")), (quote "items", .arr items)]

def teams : List (Literal × Document) := counterList [counter "team-a" 41, counter "team-b" 7]

end Counters

open Counters

theorem small_count_kept : filterBody (some (.obj teams)) ["team-a"] =
    some (.obj (counterList [counter "team-a" 41])) := by
  have hkeys : (teams.map Prod.fst).Nodup := by decide
  obtain ⟨hexact, hsmall⟩ := filterBody_exact_iff ["team-a"] hkeys rfl (by decide) rfl
  refine hexact.mpr ⟨by decide, ?_, ?_, ?_⟩
  · exact forall_mem_cons.mpr ⟨(hsmall 41 (by decide)).1,
      forall_mem_singleton.mpr (hsmall 7 (by decide)).1⟩
  · exact forall_mem_singleton.mpr (hsmall 41 (by decide)).2
  · show Plain (.obj (counterList [counter "team-a" 41]))
    simp [counterList, counter, quote, Plain, PlainFields, PlainElements, Rune.isChar]

/-- A counter at `2 ^ 53 + 1` comes back as `2 ^ 53`. -/
theorem large_count_changed :
    filterBody (some (.obj (counterList [counter "team-a" 9007199254740993]))) ["team-a"] =
      some (.obj (counterList [counter "team-a" 9007199254740992])) := by
  have hr : inRange 9007199254740993 = true := by decide +kernel
  have hn : nearest 9007199254740993 = 9007199254740992 := by decide +kernel
  have hs : shortest 9007199254740992 = 9007199254740992 := by decide +kernel
  have hu : unmarshal (.obj (counterList [counter "team-a" 9007199254740993])) =
      some (decode (.obj (counterList [counter "team-a" 9007199254740993]))) :=
    if_pos ⟨by decide, all_eq_true.mpr (forall_mem_singleton.mpr hr)⟩
  have hb : encode (decode (.num 9007199254740993)) = .num 9007199254740992 := by
    rw [decode, encode, hn, hs]
  rw [filterBody, Option.bind_some, hu]
  show some (Json.obj [_, (_, .arr [.obj [_, (_, encode (decode (.num 9007199254740993)))]])]) = _
  rw [hb]
  rfl

end Astronomer.Tunnel
