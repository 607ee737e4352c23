import Mathlib.Data.String.Basic
import Astronomer.Base.Sha256
import Astronomer.Tunnel.NamespaceCollection

/-!
# Paging over selected namespaces

A client sends the same request again and again with the cursor it was last given (`follow`).
The iteration has two levels: `follow_pages` goes through one namespace, by induction on its
pages, and `follow_names` through the names.
-/

namespace Astronomer.Tunnel

open List

/-! ## Names -/

theorem mem_compact {x xs} : x ∈ compact xs ↔ x ∈ xs := by
  fun_induction compact xs with
  | case1 | case2 a => rfl
  | case3 b rest ih =>
    rw [ih]
    simp
  | case4 a b rest hab ih => rw [mem_cons, ih, mem_cons (b := a)]

theorem pairwise_compact {xs : List String} (h : xs.Pairwise (· ≤ ·)) :
    (compact xs).Pairwise (· < ·) := by
  fun_induction compact xs with
  | case1 => exact .nil
  | case2 a => exact pairwise_singleton _ a
  | case3 b rest ih => exact ih (pairwise_cons.mp h).2
  | case4 a b rest hab ih =>
    obtain ⟨ha, hrest⟩ := pairwise_cons.mp h
    refine pairwise_cons.mpr ⟨fun x hx => ?_, ih hrest⟩
    -- `a` differs from the next name, and every later one is at or after that
    have hlt : a < b := lt_of_le_of_ne (ha b mem_cons_self) hab
    rcases mem_cons.mp (mem_compact.mp hx) with rfl | hx
    · exact hlt
    · exact lt_of_lt_of_le hlt ((pairwise_cons.mp hrest).1 x hx)

theorem compact_insertionSort_eq {values names : List String} (hs : names.Pairwise (· < ·))
    (hmem : ∀ name, name ∈ names ↔ name ∈ values) :
    compact (values.insertionSort (· ≤ ·)) = names := by
  refine (pairwise_compact (pairwise_insertionSort (· ≤ ·) values)).eq_of_mem_iff hs ?_
  intro name
  rw [mem_compact, mem_insertionSort, hmem]

/-! ## Cursors -/

variable {lib : Library} {cursor : NamespaceCursor}

theorem encodeNamespaceCursor_ne_empty : encodeNamespaceCursor lib cursor ≠ "" := by
  intro h
  have := congrArg String.toList h
  simp [encodeNamespaceCursor] at this

theorem decode_encodeNamespaceCursor
    (hs : (encodeNamespaceCursor lib cursor).utf8ByteSize ≤ 32768) :
    decodeNamespaceCursor lib (encodeNamespaceCursor lib cursor) = some cursor := by
  have hd : '.' ∉ Base64.alphabet := by decide +kernel
  have hsp : (encodeNamespaceCursor lib cursor).toList.splitOn '.' =
      [Base64.encode (lib.marshalCursor cursor),
        Base64.encode (lib.mac (lib.marshalCursor cursor))] := by
    have hpa : ∀ part ∈ [Base64.encode (lib.marshalCursor cursor),
        Base64.encode (lib.mac (lib.marshalCursor cursor))], '.' ∉ part := by
      intro part hp
      simp only [mem_cons, not_mem_nil, or_false] at hp
      rcases hp with rfl | rfl <;> exact fun hc => hd (Base64.mem_alphabet_of_mem_encode hc)
    simpa [encodeNamespaceCursor, List.intercalate] using splitOn_intercalate '.' hpa (by simp)
  rw [decodeNamespaceCursor, if_neg (Nat.not_lt.mpr hs), hsp]
  simp [Base64.decode_encode, lib.unmarshal_marshal]

/-! ## The client and the upstream -/

abbrev Upstream := String → Values → Response

def Request.withContinue (r : Request) (token : String) : Request :=
  if token = "" then r else { r with query := setKey "continue" [token] r.query }

def clientPage (resp : Response) : Option (List Value × String) := do
  let body ← resp.body
  let items ← (body.field "items").bind Json.elements?
  let next ← (body.field "metadata").bind (Json.textField "continue")
  return (items, next)

def fetch (lib : Library) (upstream : Upstream) (r : Request) (now : Int) (token : String) :
    Option (List Value × String) :=
  match prepareNamespaceCollection lib now (r.withContinue token) with
  | .ok (some (request, page)) =>
    match finishNamespaceCollection lib
        (upstream (request.canonical.getD "") request.query) page with
    | .ok resp => clientPage resp
    | .error _ => none
  | _ => none

/-- The client follows the cursors until there is none; `times` says when it sends each
request, and `fuel` bounds their number. -/
def follow (lib : Library) (upstream : Upstream) (r : Request) (times : Nat → Int) :
    (fuel sent : Nat) → (token : String) → Option (List (List Value))
  | 0, _, _ => none
  | fuel + 1, sent, token =>
    match fetch lib upstream r (times sent) token with
    | none => none
    | some (items, next) =>
      if next = "" then some [items]
      else (follow lib upstream r times fuel (sent + 1) next).map (items :: ·)

/-- A response is a page of the namespace `name`: a success, at most `limit` items, all of
the namespace, and the token `next`. -/
structure IsPage (lib : Library) (limit : Nat) (name : String) (resp : Response)
    (items : List Value) (next : String) : Prop where
  success : resp.success
  body : ∃ list metadata, resp.body = some (.obj list) ∧
    list.lookup "items" = some (.arr items) ∧ listMetadata list = .ok (metadata, next)
  limit : items.length ≤ limit
  within : ∀ item ∈ items, lib.itemNamespace item = some name

inductive Pages (lib : Library) (limit : Nat) (name : String) (short : String → Prop)
    (respond : String → Response) : String → List (List Value) → Prop
  | last {token : String} {items : List Value}
      (hpage : IsPage lib limit name (respond token) items "") :
      Pages lib limit name short respond token [items]
  | more {token next : String} {items : List Value} {rest : List (List Value)}
      (hpage : IsPage lib limit name (respond token) items next) (hnext : next ≠ "")
      (hshort : short next) (hrest : Pages lib limit name short respond next rest) :
      Pages lib limit name short respond token (items :: rest)

/-! ## One request -/

section

variable {upstream : Upstream} {r : Request} {names : List String} {limit index : Nat}
  {name token next raw : String} {items : List Value} {expires now : Int}

theorem withContinue_eq (r : Request) (raw : String) :
    ∃ q, r.withContinue raw = { r with query := q } := by
  unfold Request.withContinue
  split
  · exact ⟨r.query, rfl⟩
  · exact ⟨_, rfl⟩

theorem withContinue_lookup {key} (h : key ≠ "continue") :
    (r.withContinue raw).query.lookup key = r.query.lookup key := by
  unfold Request.withContinue
  split
  · rfl
  · exact lookup_setKey_of_ne h

theorem withContinue_get {key} (h : key ≠ "continue") :
    (r.withContinue raw).query.get key = r.query.get key := by
  rw [Values.get, Values.get, withContinue_lookup h]

theorem withContinue_boundQuery :
    boundQuery (r.withContinue raw).query names limit = boundQuery r.query names limit := by
  unfold Request.withContinue
  split
  · rfl
  · simp [boundQuery]

theorem withContinue_path : canonicalK8sProxyPath lib.unescape (r.withContinue raw) =
      canonicalK8sProxyPath lib.unescape r := by
  obtain ⟨q, hq⟩ := withContinue_eq r raw
  rw [hq]
  rfl

theorem withContinue_selected :
    selectedCollectionNamespaces lib (r.withContinue raw) = selectedCollectionNamespaces lib r := by
  obtain ⟨q, hq⟩ := withContinue_eq r raw
  have hwt : isWatchRequest (r.withContinue raw) = isWatchRequest r := by
    rw [isWatchRequest, isWatchRequest, withContinue_get (by decide), hq]
  have hm : (r.withContinue raw).method = r.method := by rw [hq]
  rw [selectedCollectionNamespaces, selectedCollectionNamespaces,
    withContinue_lookup (by decide), withContinue_path, hwt, hm]

def requestPath (lib : Library) (r : Request) : String :=
  (canonicalK8sProxyPath lib.unescape r).getD ""

def cursorAt (lib : Library) (r : Request) (names : List String) (limit : Nat) (expires : Int)
    (index : Nat) (token : String) : NamespaceCursor where
  binding :=
    lib.bindingDigest r.clusterID (requestPath lib r) r.user (boundQuery r.query names limit)
  index := index
  continueToken := token
  expires := expires

def respond (lib : Library) (upstream : Upstream) (r : Request) (names : List String) (limit : Nat)
    (name token : String) : Response :=
  upstream (collectionPath (requestPath lib r) name) (pageQuery r.query names limit token)

structure Opens (lib : Library) (r : Request) (names : List String) (limit : Nat) : Prop where
  selected : selectedCollectionNamespaces lib r = some (.ok names)
  limit : requestLimit r.query = .ok limit
  allowed : ∀ allowed, r.allowed = some allowed → ∀ name ∈ names, name ∈ allowed
  first : r.query.lookup "continue" = none

/-- The text a client holds for a place: nothing at the very start, and a cursor that is
not too long from then on. -/
def Holds (lib : Library) (r : Request) (names : List String) (limit : Nat) (expires now : Int)
    (index : Nat) (token raw : String) : Prop :=
  (raw = "" ∧ index = 0 ∧ token = "" ∧ expires = now + 15 * 60) ∨
    (raw = encodeNamespaceCursor lib (cursorAt lib r names limit expires index token) ∧
      raw.utf8ByteSize ≤ 32768 ∧ now ≤ expires)

theorem requestCursor_of_holds (ho : Opens lib r names limit) (hidx : index < names.length)
    (hh : Holds lib r names limit expires now index token raw) :
    requestCursor lib now names (cursorAt lib r names limit (now + 15 * 60) 0 "")
        ((r.withContinue raw).query.get "continue") =
      .ok (cursorAt lib r names limit expires index token) := by
  rcases hh with ⟨rfl, rfl, rfl, rfl⟩ | ⟨hr, hs, hn⟩
  · have hg : (r.withContinue "").query.get "continue" = "" := by
      simp [Request.withContinue, Values.get, ho.first]
    rw [hg]
    rfl
  · have hne : raw ≠ "" := hr ▸ encodeNamespaceCursor_ne_empty
    have hg : (r.withContinue raw).query.get "continue" = raw := by
      simp [Request.withContinue, Values.get, hne]
    rw [hg, requestCursor, if_neg hne]
    rw [hr] at hs ⊢
    rw [decode_encodeNamespaceCursor hs]
    dsimp only
    refine if_neg ?_
    rintro (hb | hng | hl | he)
    · exact hb rfl
    · exact absurd hng (by simp [cursorAt])
    · exact absurd hl (by simp [cursorAt, hidx])
    · exact absurd he (by simpa [cursorAt] using hn)

def pageRequest (lib : Library) (r : Request) (names : List String) (limit : Nat)
    (name token : String) : Request :=
  { r with
    query := pageQuery r.query names limit token
    canonical := some (collectionPath (requestPath lib r) name)
    accept := "application/json" }

theorem prepare_of_holds (ho : Opens lib r names limit) (hnm : names[index]? = some name)
    (hh : Holds lib r names limit expires now index token raw) :
    prepareNamespaceCollection lib now (r.withContinue raw) =
      .ok (some (pageRequest lib r names limit name token,
        ⟨names, cursorAt lib r names limit expires index token, limit⟩)) := by
  have hidx : index < names.length := (List.getElem?_eq_some_iff.mp hnm).1
  have hcu := requestCursor_of_holds ho hidx hh
  have hlm : requestLimit (r.withContinue raw).query = .ok limit := by
    rw [requestLimit, withContinue_get (by decide)]
    exact ho.limit
  obtain ⟨q, hq⟩ := withContinue_eq r raw
  have ha : (names.all fun name => (r.withContinue raw).allowed.all fun allowed =>
      allowed.contains name) := by
    rw [hq]
    dsimp only
    cases hr : r.allowed with
    | none => simp
    | some allowed => simpa using ho.allowed allowed hr
  rw [prepareNamespaceCollection, withContinue_selected, ho.selected]
  simp only [bind_eq_ok, mapError_eq_ok, require_eq_ok, pure_eq_ok]
  refine ⟨names, rfl, limit, hlm, (), ha, cursorAt lib r names limit expires index token, ?_, ?_⟩
  · rw [withContinue_path, withContinue_boundQuery]
    rw [hq] at hcu ⊢
    exact hcu
  · rw [withContinue_path, pageQuery, withContinue_boundQuery, pageRequest, hq]
    simp only [cursorAt, Int.toNat_natCast, getD_eq_getElem?_getD, hnm]
    rfl

theorem finish_of_isPage {resp} (page : NamespaceCollectionPage)
    (hnm : page.names.getD page.cursor.index.toNat "" = name)
    (hp : IsPage lib page.limit name resp items next) :
    ∃ resp', finishNamespaceCollection lib resp page = .ok resp' ∧
      clientPage resp' = some (items, nextToken lib page next) := by
  obtain ⟨list, metadata, hb, hit, hm⟩ := hp.body
  have hw : (items.all fun item =>
      lib.itemNamespace item == some (page.names.getD page.cursor.index.toNat "")) := by
    refine all_eq_true.mpr fun item hi => ?_
    rw [hp.within item hi, hnm, beq_self_eq_true]
  rw [finishNamespaceCollection, hp.success]
  simp only [Bool.not_true, Bool.false_eq_true, if_false, bind_eq_ok, orError_eq_ok, require_eq_ok,
    pure_eq_ok, decide_eq_true_eq]
  refine ⟨_, ⟨_, hb, list, rfl, items, by rw [hit]; rfl, (), hp.limit, (), hw, _,
    hm, rfl⟩, ?_⟩
  have hc : ∀ (m : List (String × Value)) t,
      (eraseKey "selfLink" (eraseKey "resourceVersion" (eraseKey "remainingItemCount"
        (setKey "continue" (.str t) m)))).lookup "continue" = some (.str t) := by
    intro m t
    simp [lookup_eraseKey]
  simp [clientPage, Json.field, Json.textField, Json.fields?, Json.elements?, Json.text?,
    lookup_setKey, hit, hc]

theorem fetch_of_holds (ho : Opens lib r names limit) (hnm : names[index]? = some name)
    (hh : Holds lib r names limit expires now index token raw)
    (hp : IsPage lib limit name (respond lib upstream r names limit name token) items next) :
    fetch lib upstream r now raw = some (items, nextToken lib
      ⟨names, cursorAt lib r names limit expires index token, limit⟩ next) := by
  have hg : names.getD (cursorAt lib r names limit expires index token).index.toNat "" = name := by
    simp [cursorAt, getD_eq_getElem?_getD, hnm]
  obtain ⟨resp, hr, hc⟩ :=
    finish_of_isPage ⟨names, cursorAt lib r names limit expires index token, limit⟩ hg hp
  rw [fetch, prepare_of_holds ho hnm hh]
  show (match finishNamespaceCollection lib (respond lib upstream r names limit name token) _ with
    | .ok resp => clientPage resp
    | .error _ => none) = _
  rw [hr]
  exact hc

/-! ## One namespace, and all of them -/

theorem nextToken_more (hidx : index < names.length) (hn : next ≠ "") :
    nextToken lib ⟨names, cursorAt lib r names limit expires index token, limit⟩ next =
      encodeNamespaceCursor lib (cursorAt lib r names limit expires index next) := by
  simp [nextToken, NamespaceCursor.after, hn, cursorAt, hidx]

theorem nextToken_last :
    nextToken lib ⟨names, cursorAt lib r names limit expires index token, limit⟩ "" =
      if index + 1 < names.length then
        encodeNamespaceCursor lib (cursorAt lib r names limit expires (index + 1) "")
      else "" := by
  have hc : ((index : Int) + 1 < names.length) ↔ index + 1 < names.length := by omega
  simp [nextToken, NamespaceCursor.after, cursorAt, hc]

def Short (lib : Library) (r : Request) (names : List String) (limit : Nat) (expires : Int)
    (token : String) : Prop :=
  ∀ index < names.length,
    (encodeNamespaceCursor lib (cursorAt lib r names limit expires index token)).utf8ByteSize ≤
      32768

variable {times : Nat → Int} {sent : Nat} {ps : List (List Value)}

theorem follow_pages (ho : Opens lib r names limit) (ht : ∀ i, times i ≤ expires)
    (hnm : names[index]? = some name)
    (hpg : Pages lib limit name (Short lib r names limit expires)
      (respond lib upstream r names limit name) token ps)
    (hh : Holds lib r names limit expires (times sent) index token raw) (fuel : Nat) :
    follow lib upstream r times (ps.length + fuel) sent raw = if index + 1 < names.length then
        (follow lib upstream r times fuel (sent + ps.length)
          (encodeNamespaceCursor lib (cursorAt lib r names limit expires (index + 1) ""))).map
            (ps ++ ·)
      else some ps := by
  have hidx : index < names.length := (List.getElem?_eq_some_iff.mp hnm).1
  induction hpg generalizing sent raw with
  | last hp =>
    rw [length_singleton, Nat.add_comm, follow, fetch_of_holds ho hnm hh hp]
    simp only [nextToken_last]
    split
    · rw [if_neg encodeNamespaceCursor_ne_empty]
      rfl
    · rfl
  | @more token next items rest hp hn hs hrest ih =>
    have hnx : Holds lib r names limit expires (times (sent + 1)) index next
        (encodeNamespaceCursor lib (cursorAt lib r names limit expires index next)) :=
      .inr ⟨rfl, hs index hidx, ht _⟩
    rw [length_cons, Nat.add_right_comm, follow, fetch_of_holds ho hnm hh hp]
    simp only [nextToken_more hidx hn, if_neg encodeNamespaceCursor_ne_empty]
    rw [ih hnx, Nat.add_assoc, Nat.add_comm 1]
    split
    · rw [Option.map_map]
      rfl
    · rfl

theorem follow_names {pages rest} (hop : Opens lib r names limit)
    (ht : ∀ i, times i ≤ expires) (hs : Short lib r names limit expires "")
    (hp : ∀ name ∈ names, Pages lib limit name (Short lib r names limit expires)
      (respond lib upstream r names limit name) "" (pages name))
    (hrest : names.drop index = name :: rest)
    (hh : Holds lib r names limit expires (times sent) index "" raw) :
    follow lib upstream r times ((name :: rest).flatMap pages).length sent raw =
      some ((name :: rest).flatMap pages) := by
  induction rest generalizing index name sent raw with
  | nil =>
    have hnm : names[index]? = some name := by
      rw [← head?_drop, hrest]
      rfl
    have hl : ¬index + 1 < names.length := by
      have := congrArg List.length hrest
      simp only [length_drop, length_singleton] at this
      omega
    have ho := follow_pages hop ht hnm (hp name (mem_of_getElem? hnm)) hh 0
    rw [if_neg hl] at ho
    simpa using ho
  | cons name' rest ih =>
    have hnm : names[index]? = some name := by
      rw [← head?_drop, hrest]
      rfl
    have hd : names.drop (index + 1) = name' :: rest := by
      rw [← tail_drop, hrest]
      rfl
    have hn : index + 1 < names.length := by grind
    have hnx : Holds lib r names limit expires (times (sent + (pages name).length))
        (index + 1) ""
          (encodeNamespaceCursor lib (cursorAt lib r names limit expires (index + 1) "")) :=
      .inr ⟨rfl, hs _ hn, ht _⟩
    rw [flatMap_cons, length_append,
      follow_pages hop ht hnm (hp name (mem_of_getElem? hnm)) hh,
      if_pos hn, ih hd hnx]
    rfl

def Request.OrdinaryCollection (lib : Library) (r : Request) : Prop :=
  r.method = .get ∧ isWatchRequest r = false ∧ ∃ group version resource, resource ≠ "namespaces" ∧
    (canonicalK8sProxyPath lib.unescape r).map segments = some ["apis", group, version, resource]

theorem selected_of_ordinary {values : List String} (hr : r.OrdinaryCollection lib)
    (hvl : r.query.lookup namespaceCollectionQuery = some values) (hp : 1 ≤ values.length)
    (hc : values.length ≤ 100) (hv : ∀ value ∈ values, lib.isDNS1123Label value) :
    selectedCollectionNamespaces lib r =
      some (.ok (compact (values.insertionSort (· ≤ ·)))) := by
  obtain ⟨hm, hwt, group, version, resource, hrs, hpt⟩ := hr
  have ha : values.all lib.isDNS1123Label := all_eq_true.mpr hv
  have hp : 0 < values.length := hp
  have hpl : (some resource != some "namespaces") := by simpa using hrs
  rw [selectedCollectionNamespaces, hvl, hpt]
  simp [hm, hwt, hpl, hp, hc, ha, bind, Except.bind, pure, Except.pure]

/-- **Paging is exact.** Let a request name 1 to 100 namespaces, `names` be the distinct ones
in order, and each of them have finitely many pages upstream. A client that follows the
cursors before they expire gets exactly these pages, one namespace after the other, and
after the last one no cursor. -/
theorem paging_exact (lib : Library) (upstream : Upstream) (r : Request) (times : Nat → Int)
    (values names : List String) (limit : Nat) (pages : String → List (List Value))
    (hr : r.OrdinaryCollection lib)
    (hvalues : r.query.lookup namespaceCollectionQuery = some values)
    (hpos : 1 ≤ values.length) (hcount : values.length ≤ 100)
    (hvalid : ∀ value ∈ values, lib.isDNS1123Label value)
    (hsorted : names.Pairwise (· < ·)) (hnames : ∀ name, name ∈ names ↔ name ∈ values)
    (hlimit : requestLimit r.query = .ok limit)
    (hallowed : ∀ allowed, r.allowed = some allowed → ∀ name ∈ names, name ∈ allowed)
    (hfirst : r.query.lookup "continue" = none)
    (htimes : ∀ i, times i ≤ times 0 + 15 * 60)
    (hshort : Short lib r names limit (times 0 + 15 * 60) "")
    (hpages : ∀ name ∈ names, Pages lib limit name (Short lib r names limit (times 0 + 15 * 60))
      (respond lib upstream r names limit name) "" (pages name)) :
    follow lib upstream r times (names.flatMap pages).length 0 "" =
      some (names.flatMap pages) := by
  have hs := selected_of_ordinary hr hvalues hpos hcount hvalid
  rw [compact_insertionSort_eq hsorted hnames] at hs
  have ho : Opens lib r names limit := ⟨hs, hlimit, hallowed, hfirst⟩
  cases names with
  | nil =>
    obtain ⟨value, hvl⟩ := exists_mem_of_length_pos hpos
    exact nomatch (hnames value).mpr hvl
  | cons name rest =>
    have hd : (name :: rest).drop 0 = name :: rest := rfl
    exact follow_names ho htimes hshort hpages hd (.inl ⟨rfl, rfl, rfl, rfl⟩)

end

/-! ## Two namespaces of widgets -/

namespace Widgets

def isDNS1123Label (s : String) : Bool :=
  let alphanumeric (c : Char) : Bool := ('a' ≤ c && c ≤ 'z') || ('0' ≤ c && c ≤ '9')
  decide (s.toList.length ≤ 63) && s.toList.head?.any alphanumeric &&
    s.toList.getLast?.any alphanumeric && s.toList.all fun c => alphanumeric c || c == '-'

def escape (c : Char) : List Char :=
  if c = '"' ∨ c = '\\' then ['\\', c] else if c = '&' then "\\u0026".toList else [c]

def quoted (s : String) (rest : List Char) : List Char :=
  '"' :: (s.toList.flatMap escape ++ '"' :: rest)

def number (n : Int) (stop : Char) (rest : List Char) : List Char :=
  (if n < 0 then ['-'] else []) ++ (Nat.toDigits 10 n.natAbs ++ stop :: rest)

def cursorText (c : NamespaceCursor) : List Char :=
  let expires := "\"e\":".toList ++ number c.expires '\x7d' []
  let token := if c.continueToken = "" then expires
    else "\"c\":".toList ++ quoted c.continueToken (',' :: expires)
  "\x7b\"b\":".toList ++ quoted c.binding (",\"i\":".toList ++ number c.index ',' token)

def utf8 (text : List Char) : Bytes := (String.ofList text).toByteArray.data.toList

theorem quote_ne_escape {c : Char} {r r' : List Char} : '"' :: r ≠ escape c ++ r' := by
  unfold escape
  split
  · simp
  · split <;> simp_all [eq_comm]

theorem escape_inj {c c' : Char} {r r' : List Char} (h : escape c ++ r = escape c' ++ r') :
    c = c' ∧ r = r' := by
  have hcode : "\\u0026".toList = ['\\', 'u', '0', '0', '2', '6'] := rfl
  unfold escape at h
  split_ifs at h <;> simp_all [eq_comm]

theorem escapes_inj {rest rest' : List Char} : ∀ {s s' : List Char},
    s.flatMap escape ++ '"' :: rest = s'.flatMap escape ++ '"' :: rest' → s = s' ∧ rest = rest'
  | [], [], h => ⟨rfl, (cons.inj h).2⟩
  | [], c :: s', h => by
    rw [flatMap_cons, append_assoc] at h
    exact absurd h quote_ne_escape
  | c :: s, [], h => by
    rw [flatMap_cons, append_assoc] at h
    exact absurd h.symm quote_ne_escape
  | c :: s, c' :: s', h => by
    rw [flatMap_cons, flatMap_cons, append_assoc, append_assoc] at h
    obtain ⟨rfl, hs⟩ := escape_inj h
    obtain ⟨rfl, hrest⟩ := escapes_inj hs
    exact ⟨rfl, hrest⟩

theorem quoted_inj {s s' : String} {rest rest' : List Char} (h : quoted s rest = quoted s' rest') :
    s = s' ∧ rest = rest' := by
  obtain ⟨hs, hrest⟩ := escapes_inj (cons.inj h).2
  exact ⟨String.toList_inj.mp hs, hrest⟩

theorem number_inj (stop : Char) {n n' : Int} {rest rest' : List Char}
    (hstop : stop.isDigit = false) (h : number n stop rest = number n' stop rest') :
    n = n' ∧ rest = rest' := by
  have hd : ∀ k, ∀ c ∈ Nat.toDigits 10 k, c.isDigit = true := fun k c hc =>
    Nat.isDigit_of_mem_toDigits (by decide) (by decide) hc
  have hs : ∀ k, stop ∉ Nat.toDigits 10 k := fun k hmem => by simp [hd k _ hmem] at hstop
  have hm : ∀ k r r', '-' :: r ≠ Nat.toDigits 10 k ++ r' := by
    intro k r r' heq
    obtain ⟨c, cs, hk⟩ := exists_cons_of_ne_nil (Nat.toDigits_ne_nil (b := 10) (n := k))
    rw [hk, cons_append, cons.injEq] at heq
    exact absurd (hd k c (by simp [hk])) (heq.1 ▸ by decide)
  have hu : ∀ {k k' : Nat},
      Nat.toDigits 10 k ++ stop :: rest = Nat.toDigits 10 k' ++ stop :: rest' →
      k = k' ∧ rest = rest' := by
    intro k k' heq
    have hsplit := congrArg (splitOn stop) heq
    rw [splitOn_append_cons_self_of_not_mem (hs k), splitOn_append_cons_self_of_not_mem (hs k'),
      cons.injEq] at hsplit
    rw [hsplit.1, append_cancel_left_eq, cons.injEq] at heq
    exact ⟨by simpa using congrArg (Nat.ofDigitChars 10 · 0) hsplit.1, heq.2⟩
  unfold number at h
  split at h <;> split at h
  next => grind
  next => exact absurd h (hm _ _ _)
  next => exact absurd h.symm (hm _ _ _)
  next => grind

theorem cursorText_injective : Function.Injective cursorText := by
  rintro ⟨binding, index, token, expires⟩ ⟨binding', index', token', expires'⟩ h
  simp only [cursorText] at h
  obtain ⟨rfl, hrest⟩ := quoted_inj (append_cancel_left h)
  obtain ⟨rfl, hlast⟩ := number_inj ',' (by decide) (append_cancel_left hrest)
  split at hlast <;> split at hlast
  next ht ht' =>
    obtain ⟨rfl, -⟩ := number_inj '\x7d' (by decide) (append_cancel_left hlast)
    rw [ht, ht']
  next => simp at hlast
  next => simp at hlast
  next =>
    obtain ⟨rfl, he⟩ := quoted_inj (append_cancel_left hlast)
    obtain ⟨rfl, -⟩ := number_inj '\x7d' (by decide) (append_cancel_left (cons.inj he).2)
    rfl

theorem utf8_injective : Function.Injective utf8 := by
  intro a b h
  have hb : (String.ofList a).toByteArray = (String.ofList b).toByteArray :=
    ByteArray.ext (Array.toList_inj.mp h)
  exact String.ofList_injective (String.toByteArray_inj.mp hb)

def digest (message : Bytes) : Bytes :=
  (sha256 message).flatMap fun word => (Sha256.bigEndian 4 word).map UInt8.ofNat

def hmac (key message : Bytes) : Bytes :=
  let pad (b : UInt8) := (key ++ List.replicate (64 - key.length) 0).map (· ^^^ b)
  digest (pad 0x5c ++ digest (pad 0x36 ++ message))

noncomputable def library : Library where
  unescape := some
  isDNS1123Label := isDNS1123Label
  bindingDigest := fun clusterID path user query =>
    let encoded := String.intercalate "&" (query.flatMap fun (key, values) =>
      values.map fun value => key ++ "=" ++ value)
    let bound := '[' :: quoted clusterID (',' :: quoted path (',' :: quoted user
      (',' :: quoted encoded [']'])))
    String.ofList (Base64.encode (digest (utf8 bound)))
  mac := hmac (List.replicate 32 7)
  marshalCursor := fun c => utf8 (cursorText c)
  unmarshalCursor := Function.partialInv fun c => utf8 (cursorText c)
  unmarshal_marshal := fun c =>
    Function.partialInv_left (utf8_injective.comp cursorText_injective) c
  itemNamespace := fun item => (item.field "metadata").bind (Json.textField "namespace")

def request (values : List String) : Request where
  method := .get
  path := "/api/v1/clusters/c/k8s/apis/example.com/v1/widgets"
  escapedPath := "/api/v1/clusters/c/k8s/apis/example.com/v1/widgets"
  query := [(namespaceCollectionQuery, values), ("limit", ["1"])]

def widget (name : String) : Value := .obj [("metadata", .obj [("namespace", .str name)])]

def list (items : List Value) (next : String) : Response where
  statusCode := 200
  body := some (.obj [("items", .arr items), ("metadata", .obj [("continue", .str next)])])

def upstream : Upstream := fun path query =>
  if path = "/apis/example.com/v1/namespaces/a/widgets" then
    if query.get "continue" = "t" then list [] "" else list [widget "a"] "t"
  else list [widget "b"] ""

def pages (name : String) : List (List Value) :=
  if name = "a" then [[widget "a"], []] else [[widget "b"]]

theorem isPage_list {name next limit} {items : List Value} (hlm : items.length ≤ limit)
    (hw : ∀ item ∈ items, library.itemNamespace item = some name) :
    IsPage library limit name (list items next) items next :=
  ⟨rfl, ⟨_, _, rfl, rfl, rfl⟩, hlm, hw⟩

end Widgets

/-- Both namespaces are collected, although one is named twice and they are out of order. -/
theorem widgets_collected :
    follow Widgets.library Widgets.upstream (Widgets.request ["b", "a", "b"]) (fun _ => 0) 3 0 "" =
      some [[Widgets.widget "a"], [], [Widgets.widget "b"]] := by
  have hbind : Widgets.library.bindingDigest (Widgets.request ["b", "a", "b"]).clusterID
      "/apis/example.com/v1/widgets" (Widgets.request ["b", "a", "b"]).user
      (boundQuery (Widgets.request ["b", "a", "b"]).query ["a", "b"] 1) =
        "fqYrs706YViWw_KooC7wtzcjllSPkKfLDI6VfsSpvKI" := by decide +kernel
  have hp : requestPath Widgets.library (Widgets.request ["b", "a", "b"]) =
      "/apis/example.com/v1/widgets" := by decide +kernel
  have hs : ∀ token ∈ ["", "t"], Short Widgets.library (Widgets.request ["b", "a", "b"])
      ["a", "b"] 1 (0 + 15 * 60) token := by
    simp only [Short, cursorAt, hp, hbind]
    decide +kernel
  have ha : collectionPath "/apis/example.com/v1/widgets" "a" =
      "/apis/example.com/v1/namespaces/a/widgets" := by decide +kernel
  have hb : collectionPath "/apis/example.com/v1/widgets" "b" ≠
      "/apis/example.com/v1/namespaces/a/widgets" := by decide +kernel
  have hsr : (pageQuery (Widgets.request ["b", "a", "b"]).query ["a", "b"] 1 "").get "continue" ≠
      "t" := by decide +kernel
  have hn : (pageQuery (Widgets.request ["b", "a", "b"]).query ["a", "b"] 1 "t").get "continue" =
      "t" := by decide +kernel
  refine paging_exact Widgets.library Widgets.upstream (Widgets.request ["b", "a", "b"])
    (fun _ => 0) ["b", "a", "b"] ["a", "b"] 1 Widgets.pages
    ⟨rfl, by decide +kernel, "example.com", "v1", "widgets", by decide, by decide +kernel⟩
    rfl (by decide) (by decide) (by decide +kernel) (by decide +kernel)
    (by simp [or_comm]) (by decide +kernel) nofun (by decide) (fun _ => by decide)
    (hs "" (by simp)) ?_
  intro name hnm
  simp only [mem_cons, not_mem_nil, or_false] at hnm
  rcases hnm with rfl | rfl
  · refine .more ?_ (show "t" ≠ "" by decide) (hs "t" (by simp)) (.last ?_)
    · rw [respond, hp, ha, Widgets.upstream, if_pos rfl, if_neg hsr]
      exact Widgets.isPage_list (by decide) (by decide +kernel)
    · rw [respond, hp, ha, Widgets.upstream, if_pos rfl, if_pos hn]
      exact Widgets.isPage_list (by decide) (by decide +kernel)
  · refine .last ?_
    rw [respond, hp, Widgets.upstream, if_neg hb]
    exact Widgets.isPage_list (by decide) (by decide +kernel)

/-- One name given 101 times is refused: values are counted before they are compacted. -/
theorem crowded_refused : (∀ value ∈ List.replicate 101 "a", Widgets.isDNS1123Label value) ∧
      compact ((List.replicate 101 "a").insertionSort (· ≤ ·)) = ["a"] ∧
      prepareNamespaceCollection Widgets.library 0 (Widgets.request (List.replicate 101 "a")) =
        .error ⟨400, "select between 1 and 100 namespaces"⟩ := by
  refine ⟨by decide +kernel, by decide +kernel, by decide +kernel⟩

end Astronomer.Tunnel
