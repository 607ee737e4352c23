import Astronomer.Base.Except
import Astronomer.Base.Json

/-!
# Requests of the Kubernetes proxy

What the proxy and the authorization in front of it read of an `http.Request`, and
`CanonicalK8sProxyPath`, the one path that authorization, audit and forwarding agree on.
-/

namespace Astronomer.Tunnel

open List

/-! ## Text -/

def containsText (s sub : String) : Bool := s.toList.tails.any fun t => sub.toList.isPrefixOf t

def trimSlashes (s : String) : List Char :=
  ((s.toList.dropWhile (· == '/')).reverse.dropWhile (· == '/')).reverse

def segments (s : String) : List String := ((trimSlashes s).splitOn '/').map String.ofList

def parsesTrue (s : String) : Bool := ["1", "t", "T", "TRUE", "true", "True"].contains s

/-! ## Requests -/

inductive Method where
  | get | head | options | post | put | patch | delete
  | other (text : String)
deriving DecidableEq

abbrev Values := List (String × List String)

def Values.get (q : Values) (key : String) : String := ((q.lookup key).bind List.head?).getD ""

structure Request where
  method : Method
  (path escapedPath : String)
  query : Values := []
  accept : String := ""
  clusterID : String := ""
  user : String := ""
  canonical : Option String := none
  allowed : Option (List String) := none
deriving DecidableEq

def isWatchRequest (r : Request) : Bool :=
  parsesTrue (r.query.get "watch") || containsText r.accept "stream=watch" ||
    containsText r.path "/watch/"

/-! ## The canonical path -/

def fromFirst (marker : List Char) : List Char → Option (List Char)
  | [] => if marker.isEmpty then some [] else none
  | c :: cs => if marker.isPrefixOf (c :: cs) then some (c :: cs) else fromFirst marker cs

def extractK8sPath (fullPath : String) : String :=
  match fromFirst "/k8s/".toList fullPath.toList with
  | none => "/"
  | some rest => String.ofList (rest.drop 4)

def cleanRooted (path : String) : String :=
  let kept := ((path.toList.splitOn '/').map String.ofList).foldl (fun kept segment =>
    if segment = "" ∨ segment = "." then kept
    else if segment = ".." then kept.dropLast
    else kept ++ [segment]) []
  "/" ++ String.intercalate "/" kept

def trimSlashSuffix (path : String) : String :=
  if path.toList.getLast? = some '/' then String.ofList path.toList.dropLast else path

/-- `CanonicalK8sProxyPath`; `none` is `ErrInvalidK8sProxyPath`. `url.PathUnescape` is a
parameter. -/
def canonicalK8sProxyPath (unescape : String → Option String) (r : Request) : Option String :=
  match r.canonical.filter (· ≠ "") with
  | some stored => some stored
  | none =>
    let decoded := extractK8sPath r.path
    let escaped := extractK8sPath r.escapedPath
    if unescape escaped ≠ some decoded then none
    else if escaped ≠ decoded ∨ containsText decoded "\\" then none
    else if decoded.toList.head? ≠ some '/' ∨
        cleanRooted decoded ≠ (if decoded = "/" then decoded else trimSlashSuffix decoded) then none
    else if decoded = "/" then some decoded
    else if (segments decoded).any fun s => s = "." ∨ s = ".." ∨ s = "" then none
    else some decoded

/-! ## Joined paths -/

def IsSegment (s : String) : Prop := s ≠ "" ∧ '/' ∉ s.toList

theorem getLast?_intercalate {parts} (hne : parts ≠ [])
    (hpa : ∀ part ∈ parts, part ≠ [] ∧ '/' ∉ part) :
    ∃ c, (['/'].intercalate parts).getLast? = some c ∧ c ≠ '/' := by
  induction parts with
  | nil => exact absurd rfl hne
  | cons part parts ih =>
    cases parts with
    | nil =>
      obtain ⟨hpr, hs⟩ := hpa part mem_cons_self
      have hmem := getLast_mem hpr
      refine ⟨part.getLast hpr, ?_, fun h => hs (h ▸ hmem)⟩
      simp [getLast?_eq_some_getLast hpr]
    | cons next rest =>
      obtain ⟨c, hc, hs⟩ := ih (by simp) fun p hp => hpa p (mem_cons_of_mem _ hp)
      refine ⟨c, ?_, hs⟩
      rw [intercalate_cons_cons, getLast?_append, hc]
      rfl

theorem head?_intercalate {parts} (hne : parts ≠ [])
    (hpa : ∀ part ∈ parts, part ≠ [] ∧ '/' ∉ part) :
    ∃ c, (['/'].intercalate parts).head? = some c ∧ c ≠ '/' := by
  cases parts with
  | nil => exact absurd rfl hne
  | cons part parts =>
    obtain ⟨hp, hs⟩ := hpa part mem_cons_self
    obtain ⟨c, cs, rfl⟩ := exists_cons_of_ne_nil hp
    refine ⟨c, ?_, fun h => hs (h ▸ mem_cons_self)⟩
    cases parts with
    | nil => simp
    | cons next rest => simp [intercalate_cons_cons]

theorem dropWhile_of_head? {c} {cs : List Char} (hh : cs.head? = some c) (hc : c ≠ '/') :
    cs.dropWhile (· == '/') = cs := by
  cases cs with
  | nil => rfl
  | cons d ds =>
    obtain rfl : d = c := by simpa using hh
    exact dropWhile_cons_of_neg (by simpa using hc)

theorem segments_join {parts} (hne : parts ≠ []) (hpa : ∀ s ∈ parts, IsSegment s) :
    segments ("/" ++ String.intercalate "/" parts) = parts := by
  have hlss : ∀ part ∈ parts.map String.toList, part ≠ [] ∧ '/' ∉ part := by
    intro part hp
    obtain ⟨s, hs, rfl⟩ := mem_map.mp hp
    exact ⟨fun h => (hpa s hs).1 (String.toList_inj.mp h), (hpa s hs).2⟩
  have hm : parts.map String.toList ≠ [] := by simpa using hne
  obtain ⟨first, hf, hfr⟩ := head?_intercalate hm hlss
  obtain ⟨last, hls, hlS⟩ := getLast?_intercalate hm hlss
  have ht : trimSlashes ("/" ++ String.intercalate "/" parts) =
      ['/'].intercalate (parts.map String.toList) := by
    have hc : ("/" ++ String.intercalate "/" parts).toList =
        '/' :: ['/'].intercalate (parts.map String.toList) := by
      rw [String.toList_append, String.toList_intercalate]
      rfl
    rw [trimSlashes, hc, dropWhile_cons_of_pos (by rfl), dropWhile_of_head? hf hfr,
      dropWhile_of_head? (by rw [head?_reverse, hls]) hlS, reverse_reverse]
  rw [segments, ht, splitOn_intercalate '/' (fun l hl => (hlss l hl).2) hm, map_map]
  simp [Function.comp_def]

end Astronomer.Tunnel
