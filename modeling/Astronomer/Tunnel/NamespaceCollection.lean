import Mathlib.Data.List.Sort
import Astronomer.Base.Base64
import Astronomer.Tunnel.Request

/-!
# Collections over selected namespaces

`namespace_collection.go`: a collection `GET` that names several namespaces becomes one
request for one of them, and the response's `continue` a signed cursor that says where to go
on. A response body is its decoded document; `none` is one that does not decode.
-/

namespace Astronomer.Tunnel

def namespaceCollectionQuery : String := "astronomerNamespace"

structure NamespaceCursor where
  binding : String
  index : Int
  continueToken : String
  expires : Int
deriving DecidableEq

/-- The libraries: `url.PathUnescape`, `validation.IsDNS1123Label`, the digest of a cursor's
binding, HMAC-SHA256 under the handler's key, and JSON. -/
structure Library where
  unescape : String → Option String
  isDNS1123Label : String → Bool
  bindingDigest (clusterID path user : String) (query : Values) : String
  mac : List UInt8 → List UInt8
  marshalCursor : NamespaceCursor → List UInt8
  unmarshalCursor : List UInt8 → Option NamespaceCursor
  unmarshal_marshal : ∀ c, unmarshalCursor (marshalCursor c) = some c
  itemNamespace : Value → Option String

/-! ## The selection -/

def compact : List String → List String
  | [] => []
  | [a] => [a]
  | a :: b :: rest => if a = b then compact (b :: rest) else a :: compact (b :: rest)

variable (lib : Library)

def selectedCollectionNamespaces (r : Request) : Option (Except String (List String)) :=
  match r.query.lookup namespaceCollectionQuery with
  | none => none
  | some values => some do
    let parts := ((canonicalK8sProxyPath lib.unescape r).map segments).getD []
    require (r.method == .get && !isWatchRequest r && parts.length == 4 &&
        parts[0]? == some "apis" && parts[3]? != some "namespaces")
      "namespace subsets require an ordinary grouped resource collection GET"
    require (decide (0 < values.length) && decide (values.length ≤ 100))
      "select between 1 and 100 namespaces"
    require (values.all lib.isDNS1123Label)
      "namespace selection contains an invalid or empty name"
    return compact (values.insertionSort (· ≤ ·))

/-! ## The cursor -/

def encodeNamespaceCursor (cursor : NamespaceCursor) : String :=
  let body := lib.marshalCursor cursor
  String.ofList (Base64.encode body ++ '.' :: Base64.encode (lib.mac body))

def decodeNamespaceCursor (raw : String) : Option NamespaceCursor :=
  if 32768 < raw.utf8ByteSize then none
  else
    match raw.toList.splitOn '.' with
    | [body, signature] => do
      let body ← Base64.decode body
      let signature ← Base64.decode signature
      if lib.mac body ≠ signature then none else lib.unmarshalCursor body
    | _ => none

/-! ## A request -/

structure Refusal where
  status : Nat
  message : String
deriving DecidableEq

structure NamespaceCollectionPage where
  names : List String
  cursor : NamespaceCursor
  limit : Nat
deriving DecidableEq

def atoi (s : String) : Option Int :=
  let number (digits : List Char) : Option Nat :=
    if digits ≠ [] ∧ digits.all Char.isDigit then
      some (digits.foldl (fun n c => n * 10 + (c.toNat - '0'.toNat)) 0)
    else none
  match s.toList with
  | '-' :: digits => (number digits).map fun n => -(n : Int)
  | '+' :: digits => (number digits).map Int.ofNat
  | digits => (number digits).map Int.ofNat

def requestLimit (q : Values) : Except Refusal Nat :=
  let limit := if q.get "limit" = "" then some 50 else atoi (q.get "limit")
  match limit.filter fun n => 1 ≤ n ∧ n ≤ 500 with
  | some n => .ok n.toNat
  | none => .error ⟨400, "limit must be between 1 and 500"⟩

def boundQuery (q : Values) (names : List String) (limit : Nat) : Values :=
  setKey "limit" [toString limit] (setKey namespaceCollectionQuery names (eraseKey "continue" q))

def pageQuery (q : Values) (names : List String) (limit : Nat) (token : String) : Values :=
  let q := eraseKey "continue" (eraseKey namespaceCollectionQuery (boundQuery q names limit))
  if token = "" then q else setKey "continue" [token] q

def collectionPath (path name : String) : String :=
  let parts := segments path
  "/" ++ String.intercalate "/" (parts.take 3) ++ "/namespaces/" ++ name ++ "/" ++
    parts.getD 3 ""

def requestCursor (now : Int) (names : List String) (fresh : NamespaceCursor) (raw : String) :
    Except Refusal NamespaceCursor :=
  if raw = "" then .ok fresh
  else
    match decodeNamespaceCursor lib raw with
    | some cursor =>
      if cursor.binding ≠ fresh.binding ∨ cursor.index < 0 ∨ (names.length : Int) ≤ cursor.index ∨
          cursor.expires < now then
        .error ⟨410, "namespace continuation expired or scope changed; restart the collection"⟩
      else .ok cursor
    | none =>
      .error ⟨410, "namespace continuation expired or scope changed; restart the collection"⟩

def prepareNamespaceCollection (now : Int) (r : Request) :
    Except Refusal (Option (Request × NamespaceCollectionPage)) :=
  match selectedCollectionNamespaces lib r with
  | none => .ok none
  | some selection => do
    let names ← selection.mapError (⟨400, ·⟩)
    let limit ← requestLimit r.query
    require (names.all fun name => r.allowed.all fun allowed => allowed.contains name)
      ⟨403, "namespace is not authorized"⟩
    let path := (canonicalK8sProxyPath lib.unescape r).getD ""
    let fresh : NamespaceCursor :=
      { binding := lib.bindingDigest r.clusterID path r.user (boundQuery r.query names limit)
        index := 0, continueToken := "", expires := now + 15 * 60 }
    let cursor ← requestCursor lib now names fresh (r.query.get "continue")
    let request := { r with
      query := pageQuery r.query names limit cursor.continueToken
      canonical := some (collectionPath path (names.getD cursor.index.toNat ""))
      accept := "application/json" }
    return some (request, { names, cursor, limit })

/-! ## A response -/

structure Response where
  statusCode : Nat
  body : Option Value

def Response.success (resp : Response) : Bool :=
  resp.statusCode == 0 || (decide (200 ≤ resp.statusCode) && decide (resp.statusCode < 300))

def listMetadata (list : List (String × Value)) :
    Except String (List (String × Value) × String) := do
  let metadata ← match list.lookup "metadata" with
    | none => pure []
    | some raw => orError raw.fields? "invalid collection metadata"
  let next ← match metadata.lookup "continue" with
    | none | some .null => pure ""
    | some raw => orError raw.text? "json: cannot unmarshal into Go value of type string"
  return (metadata, next)

def NamespaceCursor.after (cursor : NamespaceCursor) (next : String) : NamespaceCursor :=
  { cursor with
    continueToken := next
    index := if next = "" then cursor.index + 1 else cursor.index }

def nextToken (page : NamespaceCollectionPage) (next : String) : String :=
  let cursor := page.cursor.after next
  if cursor.index < page.names.length then encodeNamespaceCursor lib cursor else ""

def finishNamespaceCollection (resp : Response) (page : NamespaceCollectionPage) :
    Except String Response :=
  if !resp.success then .ok resp
  else do
    let body ← orError resp.body "invalid character"
    let list ← orError body.fields? "json: cannot unmarshal into Go value"
    let items ← orError ((list.lookup "items").bind Json.elements?) "invalid collection items"
    require (decide (items.length ≤ page.limit)) "upstream exceeded namespace page limit"
    require (items.all fun item =>
        lib.itemNamespace item == some (page.names.getD page.cursor.index.toNat ""))
      "upstream returned an object outside the selected namespace"
    let (metadata, next) ← listMetadata list
    let metadata := setKey "continue" (.str (nextToken lib page next)) metadata
    let metadata := eraseKey "selfLink" (eraseKey "resourceVersion"
      (eraseKey "remainingItemCount" metadata))
    return { resp with body := some (.obj (setKey "metadata" (.obj metadata) list)) }

end Astronomer.Tunnel
