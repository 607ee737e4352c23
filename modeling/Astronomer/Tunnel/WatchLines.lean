import Astronomer.Base.Sha256
import Astronomer.Tunnel.NsFilter

/-!
# Watch events in chunks

A chunk of a watch stream may end in the middle of an event. `watchLineFilter` keeps the rest
of the last line until a later chunk completes it.
-/

namespace Astronomer.Tunnel

open List

def newline : UInt8 := 10

def watchLineMaxBytes : Nat := 4 * 1024 * 1024

/-- `unmarshal` is what `json.Unmarshal` makes of a line. -/
structure WatchLineFilter where
  unmarshal : Bytes → Option Value
  allowed : List String
  buf : Bytes := []

namespace WatchLineFilter

variable (f : WatchLineFilter)

def keep (line : Bytes) : Bool :=
  !line.isEmpty && watchEventAllowed (f.unmarshal line) f.allowed == some true

/-- The loop of `filter`: what it writes of `rest` and what it leaves. -/
def scan (rest : Bytes) : Bytes × Bytes :=
  match _h : rest.findIdx? (· == newline) with
  | none => ([], rest)
  | some i =>
    let line := rest.take i
    let (out, left) := scan (rest.drop (i + 1))
    (if f.keep line then line ++ [newline] ++ out else out, left)
termination_by rest.length
decreasing_by
  have := findIdx?_eq_some_iff_getElem.mp _h
  grind

/-- The second component says that the call reports `errWatchLineTooLong`. -/
def filter (chunk : Bytes) : Bytes × Bool × WatchLineFilter :=
  let (out, left) := f.scan (f.buf ++ chunk)
  if left.length > watchLineMaxBytes then (out, true, { f with buf := [] })
  else (out, false, { f with buf := left })

def flush : Bytes := if f.keep f.buf then f.buf ++ [newline] else []

/-- The calls of `filter` on one stream, `none` once one has reported an error. -/
def filterAll (f : WatchLineFilter) : List Bytes → Option (Bytes × WatchLineFilter)
  | [] => some ([], f)
  | chunk :: chunks =>
    match f.filter chunk with
    | (_, true, _) => none
    | (out, false, f') => (filterAll f' chunks).map fun (rest, last) => (out ++ rest, last)

end WatchLineFilter

/-! ## Lines -/

def terminated (lines : List Bytes) : Bytes := lines.flatMap (· ++ [newline])

/-- `s` is these lines, each with its newline, and then the start of another. -/
structure Cut (lines : List Bytes) (left s : Bytes) : Prop where
  eq : s = terminated lines ++ left
  lines : ∀ line ∈ lines, newline ∉ line
  left : newline ∉ left

variable {lines lines' : List Bytes} {left left' s t : Bytes} {f : WatchLineFilter}

theorem Cut.append (h : Cut lines left s) (h' : Cut lines' left' (left ++ t)) :
    Cut (lines ++ lines') left' (s ++ t) := by
  refine ⟨?_, forall_mem_append.mpr ⟨h.lines, h'.lines⟩, h'.left⟩
  have := h'.eq
  simp_all [h.eq, terminated]

theorem Cut.splitOn (h : Cut lines left s) : s.splitOn newline = lines ++ [left] := by
  obtain ⟨rfl, hls, hl⟩ := h
  induction lines with
  | nil => exact splitOn_eq_singleton hl
  | cons line lines ih =>
    obtain ⟨h, hls⟩ := forall_mem_cons.mp hls
    have hs : terminated (line :: lines) ++ left =
        line ++ newline :: (terminated lines ++ left) := by simp [terminated]
    rw [hs, splitOn_append_cons_self_of_not_mem h, ih hls, cons_append]

/-- What is left of a prefix is the start of a line. -/
theorem Cut.length_le (hl : newline ∉ left) (h : Cut lines left' (left ++ t)) :
    ∃ line ∈ lines ++ [left'], left.length ≤ line.length := by
  obtain ⟨heq, -, -⟩ := h
  cases lines with
  | nil =>
    obtain rfl : left ++ t = left' := heq
    exact ⟨left ++ t, by simp, by simp⟩
  | cons line lines =>
    refine ⟨line, by simp, ?_⟩
    have hs : left ++ t = line ++ newline :: (terminated lines ++ left') := by
      simpa [terminated] using heq
    rcases append_eq_append_iff.mp hs with ⟨a, rfl, -⟩ | ⟨a, rfl, ha⟩
    · simp
    · cases a with
      | nil => simp
      | cons x a => simp_all

theorem scan_cut (rest : Bytes) : ∃ lines, Cut lines (f.scan rest).2 rest ∧
    (f.scan rest).1 = terminated (lines.filter f.keep) := by
  fun_induction f.scan rest with
  | case1 rest h =>
    refine ⟨[], ⟨rfl, by simp, fun hn => ?_⟩, rfl⟩
    simpa using findIdx?_eq_none_iff.mp h _ hn
  | case2 rest i h line out left hscan ih =>
    rw [hscan] at ih
    obtain ⟨lines, hc, hout⟩ := ih
    obtain ⟨hi, heq, hne⟩ := findIdx?_eq_some_iff_getElem.mp h
    have hrest : rest = line ++ newline :: rest.drop (i + 1) := by
      have hnl : rest[i] = newline := by simpa using heq
      rw [← hnl, ← drop_eq_getElem_cons, take_append_drop]
    refine ⟨line :: lines, ⟨?_, forall_mem_cons.mpr ⟨fun hn => ?_, hc.lines⟩, hc.left⟩, ?_⟩
    · rw [hrest, hc.eq]
      simp [terminated]
    · obtain ⟨j, hj, hl⟩ := mem_iff_getElem.mp hn
      simp [line] at hj hl
      exact hne j hj.1 (by simp [hl])
    · obtain rfl : out = terminated (lines.filter f.keep) := hout
      simp only [filter_cons]
      split <;> simp [terminated]

theorem length_left_le {longest : Nat} (h : Cut lines left s)
    (hlong : ∀ line ∈ (s ++ t).splitOn newline, line.length ≤ longest) :
    left.length ≤ longest := by
  obtain ⟨lines', hc, -⟩ := scan_cut (f := ⟨fun _ => none, [], []⟩) (left ++ t)
  obtain ⟨line, hmem, hle⟩ := hc.length_le h.left
  refine hle.trans (hlong line ?_)
  rw [(h.append hc).splitOn, append_assoc]
  exact mem_append_right _ hmem

theorem filterAll_cut {chunks : List Bytes} {longest : Nat} (hmax : longest ≤ watchLineMaxBytes)
    (h : Cut lines f.buf s)
    (hlong : ∀ line ∈ (s ++ (chunks.flatten ++ t)).splitOn newline, line.length ≤ longest) :
    ∃ out lines' left, f.filterAll chunks = some (out, { f with buf := left }) ∧
      Cut (lines ++ lines') left (s ++ chunks.flatten) ∧
      out = terminated (lines'.filter f.keep) ∧ left.length ≤ longest := by
  induction chunks generalizing f lines s with
  | nil => exact ⟨[], [], f.buf, rfl, by simpa using h, rfl, length_left_le h hlong⟩
  | cons chunk chunks ih =>
    obtain ⟨lines1, hc, hout⟩ := scan_cut (f := f) (f.buf ++ chunk)
    have hcut := h.append hc
    rw [flatten_cons, append_assoc, ← append_assoc s] at hlong
    have hle := length_left_le hcut hlong
    obtain ⟨out, lines2, left, hall, hcut2, hout2, hleft⟩ :=
      ih (f := { f with buf := (f.scan (f.buf ++ chunk)).2 }) hcut hlong
    refine ⟨(f.scan (f.buf ++ chunk)).1 ++ out, lines1 ++ lines2, left, ?_, ?_, ?_, hleft⟩
    · have hfit : ¬ (f.scan (f.buf ++ chunk)).2.length > watchLineMaxBytes := by omega
      simp only [WatchLineFilter.filterAll, WatchLineFilter.filter, if_neg hfit, hall]
      rfl
    · simpa using hcut2
    · obtain rfl : out = terminated (lines2.filter f.keep) := hout2
      simp [hout, terminated]

/-- **Filtering does not depend on the chunks.** What the calls and `flush` return is the
lines of the stream that `keep` accepts, each with a newline. No call fails, and what is
retained between two calls is no longer than the longest line. -/
theorem filterAll_lines (f : WatchLineFilter) (chunks : List Bytes) (longest : Nat)
    (hempty : f.buf = [])
    (hlines : ∀ line ∈ chunks.flatten.splitOn newline, line.length ≤ longest)
    (hmax : longest ≤ watchLineMaxBytes) :
    (∃ out last, f.filterAll chunks = some (out, last) ∧
      out ++ last.flush = terminated ((chunks.flatten.splitOn newline).filter f.keep)) ∧
    ∀ sent, sent <+: chunks → ∃ out last, f.filterAll sent = some (out, last) ∧
      last.buf.length ≤ longest := by
  have hstart : Cut [] f.buf [] := by simp [hempty, Cut.mk, terminated]
  constructor
  · obtain ⟨out, lines, left, hall, hcut, hout, -⟩ :=
      filterAll_cut (t := []) hmax hstart (by simpa using hlines)
    refine ⟨out, _, hall, ?_⟩
    rw [nil_append, nil_append] at hcut
    show out ++ (if f.keep left then left ++ [newline] else []) = _
    rw [hcut.splitOn, hout, filter_append, filter_singleton]
    cases f.keep left <;> simp [terminated]
  · rintro sent ⟨rest, rfl⟩
    obtain ⟨out, -, left, hall, -, -, hle⟩ :=
      filterAll_cut (t := rest.flatten) hmax hstart (by simpa using hlines)
    exact ⟨out, _, hall, hle⟩

namespace Pods

def event (namespaceName : String) : Value :=
  .obj [("type", .str "ADDED"), ("object", .obj [("kind", .str "Pod"),
    ("metadata", .obj [("namespace", .str namespaceName)])])]

def line (namespaceName : String) : Bytes :=
  ("\x7b\"type\":\"ADDED\",\"object\":\x7b\"kind\":\"Pod\",\"metadata\":\x7b\"namespace\":\"" ++
    namespaceName ++ "\"\x7d\x7d\x7d").toByteArray.data.toList

def filter : WatchLineFilter where
  unmarshal text := (["team-a", "team-b"].find? fun name => line name = text).map event
  allowed := ["team-a"]

/-- The event of `team-a` comes in two chunks, and the last line has no newline. -/
def chunks : List Bytes :=
  [line "team-b" ++ newline :: (line "team-a").take 20,
    (line "team-a").drop 20 ++ [newline, newline], line "team-a"]

end Pods

/-- The pod of `team-b` is left out. -/
theorem pods_in_chunks : ∃ out last, Pods.filter.filterAll Pods.chunks = some (out, last) ∧
    out ++ last.flush = terminated [Pods.line "team-a", Pods.line "team-a"] := by
  have hkept : (Pods.chunks.flatten.splitOn newline).filter Pods.filter.keep =
      [Pods.line "team-a", Pods.line "team-a"] := by decide +kernel
  rw [← hkept]
  exact (filterAll_lines Pods.filter Pods.chunks 80 rfl (by decide +kernel) (by decide)).1

end Astronomer.Tunnel
