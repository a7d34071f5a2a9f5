import TraceSnapshot.Proofs.CanonicalForm

/-!
# The arrangement of a trace metadata file

A trace metadata file may list its buffers, sections and keys in any order. The buffers are put in
order before the first of them is read, so even a file that is refused is refused for the same
reason in every arrangement.
-/

namespace TraceSnapshot.Proofs
open Ini (Document Entry)

/-- The ids in the list of buffers, in the order of the list. -/
def listedIds (d : Document) : List Text :=
  ((d.first? "trace_buffers".toList "buffers".toList).map CommaList.items).getD []

/-- Two trace metadata files that differ only in how they are arranged, and in sections and keys
that no trace metadata has. -/
structure RearrangedTrace (d e : Document) : Prop where
  source : d.source = e.source
  section_there : d.hasSection "trace_buffers".toList = e.hasSection "trace_buffers".toList
  list_there : (d.first? "trace_buffers".toList "buffers".toList).isSome =
    (e.first? "trace_buffers".toList "buffers".toList).isSome
  ids : ∀ id, id ∈ listedIds d ↔ id ∈ listedIds e
  buffer_there : ∀ id ∈ listedIds d, d.hasSection id = e.hasSection id
  buffer_values : ∀ id ∈ listedIds d, ∀ key ∈ ["name", "file", "format"],
    d.last? id key.toList = e.last? id key.toList
  coreTraceSources : ∀ key,
    d.values "core_trace_sources".toList key = e.values "core_trace_sources".toList key
  sourceBuffers : ∀ key, (d.values "source_buffers".toList key).map CommaList.items =
    (e.values "source_buffers".toList key).map CommaList.items

/-! ### Ids and buffers -/

section RearrangedTrace

variable {d e : Document}

/-- The list of buffers only counts as a set. -/
lemma RearrangedTrace.readBufferIds (h : RearrangedTrace d e) (path : Text) :
    TraceMetadata.readBufferIds e path = TraceMetadata.readBufferIds d path := by
  have hthere := h.list_there
  have hids := h.ids
  unfold listedIds at hids
  unfold TraceMetadata.readBufferIds
  generalize d.first? "trace_buffers".toList "buffers".toList = list,
    e.first? "trace_buffers".toList "buffers".toList = list' at hthere hids
  cases list with
  | none =>
    cases list' with
    | none => rfl
    | some _ => cases hthere
  | some ids =>
    cases list' with
    | none => cases hthere
    | some ids' =>
      have hascending : Text.ascending (CommaList.items ids') =
          Text.ascending (CommaList.items ids) := ascending_congr fun id => (hids id).symm
      dsimp only
      rw [hascending]

lemma mem_listedIds_of_readBufferIds {path id : Text} {ids : List Text}
    (h : TraceMetadata.readBufferIds d path = .ok ids) (hid : id ∈ ids) : id ∈ listedIds d := by
  obtain ⟨list, hlist, rfl, -⟩ := readBufferIds_eq_ok_iff.1 h
  unfold listedIds
  rw [hlist]
  exact mem_ascending.1 hid

lemma RearrangedTrace.readBuffers (h : RearrangedTrace d e) {path : Text} {ids : List Text}
    (hids : TraceMetadata.readBufferIds d path = .ok ids) :
    ids.mapM (TraceMetadata.readBuffer e) = ids.mapM (TraceMetadata.readBuffer d) := by
  apply mapM_congr
  intro id hid
  have hlisted := mem_listedIds_of_readBufferIds hids hid
  exact (readBuffer_congr (h.buffer_there id hlisted) (h.buffer_values id hlisted)).symm

/-- Both files are refused alike or give the same metadata, but for the order of two lists. -/
lemma RearrangedTrace.ofDocument (h : RearrangedTrace d e) (path : Text) :
    TraceMetadata.ofDocument e path = (TraceMetadata.ofDocument d path).map fun t =>
      { t with
        coreTraceSources := e.pairs "core_trace_sources".toList
        sourceBuffers := TraceMetadata.listPairs e "source_buffers".toList } := by
  unfold TraceMetadata.ofDocument
  rw [← h.section_there, h.readBufferIds path]
  split
  · cases hids : TraceMetadata.readBufferIds d path with
    | error defect => rfl
    | ok ids =>
      rw [ok_bind, ok_bind, h.readBuffers hids]
      cases ids.mapM (TraceMetadata.readBuffer d) <;> rfl
  · rfl

/-! ### Cross references -/

/-- The pairs of one key are the values of that key, in their order. -/
lemma filter_fst_entries (d : Document) (name key : Text) (f : Text → Text) :
    ((d.entries name).map fun e => (e.key, f e.value)).filter (fun pair => pair.1 = key) =
      (d.values name key).map fun value => (key, f value) := by
  have hkeys : ((fun pair : Text × Text => decide (pair.1 = key)) ∘
      fun e : Entry => (e.key, f e.value)) = fun e => e.key == key := by
    funext e
    exact (beq_eq_decide e.key key).symm
  unfold Document.values
  rw [List.filter_map, hkeys, List.map_map]
  apply List.map_congr_left
  intro e he
  have hkey : e.key = key := by simpa using (List.mem_filter.1 he).2
  rw [hkey]
  rfl

/-- Pairs in order are determined by the pairs of each key. -/
lemma sortBy_comparePairs_congr {pairs pairs' : List (Text × Text)}
    (h : ∀ key, pairs.filter (fun pair => pair.1 = key) = pairs'.filter fun pair => pair.1 = key) :
    sortBy comparePairs pairs = sortBy comparePairs pairs' := by
  apply sortBy_eq_of_filter_eq
  intro k
  simpa only [pair_compare_eq_iff, eq_comm (a := k.1)] using h k.1

lemma RearrangedTrace.coreTraceSources_eq (h : RearrangedTrace d e) :
    sortBy comparePairs (d.pairs "core_trace_sources".toList) =
      sortBy comparePairs (e.pairs "core_trace_sources".toList) := by
  have hpairs : ∀ (d : Document) key, (d.pairs "core_trace_sources".toList).filter
      (fun pair => pair.1 = key) = ((d.values "core_trace_sources".toList key).map fun value =>
        (key, value)) := fun d key => filter_fst_entries d _ key fun value => value
  apply sortBy_comparePairs_congr
  intro key
  rw [hpairs, hpairs, h.coreTraceSources key]

lemma RearrangedTrace.sourceBuffers_eq (h : RearrangedTrace d e) :
    sortBy comparePairs (TraceMetadata.listPairs d "source_buffers".toList) =
      sortBy comparePairs (TraceMetadata.listPairs e "source_buffers".toList) := by
  have hvalues : ∀ (d : Document) key, ((d.values "source_buffers".toList key).map fun value =>
      (key, CommaList.join (CommaList.items value))) =
        ((d.values "source_buffers".toList key).map CommaList.items).map fun items =>
          (key, CommaList.join items) := by
    intro d key
    rw [List.map_map]
    rfl
  have hpairs : ∀ (d : Document) key, (TraceMetadata.listPairs d "source_buffers".toList).filter
      (fun pair => pair.1 = key) = ((d.values "source_buffers".toList key).map fun value =>
        (key, CommaList.join (CommaList.items value))) := fun d key =>
    filter_fst_entries d _ key fun value => CommaList.join (CommaList.items value)
  apply sortBy_comparePairs_congr
  intro key
  rw [hpairs, hpairs, hvalues, hvalues, h.sourceBuffers key]

/-! ### Rearranged files -/

/-- How a trace metadata file is arranged does not matter. Two files that agree on what trace
metadata is read from are both refused with one report, or they give metadata with one canonical
form. -/
theorem trace_canonical_eq_of_rearranged (h : RearrangedTrace d e) (path : Text) :
    (∃ defect, TraceMetadata.ofDocument d path = .error defect ∧
      TraceMetadata.ofDocument e path = .error defect ∧
      defect.report d.source = defect.report e.source) ∨
    ∃ t u, TraceMetadata.ofDocument d path = .ok t ∧ TraceMetadata.ofDocument e path = .ok u ∧
      t.canonical = u.canonical := by
  have he := h.ofDocument path
  cases hd : TraceMetadata.ofDocument d path with
  | error defect =>
    rw [hd] at he
    exact Or.inl ⟨defect, rfl, he, congrArg defect.report h.source⟩
  | ok t =>
    rw [hd] at he
    refine Or.inr ⟨t, _, rfl, he, ?_⟩
    obtain ⟨-, ids, buffers, -, -, rfl⟩ := trace_ofDocument_eq_ok_iff.1 hd
    unfold TraceMetadata.canonical
    dsimp only
    rw [h.coreTraceSources_eq, h.sourceBuffers_eq]
    -- The last buffer of an id is sought among the same buffers on both sides.
    rfl

end RearrangedTrace

/-- A trace metadata file with two buffers, one of which is named twice. -/
def traceFile : Document where
  source := ['t']
  sections :=
    ⟨[("trace_buffers".toList, [⟨"buffers".toList, "u,v".toList⟩]),
      (['u'], [⟨"name".toList, ['p']⟩, ⟨"file".toList, ['g']⟩]),
      (['v'], [⟨"name".toList, ['o']⟩, ⟨"name".toList, ['q']⟩, ⟨"file".toList, ['h']⟩]),
      ("core_trace_sources".toList, [⟨['c'], ['1']⟩, ⟨['b'], ['2']⟩, ⟨['c'], ['3']⟩]),
      ("source_buffers".toList, [⟨['2'], "u".toList⟩, ⟨['1'], "v,u".toList⟩])], by decide⟩

/-- The same file in another arrangement, with spaces in lists, ids again and keys that do not
count. -/
def rearrangedTraceFile : Document where
  source := ['t']
  sections :=
    ⟨[("source_buffers".toList, [⟨['1'], " v ,, u".toList⟩, ⟨['2'], "u,".toList⟩]),
      (['v'], [⟨"file".toList, ['h']⟩, ⟨"name".toList, ['q']⟩, ⟨"note".toList, ['n']⟩]),
      ("core_trace_sources".toList, [⟨['b'], ['2']⟩, ⟨['c'], ['1']⟩, ⟨['c'], ['3']⟩]),
      (['w'], []),
      (['u'], [⟨"name".toList, ['p']⟩, ⟨"file".toList, ['g']⟩]),
      ("trace_buffers".toList, [⟨"buffers".toList, "v, u,v".toList⟩, ⟨"buffers".toList, []⟩])],
      by decide⟩

/-- Two sections are compared at the keys of their entries; at all other keys both have nothing. -/
lemma values_of_keys {d e : Document} {name : Text} {R : List Text → List Text → Prop}
    (hnil : R [] []) (keys : List Text) (hd : ∀ entry ∈ d.entries name, entry.key ∈ keys)
    (he : ∀ entry ∈ e.entries name, entry.key ∈ keys)
    (h : ∀ key ∈ keys, R (d.values name key) (e.values name key)) (key : Text) :
    R (d.values name key) (e.values name key) := by
  by_cases hkey : key ∈ keys
  · exact h key hkey
  · have hnone : ∀ d : Document, (∀ entry ∈ d.entries name, entry.key ∈ keys) →
        d.values name key = [] := by
      intro d hentries
      rw [List.eq_nil_iff_forall_not_mem]
      intro value hvalue
      obtain ⟨entry, hentry, rfl, -⟩ := mem_values_iff.1 hvalue
      exact hkey (hentries entry hentry)
    rw [hnone d hd, hnone e he]
    exact hnil

lemma rearranged_rearrangedTraceFile : RearrangedTrace traceFile rearrangedTraceFile where
  source := rfl
  section_there := by decide
  list_there := by decide
  ids id := by
    have hids : listedIds traceFile = [['u'], ['v']] := by decide
    have hids' : listedIds rearrangedTraceFile = [['v'], ['u'], ['v']] := by decide
    rw [hids, hids']
    simp only [List.mem_cons, List.not_mem_nil, or_false]
    tauto
  buffer_there := by decide
  buffer_values := by decide
  coreTraceSources := values_of_keys (R := (· = ·)) rfl [['b'], ['c']] (by decide) (by decide)
    (by decide)
  sourceBuffers :=
    values_of_keys (R := fun values values' => values.map CommaList.items =
      values'.map CommaList.items) rfl [['1'], ['2']] (by decide) (by decide) (by decide)

/-- Both arrangements are read, and in canonical form they are equal. -/
theorem trace_canonical_eq_of_rearrangedTraceFile :
    RearrangedTrace traceFile rearrangedTraceFile ∧
      ∃ t u, TraceMetadata.ofDocument traceFile ['t'] = .ok t ∧
        TraceMetadata.ofDocument rearrangedTraceFile ['t'] = .ok u ∧ t ≠ u ∧
        t.canonical = u.canonical := by
  have hread : (TraceMetadata.ofDocument traceFile ['t']).toOption.map
      (fun t => t.coreTraceSources.head?) = some (some (['c'], ['1'])) := by cbv
  have hread' : (TraceMetadata.ofDocument rearrangedTraceFile ['t']).toOption.map
      (fun t => t.coreTraceSources.head?) = some (some (['b'], ['2'])) := by cbv
  rcases trace_canonical_eq_of_rearranged rearranged_rearrangedTraceFile ['t'] with
    ⟨defect, hd, -⟩ | ⟨t, u, ht, hu, hcanonical⟩
  · rw [hd] at hread
    cases hread
  · refine ⟨rearranged_rearrangedTraceFile, t, u, ht, hu, ?_, hcanonical⟩
    rintro rfl
    rw [ht] at hread
    rw [hu, hread] at hread'
    cases hread'

end TraceSnapshot.Proofs
