import Mathlib
import TraceSnapshot.Proofs.CanonicalForm
import TraceSnapshot.Proofs.Fitness

/-!
# Complete trace metadata

A trace metadata file is complete if its list of buffers names one and every listed buffer has what
it must have. From a complete file all is read as it stands there; of any other one the first broken
rule is told, buffers in the order of their ids and not of the list.
-/

namespace TraceSnapshot.Proofs
open Ini (Document)

variable {d : Document} {path id : Text}

/-! ### Trace buffers -/

/-- A section that gives a trace buffer. Some file is named in the last list of files. -/
structure CompleteBuffer (d : Document) (id : Text) : Prop where
  name : d.values id "name".toList ≠ []
  files : ∃ list, d.last? id "file".toList = some list ∧ CommaList.items list ≠ []

/-- The trace buffer of a section. Of a key the last value counts. -/
def BufferOf (d : Document) (id : Text) (b : TraceBuffer) : Prop :=
  ∃ name list, d.last? id "name".toList = some name ∧ d.last? id "file".toList = some list ∧
    b = {
      id
      name
      files := (CommaList.items list).map fun item => Path.normalize (Text.unquoted item)
      format := (d.last? id "format".toList).getD [] }

/-- How the section of an id is not complete. -/
inductive BufferBreaks (d : Document) (id : Text) : Failure → Prop
  | dangling (hsection : id ∉ d.names) : BufferBreaks d id (complaint d .danglingReference
      ("missing buffer section: ".toList ++ id))
  | incomplete (hsection : id ∈ d.names)
      (hlacks : d.values id "name".toList = [] ∨ d.values id "file".toList = []) :
      BufferBreaks d id (complaint d .missingKey
        ("trace buffer section missing name or file: ".toList ++ id))
  | noFiles {list} (hname : d.values id "name".toList ≠ [])
      (hlist : d.last? id "file".toList = some list) (hempty : CommaList.items list = []) :
      BufferBreaks d id (complaint d .emptyList
        ("trace buffer section has an empty file list: ".toList ++ id))

lemma completeBuffer_iff :
    CompleteBuffer d id ↔ ∃ b, TraceMetadata.readBuffer d id = .ok b := by
  rw [exists_readBuffer_iff, exists_last?_iff]
  exact ⟨fun h => ⟨h.name, h.files⟩, fun h => ⟨h.1, h.2⟩⟩

lemma readBuffer_iff_bufferOf {b : TraceBuffer} :
    TraceMetadata.readBuffer d id = .ok b ↔ CompleteBuffer d id ∧ BufferOf d id b := by
  rw [readBuffer_eq_ok_iff]
  constructor
  · rintro ⟨hsection, name, list, hname, hlist, hne, rfl⟩
    refine ⟨⟨values_ne_nil_of_last? hname, list, hlist, ?_⟩, name, list, hname, hlist, rfl⟩
    rwa [ne_eq, ← fileList_eq_nil_iff]
  · rintro ⟨⟨-, list, hlist, hne⟩, name, list', hname, hlist', rfl⟩
    obtain rfl : list = list' := Option.some.inj (hlist.symm.trans hlist')
    rw [ne_eq, ← fileList_eq_nil_iff] at hne
    exact ⟨hasSection_of_last?_eq_some hname, name, list, hname, hlist, hne, rfl⟩

lemma bufferBreaks_iff {failure : Failure} : BufferBreaks d id failure ↔
    ∃ defect, TraceMetadata.readBuffer d id = .error defect ∧
      .reported (defect.report d.source) = failure := by
  simp only [← bufferUnfit_iff]
  constructor
  · intro h
    cases h with
    | dangling hsection => exact ⟨_, .dangling (hasSection_eq_false_iff.2 hsection), rfl⟩
    | incomplete hsection hlacks =>
      rw [← last?_eq_none_iff, ← last?_eq_none_iff] at hlacks
      exact ⟨_, .incomplete (hasSection_iff.2 hsection) hlacks, rfl⟩
    | noFiles hname hlist hempty =>
      obtain ⟨name, hname⟩ := exists_last?_iff.2 hname
      exact ⟨_, .noFiles hname hlist hempty, rfl⟩
  · rintro ⟨defect, h, rfl⟩
    cases h with
    | dangling hsection => exact .dangling (hasSection_eq_false_iff.1 hsection)
    | incomplete hsection hlacks =>
      rw [last?_eq_none_iff, last?_eq_none_iff] at hlacks
      exact .incomplete (hasSection_iff.1 hsection) hlacks
    | noFiles hname hfile hempty => exact .noFiles (values_ne_nil_of_last? hname) hfile hempty

/-! ### Trace metadata -/

/-- A trace metadata file whose list names a buffer, and only buffers that are complete. The first
list counts. -/
structure CompleteTrace (d : Document) (list : Text) : Prop where
  listed : d.first? "trace_buffers".toList "buffers".toList = some list
  nonempty : CommaList.items list ≠ []
  buffers : ∀ id ∈ CommaList.items list, CompleteBuffer d id

/-- The trace metadata of a file, with one buffer for every listed id, in the order of the ids. -/
structure TraceOf (d : Document) (path list : Text) (t : TraceMetadata) : Prop where
  path : t.path = path
  ids_ascending : t.bufferIds.Pairwise fun a b => compare a b = .lt
  ids : ∀ id, id ∈ t.bufferIds ↔ id ∈ CommaList.items list
  buffers : List.Forall₂ (BufferOf d) t.bufferIds t.buffers
  coreTraceSources : t.coreTraceSources = d.pairs "core_trace_sources".toList
  sourceBuffers : t.sourceBuffers = TraceMetadata.listPairs d "source_buffers".toList

/-- How the reading of a trace metadata file ends. Of the listed ids whose buffer is not complete
the least one decides. -/
inductive TraceEnds (d : Document) (path : Text) : Except Failure TraceMetadata → Prop
  | missingSection (hsection : "trace_buffers".toList ∉ d.names) :
      TraceEnds d path (.error (complaint d .missingSection
        ("missing required [trace_buffers] section in ".toList ++ path)))
  | missingBuffers (hsection : "trace_buffers".toList ∈ d.names)
      (hlist : d.values "trace_buffers".toList "buffers".toList = []) :
      TraceEnds d path (.error (complaint d .missingKey
        ("trace metadata missing buffers list: ".toList ++ path)))
  | noBuffers {list} (hlist : d.first? "trace_buffers".toList "buffers".toList = some list)
      (hempty : CommaList.items list = []) :
      TraceEnds d path (.error (complaint d .emptyList
        ("trace metadata has an empty buffers list: ".toList ++ path)))
  | buffer {list id failure}
      (hlist : d.first? "trace_buffers".toList "buffers".toList = some list)
      (hid : id ∈ CommaList.items list)
      (hleast : ∀ other ∈ CommaList.items list, compare other id = .lt → CompleteBuffer d other)
      (hbreaks : BufferBreaks d id failure) : TraceEnds d path (.error failure)
  | complete {list t} (hcomplete : CompleteTrace d list) (htrace : TraceOf d path list t) :
      TraceEnds d path (.ok t)

/-- A list in ascending order is determined by its elements. -/
lemma eq_ascending {ids ts : List Text} (hids : ids.Pairwise fun a b => compare a b = .lt)
    (hmem : ∀ id, id ∈ ids ↔ id ∈ ts) : ids = Text.ascending ts := by
  have hperm : ids.Perm (Text.ascending ts) := by
    rw [List.perm_ext_iff_of_nodup (nodup_of_ascending hids) (nodup_ascending ts)]
    simpa only [mem_ascending] using hmem
  refine hperm.eq_of_pairwise ?_ hids (pairwise_ascending ts)
  intro a b _ _ hab hba
  exact absurd hba (Std.OrientedCmp.not_lt_of_lt hab)

/-- In front of an element of a list in ascending order are the elements that are less. -/
lemma mem_before_iff {ts before after : List Text} {id other : Text}
    (hsplit : Text.ascending ts = before ++ id :: after) :
    other ∈ before ↔ other ∈ ts ∧ compare other id = .lt := by
  have hascending := pairwise_ascending ts
  rw [hsplit, List.pairwise_append, List.pairwise_cons] at hascending
  obtain ⟨-, ⟨hafter, -⟩, hbefore⟩ := hascending
  rw [← @mem_ascending other ts, hsplit, List.mem_append, List.mem_cons]
  constructor
  · intro hother
    exact ⟨.inl hother, hbefore other hother id List.mem_cons_self⟩
  · rintro ⟨hother | rfl | hother, hlt⟩
    · exact hother
    · simp at hlt
    · exact absurd hlt (Std.OrientedCmp.not_lt_of_lt (hafter other hother))

lemma trace_iff_traceOf {t : TraceMetadata} : TraceMetadata.ofDocument d path = .ok t ↔
    ∃ list, CompleteTrace d list ∧ TraceOf d path list t := by
  simp only [trace_ofDocument_eq_ok_iff, readBufferIds_eq_ok_iff, mapM_eq_ok_iff,
    readBuffer_iff_bufferOf, List.forall₂_and_left]
  constructor
  · rintro ⟨-, _, buffers, ⟨list, hlist, rfl, hne⟩, ⟨hcomplete, hbuffers⟩, rfl⟩
    rw [ne_eq, ascending_eq_nil_iff] at hne
    simp only [mem_ascending] at hcomplete
    exact ⟨list, ⟨hlist, hne, hcomplete⟩,
      ⟨rfl, pairwise_ascending _, fun _ => mem_ascending, hbuffers, rfl, rfl⟩⟩
  · rintro ⟨list, ⟨hlist, hne, hcomplete⟩, ⟨hpath, hascending, hids, hbuffers, hcores, hsources⟩⟩
    have hne' : t.bufferIds ≠ [] := by
      rwa [eq_ascending hascending hids, ne_eq, ascending_eq_nil_iff]
    refine ⟨hasSection_of_first?_eq_some hlist, t.bufferIds, t.buffers,
      ⟨list, hlist, eq_ascending hascending hids, hne'⟩,
      ⟨fun id hid => hcomplete id ((hids id).1 hid), hbuffers⟩, ?_⟩
    rw [← hpath, ← hcores, ← hsources]

lemma completeTrace_iff :
    (∃ list, CompleteTrace d list) ↔ ∃ t, TraceMetadata.ofDocument d path = .ok t := by
  simp only [exists_trace_iff, ← completeBuffer_iff]
  constructor
  · rintro ⟨list, hlist, hne, hbuffers⟩
    exact ⟨list, hlist, hne, hbuffers⟩
  · rintro ⟨list, hlist, hne, hbuffers⟩
    exact ⟨list, hlist, hne, hbuffers⟩

lemma TraceEnds.eq {r : Except Failure TraceMetadata} (h : TraceEnds d path r) :
    ((TraceMetadata.ofDocument d path).mapError fun defect =>
      .reported (defect.report d.source)) = r := by
  cases h with
  | missingSection hsection =>
    rw [traceUnfit_iff.1 (.missingSection (hasSection_eq_false_iff.2 hsection))]
    rfl
  | missingBuffers hsection hlist =>
    rw [traceUnfit_iff.1
      (.missingBuffers (hasSection_iff.2 hsection) (first?_eq_none_iff.2 hlist))]
    rfl
  | noBuffers hlist hempty =>
    rw [traceUnfit_iff.1 (.noBuffers hlist hempty)]
    rfl
  | buffer hlist hid hleast hbreaks =>
    obtain ⟨defect, hread, rfl⟩ := bufferBreaks_iff.1 hbreaks
    -- The ids are read in ascending order, so all that are read before this one are less.
    obtain ⟨before, after, hsplit⟩ := List.append_of_mem (mem_ascending.2 hid)
    have hbefore : ∀ other ∈ before, ∃ b, TraceMetadata.readBuffer d other = .ok b := by
      intro other hother
      obtain ⟨hmem, hlt⟩ := (mem_before_iff hsplit).1 hother
      exact completeBuffer_iff.1 (hleast other hmem hlt)
    rw [traceUnfit_iff.1 (.buffer hlist hsplit hbefore (bufferUnfit_iff.2 hread))]
    rfl
  | complete hcomplete htrace =>
    rw [trace_iff_traceOf.2 ⟨_, hcomplete, htrace⟩]
    rfl

lemma traceEnds_ofDocument (d : Document) (path : Text) :
    TraceEnds d path ((TraceMetadata.ofDocument d path).mapError fun defect =>
      .reported (defect.report d.source)) := by
  cases hresult : TraceMetadata.ofDocument d path with
  | ok t =>
    obtain ⟨list, hcomplete, htrace⟩ := trace_iff_traceOf.1 hresult
    exact .complete hcomplete htrace
  | error defect =>
    cases traceUnfit_iff.2 hresult with
    | missingSection hsection => exact .missingSection (hasSection_eq_false_iff.1 hsection)
    | missingBuffers hsection hlist =>
      exact .missingBuffers (hasSection_iff.1 hsection) (first?_eq_none_iff.1 hlist)
    | noBuffers hlist hempty => exact .noBuffers hlist hempty
    | @buffer list before id after _ hlist hsplit hread hunfit =>
      have hid : id ∈ CommaList.items list := by
        rw [← mem_ascending]
        exact mem_of_eq_append_cons hsplit
      refine .buffer hlist hid ?_ (bufferBreaks_iff.2 ⟨defect, bufferUnfit_iff.1 hunfit, rfl⟩)
      intro other hother hlt
      exact completeBuffer_iff.2 (hread other ((mem_before_iff hsplit).2 ⟨hother, hlt⟩))

lemma backslash_notMem_normalize (path : Text) : '\\' ∉ Path.normalize path := by
  intro h
  obtain ⟨c, -, hc⟩ := List.mem_map.1 h
  split at hc
  next => cases hc
  next hne => exact hne hc

lemma TraceOf.backslash_notMem {list : Text} {t : TraceMetadata} (h : TraceOf d path list t) :
    ∀ b ∈ t.buffers, ∀ file ∈ b.files, '\\' ∉ file := by
  have hbuffer : ∀ b id, BufferOf d id b → (∀ file ∈ b.files, '\\' ∉ file) ∧ BufferOf d id b := by
    intro b id hb
    refine ⟨?_, hb⟩
    obtain ⟨name, list, -, -, rfl⟩ := hb
    intro file hfile
    obtain ⟨item, -, rfl⟩ := List.mem_map.1 hfile
    exact backslash_notMem_normalize _
  exact ((List.forall₂_and_left _ _).1 (h.buffers.flip.imp hbuffer)).1

/-- Trace metadata is read from a file if and only if the file is complete, and then all of it as the
file has it, with no backslash in the name of a file. Otherwise the first broken rule is told, and
of the listed ids whose buffer is not complete the least one. -/
theorem trace_ofDocument_ends (d : Document) (path : Text) :
    let result := (TraceMetadata.ofDocument d path).mapError fun defect =>
      .reported (defect.report d.source)
    (∀ r, result = r ↔ TraceEnds d path r) ∧
    ((∃ t, result = .ok t) ↔ ∃ list, CompleteTrace d list) ∧
    ∀ t, result = .ok t → ∀ b ∈ t.buffers, ∀ file ∈ b.files, '\\' ∉ file := by
  intro result
  refine ⟨?_, ?_, ?_⟩
  · intro r
    constructor
    · rintro rfl
      exact traceEnds_ofDocument d path
    · exact TraceEnds.eq
  · simp only [result, mapError_eq_ok_iff]
    exact completeTrace_iff.symm
  · intro t ht
    obtain ⟨list, -, htrace⟩ := trace_iff_traceOf.1 (mapError_eq_ok_iff.1 ht)
    exact htrace.backslash_notMem

/-- The section of the list is itself a buffer that is listed. -/
def selfListedTrace : Document where
  source := ['t']
  sections :=
    ⟨[("trace_buffers".toList, [⟨"buffers".toList, ", trace_buffers".toList⟩,
      ⟨"name".toList, ['n']⟩, ⟨"file".toList, "x\\y,".toList⟩])], by decide⟩

theorem trace_ofDocument_ends_selfListed :
    ∃ t, TraceMetadata.ofDocument selfListedTrace ['t'] = .ok t ∧
      (∀ b ∈ t.buffers, ∀ file ∈ b.files, '\\' ∉ file) ∧
      t.buffers = [⟨"trace_buffers".toList, ['n'], ["x/y".toList], []⟩] := by
  have hread : TraceMetadata.ofDocument selfListedTrace ['t'] = .ok ⟨['t'],
      ["trace_buffers".toList], [⟨"trace_buffers".toList, ['n'], ["x/y".toList], []⟩], [], []⟩ := by
    apply eq_ok_of_toOption_eq_some
    cbv
  have hfiles := (trace_ofDocument_ends selfListedTrace ['t']).2.2 _ (mapError_eq_ok_iff.2 hread)
  exact ⟨_, hread, hfiles, rfl⟩

end TraceSnapshot.Proofs
