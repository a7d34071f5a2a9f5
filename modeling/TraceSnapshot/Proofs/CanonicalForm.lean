import TraceSnapshot.Proofs.DeclarationOrder
import TraceSnapshot.Proofs.ModelReading

/-!
# The canonical form

Putting a snapshot in order sorts each of its lists by a key and loses nothing of it, except for
trace buffers: of an id that is listed the last buffer stays, and the others go. All of it is done
at once, so what is in order already stays as it is.
-/

namespace TraceSnapshot.Proofs
open Ini (Document)

/-! ### Sorted lists -/

/-- The second parts of two keys count only if the first ones are equal. -/
def lexicographic {α β : Type} (first : α → α → Ordering) (second : β → β → Ordering)
    (a b : α × β) : Ordering := (first a.1 b.1).then (second a.2 b.2)

/-- The elements of a list in the order of their keys, with those of one key in the order of the
list. -/
structure StablySorted {α κ : Type} [DecidableEq κ] (order : κ → κ → Ordering) (key : α → κ)
    (xs ys : List α) : Prop extends ReorderedBy key xs ys where
  ascending : ys.Pairwise fun a b => (order (key a) (key b)).isLE

lemma stablySorted_sortBy {α κ : Type} [DecidableEq κ] {cmp : α → α → Ordering}
    [Std.TransCmp cmp] {order : κ → κ → Ordering} {key : α → κ}
    (horder : ∀ a b, cmp a b = order (key a) (key b))
    (hkey : ∀ a b, cmp a b = .eq ↔ key a = key b) (xs : List α) :
    StablySorted order key xs (sortBy cmp xs) where
  perm := (sortBy_perm cmp xs).symm
  same_key k := by
    refine (filter_sortBy_of_compare_eq ?_ xs).symm
    intro a b ha hb
    rw [hkey]
    exact (of_decide_eq_true ha).trans (of_decide_eq_true hb).symm
  ascending := by
    simp only [← horder]
    exact pairwise_sortBy xs

/-! Each comparison of the canonical order compares keys and nothing else. -/

lemma pair_compare_keys (a b : Text × Text) : comparePairs a b = compare a.1 b.1 := rfl

lemma register_compare_keys (a b : Register) : Register.compare a b =
    lexicographic compare (lexicographic IdKey.compare compare) (registerKey a) (registerKey b) :=
  rfl

lemma dump_compare_keys (a b : MemoryDump) : MemoryDump.compare a b =
    lexicographic compare compare (dumpKey a) (dumpKey b) := rfl

lemma device_compare_keys (a b : Device) : Device.compare a b =
    lexicographic compare compare (deviceKey a) (deviceKey b) := rfl

lemma pairwise_ascending (ts : List Text) :
    (Text.ascending ts).Pairwise fun a b => compare a b = .lt := by
  apply pairwise_lt_of_isLE (pairwise_sortBy _)
  have hnodup : (Text.ascending ts).Nodup := (sortBy_perm _ _).nodup_iff.2 (nodup_eraseDups ts)
  apply hnodup.imp
  intro a b hne heq
  exact hne (Std.LawfulEqCmp.eq_of_compare heq)

lemma nodup_of_ascending {ts : List Text} (h : ts.Pairwise fun a b => compare a b = .lt) :
    ts.Nodup := by
  apply h.imp
  rintro a _ hlt rfl
  simp at hlt

lemma nodup_ascending (ts : List Text) : (Text.ascending ts).Nodup :=
  nodup_of_ascending (pairwise_ascending ts)

lemma ascending_ascending (ts : List Text) : Text.ascending (Text.ascending ts) = Text.ascending ts :=
  ascending_congr fun _ => mem_ascending

/-! ### The last buffer of an id -/

section Buffers

variable {t : TraceMetadata} {id : Text} {b : TraceBuffer}

lemma id_of_buffer? (h : t.buffer? id = some b) : b ∈ t.buffers ∧ b.id = id := by
  have hmem := List.mem_filter.1 (List.mem_of_getLast? h)
  exact ⟨hmem.1, by simpa using hmem.2⟩

lemma isSome_buffer?_iff : (t.buffer? id).isSome ↔ id ∈ t.buffers.map TraceBuffer.id := by
  constructor
  · intro h
    obtain ⟨b, hb⟩ := Option.isSome_iff_exists.1 h
    obtain ⟨hmem, rfl⟩ := id_of_buffer? hb
    exact List.mem_map_of_mem hmem
  · intro h
    obtain ⟨b, hb, rfl⟩ := List.mem_map.1 h
    have hmem : b ∈ t.buffers.filter fun buffer => buffer.id == b.id :=
      List.mem_filter.2 ⟨hb, beq_self_eq_true _⟩
    unfold TraceMetadata.buffer?
    rw [List.getLast?_eq_some_getLast (List.ne_nil_of_mem hmem)]
    rfl

/-- The last of the buffers that have its id. -/
def LastOfId (buffers : List TraceBuffer) (b : TraceBuffer) : Prop :=
  ∃ earlier later, buffers = earlier ++ b :: later ∧ ∀ other ∈ later, other.id ≠ b.id

lemma lastOfId_of_buffer? (h : t.buffer? id = some b) : LastOfId t.buffers b := by
  obtain ⟨-, rfl⟩ := id_of_buffer? h
  obtain ⟨same, hsame⟩ := List.getLast?_eq_some_iff.1 h
  obtain ⟨front, back, hbuffers, -, hback⟩ := List.filter_eq_append_iff.1 hsame
  obtain ⟨between, later, rfl, -, -, hlater⟩ := List.filter_eq_cons_iff.1 hback
  refine ⟨front ++ between, later, ?_, ?_⟩
  · rw [hbuffers, List.append_assoc]
  · intro other hother hid
    have hfalse := List.filter_eq_nil_iff.1 hlater other hother
    simp [hid] at hfalse

/-- Where no two buffers have one id, each of them is the last of its id. -/
lemma buffer?_eq_some_iff (hnodup : (t.buffers.map TraceBuffer.id).Nodup) :
    t.buffer? id = some b ↔ b ∈ t.buffers ∧ b.id = id := by
  constructor
  · exact id_of_buffer?
  · rintro ⟨hb, rfl⟩
    obtain ⟨other, hother⟩ :=
      Option.isSome_iff_exists.1 (isSome_buffer?_iff.2 (List.mem_map_of_mem hb))
    obtain ⟨hmem, hid⟩ := id_of_buffer? hother
    rw [hother, List.inj_on_of_nodup_map hnodup hmem hb hid]

lemma map_id_filterMap_buffer? (t : TraceMetadata) (ids : List Text) :
    (ids.filterMap t.buffer?).map TraceBuffer.id =
      ids.filter fun id => id ∈ t.buffers.map TraceBuffer.id := by
  rw [List.map_filterMap, ← List.filterMap_eq_filter]
  apply List.filterMap_congr
  intro id _
  cases hb : t.buffer? id with
  | none =>
    have hnone : ¬ id ∈ t.buffers.map TraceBuffer.id := by simp [← isSome_buffer?_iff, hb]
    simp [Option.guard, hnone]
  | some b =>
    have hsome : id ∈ t.buffers.map TraceBuffer.id := by simp [← isSome_buffer?_iff, hb]
    simp [Option.guard, hsome, (id_of_buffer? hb).2]

/-- Buffers that follow their ids are not changed. -/
lemma filterMap_buffer?_eq_self (hnodup : (t.buffers.map TraceBuffer.id).Nodup) :
    (t.buffers.map TraceBuffer.id).filterMap t.buffer? = t.buffers := by
  have hself : ∀ b ∈ t.buffers, (t.buffer? ∘ TraceBuffer.id) b = some b := by
    intro b hb
    exact (buffer?_eq_some_iff hnodup).2 ⟨hb, rfl⟩
  rw [List.filterMap_map, List.filterMap_congr hself, List.filterMap_some]

end Buffers

/-! ### What becomes of a snapshot -/

/-- Nothing has changed but the order of the registers and dumps. -/
structure SortedDevice (d e : Device) : Prop where
  rest : e = { d with registers := e.registers, dumps := e.dumps }
  registers : StablySorted (lexicographic compare (lexicographic IdKey.compare compare)) registerKey
    d.registers e.registers
  dumps : StablySorted (lexicographic compare compare) dumpKey d.dumps e.dumps

/-- Nothing has changed but the order of the two lists. -/
structure SortedManifest (m n : Manifest) : Prop where
  rest : n = { m with deviceList := n.deviceList, clusters := n.clusters }
  deviceList : StablySorted compare Prod.fst m.deviceList n.deviceList
  clusters : StablySorted compare Prod.fst m.clusters n.clusters

/-- Every id is listed once, and for every listed id that a buffer has, the last such buffer
follows. -/
structure SortedTrace (t u : TraceMetadata) : Prop where
  path : u.path = t.path
  ids_ascending : u.bufferIds.Pairwise fun a b => compare a b = .lt
  ids : ∀ id, id ∈ u.bufferIds ↔ id ∈ t.bufferIds
  buffer_ids : u.buffers.map TraceBuffer.id =
    u.bufferIds.filter fun id => id ∈ t.buffers.map TraceBuffer.id
  last_buffers : ∀ b ∈ u.buffers, LastOfId t.buffers b
  coreTraceSources : StablySorted compare Prod.fst t.coreTraceSources u.coreTraceSources
  sourceBuffers : StablySorted compare Prod.fst t.sourceBuffers u.sourceBuffers

/-- Every part is sorted, and the devices are sorted by name and path as well. -/
structure SortedSnapshot (s s' : Snapshot) : Prop where
  directory : s'.directory = s.directory
  manifest : SortedManifest s.manifest s'.manifest
  devices : ∃ devices,
    StablySorted (lexicographic compare compare) deviceKey s.devices devices ∧
    List.Forall₂ SortedDevice devices s'.devices
  trace : Option.Rel SortedTrace s.trace s'.trace

lemma sortedDevice_canonical (d : Device) : SortedDevice d d.canonical where
  rest := rfl
  registers := stablySorted_sortBy register_compare_keys register_compare_eq_iff d.registers
  dumps := stablySorted_sortBy dump_compare_keys dump_compare_eq_iff d.dumps

lemma sortedManifest_canonical (m : Manifest) : SortedManifest m m.canonical where
  rest := rfl
  deviceList := stablySorted_sortBy pair_compare_keys pair_compare_eq_iff m.deviceList
  clusters := stablySorted_sortBy pair_compare_keys pair_compare_eq_iff m.clusters

lemma sortedTrace_canonical (t : TraceMetadata) : SortedTrace t t.canonical where
  path := rfl
  ids_ascending := pairwise_ascending t.bufferIds
  ids _ := mem_ascending
  buffer_ids := map_id_filterMap_buffer? t (Text.ascending t.bufferIds)
  last_buffers b hb := by
    obtain ⟨id, -, hbuffer⟩ := List.mem_filterMap.1 hb
    exact lastOfId_of_buffer? hbuffer
  coreTraceSources := stablySorted_sortBy pair_compare_keys pair_compare_eq_iff t.coreTraceSources
  sourceBuffers := stablySorted_sortBy pair_compare_keys pair_compare_eq_iff t.sourceBuffers

/-- A device keeps its name and path, so it does not matter whether the devices are sorted first
or put in order first. -/
lemma sortBy_map_canonical (devices : List Device) :
    sortBy Device.compare (devices.map Device.canonical) =
      (sortBy Device.compare devices).map Device.canonical := by
  have hkey : ∀ a ∈ devices, ∀ b ∈ devices, (Device.compare a b).isLE =
      (Device.compare a.canonical b.canonical).isLE := fun _ _ _ _ => rfl
  exact (List.map_mergeSort hkey).symm

lemma sortedSnapshot_canonical (s : Snapshot) : SortedSnapshot s s.canonical where
  directory := rfl
  manifest := sortedManifest_canonical s.manifest
  devices := by
    refine ⟨_, stablySorted_sortBy device_compare_keys device_compare_eq_iff s.devices, ?_⟩
    change List.Forall₂ _ _ (sortBy Device.compare (s.devices.map Device.canonical))
    rw [sortBy_map_canonical, List.forall₂_map_right_iff, List.forall₂_same]
    exact fun d _ => sortedDevice_canonical d
  trace := by
    change Option.Rel _ s.trace (s.trace.map TraceMetadata.canonical)
    cases s.trace with
    | none => exact .none
    | some t => exact .some (sortedTrace_canonical t)

/-- The ids and buffers of trace metadata are in order as soon as they are read. -/
lemma canonical_of_trace_ofDocument {d : Document} {path : Text} {t : TraceMetadata}
    (h : TraceMetadata.ofDocument d path = .ok t) :
    t.canonical.bufferIds = t.bufferIds ∧ t.canonical.buffers = t.buffers := by
  obtain ⟨-, ids, buffers, hids, hbuffers, rfl⟩ := trace_ofDocument_eq_ok_iff.1 h
  obtain ⟨list, -, rfl, -⟩ := readBufferIds_eq_ok_iff.1 hids
  have hmap := map_id_of_readBuffers hbuffers
  have hids := ascending_ascending (CommaList.items list)
  refine ⟨hids, ?_⟩
  unfold TraceMetadata.canonical
  dsimp only
  rw [hids, ← hmap]
  apply filterMap_buffer?_eq_self
  exact hmap ▸ nodup_ascending _

/-- Whatever a snapshot holds, its canonical form is sorted and complete, and trace metadata that
was read from a file keeps its ids and buffers. -/
theorem canonical_sorts_and_keeps (s : Snapshot) :
    SortedSnapshot s s.canonical ∧ ∀ d path t, TraceMetadata.ofDocument d path = .ok t →
      t.canonical.bufferIds = t.bufferIds ∧ t.canonical.buffers = t.buffers :=
  ⟨sortedSnapshot_canonical s, fun _ _ _ => canonical_of_trace_ofDocument⟩

/-- The section of the buffer that is listed last comes first, and one id is listed again. -/
def relistedBuffers : Document where
  source := ['t']
  sections :=
    ⟨[(['v'], [⟨"name".toList, ['q']⟩, ⟨"file".toList, ['h']⟩]),
      ("trace_buffers".toList, [⟨"buffers".toList, "v,u,v".toList⟩]),
      (['u'], [⟨"name".toList, ['p']⟩, ⟨"file".toList, ['g']⟩])], by decide⟩

theorem canonical_keeps_relistedBuffers :
    ∃ t, TraceMetadata.ofDocument relistedBuffers ['t'] = .ok t ∧
      t.canonical.bufferIds = t.bufferIds ∧ t.canonical.buffers = t.buffers ∧
      t.buffers = [⟨['u'], ['p'], [['g']], []⟩, ⟨['v'], ['q'], [['h']], []⟩] := by
  have hread : TraceMetadata.ofDocument relistedBuffers ['t'] = .ok ⟨['t'], [['u'], ['v']],
      [⟨['u'], ['p'], [['g']], []⟩, ⟨['v'], ['q'], [['h']], []⟩], [], []⟩ := by
    apply eq_ok_of_toOption_eq_some
    cbv
  obtain ⟨hids, hbuffers⟩ := (canonical_sorts_and_keeps (arranged id [['y']])).2 _ _ _ hread
  exact ⟨_, hread, hids, hbuffers, rfl⟩

/-! ### Once is enough -/

lemma device_canonical_canonical (d : Device) : d.canonical.canonical = d.canonical := by
  unfold Device.canonical
  dsimp only
  rw [sortBy_sortBy, sortBy_sortBy]

lemma manifest_canonical_canonical (m : Manifest) : m.canonical.canonical = m.canonical := by
  unfold Manifest.canonical
  dsimp only
  rw [sortBy_sortBy, sortBy_sortBy]

/-- Of a listed id the canonical form has the same last buffer, which is its only one. -/
lemma buffer?_canonical {t : TraceMetadata} {id : Text} (h : id ∈ Text.ascending t.bufferIds) :
    t.canonical.buffer? id = t.buffer? id := by
  have hnodup : (t.canonical.buffers.map TraceBuffer.id).Nodup := by
    rw [(sortedTrace_canonical t).buffer_ids]
    exact (nodup_ascending t.bufferIds).filter _
  apply Option.ext
  intro b
  rw [buffer?_eq_some_iff hnodup]
  constructor
  · rintro ⟨hb, rfl⟩
    obtain ⟨id, -, hbuffer⟩ := List.mem_filterMap.1 hb
    obtain ⟨-, rfl⟩ := id_of_buffer? hbuffer
    exact hbuffer
  · intro hbuffer
    exact ⟨List.mem_filterMap.2 ⟨id, h, hbuffer⟩, (id_of_buffer? hbuffer).2⟩

/-- Trace metadata that is in order stays as it is. -/
lemma trace_canonical_eq_self {t : TraceMetadata} (hids : Text.ascending t.bufferIds = t.bufferIds)
    (hbuffers : t.bufferIds.filterMap t.buffer? = t.buffers)
    (hcores : sortBy comparePairs t.coreTraceSources = t.coreTraceSources)
    (hsources : sortBy comparePairs t.sourceBuffers = t.sourceBuffers) : t.canonical = t := by
  unfold TraceMetadata.canonical
  dsimp only
  rw [hids, hbuffers, hcores, hsources]

lemma trace_canonical_canonical (t : TraceMetadata) : t.canonical.canonical = t.canonical := by
  apply trace_canonical_eq_self
  · exact ascending_ascending t.bufferIds
  · exact List.filterMap_congr fun id hid => buffer?_canonical hid
  · exact sortBy_sortBy t.coreTraceSources
  · exact sortBy_sortBy t.sourceBuffers

lemma snapshot_canonical_eq_self {s : Snapshot} (hmanifest : s.manifest.canonical = s.manifest)
    (hdevice : ∀ d ∈ s.devices, d.canonical = d) (hdevices : sortBy Device.compare s.devices = s.devices)
    (htrace : s.trace.map TraceMetadata.canonical = s.trace) : s.canonical = s := by
  unfold Snapshot.canonical
  rw [hmanifest, List.map_congr_left hdevice, List.map_id', hdevices, htrace]

/-- A snapshot in canonical form stays as it is. -/
theorem canonical_canonical (s : Snapshot) : s.canonical.canonical = s.canonical := by
  apply snapshot_canonical_eq_self
  · exact manifest_canonical_canonical s.manifest
  · intro d hd
    obtain ⟨declared, -, rfl⟩ := List.mem_map.1 (mem_sortBy.1 hd)
    exact device_canonical_canonical declared
  · exact sortBy_sortBy _
  · change (s.trace.map TraceMetadata.canonical).map TraceMetadata.canonical = _
    rw [Option.map_map]
    congr 1
    funext t
    exact trace_canonical_canonical t

end TraceSnapshot.Proofs
