import Mathlib
import TraceSnapshot.Proofs.OrderedMaps
import TraceSnapshot.Proofs.StableSorting

/-!
# Order of declaration

The canonical form of a snapshot depends on the order of a list only among elements of one key.
So all lists of a snapshot may be declared in another order at once, as long as such elements
are not exchanged with each other, and buffer ids may be repeated as well.
-/

namespace TraceSnapshot.Proofs

/-- The same elements, with those of one key in the same order. -/
structure ReorderedBy {α κ : Type} [DecidableEq κ] (key : α → κ) (xs ys : List α) : Prop where
  perm : xs.Perm ys
  same_key : ∀ k, xs.filter (fun a => key a = k) = ys.filter fun a => key a = k

namespace ReorderedBy

variable {α β κ : Type} [DecidableEq κ] {key : α → κ} {xs ys : List α}

lemma swap {a b : α} (h : key a ≠ key b) (xs : List α) :
    ReorderedBy key (a :: b :: xs) (b :: a :: xs) where
  perm := .swap b a xs
  same_key k := by
    by_cases ha : key a = k
    · have hb : key b ≠ k := fun hb => h (ha.trans hb.symm)
      simp [ha, hb]
    · simp [List.filter_cons, ha]

lemma map {f : α → β} {key' : β → κ} (h : ReorderedBy key xs ys) (hkey : ∀ a, key' (f a) = key a) :
    ReorderedBy key' (xs.map f) (ys.map f) where
  perm := h.perm.map f
  same_key k := by
    have hfilter : ∀ zs : List α, (zs.map f).filter (fun b => key' b = k) =
        (zs.filter fun a => key a = k).map f := by
      intro zs
      rw [List.filter_map]
      simp only [Function.comp_def, hkey]
    rw [hfilter, hfilter, h.same_key]

/-- Sorting forgets the order of declaration if it compares no more than the keys. -/
theorem sortBy_eq {cmp : α → α → Ordering} [Std.TransCmp cmp]
    (hcmp : ∀ a b, cmp a b = .eq ↔ key a = key b) (h : ReorderedBy key xs ys) :
    sortBy cmp ys = sortBy cmp xs := by
  apply sortBy_eq_of_filter_eq
  intro a
  simpa only [hcmp, eq_comm (a := key a)] using (h.same_key (key a)).symm

end ReorderedBy

/-! ### Keys -/

def deviceKey (d : Device) : Text × Text := (d.name, d.iniPath)

def registerKey (r : Register) : Text × IdKey × Int := (r.name, r.idKey, r.order)

def dumpKey (m : MemoryDump) : Text × Nat := (m.sectionName, m.addressValue)

lemma device_compare_eq_iff (a b : Device) :
    Device.compare a b = .eq ↔ deviceKey a = deviceKey b := by
  simp [Device.compare, deviceKey, Ordering.then_eq_eq]

lemma register_compare_eq_iff (a b : Register) :
    Register.compare a b = .eq ↔ registerKey a = registerKey b := by
  simp [Register.compare, registerKey, Ordering.then_eq_eq]

lemma dump_compare_eq_iff (a b : MemoryDump) :
    MemoryDump.compare a b = .eq ↔ dumpKey a = dumpKey b := by
  simp [MemoryDump.compare, dumpKey, Ordering.then_eq_eq]

lemma pair_compare_eq_iff (a b : Text × Text) : comparePairs a b = .eq ↔ a.1 = b.1 := by
  simp [comparePairs]

/-! ### Snapshots declared in another order -/

structure RedeclaredDevice (d e : Device) : Prop where
  rest : e = { d with registers := e.registers, dumps := e.dumps }
  registers : ReorderedBy registerKey d.registers e.registers
  dumps : ReorderedBy dumpKey d.dumps e.dumps

structure RedeclaredManifest (m n : Manifest) : Prop where
  rest : n = { m with deviceList := n.deviceList, clusters := n.clusters }
  deviceList : ReorderedBy Prod.fst m.deviceList n.deviceList
  clusters : ReorderedBy Prod.fst m.clusters n.clusters

/-- The ids of the buffers may be repeated as well. -/
structure RedeclaredTrace (t u : TraceMetadata) : Prop where
  path : u.path = t.path
  bufferIds : ∀ id, id ∈ u.bufferIds ↔ id ∈ t.bufferIds
  buffers : ReorderedBy TraceBuffer.id t.buffers u.buffers
  coreTraceSources : ReorderedBy Prod.fst t.coreTraceSources u.coreTraceSources
  sourceBuffers : ReorderedBy Prod.fst t.sourceBuffers u.sourceBuffers

/-- The devices change places, and each of them is declared in another order itself. -/
structure Redeclared (s s' : Snapshot) : Prop where
  directory : s'.directory = s.directory
  manifest : RedeclaredManifest s.manifest s'.manifest
  devices : ∃ devices, ReorderedBy deviceKey s.devices devices ∧
    List.Forall₂ RedeclaredDevice devices s'.devices
  trace : Option.Rel RedeclaredTrace s.trace s'.trace

lemma RedeclaredDevice.canonical_eq {d e : Device} (h : RedeclaredDevice d e) :
    e.canonical = d.canonical := by
  rw [h.rest]
  unfold Device.canonical
  dsimp only
  rw [h.registers.sortBy_eq register_compare_eq_iff, h.dumps.sortBy_eq dump_compare_eq_iff]

lemma map_canonical_eq {devices devices' : List Device}
    (h : List.Forall₂ RedeclaredDevice devices devices') :
    devices'.map Device.canonical = devices.map Device.canonical := by
  induction h with
  | nil => rfl
  | cons hdevice _ ih => rw [List.map_cons, List.map_cons, hdevice.canonical_eq, ih]

lemma RedeclaredManifest.canonical_eq {m n : Manifest} (h : RedeclaredManifest m n) :
    n.canonical = m.canonical := by
  rw [h.rest]
  unfold Manifest.canonical
  dsimp only
  rw [h.deviceList.sortBy_eq pair_compare_eq_iff, h.clusters.sortBy_eq pair_compare_eq_iff]

lemma ascending_congr {ts us : List Text} (h : ∀ t, t ∈ us ↔ t ∈ ts) :
    Text.ascending us = Text.ascending ts := by
  apply sortBy_eq_of_perm
  · rw [List.perm_ext_iff_of_nodup (nodup_eraseDups us) (nodup_eraseDups ts)]
    simpa using h
  · intro a _ b _ hab
    exact Std.LawfulEqCmp.eq_of_compare hab

lemma RedeclaredTrace.buffer?_eq {t u : TraceMetadata} (h : RedeclaredTrace t u) :
    u.buffer? = t.buffer? := by
  funext id
  have hsame := h.buffers.same_key id
  unfold TraceMetadata.buffer?
  simp only [beq_eq_decide, hsame]

lemma RedeclaredTrace.canonical_eq {t u : TraceMetadata} (h : RedeclaredTrace t u) :
    u.canonical = t.canonical := by
  unfold TraceMetadata.canonical
  dsimp only
  rw [h.path, h.buffer?_eq, ascending_congr h.bufferIds,
    h.coreTraceSources.sortBy_eq pair_compare_eq_iff,
    h.sourceBuffers.sortBy_eq pair_compare_eq_iff]

/-- The order of declaration does not show in the canonical form. -/
theorem canonical_eq_of_redeclared {s s' : Snapshot} (h : Redeclared s s') :
    s'.canonical = s.canonical := by
  obtain ⟨devices, hmoved, hdevices⟩ := h.devices
  have hsorted : sortBy Device.compare (s'.devices.map Device.canonical) =
      sortBy Device.compare (s.devices.map Device.canonical) := by
    -- Putting a device in order leaves its key alone, so the devices stay reordered by it.
    have hkey : ∀ d : Device, deviceKey d.canonical = deviceKey d := fun _ => rfl
    rw [map_canonical_eq hdevices]
    exact (hmoved.map hkey).sortBy_eq device_compare_eq_iff
  have htrace : s'.trace.map TraceMetadata.canonical = s.trace.map TraceMetadata.canonical := by
    have hrel := h.trace
    generalize s.trace = trace, s'.trace = trace' at hrel
    cases hrel with
    | some ht => exact congrArg some ht.canonical_eq
    | none => rfl
  unfold Snapshot.canonical
  rw [h.directory, h.manifest.canonical_eq, hsorted, htrace]

/-- The first two elements change places. -/
def exchanged {α : Type} : List α → List α
  | a :: b :: rest => b :: a :: rest
  | xs => xs

def twoRegistersAndDumps (arrange : {α : Type} → List α → List α) (name : Text) : Device where
  name
  iniPath := name
  className := []
  typeName := []
  location := []
  registers := arrange [⟨['s'], ['1'], none, none, none, 0⟩, ⟨['r'], ['2'], none, none, none, 1⟩]
  dumps := arrange [⟨"dump".toList, ['g'], ['2'], 2, [], [], []⟩,
    ⟨"dump".toList, ['f'], ['1'], 1, [], [], []⟩]

/-- A snapshot with an arrangement of all of its lists. Some lists give a key again. -/
def arranged (arrange : {α : Type} → List α → List α) (ids : List Text) : Snapshot where
  directory := ['s']
  manifest := {
    version := ['1']
    description := []
    deviceList := arrange [(['b'], ['q']), (['a'], ['p']), (['b'], ['r'])]
    clusters := arrange [(['y'], ['b']), (['x'], ['a'])]
    traceMetadata := ['t'] }
  devices := arrange [twoRegistersAndDumps arrange ['b'], twoRegistersAndDumps arrange ['a']]
  trace := some {
    path := ['t']
    bufferIds := ids
    buffers := arrange
      [⟨['y'], [], [['f']], []⟩, ⟨['x'], [], [['g']], []⟩, ⟨['y'], [], [['h']], []⟩]
    coreTraceSources := arrange [(['c'], ['1']), (['b'], ['2'])]
    sourceBuffers := arrange [(['2'], ['y']), (['1'], ['x'])] }

lemma redeclared_twoRegistersAndDumps (name : Text) :
    RedeclaredDevice (twoRegistersAndDumps id name) (twoRegistersAndDumps exchanged name) where
  rest := rfl
  registers := .swap (by decide) []
  dumps := .swap (by decide) []

theorem canonical_eq_of_exchanged :
    Redeclared (arranged id [['y'], ['x']]) (arranged exchanged [['x'], ['y'], ['x']]) ∧
      arranged exchanged [['x'], ['y'], ['x']] ≠ arranged id [['y'], ['x']] ∧
      (arranged exchanged [['x'], ['y'], ['x']]).canonical =
        (arranged id [['y'], ['x']]).canonical := by
  have hredeclared :
      Redeclared (arranged id [['y'], ['x']]) (arranged exchanged [['x'], ['y'], ['x']]) := {
    directory := rfl
    manifest := ⟨rfl, .swap (by decide) _, .swap (by decide) _⟩
    devices := by
      refine ⟨_, .swap (by decide) [], ?_⟩
      exact .cons (redeclared_twoRegistersAndDumps ['a'])
        (.cons (redeclared_twoRegistersAndDumps ['b']) .nil)
    trace := by
      refine .some ⟨rfl, ?_, .swap (by decide) _, .swap (by decide) _, .swap (by decide) _⟩
      simp [or_comm] }
  exact ⟨hredeclared, by decide, canonical_eq_of_redeclared hredeclared⟩

end TraceSnapshot.Proofs
