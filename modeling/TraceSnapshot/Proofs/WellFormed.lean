import Mathlib
import TraceSnapshot.Proofs.Arrangement
import TraceSnapshot.Proofs.CanonicalForm
import TraceSnapshot.Proofs.CompleteDevices
import TraceSnapshot.Proofs.FirstFailure
import TraceSnapshot.Proofs.Numerals
import TraceSnapshot.Proofs.OrderedMaps

/-!
# Well-formed snapshots

Each stage of loading contributes to the form of a snapshot: the readers see to numbers, names
and paths, and the canonical order to the order of everything. Nothing of it rests on the
validator.
-/

namespace TraceSnapshot.Proofs
open Ini (Document Entry)

/-! ### Devices -/

structure WellFormedDevice (d : Device) : Prop where
  registers_ascending : d.registers.Pairwise fun a b => Register.compare a b = .lt
  orders : (d.registers.map Register.order).Perm
    ((List.range d.registers.length).map fun position : Nat => (position : Int))
  no_id_number : ∀ r ∈ d.registers, r.id = none → r.idNumber = none
  id_number : ∀ r ∈ d.registers, ∀ id, r.id = some id → Unsigned.read id = .ok r.idNumber
  dump_name : ∀ m ∈ d.dumps, Device.isDumpName m.sectionName
  dumps_ascending : d.dumps.Pairwise fun a b => compare a.sectionName b.sectionName = .lt
  address : ∀ m ∈ d.dumps, Unsigned.read m.address = .ok (some m.addressValue)
  address_lt : ∀ m ∈ d.dumps, m.addressValue < 2 ^ 64

lemma lt_of_read_eq_some {t : Text} {n : Nat} (h : Unsigned.read t = .ok (some n)) :
    n < 2 ^ 64 := by
  have hreads := readsAs_read t
  rw [h] at hreads
  cases hreads with
  | number _ _ hvalue => omega

lemma map_order_numbered (rs : List Register) (first : Nat) :
    (numbered first rs).map Register.order =
      (List.range' first rs.length).map fun position : Nat => (position : Int) := by
  induction rs generalizing first with
  | nil => rfl
  | cons r rs ih =>
    rw [numbered, List.map_cons, ih, List.length_cons, List.range'_succ, List.map_cons]

lemma map_order_of_readRegisters {d : Document} {registers : List Register}
    (h : Device.readRegisters d = .ok registers) : registers.map Register.order =
      (List.range registers.length).map fun position : Nat => (position : Int) := by
  rw [readRegisters_eq_ok_iff, ofEntries_eq, map_eq_ok_iff] at h
  obtain ⟨rs, -, rfl⟩ := h
  have horder := map_order_numbered rs 0
  have hlength := congrArg List.length horder
  simp only [List.length_map, List.length_range'] at hlength
  rw [horder, hlength, List.range_eq_range']

lemma readIdNumber_of_readRegisters {d : Document} {registers : List Register}
    (h : Device.readRegisters d = .ok registers) :
    ∀ r ∈ registers, readIdNumber r.id = .ok r.idNumber := by
  intro r hr
  obtain ⟨e, -, position, hread⟩ :=
    exists_entry_of_mem_ofEntries (readRegisters_eq_ok_iff.1 h) hr
  rw [ofEntry_eq, map_eq_ok_iff] at hread
  obtain ⟨number, hnumber, rfl⟩ := hread
  exact hnumber

lemma registers_ascending_of_nodup {registers : List Register}
    (h : (registers.map Register.order).Nodup) :
    (sortBy Register.compare registers).Pairwise fun a b => Register.compare a b = .lt := by
  apply pairwise_lt_of_isLE (pairwise_sortBy registers)
  have hsorted : ((sortBy Register.compare registers).map Register.order).Nodup :=
    ((sortBy_perm _ registers).map Register.order).nodup_iff.2 h
  apply (List.pairwise_map.1 hsorted).imp
  intro a b hne heq
  rw [register_compare_eq, Ordering.then_eq_eq] at heq
  exact hne (Std.LawfulEqCmp.eq_of_compare heq.2)

lemma map_sectionName_of_readDumps {d : Document} {path : Text} {dumps : List MemoryDump}
    (h : Device.readDumps d path = .ok dumps) :
    dumps.map MemoryDump.sectionName = d.names.filter Device.isDumpName := by
  have hkept := map_eq_of_mapM (fun _ _ hread => sectionName_of_readDump hread) h
  rw [hkept]
  exact List.map_id _

lemma dumps_ascending_of_nodup {dumps : List MemoryDump}
    (h : (dumps.map MemoryDump.sectionName).Nodup) :
    (sortBy MemoryDump.compare dumps).Pairwise fun a b =>
      compare a.sectionName b.sectionName = .lt := by
  apply pairwise_lt_of_isLE
  · apply (pairwise_sortBy dumps).imp
    intro a b hab
    exact Ordering.isLE_left_of_isLE_then hab
  · have hsorted : ((sortBy MemoryDump.compare dumps).map MemoryDump.sectionName).Nodup :=
      ((sortBy_perm _ dumps).map MemoryDump.sectionName).nodup_iff.2 h
    apply (List.pairwise_map.1 hsorted).imp
    intro a b hne heq
    exact hne (Std.LawfulEqCmp.eq_of_compare heq)

lemma address_of_readDump {d : Document} {path name : Text} {m : MemoryDump}
    (h : Device.readDump d path name = .ok m) :
    Unsigned.read m.address = .ok (some m.addressValue) := by
  obtain ⟨file, address, number, -, -, hnumber, rfl⟩ := dumpOf_of_readDump h
  exact hnumber

/-- Putting a device in order needs its registers numbered and its dumps told apart. -/
lemma wellFormedDevice_canonical {dev : Device}
    (horders : dev.registers.map Register.order =
      (List.range dev.registers.length).map fun position : Nat => (position : Int))
    (hnumber : ∀ r ∈ dev.registers, readIdNumber r.id = .ok r.idNumber)
    (hnames : (dev.dumps.map MemoryDump.sectionName).Nodup)
    (hdump : ∀ m ∈ dev.dumps, Device.isDumpName m.sectionName)
    (haddress : ∀ m ∈ dev.dumps, Unsigned.read m.address = .ok (some m.addressValue)) :
    WellFormedDevice dev.canonical where
  registers_ascending := by
    apply registers_ascending_of_nodup
    rw [horders]
    exact List.nodup_range.map Nat.cast_injective
  orders := by
    have hperm : dev.canonical.registers.Perm dev.registers := sortBy_perm _ _
    rw [hperm.length_eq, ← horders]
    exact hperm.map Register.order
  no_id_number r hr hid := by
    have hread := hnumber r (mem_sortBy.1 hr)
    rw [hid] at hread
    exact (Except.ok.inj hread).symm
  id_number r hr id hid := by
    have hread := hnumber r (mem_sortBy.1 hr)
    rwa [hid] at hread
  dump_name m hm := hdump m (mem_sortBy.1 hm)
  dumps_ascending := dumps_ascending_of_nodup hnames
  address m hm := haddress m (mem_sortBy.1 hm)
  address_lt m hm := lt_of_read_eq_some (haddress m (mem_sortBy.1 hm))

theorem wellFormedDevice_of_ofDocument {d : Document} {path : Text} {dev : Device}
    (h : Device.ofDocument d path = .ok dev) : WellFormedDevice dev.canonical := by
  obtain ⟨-, name, registers, dumps, -, hregisters, hdumps, rfl⟩ :=
    device_ofDocument_eq_ok_iff.1 h
  have hnames := map_sectionName_of_readDumps hdumps
  have hnodup : (dumps.map MemoryDump.sectionName).Nodup := by
    rw [hnames]
    exact (nodup_names d).filter _
  have hdump : ∀ m ∈ dumps, Device.isDumpName m.sectionName := by
    intro m hm
    have hmem := List.mem_map_of_mem (f := MemoryDump.sectionName) hm
    rw [hnames] at hmem
    exact (List.mem_filter.1 hmem).2
  have haddress : ∀ m ∈ dumps, Unsigned.read m.address = .ok (some m.addressValue) := by
    intro m hm
    obtain ⟨_, -, hread⟩ := exists_of_mem_mapM hdumps hm
    exact address_of_readDump hread
  exact wellFormedDevice_canonical (map_order_of_readRegisters hregisters)
    (readIdNumber_of_readRegisters hregisters) hnodup hdump haddress

/-! ### Trace metadata -/

structure WellFormedTrace (t : TraceMetadata) : Prop where
  ids_nonempty : t.bufferIds ≠ []
  ids_ascending : t.bufferIds.Pairwise fun a b => compare a b = .lt
  buffers : t.buffers.map TraceBuffer.id = t.bufferIds
  files_nonempty : ∀ b ∈ t.buffers, b.files ≠ []
  coreTraceSources_ascending : t.coreTraceSources.Pairwise fun a b => (comparePairs a b).isLE
  sourceBuffers_ascending : t.sourceBuffers.Pairwise fun a b => (comparePairs a b).isLE

theorem wellFormedTrace_of_ofDocument {d : Document} {path : Text} {t : TraceMetadata}
    (h : TraceMetadata.ofDocument d path = .ok t) : WellFormedTrace t.canonical := by
  obtain ⟨-, ids, buffers, hids, hbuffers, rfl⟩ := trace_ofDocument_eq_ok_iff.1 h
  obtain ⟨list, -, -, hne⟩ := readBufferIds_eq_ok_iff.1 hids
  obtain ⟨hids', hbuffers'⟩ := canonical_of_trace_ofDocument h
  refine
    { ids_nonempty := ?_
      ids_ascending := pairwise_ascending _
      buffers := ?_
      files_nonempty := ?_
      coreTraceSources_ascending := pairwise_sortBy _
      sourceBuffers_ascending := pairwise_sortBy _ }
  · rw [hids']
    exact hne
  · rw [hids', hbuffers']
    exact map_id_of_readBuffers hbuffers
  · intro b hb
    rw [hbuffers'] at hb
    obtain ⟨_, -, hread⟩ := exists_of_mem_mapM hbuffers hb
    obtain ⟨-, _, _, -, -, hfiles, rfl⟩ := readBuffer_eq_ok_iff.1 hread
    exact hfiles

/-! ### Snapshots -/

/-- The form of a snapshot in canonical order. -/
structure WellFormed (s : Snapshot) : Prop where
  version_nonempty : s.manifest.version ≠ []
  deviceList_ascending : s.manifest.deviceList.Pairwise fun a b => (comparePairs a b).isLE
  clusters_ascending : s.manifest.clusters.Pairwise fun a b => (comparePairs a b).isLE
  device_count : s.devices.length = s.manifest.deviceList.length
  device_paths : (s.devices.map Device.iniPath).Perm
    (s.manifest.deviceList.map fun pair => Path.normalize pair.2)
  devices_ascending : s.devices.Pairwise fun a b => (Device.compare a b).isLE
  device : ∀ d ∈ s.devices, WellFormedDevice d
  trace_path : s.trace.map TraceMetadata.path = s.manifest.traceMetadata
  trace : ∀ t, s.trace = some t → WellFormedTrace t

lemma iniPath_of_readDevice {p : SnapshotPlace} {files : Files} {path : Text} {dev : Device}
    (h : p.readDevice files path = .ok dev) : dev.iniPath = Path.normalize path := by
  obtain ⟨d, -, hdevice⟩ := readDevice_eq_ok_iff.1 h
  obtain ⟨-, _, _, _, -, -, -, rfl⟩ := device_ofDocument_eq_ok_iff.1 hdevice
  rfl

lemma path_of_readTrace {p : SnapshotPlace} {files : Files} {path : Text} {t : TraceMetadata}
    (h : p.readTrace files path = .ok t) : t.path = path := by
  obtain ⟨d, -, htrace⟩ := readTrace_eq_ok_iff.1 h
  obtain ⟨-, _, _, -, -, rfl⟩ := trace_ofDocument_eq_ok_iff.1 htrace
  rfl

lemma version_nonempty_of_readManifest {p : SnapshotPlace} {files : Files} {m : Manifest}
    (h : p.readManifest files = .ok m) : m.version ≠ [] := by
  obtain ⟨d, -, hm⟩ := readManifest_eq_ok_iff.1 h
  obtain ⟨-, _, _, -, hne, -, -, rfl⟩ := manifest_ofDocument_eq_ok_iff.1 hm
  exact hne

lemma wellFormed_canonical_of_assemble {p : SnapshotPlace} {files : Files} {m : Manifest}
    {s : Snapshot} (hversion : m.version ≠ []) (h : p.assemble files m = .ok s) :
    WellFormed s.canonical := by
  obtain ⟨devices, trace, hdevices, htrace, rfl⟩ := assemble_eq_ok_iff.1 h
  have hcanonical : (sortBy Device.compare (devices.map Device.canonical)).Perm
      (devices.map Device.canonical) := sortBy_perm _ _
  have hlist : (sortBy comparePairs m.deviceList).Perm m.deviceList := sortBy_perm _ _
  have hpaths : devices.map Device.iniPath = m.deviceList.map fun pair => Path.normalize pair.2 :=
    map_eq_of_mapM (fun _ _ hread => iniPath_of_readDevice hread) hdevices
  refine
    { version_nonempty := hversion
      deviceList_ascending := pairwise_sortBy _
      clusters_ascending := pairwise_sortBy _
      device_count := ?_
      device_paths := ?_
      devices_ascending := pairwise_sortBy _
      device := ?_
      trace_path := ?_
      trace := ?_ }
  · have hlength := congrArg List.length hpaths
    simp only [List.length_map] at hlength
    calc (sortBy Device.compare (devices.map Device.canonical)).length
        = (devices.map Device.canonical).length := hcanonical.length_eq
      _ = devices.length := List.length_map _
      _ = m.deviceList.length := hlength
      _ = (sortBy comparePairs m.deviceList).length := hlist.length_eq.symm
  · have hkept : (devices.map Device.canonical).map Device.iniPath = devices.map Device.iniPath :=
      List.map_map
    have hleft := hcanonical.map Device.iniPath
    rw [hkept, hpaths] at hleft
    exact hleft.trans (hlist.map _).symm
  · intro dev hdev
    obtain ⟨built, hbuilt, rfl⟩ := List.mem_map.1 (mem_sortBy.1 hdev)
    obtain ⟨pair, -, hread⟩ := exists_of_mem_mapM hdevices hbuilt
    obtain ⟨d, -, hdevice⟩ := readDevice_eq_ok_iff.1 hread
    exact wellFormedDevice_of_ofDocument hdevice
  · rcases optionMapM_eq_ok_iff.1 htrace with ⟨hnone, rfl⟩ | ⟨path, t, hpath, rfl, hread⟩
    · exact hnone.symm
    · exact (congrArg some (path_of_readTrace hread)).trans hpath.symm
  · intro t ht
    rcases optionMapM_eq_ok_iff.1 htrace with ⟨-, rfl⟩ | ⟨path, built, -, rfl, hread⟩
    · cases ht
    · cases ht
      obtain ⟨d, -, hbuilt⟩ := readTrace_eq_ok_iff.1 hread
      exact wellFormedTrace_of_ofDocument hbuilt

/-- Whatever the files hold and whatever the validator accepts, every snapshot that is loaded
is well formed. -/
theorem wellFormed_of_load {r : Request} {configured : Text} {files : Files}
    {validator : Validator} {s : Snapshot}
    (h : (r.load configured files validator).result = .ok s) : WellFormed s := by
  obtain ⟨separator, -, h⟩ := request_load_eq_ok_iff.1 h
  obtain ⟨m, built, hm, -, hbuilt, rfl⟩ := load_eq_ok_iff.1 h
  exact wellFormed_canonical_of_assemble (version_nonempty_of_readManifest hm) hbuilt

/-- A snapshot with two devices, registers of one name, a memory dump and trace. -/
def tracedFiles : Files :=
  (diskOf [("snapshot.ini",
      "[snapshot]\nversion=1\n[device_list]\nb=y\na=x\n[trace]\nmetadata=t\n"),
    ("x", "[device]\nname=n\n[regs]\nr(id:0x10)=1\nr(9)=2\nr=3\n"),
    ("y", "[device]\nname=m\n[dump1]\nfile=f\naddress=0x10\n"),
    ("t", "[trace_buffers]\nbuffers=u,v,u\n[u]\nname=p\nfile=g\n[v]\nname=q\nfile=h,i\n")]).read

def tracedSnapshot : Snapshot where
  directory := []
  manifest := ⟨['1'], [], [(['a'], ['x']), (['b'], ['y'])], [], some ['t']⟩
  devices :=
    [⟨['m'], ['y'], [], [], [], [], [⟨"dump1".toList, ['f'], "0x10".toList, 16, [], [], []⟩]⟩,
      ⟨['n'], ['x'], [], [], [],
        [⟨['r'], ['3'], none, none, none, 2⟩, ⟨['r'], ['2'], some ['9'], some 9, none, 1⟩,
          ⟨['r'], ['1'], some "0x10".toList, some 16, none, 0⟩], []⟩]
  trace := some ⟨['t'], [['u'], ['v']],
    [⟨['u'], ['p'], [['g']], []⟩, ⟨['v'], ['q'], [['h'], ['i']], []⟩], [], []⟩

theorem wellFormed_tracedSnapshot :
    (Request.load ⟨[], none⟩ [] tracedFiles Validator.acceptAll).result = .ok tracedSnapshot ∧
      WellFormed tracedSnapshot := by
  have hload : (Request.load ⟨[], none⟩ [] tracedFiles Validator.acceptAll).result =
      .ok tracedSnapshot := by
    apply eq_ok_of_toOption_eq_some
    cbv
  exact ⟨hload, wellFormed_of_load hload⟩

end TraceSnapshot.Proofs
