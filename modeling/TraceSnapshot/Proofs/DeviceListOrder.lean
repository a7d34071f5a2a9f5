import Mathlib
import TraceSnapshot.Proofs.AllOrNothing
import TraceSnapshot.Proofs.Arrangement

/-!
# The order of the device list

A manifest may list its devices in any order. The dump has them in the order of their names and
then of their paths, so the order of the list goes unseen as long as devices of one name and
path are written alike. The same path with two kinds of slashes may lead to two files, and then
it does not: such devices stay as they are listed.
-/

namespace TraceSnapshot.Proofs
open Ini (Document Entry Fault Line)

/-! ### Documents -/

/-- Two manifests that differ only in the order of their device lists. No key is listed twice. -/
structure Relisted (e e' : Document) : Prop where
  names : ∀ name, name ∈ e.names ↔ name ∈ e'.names
  entries : ∀ name, name ≠ "device_list".toList → e.entries name = e'.entries name
  listed : (e.entries "device_list".toList).Perm (e'.entries "device_list".toList)
  distinct : ((e.entries "device_list".toList).map Entry.key).Nodup

/-- Two documents that devices and trace metadata cannot tell apart. -/
structure Alike (e e' : Document) : Prop where
  names : ∀ name, name ∈ e.names ↔ name ∈ e'.names
  values : ∀ name key, e.values name key = e'.values name key
  entries : ∀ name, name ≠ "device_list".toList → e.entries name = e'.entries name

lemma Alike.refl (e : Document) : Alike e e :=
  ⟨fun _ => Iff.rfl, fun _ _ => rfl, fun _ _ => rfl⟩

/-- Of distinct keys each has one value at most, wherever it stands. -/
lemma filter_key_eq_of_perm {es es' : List Entry} (hperm : es.Perm es')
    (hdistinct : (es.map Entry.key).Nodup) (key : Text) :
    es.filter (fun e => e.key == key) = es'.filter fun e => e.key == key := by
  have hfiltered := hperm.filter fun e : Entry => e.key == key
  have hlength : (es.filter fun e => e.key == key).length ≤ 1 := by
    by_contra hlong
    have hnodup := hdistinct.sublist ((List.filter_sublist (p := fun e => e.key == key)).map _)
    have hsame : ∀ k ∈ (es.filter fun e => e.key == key).map Entry.key, k = key := by
      intro k hk
      obtain ⟨e, he, rfl⟩ := List.mem_map.1 hk
      simpa using (List.mem_filter.1 he).2
    rw [List.eq_replicate_of_mem hsame, List.nodup_replicate, List.length_map] at hnodup
    exact hlong hnodup
  generalize es.filter (fun e => e.key == key) = kept at hfiltered hlength ⊢
  match kept, hlength with
  | [], _ => exact (List.nil_perm.1 hfiltered).symm
  | [e], _ => exact (List.perm_singleton.1 hfiltered.symm).symm

lemma Relisted.alike {e e' : Document} (h : Relisted e e') : Alike e e' where
  names := h.names
  values name key := by
    unfold Document.values
    by_cases hname : name = "device_list".toList
    · rw [hname, filter_key_eq_of_perm h.listed h.distinct]
    · rw [h.entries name hname]
  entries := h.entries

lemma Alike.hasSection {e e' : Document} (h : Alike e e') (name : Text) :
    e.hasSection name = e'.hasSection name := by
  rw [Bool.eq_iff_iff, hasSection_iff, hasSection_iff]
  exact h.names name

lemma Alike.rearranged {e e' : Document} (h : Alike e e') : Rearranged e e' where
  device := h.hasSection _
  device_values key _ := h.values _ _
  dump name _ := h.names name
  dump_values name _ _ key _ := h.values _ _
  registers := by
    rw [h.entries "regs".toList (by decide)]
    exact ⟨.refl _, fun _ => rfl⟩

lemma readBuffer_of_alike {e e' : Document} (h : Alike e e') :
    TraceMetadata.readBuffer e = TraceMetadata.readBuffer e' := by
  funext id
  exact readBuffer_congr (h.hasSection id) fun key _ => last?_congr (h.values id key.toList)

lemma trace_ofDocument_of_alike {e e' : Document} (h : Alike e e') (path : Text) :
    TraceMetadata.ofDocument e path = TraceMetadata.ofDocument e' path := by
  have hids : TraceMetadata.readBufferIds e path = TraceMetadata.readBufferIds e' path := by
    unfold TraceMetadata.readBufferIds Document.first?
    rw [h.values]
  unfold TraceMetadata.ofDocument TraceMetadata.listPairs Document.pairs
  rw [h.hasSection, hids, readBuffer_of_alike h, h.entries "core_trace_sources".toList (by decide),
    h.entries "source_buffers".toList (by decide)]

/-- Two manifests with the same content, listed in another order. -/
structure SameListing (m m' : Manifest) : Prop where
  listed : m.deviceList.Perm m'.deviceList
  distinct : (m.deviceList.map Prod.fst).Nodup
  rest : m' = { m with deviceList := m'.deviceList }

lemma manifest_ofDocument_of_relisted {e e' : Document} {m : Manifest} (h : Relisted e e')
    (hm : Manifest.ofDocument e = .ok m) :
    ∃ m', Manifest.ofDocument e' = .ok m' ∧ SameListing m m' := by
  obtain ⟨hsection, version, description, hversion, hne, hdescription, hlist, rfl⟩ :=
    manifest_ofDocument_eq_ok_iff.1 hm
  have halike := h.alike
  have htrace : Manifest.tracePath e = Manifest.tracePath e' := by
    unfold Manifest.tracePath Document.first?
    rw [halike.values]
  have hclusters : e.pairs "clusters".toList = e'.pairs "clusters".toList := by
    unfold Document.pairs
    rw [h.entries "clusters".toList (by decide)]
  rw [halike.values] at hversion hdescription
  rw [halike.hasSection] at hsection hlist
  refine ⟨_, manifest_ofDocument_eq_ok_iff.2
    ⟨hsection, version, description, hversion, hne, hdescription, hlist, rfl⟩, ?_, ?_, ?_⟩
  · exact h.listed.map _
  · have hkeys : (e.pairs "device_list".toList).map Prod.fst =
        (e.entries "device_list".toList).map Entry.key := List.map_map
    exact hkeys ▸ h.distinct
  · simp only [htrace, hclusters]

/-- In canonical order nothing is left of the order of the list. -/
lemma SameListing.canonical_eq {m m' : Manifest} (h : SameListing m m') :
    m'.canonical = m.canonical := by
  have hlist : sortBy comparePairs m.deviceList = sortBy comparePairs m'.deviceList := by
    apply sortBy_eq_of_perm h.listed
    intro a ha b hb hab
    exact List.inj_on_of_nodup_map h.distinct ha hb (Std.LawfulEqCmp.eq_of_compare hab)
  rw [h.rest]
  unfold Manifest.canonical
  rw [hlist]

/-! ### Devices -/

/-- What the order of devices and their dump depend on. -/
def shown (d : Device) : (Text × Text) × List Text := ((d.name, d.iniPath), d.dumpLines)

def compareShown (a b : (Text × Text) × List Text) : Ordering :=
  (compare a.1.1 b.1.1).then (compare a.1.2 b.1.2)

instance : Std.TransCmp compareShown :=
  inferInstanceAs (Std.TransCmp (compareLex
    (compareOn fun a : (Text × Text) × List Text => a.1.1)
    (compareOn fun a : (Text × Text) × List Text => a.1.2)))

/-- Devices that are written alike whenever they have the same name and path. -/
def ToldApartByName (devices : List Device) : Prop :=
  ∀ a ∈ devices, ∀ b ∈ devices, a.name = b.name → a.iniPath = b.iniPath →
    a.dumpLines = b.dumpLines

lemma map_shown_sortBy (devices : List Device) :
    (sortBy Device.compare devices).map shown = sortBy compareShown (devices.map shown) :=
  List.map_mergeSort fun _ _ _ _ => rfl

lemma flatMap_dumpLines_eq (devices : List Device) :
    devices.flatMap Device.dumpLines = (devices.map shown).flatMap Prod.snd := by
  rw [List.flatMap_map]
  rfl

lemma flatMap_dumpLines_sortBy_eq {devices devices' : List Device}
    (hperm : (devices.map shown).Perm (devices'.map shown)) (htold : ToldApartByName devices) :
    (sortBy Device.compare devices).flatMap Device.dumpLines =
      (sortBy Device.compare devices').flatMap Device.dumpLines := by
  have hsorted : sortBy compareShown (devices.map shown) =
      sortBy compareShown (devices'.map shown) := by
    apply sortBy_eq_of_perm hperm
    intro a ha b hb hab
    obtain ⟨x, hx, rfl⟩ := List.mem_map.1 ha
    obtain ⟨y, hy, rfl⟩ := List.mem_map.1 hb
    obtain ⟨hname, hpath⟩ := Ordering.then_eq_eq.1 hab
    have hname : x.name = y.name := Std.LawfulEqCmp.eq_of_compare hname
    have hpath : x.iniPath = y.iniPath := Std.LawfulEqCmp.eq_of_compare hpath
    unfold shown
    rw [htold x hx y hy hname hpath, hname, hpath]
  rw [flatMap_dumpLines_eq, flatMap_dumpLines_eq, map_shown_sortBy, map_shown_sortBy, hsorted]

lemma shown_withoutOrder (d : Device) : shown (withoutOrder d) = shown d := by
  unfold shown
  rw [dumpLines_withoutOrder]
  rfl

lemma device_ofDocument_of_alike {e e' : Document} {path : Text} {dev : Device} (h : Alike e e')
    (hdev : Device.ofDocument e path = .ok dev) :
    ∃ dev', Device.ofDocument e' path = .ok dev' ∧ shown dev'.canonical = shown dev.canonical := by
  obtain ⟨dev', hdev', hcanonical⟩ := ofDocument_of_rearranged h.rearranged hdev
  refine ⟨dev', hdev', ?_⟩
  rw [← shown_withoutOrder dev.canonical, hcanonical, shown_withoutOrder]

/-! ### Disks -/

/-- Two disks that differ in nothing but the manifest, which lists its devices in another
order. The file of the manifest may also be one of the other files of the snapshot. -/
structure RelistedDisks (p : SnapshotPlace) (d d' : Disk) (e e' : Document) : Prop where
  document : d.read.readDocument p.manifestPath = .ok e
  document' : d'.read.readDocument p.manifestPath = .ok e'
  relisted : Relisted e e'
  manifest_only : ∃ place bytes,
    d.locate (SystemPath.ofText p.manifestPath) = .ok place ∧ WrittenAt d d' place bytes

section RelistedDisks

variable {p : SnapshotPlace} {d d' : Disk} {e e' : Document}

lemma readText_of_locate_eq {path other text : Text} {place : Location}
    (hpath : d.locate (SystemPath.ofText path) = .ok place)
    (hother : d.locate (SystemPath.ofText other) = .ok place) (hnul : '\x00' ∉ path)
    (h : d.read.readText other = .ok text) : d.read.readText path = .ok text := by
  have hread : d.read (SystemPath.ofText path) = d.read (SystemPath.ofText other) := by
    unfold Disk.read
    rw [hpath, hother]
  rw [readText_eq_ok_iff] at h ⊢
  rw [hread]
  exact ⟨hnul, h.2⟩

/-- Every file but the manifest has the same text on both disks. -/
lemma RelistedDisks.readText (h : RelistedDisks p d d' e e') {path text : Text}
    (hpath : d.read.readText path = .ok text) :
    d'.read.readText path = .ok text ∨ d.read.readText p.manifestPath = .ok text ∧
      ∃ text', d'.read.readText p.manifestPath = .ok text' ∧ d'.read.readText path = .ok text' := by
  obtain ⟨place, bytes, hplace, hwritten⟩ := h.manifest_only
  obtain ⟨hnul, content, hcontent, hdecode⟩ := readText_eq_ok_iff.1 hpath
  by_cases hsame : d.locate (SystemPath.ofText path) = .ok place
  · right
    obtain ⟨manifest, hmanifest, -⟩ := readDocument_eq_ok_iff.1 h.document
    obtain ⟨manifest', hmanifest', -⟩ := readDocument_eq_ok_iff.1 h.document'
    have htext := readText_of_locate_eq hsame hplace hnul hmanifest
    have htext' := readText_of_locate_eq (hwritten.locate_eq_ok hsame)
      (hwritten.locate_eq_ok hplace) hnul hmanifest'
    rw [hpath] at htext
    cases htext
    exact ⟨hmanifest, manifest', hmanifest', htext'⟩
  · left
    have hkept := hwritten.content?_of_locate_ne hsame
    unfold content? at hkept
    rw [hcontent] at hkept
    exact readText_eq_ok_iff.2 ⟨hnul, content, eq_ok_of_toOption_eq_some hkept, hdecode⟩

lemma RelistedDisks.readDocument (h : RelistedDisks p d d' e e') {path : Text} {x : Document}
    (hx : d.read.readDocument path = .ok x) :
    ∃ x', d'.read.readDocument path = .ok x' ∧ Alike x x' := by
  obtain ⟨text, htext, hparse⟩ := readDocument_eq_ok_iff.1 hx
  rcases h.readText htext with hsame | ⟨hmanifest, text', hmanifest', htext'⟩
  · exact ⟨x, readDocument_eq_ok_iff.2 ⟨text, hsame, hparse⟩, .refl x⟩
  · -- The path leads to the manifest, which was then read under another name.
    obtain ⟨_, hread, hdocument⟩ := readDocument_eq_ok_iff.1 h.document
    obtain ⟨_, hread', hdocument'⟩ := readDocument_eq_ok_iff.1 h.document'
    cases hmanifest.symm.trans hread
    cases hmanifest'.symm.trans hread'
    cases hparse.symm.trans (parse_withSource hdocument path)
    have halike := h.relisted.alike
    refine ⟨_, readDocument_eq_ok_iff.2 ⟨text', htext', parse_withSource hdocument' path⟩, ?_⟩
    exact ⟨halike.names, halike.values, halike.entries⟩

lemma RelistedDisks.readManifest (h : RelistedDisks p d d' e e') {m : Manifest}
    (hm : p.readManifest d.read = .ok m) :
    ∃ m', p.readManifest d'.read = .ok m' ∧ SameListing m m' := by
  obtain ⟨x, hx, hm⟩ := readManifest_eq_ok_iff.1 hm
  cases hx.symm.trans h.document
  obtain ⟨m', hm', hsame⟩ := manifest_ofDocument_of_relisted h.relisted hm
  exact ⟨m', readManifest_eq_ok_iff.2 ⟨e', h.document', hm'⟩, hsame⟩

lemma RelistedDisks.readDevice (h : RelistedDisks p d d' e e') {path : Text} {dev : Device}
    (hdev : p.readDevice d.read path = .ok dev) : ∃ dev', p.readDevice d'.read path = .ok dev' ∧
      shown dev'.canonical = shown dev.canonical := by
  obtain ⟨x, hx, hdev⟩ := readDevice_eq_ok_iff.1 hdev
  obtain ⟨x', hx', halike⟩ := h.readDocument hx
  obtain ⟨dev', hdev', hshown⟩ := device_ofDocument_of_alike halike hdev
  exact ⟨dev', readDevice_eq_ok_iff.2 ⟨x', hx', hdev'⟩, hshown⟩

lemma RelistedDisks.readTrace (h : RelistedDisks p d d' e e') {path : Text} {t : TraceMetadata}
    (ht : p.readTrace d.read path = .ok t) : p.readTrace d'.read path = .ok t := by
  obtain ⟨x, hx, ht⟩ := readTrace_eq_ok_iff.1 ht
  obtain ⟨x', hx', halike⟩ := h.readDocument hx
  rw [trace_ofDocument_of_alike halike] at ht
  exact readTrace_eq_ok_iff.2 ⟨x', hx', ht⟩

/-! ### Loading -/

/-- A validator that is content with every file that it may be shown. -/
def Accepts (validator : Validator) (files : Files) (sequence : List (Role × Text)) : Prop :=
  ∀ file ∈ sequence, ∀ text, files.readText file.2 = .ok text →
    validator file.1 text file.2 = none

lemma SameListing.mem_files {m m' : Manifest} (h : SameListing m m') {file : Role × Text}
    (hfile : file ∈ p.files m') : file ∈ p.files m := by
  unfold SnapshotPlace.files at hfile ⊢
  have htrace : m'.traceMetadata = m.traceMetadata := by rw [h.rest]
  rw [htrace] at hfile
  have hperm := h.listed.map fun pair : Text × Text => (Role.device, p.join pair.2)
  simp only [List.cons_append, List.mem_cons, List.mem_append] at hfile ⊢
  rwa [hperm.mem_iff]

lemma RelistedDisks.check (h : RelistedDisks p d d' e e') {validator : Validator}
    {m m' : Manifest} (hsame : SameListing m m')
    (hchecked : (d.read.check validator (p.files m)).result = .ok ())
    (haccepts : Accepts validator d'.read (p.files m')) :
    (d'.read.check validator (p.files m')).result = .ok () := by
  rw [check_eq_ok_iff] at hchecked ⊢
  intro file hfile
  obtain ⟨text, htext, -⟩ := hchecked file (hsame.mem_files hfile)
  rcases h.readText htext with htext | ⟨-, text', -, htext⟩
  · exact ⟨text, htext, haccepts file hfile text htext⟩
  · exact ⟨text', htext, haccepts file hfile text' htext⟩

lemma RelistedDisks.readDevices (h : RelistedDisks p d d' e e') {pairs pairs' : List (Text × Text)}
    (hperm : pairs.Perm pairs') {devices : List Device}
    (hdevices : (pairs.mapM fun pair => p.readDevice d.read pair.2) = .ok devices) :
    ∃ devices', (pairs'.mapM fun pair => p.readDevice d'.read pair.2) = .ok devices' ∧
      ((devices.map Device.canonical).map shown).Perm
        ((devices'.map Device.canonical).map shown) := by
  obtain ⟨same, hread, hshown⟩ := exists_mapM_of_steps
    (g := fun pair : Text × Text => p.readDevice d'.read pair.2)
    (k := fun dev => shown dev.canonical) (fun _ _ hdev => h.readDevice hdev) hdevices
  obtain ⟨devices', hread', hdevices'⟩ := exists_mapM_of_perm hperm hread
  refine ⟨devices', hread', ?_⟩
  have hmap : ∀ ds : List Device,
      (ds.map Device.canonical).map shown = ds.map fun dev => shown dev.canonical := by
    intro ds
    rw [List.map_map]
    rfl
  rw [hmap, hmap, ← hshown]
  exact hdevices'.map _

/-- The two snapshots have the same dump. -/
theorem RelistedDisks.load (h : RelistedDisks p d d' e e') {validator : Validator} {s : Snapshot}
    (haccepts : ∀ m', p.readManifest d'.read = .ok m' →
      Accepts validator d'.read (p.files m'))
    (hload : (p.load d.read validator).result = .ok s) (htold : ToldApartByName s.devices) :
    ∃ s', (p.load d'.read validator).result = .ok s' ∧ s'.dumpText = s.dumpText := by
  obtain ⟨m, built, hm, hchecked, hbuilt, rfl⟩ := load_eq_ok_iff.1 hload
  obtain ⟨devices, trace, hdevices, htrace, rfl⟩ := assemble_eq_ok_iff.1 hbuilt
  obtain ⟨m', hm', hsame⟩ := h.readManifest hm
  obtain ⟨devices', hdevices', hshown⟩ := h.readDevices hsame.listed hdevices
  have htraceName : m'.traceMetadata = m.traceMetadata := by rw [hsame.rest]
  have htrace' : m'.traceMetadata.mapM (p.readTrace d'.read) = .ok trace := by
    rw [optionMapM_eq_ok_iff] at htrace ⊢
    rw [htraceName]
    rcases htrace with hnone | ⟨path, t, hpath, ht, hread⟩
    · exact Or.inl hnone
    · exact Or.inr ⟨path, t, hpath, ht, h.readTrace hread⟩
  refine ⟨_, load_eq_ok_iff.2 ⟨m', _, hm', h.check hsame hchecked (haccepts m' hm'),
    assemble_eq_ok_iff.2 ⟨devices', trace, hdevices', htrace', rfl⟩, rfl⟩, ?_⟩
  have htold : ToldApartByName (devices.map Device.canonical) := fun a ha b hb =>
    htold a (mem_sortBy.2 ha) b (mem_sortBy.2 hb)
  have hdeviceLines := flatMap_dumpLines_sortBy_eq hshown htold
  unfold Snapshot.dumpText Snapshot.dumpLines Snapshot.canonical
  dsimp only
  rw [hsame.canonical_eq, hdeviceLines]

end RelistedDisks

/-! ### Runs -/

/-- The order of the device list does not matter for devices that are told apart: if a run
writes the dump of a snapshot, a run on a disk with another order of the list, whose files the
validator accepts as well, succeeds too and writes the same bytes. -/
theorem same_output_of_relisted {d d' : Disk} {e e' : Document} {validator : Validator}
    {configured output : Text} {r : Request} {separator : Separator} {path : SystemPath}
    {s : Snapshot} (hseparator : Separator.choose r.separator configured = .ok separator)
    (hdisks : RelistedDisks ⟨r.directory, separator⟩ d d' e e')
    (haccepts : ∀ m', SnapshotPlace.readManifest ⟨r.directory, separator⟩ d'.read = .ok m' →
      Accepts validator d'.read (SnapshotPlace.files ⟨r.directory, separator⟩ m'))
    (hrun : (d.run validator configured r output).1.ending = .written path s)
    (htold : ToldApartByName s.devices) :
    ∃ s', (d'.run validator configured r output).1.ending = .written path s' ∧
      content? (d.run validator configured r output).2 path = some (Utf8.encode s.dumpText) ∧
      content? (d'.run validator configured r output).2 path = some (Utf8.encode s.dumpText) := by
  obtain ⟨rfl, hload, target, hlocate, hwritten⟩ := writtenAt_of_run_written hrun
  have hnul := no_nul_of_run_written hrun
  obtain ⟨place, bytes, -, hmanifest⟩ := hdisks.manifest_only
  rw [load_of_separator hseparator] at hload
  obtain ⟨s', hload', hdump⟩ := hdisks.load haccepts hload htold
  rw [← load_of_separator hseparator] at hload'
  have hlocate' := hmanifest.locate_eq_ok hlocate
  have hnode' : d'.node? target ≠ some .directory := by
    rw [ne_eq, hmanifest.directory_iff]
    exact hwritten.was_no_directory
  have hrun' := run_written_of_load hload' hnul hlocate' hnode'
  obtain ⟨-, -, target', hlocate'', hwritten'⟩ := writtenAt_of_run_written hrun'
  refine ⟨s', hrun', hwritten.content?_of_locate_eq hlocate, ?_⟩
  rw [← hdump]
  exact hwritten'.content?_of_locate_eq hlocate''

/-- A disk with a file `x\y` and a file `y` in a directory `x`, and a manifest that lists both.
The second device has the given name. -/
def slashDisk (name : Text) : Disk :=
  ((diskOf [("snapshot.ini", "[snapshot]\nversion=1\n[device_list]\na=x\\y\nb=x/y\n"),
    ("x\\y", "[device]\nname=n\n")]).put [['w'], ['x']] .directory).put [['w'], ['x'], ['y']]
      (.file (Utf8.encode ("[device]\nclass=c\nname=".toList ++ name)))

/-- The same disk with the two devices listed the other way round. -/
def relistedSlashDisk (name : Text) : Disk :=
  (slashDisk name).put [['w'], "snapshot.ini".toList]
    (.file (Utf8.encode "[snapshot]\nversion=1\n[device_list]\nb=x/y\na=x\\y\n".toList))

def slashManifest (entries : List Entry)
    (hnodup : (["snapshot".toList, "device_list".toList].map id).Nodup) : Document where
  source := "snapshot.ini".toList
  sections := ⟨[("snapshot".toList, [⟨"version".toList, ['1']⟩]), ("device_list".toList, entries)],
    hnodup⟩

def slashEntries : List Entry := [⟨['a'], ['x', '\\', 'y']⟩, ⟨['b'], ['x', '/', 'y']⟩]

def slashSnapshot (devices : List Device) : Snapshot where
  directory := []
  manifest := ⟨['1'], [], [(['a'], ['x', '\\', 'y']), (['b'], ['x', '/', 'y'])], [], none⟩
  devices
  trace := none

def slashDevice (name className : Text) : Device :=
  ⟨name, ['x', '/', 'y'], className, [], [], [], []⟩

lemma relistedDisks_slashDisk (name : Text) :
    RelistedDisks ⟨[], .slash⟩ (slashDisk name) (relistedSlashDisk name)
      (slashManifest slashEntries (by decide)) (slashManifest slashEntries.reverse (by decide)) where
  document := by
    conv => lhs; cbv
    rfl
  document' := by
    conv => lhs; cbv
    rfl
  relisted :=
    { names := fun _ => Iff.rfl
      entries := by
        intro name hname
        unfold slashManifest Document.entries OrderedMap.get?
        simp only [OrderedMap.lookup_cons, if_neg hname]
      listed := (List.reverse_perm _).symm
      distinct := by decide }
  manifest_only := by
    refine ⟨[['w'], "snapshot.ini".toList], _, rfl, writtenAt_put ?_⟩
    intro hdirectory
    cases hdirectory

set_option maxRecDepth 4000 in
theorem same_output_of_slashes :
    RelistedDisks ⟨[], .slash⟩ (slashDisk ['m']) (relistedSlashDisk ['m'])
        (slashManifest slashEntries (by decide))
        (slashManifest slashEntries.reverse (by decide)) ∧
      ToldApartByName [slashDevice ['m'] ['c'], slashDevice ['n'] []] ∧
      ((slashDisk ['m']).run .acceptAll [] ⟨[], none⟩ ['o']).1.ending =
        .written (SystemPath.ofText ['o'])
          (slashSnapshot [slashDevice ['m'] ['c'], slashDevice ['n'] []]) ∧
      ∃ s', ((relistedSlashDisk ['m']).run .acceptAll [] ⟨[], none⟩ ['o']).1.ending =
          .written (SystemPath.ofText ['o']) s' ∧
        content? ((slashDisk ['m']).run .acceptAll [] ⟨[], none⟩ ['o']).2
            (SystemPath.ofText ['o']) =
          content? ((relistedSlashDisk ['m']).run .acceptAll [] ⟨[], none⟩ ['o']).2
            (SystemPath.ofText ['o']) := by
  have hrun : ((slashDisk ['m']).run .acceptAll [] ⟨[], none⟩ ['o']).1.ending =
      .written (SystemPath.ofText ['o'])
        (slashSnapshot [slashDevice ['m'] ['c'], slashDevice ['n'] []]) := by
    conv => lhs; cbv
    rfl
  have htold : ToldApartByName [slashDevice ['m'] ['c'], slashDevice ['n'] []] := by
    unfold ToldApartByName
    decide
  have hdisks := relistedDisks_slashDisk ['m']
  have hseparator : Separator.choose none [] = .ok .slash := rfl
  obtain ⟨s', hrun', hcontent, hcontent'⟩ := same_output_of_relisted (r := ⟨[], none⟩)
    hseparator hdisks (fun _ _ _ _ _ _ => rfl) hrun htold
  exact ⟨hdisks, htold, hrun, s', hrun', hcontent.trans hcontent'.symm⟩

set_option maxRecDepth 4000 in
/-- Two devices of one name, in the files `x\y` and `x/y`, are written as they are listed. -/
theorem output_changes_with_listing :
    RelistedDisks ⟨[], .slash⟩ (slashDisk ['n']) (relistedSlashDisk ['n'])
        (slashManifest slashEntries (by decide))
        (slashManifest slashEntries.reverse (by decide)) ∧
      ∃ s s', ((slashDisk ['n']).run .acceptAll [] ⟨[], none⟩ ['o']).1.ending =
          .written (SystemPath.ofText ['o']) s ∧
        ((relistedSlashDisk ['n']).run .acceptAll [] ⟨[], none⟩ ['o']).1.ending =
          .written (SystemPath.ofText ['o']) s' ∧
        content? ((slashDisk ['n']).run .acceptAll [] ⟨[], none⟩ ['o']).2
            (SystemPath.ofText ['o']) ≠
          content? ((relistedSlashDisk ['n']).run .acceptAll [] ⟨[], none⟩ ['o']).2
            (SystemPath.ofText ['o']) := by
  have hrun : ((slashDisk ['n']).run .acceptAll [] ⟨[], none⟩ ['o']).1.ending =
      .written (SystemPath.ofText ['o'])
        (slashSnapshot [slashDevice ['n'] [], slashDevice ['n'] ['c']]) := by
    conv => lhs; cbv
    rfl
  have hrun' : ((relistedSlashDisk ['n']).run .acceptAll [] ⟨[], none⟩ ['o']).1.ending =
      .written (SystemPath.ofText ['o'])
        (slashSnapshot [slashDevice ['n'] ['c'], slashDevice ['n'] []]) := by
    conv => lhs; cbv
    rfl
  refine ⟨relistedDisks_slashDisk ['n'], _, _, hrun, hrun', ?_⟩
  obtain ⟨-, -, _, hlocate, hwritten⟩ := writtenAt_of_run_written hrun
  obtain ⟨-, -, _, hlocate', hwritten'⟩ := writtenAt_of_run_written hrun'
  rw [hwritten.content?_of_locate_eq hlocate, hwritten'.content?_of_locate_eq hlocate']
  decide +kernel

end TraceSnapshot.Proofs
