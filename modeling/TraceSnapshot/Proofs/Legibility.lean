import Mathlib.Tactic.Lemma
import TraceSnapshot.Proofs.LexicalForm
import TraceSnapshot.Proofs.Loading
import TraceSnapshot.Proofs.StableSorting

/-!
# Legible snapshots

What a file says goes into the dump between fixed words and signs. A snapshot is legible if
none of its texts contains the sign that ends the text in the dump: a line feed everywhere,
and an equals sign, a semicolon or a comma where one of them comes next. Every snapshot that
is loaded is legible, whatever its files hold; only the snapshot directory is free, since the
user names it.
-/

namespace TraceSnapshot.Proofs
open Ini (Document Entry)

structure LegibleRegister (r : Register) : Prop where
  one_line : ∀ t ∈ [r.name, r.value, r.id.getD [], r.size.getD []], '\n' ∉ t
  name_no_equals : '=' ∉ r.name
  value_no_semicolon : ';' ∉ r.value
  id_no_equals : '=' ∉ r.id.getD []

structure LegibleMemoryDump (d : MemoryDump) : Prop where
  one_line : ∀ t ∈ [d.sectionName, d.file, d.space, d.address, d.length, d.offset], '\n' ∉ t

structure LegibleDevice (d : Device) : Prop where
  one_line : ∀ t ∈ [d.name, d.className, d.typeName, d.location, d.iniPath], '\n' ∉ t
  register : ∀ r ∈ d.registers, LegibleRegister r
  dump : ∀ m ∈ d.dumps, LegibleMemoryDump m

structure LegiblePair (pair : Text × Text) : Prop where
  one_line : ∀ t ∈ [pair.1, pair.2], '\n' ∉ t
  key_no_equals : '=' ∉ pair.1

structure LegibleManifest (m : Manifest) : Prop where
  one_line : ∀ t ∈ [m.version, m.description, m.traceMetadata.getD []], '\n' ∉ t
  device : ∀ pair ∈ m.deviceList, LegiblePair pair
  cluster : ∀ pair ∈ m.clusters, LegiblePair pair

structure LegibleBuffer (b : TraceBuffer) : Prop where
  one_line : ∀ t ∈ b.id :: b.name :: b.format :: b.files, '\n' ∉ t
  files_nonempty : b.files ≠ []
  files_no_comma : ∀ file ∈ b.files, ',' ∉ file

structure LegibleTrace (t : TraceMetadata) : Prop where
  one_line : ∀ u ∈ t.path :: t.bufferIds, '\n' ∉ u
  bufferId : ∀ id ∈ t.bufferIds, ListItem id
  buffer : ∀ b ∈ t.buffers, LegibleBuffer b
  coreTraceSource : ∀ pair ∈ t.coreTraceSources, LegiblePair pair
  sourceBuffer : ∀ pair ∈ t.sourceBuffers, LegiblePair pair

structure LegibleSnapshot (s : Snapshot) : Prop where
  manifest : LegibleManifest s.manifest
  device : ∀ d ∈ s.devices, LegibleDevice d
  trace : ∀ t, s.trace = some t → LegibleTrace t

/-! ### Registers -/

/-- The texts that a register key is taken apart into. -/
def keyTexts (k : RegisterKey) : List Text := [k.name, k.id.getD [], k.size.getD []]

lemma withToken_chars {P : Char → Prop} {k : RegisterKey} {token : Text}
    (hk : ∀ t ∈ keyTexts k, ∀ c ∈ t, P c) (htoken : ∀ c ∈ token, P c) :
    ∀ t ∈ keyTexts (k.withToken token), ∀ c ∈ t, P c := by
  simp only [keyTexts, List.forall_mem_cons, List.not_mem_nil, false_imp_iff, implies_true,
    and_true] at hk ⊢
  obtain ⟨hname, hid, hsize⟩ := hk
  unfold RegisterKey.withToken
  split
  next =>
    refine ⟨hname, ?_, hsize⟩
    cases hkid : k.id with
    | none => simpa using htoken
    | some id => simpa [hkid] using hid
  next label value hcut =>
    have hvalue : ∀ c ∈ Text.trim value, P c := by
      intro c hc
      apply htoken
      rw [(cut_eq_some_iff.1 hcut).1]
      simp [mem_of_mem_trim hc]
    split
    · exact ⟨hname, hvalue, hsize⟩
    · split
      · exact ⟨hname, hid, hvalue⟩
      · exact ⟨hname, hid, hsize⟩

lemma foldl_withToken_chars {P : Char → Prop} {items : List Text}
    (hitems : ∀ item ∈ items, ∀ c ∈ item, P c) {k : RegisterKey}
    (hk : ∀ t ∈ keyTexts k, ∀ c ∈ t, P c) :
    ∀ t ∈ keyTexts (items.foldl RegisterKey.withToken k), ∀ c ∈ t, P c := by
  induction items generalizing k with
  | nil => exact hk
  | cons item items ih =>
    exact ih (fun other hother => hitems other (List.mem_cons_of_mem _ hother))
      (withToken_chars hk (hitems item List.mem_cons_self))

lemma bareKey_chars {P : Char → Prop} {name : Text} (h : ∀ c ∈ name, P c) :
    ∀ t ∈ keyTexts ⟨name, none, none⟩, ∀ c ∈ t, P c := by
  simpa [keyTexts] using h

/-- Taking a register key apart adds no character. -/
lemma registerKey_chars (raw : Text) : ∀ t ∈ keyTexts (RegisterKey.parse raw), ∀ c ∈ t, c ∈ raw := by
  unfold RegisterKey.parse
  split
  next => exact bareKey_chars fun c => mem_of_mem_trim
  next name rest hopen =>
    split
    next => exact bareKey_chars fun c => mem_of_mem_trim
    next tokens tail hclose =>
      have hraw : raw = name ++ '(' :: (tokens ++ ')' :: tail) := by
        rw [(cut_eq_some_iff.1 hopen).1, (cutLast_eq_some_iff.1 hclose).1]
      apply foldl_withToken_chars
      · intro item hitem c hc
        rw [hraw]
        simp [mem_of_mem_items hitem hc]
      · apply bareKey_chars
        intro c hc
        rw [hraw]
        simp [mem_of_mem_trim hc]

lemma legibleRegister_of_ofEntry {e : Entry} {position : Nat} {r : Register}
    (he : LexicalEntry e) (h : Register.ofEntry e position = .ok r) : LegibleRegister r := by
  rw [ofEntry_eq, map_eq_ok_iff] at h
  obtain ⟨number, -, rfl⟩ := h
  have hkey := registerKey_chars e.key
  have hvalue : ∀ c ∈ Text.unquoted e.value, c ∈ e.value := fun c => mem_of_mem_unquoted
  refine ⟨?_, ?_, ?_, ?_⟩
  · intro t ht hc
    rcases List.mem_cons.1 ht with rfl | ht
    · exact he.key.no_newline (hkey _ (by simp [keyTexts]) _ hc)
    · rcases List.mem_cons.1 ht with rfl | ht
      · exact he.value.no_newline (hvalue _ hc)
      · exact he.key.no_newline (hkey t (List.mem_cons_of_mem _ ht) _ hc)
  · exact fun hc => he.key_no_equals (hkey _ (by simp [keyTexts]) _ hc)
  · exact fun hc => he.value.no_semicolon (hvalue _ hc)
  · exact fun hc => he.key_no_equals (hkey _ (by simp [keyTexts]) _ hc)

/-! ### Devices -/

lemma Plain.no_newline_trim {t : Text} (h : Plain t) : '\n' ∉ Text.trim t :=
  fun hc => h.no_newline (mem_of_mem_trim hc)

lemma Plain.no_newline_unquoted {t : Text} (h : Plain t) : '\n' ∉ Text.unquoted t :=
  fun hc => h.no_newline (mem_of_mem_unquoted hc)

lemma no_newline_normalize {path : Text} (h : '\n' ∉ path) : '\n' ∉ Path.normalize path :=
  fun hc => h (mem_of_mem_normalize (by decide) hc)

lemma legibleMemoryDump_of_readDump {d : Document} {path name : Text} {m : MemoryDump}
    (hd : LexicalDocument d) (hname : name ∈ d.names)
    (h : Device.readDump d path name = .ok m) : LegibleMemoryDump m := by
  obtain ⟨addresses, file, address, number, haddresses, hfile, haddress, rfl⟩ :=
    readDump_eq_ok_iff.1 h
  obtain ⟨value, hvalue, hread⟩ := exists_of_mem_mapM haddresses (List.mem_of_getLast? haddress)
  obtain ⟨-, rfl⟩ := readAddress_eq_ok_iff.1 hread
  have hfile := hd.plain_of_mem_values (mem_values_of_last? hfile)
  refine ⟨?_⟩
  simp only [List.forall_mem_cons, List.not_mem_nil, false_imp_iff, implies_true, and_true]
  exact ⟨(hd.name name hname).no_newline, no_newline_normalize hfile.no_newline_unquoted,
    (hd.plain_last? name _).no_newline_unquoted, (hd.plain_of_mem_values hvalue).no_newline_trim,
    (hd.plain_last? name _).no_newline_trim, (hd.plain_last? name _).no_newline_trim⟩

lemma legibleDevice_of_ofDocument {d : Document} {declaredPath : Text} {dev : Device}
    (hd : LexicalDocument d) (hpath : '\n' ∉ declaredPath)
    (h : Device.ofDocument d declaredPath = .ok dev) : LegibleDevice dev := by
  obtain ⟨-, name, registers, dumps, hname, hregisters, hdumps, rfl⟩ :=
    device_ofDocument_eq_ok_iff.1 h
  have hname := hd.plain_of_mem_values (hname ▸ List.mem_singleton_self name)
  refine ⟨?_, ?_, ?_⟩
  · simp only [List.forall_mem_cons, List.not_mem_nil, false_imp_iff, implies_true, and_true]
    exact ⟨hname.no_newline, (hd.plain_last? _ _).no_newline, (hd.plain_last? _ _).no_newline,
      (hd.plain_last? _ _).no_newline, no_newline_normalize hpath⟩
  · intro r hr
    obtain ⟨e, he, position, hread⟩ :=
      exists_entry_of_mem_ofEntries (readRegisters_eq_ok_iff.1 hregisters) hr
    exact legibleRegister_of_ofEntry (hd.entry _ e he) hread
  · intro m hm
    obtain ⟨name, hname, hread⟩ := exists_of_mem_mapM hdumps hm
    exact legibleMemoryDump_of_readDump hd (List.mem_filter.1 hname).1 hread

/-! ### Manifests and trace metadata -/

lemma LexicalEntry.legiblePair {e : Entry} (h : LexicalEntry e) : LegiblePair (e.key, e.value) where
  one_line := by simp [h.key.no_newline, h.value.no_newline]
  key_no_equals := h.key_no_equals

lemma LexicalDocument.legiblePair {d : Document} (hd : LexicalDocument d) {name : Text} :
    ∀ pair ∈ d.pairs name, LegiblePair pair := by
  intro pair hpair
  obtain ⟨e, he, rfl⟩ := mem_pairs_iff.1 hpair
  exact (hd.entry name e he).legiblePair

lemma legibleManifest_of_ofDocument {d : Document} {m : Manifest} (hd : LexicalDocument d)
    (h : Manifest.ofDocument d = .ok m) : LegibleManifest m := by
  obtain ⟨-, version, description, hversion, -, hdescription, -, rfl⟩ :=
    manifest_ofDocument_eq_ok_iff.1 h
  refine ⟨?_, hd.legiblePair, hd.legiblePair⟩
  simp only [List.forall_mem_cons, List.not_mem_nil, false_imp_iff, implies_true, and_true]
  refine ⟨(hd.plain_of_mem_values (hversion ▸ List.mem_singleton_self version)).no_newline, ?_, ?_⟩
  · cases description with
    | none => simp
    | some description =>
      have hmem : description ∈ d.values "snapshot".toList "description".toList := by
        rw [hdescription]
        exact List.mem_singleton_self description
      exact (hd.plain_of_mem_values hmem).no_newline
  · cases hpath : Manifest.tracePath d with
    | none => simp
    | some path =>
      have hfirst := (Option.filter_eq_some_iff.1 hpath).1
      exact (hd.plain_of_mem_values (mem_values_of_first? hfirst)).no_newline

lemma legibleBuffer_of_readBuffer {d : Document} {id : Text} {b : TraceBuffer}
    (hd : LexicalDocument d) (hid : '\n' ∉ id) (h : TraceMetadata.readBuffer d id = .ok b) :
    LegibleBuffer b := by
  obtain ⟨-, name, file, hname, hfile, hne, rfl⟩ := readBuffer_eq_ok_iff.1 h
  have hname := hd.plain_of_mem_values (mem_values_of_last? hname)
  have hfile := hd.plain_of_mem_values (mem_values_of_last? hfile)
  have hitem : ∀ path ∈ TraceMetadata.fileList file, ∃ item ∈ CommaList.items file,
      path = Path.normalize (Text.unquoted item) := by
    intro path hpath
    obtain ⟨item, hitem, rfl⟩ := List.mem_map.1 hpath
    exact ⟨item, hitem, rfl⟩
  refine ⟨?_, hne, ?_⟩
  · simp only [List.forall_mem_cons]
    refine ⟨hid, hname.no_newline, (hd.plain_last? _ _).no_newline, ?_⟩
    intro path hpath
    obtain ⟨item, hitem, rfl⟩ := hitem path hpath
    apply no_newline_normalize
    exact fun hc => hfile.no_newline (mem_of_mem_items hitem (mem_of_mem_unquoted hc))
  · intro path hpath hc
    obtain ⟨item, hitem, rfl⟩ := hitem path hpath
    exact (listItem_of_mem_items hitem).no_comma
      (mem_of_mem_unquoted (mem_of_mem_normalize (by decide) hc))

lemma legibleTrace_of_ofDocument {d : Document} {path : Text} {t : TraceMetadata}
    (hd : LexicalDocument d) (hpath : '\n' ∉ path) (h : TraceMetadata.ofDocument d path = .ok t) :
    LegibleTrace t := by
  obtain ⟨-, ids, buffers, hids, hbuffers, rfl⟩ := trace_ofDocument_eq_ok_iff.1 h
  obtain ⟨list, hlist, rfl, -⟩ := readBufferIds_eq_ok_iff.1 hids
  have hlist := hd.plain_of_mem_values (mem_values_of_first? hlist)
  have hid : ∀ id ∈ Text.ascending (CommaList.items list), '\n' ∉ id := fun id hid hc =>
    hlist.no_newline (mem_of_mem_items (mem_ascending.1 hid) hc)
  refine ⟨?_, ?_, ?_, hd.legiblePair, ?_⟩
  · exact List.forall_mem_cons.2 ⟨hpath, hid⟩
  · exact fun id hid => listItem_of_mem_items (mem_ascending.1 hid)
  · intro b hb
    obtain ⟨id, hmem, hread⟩ := exists_of_mem_mapM hbuffers hb
    exact legibleBuffer_of_readBuffer hd (hid id hmem) hread
  · intro pair hpair
    obtain ⟨e, he, rfl⟩ := List.mem_map.1 hpair
    have hentry := hd.entry _ e he
    refine ⟨?_, hentry.key_no_equals⟩
    simp only [List.forall_mem_cons, List.not_mem_nil, false_imp_iff, implies_true, and_true]
    refine ⟨hentry.key.no_newline, fun hc => ?_⟩
    rcases mem_join hc with hcomma | ⟨item, hitem, hc⟩
    · exact absurd hcomma (by decide)
    · exact hentry.value.no_newline (mem_of_mem_items hitem hc)

/-! ### Canonical order -/

lemma LegibleDevice.canonical {d : Device} (h : LegibleDevice d) : LegibleDevice d.canonical :=
  ⟨h.one_line, fun r hr => h.register r (mem_sortBy.1 hr), fun m hm => h.dump m (mem_sortBy.1 hm)⟩

lemma LegibleManifest.canonical {m : Manifest} (h : LegibleManifest m) :
    LegibleManifest m.canonical :=
  ⟨h.one_line, fun pair hpair => h.device pair (mem_sortBy.1 hpair),
    fun pair hpair => h.cluster pair (mem_sortBy.1 hpair)⟩

lemma LegibleTrace.canonical {t : TraceMetadata} (h : LegibleTrace t) :
    LegibleTrace t.canonical where
  one_line := by
    obtain ⟨hpath, hids⟩ := List.forall_mem_cons.1 h.one_line
    exact List.forall_mem_cons.2 ⟨hpath, fun id hid => hids id (mem_ascending.1 hid)⟩
  bufferId id hid := h.bufferId id (mem_ascending.1 hid)
  buffer b hb := by
    obtain ⟨id, -, hbuffer⟩ := List.mem_filterMap.1 hb
    exact h.buffer b (List.mem_filter.1 (List.mem_of_getLast? hbuffer)).1
  coreTraceSource pair hpair := h.coreTraceSource pair (mem_sortBy.1 hpair)
  sourceBuffer pair hpair := h.sourceBuffer pair (mem_sortBy.1 hpair)

lemma LegibleSnapshot.canonical {s : Snapshot} (h : LegibleSnapshot s) :
    LegibleSnapshot s.canonical where
  manifest := h.manifest.canonical
  device d hd := by
    obtain ⟨dev, hdev, rfl⟩ := List.mem_map.1 (mem_sortBy.1 hd)
    exact (h.device dev hdev).canonical
  trace t ht := by
    obtain ⟨u, hu, rfl⟩ := Option.map_eq_some_iff.1 ht
    exact (h.trace u hu).canonical

/-! ### Loading -/

lemma legibleManifest_of_readManifest {p : SnapshotPlace} {files : Files} {m : Manifest}
    (h : p.readManifest files = .ok m) : LegibleManifest m := by
  obtain ⟨d, hd, hm⟩ := readManifest_eq_ok_iff.1 h
  exact legibleManifest_of_ofDocument (lexicalDocument_of_readDocument hd) hm

lemma legibleSnapshot_of_assemble {p : SnapshotPlace} {files : Files} {m : Manifest}
    {s : Snapshot} (hm : LegibleManifest m) (h : p.assemble files m = .ok s) :
    LegibleSnapshot s := by
  obtain ⟨devices, trace, hdevices, htrace, rfl⟩ := assemble_eq_ok_iff.1 h
  refine ⟨hm, ?_, ?_⟩
  · intro dev hdev
    obtain ⟨pair, hpair, hread⟩ := exists_of_mem_mapM hdevices hdev
    obtain ⟨d, hd, hread⟩ := readDevice_eq_ok_iff.1 hread
    exact legibleDevice_of_ofDocument (lexicalDocument_of_readDocument hd)
      ((hm.device pair hpair).one_line _ (by simp)) hread
  · intro t ht
    rcases optionMapM_eq_ok_iff.1 htrace with ⟨-, rfl⟩ | ⟨path, u, hpath, rfl, hread⟩
    · cases ht
    · cases ht
      obtain ⟨d, hd, hread⟩ := readTrace_eq_ok_iff.1 hread
      exact legibleTrace_of_ofDocument (lexicalDocument_of_readDocument hd)
        (hm.one_line path (by simp [hpath])) hread

/-- Whatever the files hold and whatever the validator accepts, a snapshot that is loaded is
legible. -/
theorem legibleSnapshot_of_load {r : Request} {configured : Text} {files : Files}
    {validator : Validator} {s : Snapshot}
    (h : (r.load configured files validator).result = .ok s) : LegibleSnapshot s := by
  obtain ⟨separator, -, h⟩ := request_load_eq_ok_iff.1 h
  obtain ⟨m, built, hm, -, hbuilt, rfl⟩ := load_eq_ok_iff.1 h
  exact (legibleSnapshot_of_assemble (legibleManifest_of_readManifest hm) hbuilt).canonical

end TraceSnapshot.Proofs
