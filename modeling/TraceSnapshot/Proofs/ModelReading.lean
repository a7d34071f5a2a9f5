import Mathlib.Tactic.Lemma
import TraceSnapshot.Proofs.DocumentReading
import TraceSnapshot.Proofs.Traversal
import TraceSnapshot.Snapshot

/-!
# Reading the parts of a snapshot

What it takes to read a device, a manifest or trace metadata from a document, and what is then
read. Each statement lists all that has to be there, so that no later proof opens the reader.
-/

namespace TraceSnapshot.Proofs
open Ini (Document Entry)

/-! ### Registers -/

/-- The number of an id that is there. -/
def readIdNumber (id : Option Text) : Except Unsigned.Overlong (Option Nat) :=
  match id with
  | none => .ok none
  | some id => Unsigned.read id

lemma readIdNumber_eq_error_iff {id : Option Text} {overlong : Unsigned.Overlong} :
    readIdNumber id = .error overlong ↔ ∃ t, id = some t ∧ Unsigned.read t = .error overlong := by
  cases id with
  | none => simp [readIdNumber]
  | some t => simp [readIdNumber]

lemma ofEntry_eq (e : Entry) (position : Nat) :
    Register.ofEntry e position = (readIdNumber (RegisterKey.parse e.key).id).map fun number =>
      { name := (RegisterKey.parse e.key).name
        value := Text.unquoted e.value
        id := (RegisterKey.parse e.key).id
        idNumber := number
        size := (RegisterKey.parse e.key).size
        order := position } := by
  unfold Register.ofEntry
  generalize RegisterKey.parse e.key = key
  obtain ⟨name, id, size⟩ := key
  cases id <;> rfl

/-- Every register comes from an entry at its position. -/
lemma exists_entry_of_mem_ofEntries {entries : List Entry} {registers : List Register}
    (h : Register.ofEntries entries = .ok registers) {r : Register} (hr : r ∈ registers) :
    ∃ e ∈ entries, ∃ position, Register.ofEntry e position = .ok r := by
  obtain ⟨⟨e, position⟩, he, hread⟩ := exists_of_mem_mapM h hr
  refine ⟨e, ?_, position, hread⟩
  rw [(List.mem_zipIdx he).2.2]
  exact List.getElem_mem _

lemma readRegisters_eq_ok_iff {d : Document} {registers : List Register} :
    Device.readRegisters d = .ok registers ↔
      Register.ofEntries (d.entries "regs".toList) = .ok registers :=
  mapError_eq_ok_iff

/-! ### Memory dumps -/

lemma readAddress_eq_ok_iff {path name value address : Text} {number : Nat} :
    Device.readAddress path name value = .ok (address, number) ↔
      Unsigned.read (Text.trim value) = .ok (some number) ∧ address = Text.trim value := by
  unfold Device.readAddress
  dsimp only
  split
  next h => simp [h]
  next h => simp [h]
  next h =>
    simp only [h, Except.ok.injEq, Prod.mk.injEq, Option.some.injEq]
    constructor <;> (rintro ⟨rfl, rfl⟩; exact ⟨rfl, rfl⟩)

lemma exists_readAddress_iff {path name value : Text} :
    (∃ address, Device.readAddress path name value = .ok address) ↔
      ∃ number, Unsigned.read (Text.trim value) = .ok (some number) := by
  constructor
  · rintro ⟨⟨address, number⟩, h⟩
    exact ⟨number, (readAddress_eq_ok_iff.1 h).1⟩
  · rintro ⟨number, h⟩
    exact ⟨(Text.trim value, number), readAddress_eq_ok_iff.2 ⟨h, rfl⟩⟩

lemma readDump_eq_ok_iff {d : Document} {path name : Text} {m : MemoryDump} :
    Device.readDump d path name = .ok m ↔ ∃ addresses file address number,
      (d.values name "address".toList).mapM (Device.readAddress path name) = .ok addresses ∧
      d.last? name "file".toList = some file ∧ addresses.getLast? = some (address, number) ∧
      m = {
        sectionName := name
        file := Path.normalize (Text.unquoted file)
        address
        addressValue := number
        space := Text.unquoted ((d.last? name "space".toList).getD [])
        length := Text.trim ((d.last? name "length".toList).getD [])
        offset := Text.trim ((d.last? name "offset".toList).getD []) } := by
  unfold Device.readDump
  dsimp only
  rw [bind_eq_ok_iff]
  constructor
  · rintro ⟨addresses, haddresses, h⟩
    split at h
    next file address number hfile haddress =>
      cases h
      exact ⟨addresses, file, address, number, haddresses, hfile, haddress, rfl⟩
    next => cases h
  · rintro ⟨addresses, file, address, number, haddresses, hfile, haddress, rfl⟩
    refine ⟨addresses, haddresses, ?_⟩
    rw [hfile, haddress]
    rfl

/-! ### Devices -/

/-- The device with the texts that a document gives, and with what was read beside them. -/
def assembledDevice (d : Document) (path name : Text) (registers : List Register)
    (dumps : List MemoryDump) : Device where
  name
  iniPath := path
  className := (d.last? "device".toList "class".toList).getD []
  typeName := (d.last? "device".toList "type".toList).getD []
  location := (d.last? "device".toList "location".toList).getD []
  registers
  dumps

theorem device_ofDocument_eq_ok_iff {d : Document} {declaredPath : Text} {dev : Device} :
    Device.ofDocument d declaredPath = .ok dev ↔
      d.hasSection "device".toList = true ∧ ∃ name registers dumps,
        d.values "device".toList "name".toList = [name] ∧
        Device.readRegisters d = .ok registers ∧
        Device.readDumps d (Path.normalize declaredPath) = .ok dumps ∧
        dev = assembledDevice d (Path.normalize declaredPath) name registers dumps := by
  unfold Device.ofDocument
  dsimp only
  constructor
  · intro h
    split at h
    next hsection =>
      split at h
      next => cases h
      next name hnames =>
        obtain ⟨dumps, hdumps, h⟩ := bind_eq_ok_iff.1 h
        obtain ⟨registers, hregisters, h⟩ := bind_eq_ok_iff.1 h
        cases h
        exact ⟨hsection, name, registers, dumps, hnames, hregisters, hdumps, rfl⟩
      next => cases h
    next => cases h
  · rintro ⟨hsection, name, registers, dumps, hnames, hregisters, hdumps, rfl⟩
    rw [if_pos hsection, hnames]
    dsimp only
    rw [hdumps, hregisters]
    rfl

/-! ### Manifests -/

lemma single_eq_ok_iff {d : Document} {key : Text} {value : Option Text} :
    Manifest.single d key = .ok value ↔ d.values "snapshot".toList key = value.toList := by
  unfold Manifest.single
  split
  next h =>
    rw [h]
    cases value <;> simp
  next v h =>
    rw [h]
    cases value <;> simp
  next h =>
    rw [h]
    cases value <;> simp

lemma readVersion_eq_ok_iff {d : Document} {version : Text} :
    Manifest.readVersion d = .ok version ↔
      d.values "snapshot".toList "version".toList = [version] ∧ version ≠ [] := by
  unfold Manifest.readVersion
  rw [bind_eq_ok_iff]
  constructor
  · rintro ⟨value, hsingle, h⟩
    rw [single_eq_ok_iff] at hsingle
    split at h
    next => cases h
    next => cases h
    next v hv =>
      cases h
      exact ⟨hsingle, fun hnil => hv (by rw [hnil])⟩
  · rintro ⟨hvalues, hne⟩
    refine ⟨some version, single_eq_ok_iff.2 hvalues, ?_⟩
    cases version with
    | nil => exact absurd rfl hne
    | cons c cs => rfl

lemma readDeviceList_eq_ok_iff {d : Document} {pairs : List (Text × Text)} :
    Manifest.readDeviceList d = .ok pairs ↔
      d.hasSection "device_list".toList = true ∧ pairs = d.pairs "device_list".toList := by
  unfold Manifest.readDeviceList
  by_cases h : d.hasSection "device_list".toList = true
  · rw [if_pos h, Except.ok.injEq, eq_comm]
    exact ⟨fun hpairs => ⟨h, hpairs⟩, And.right⟩
  · rw [if_neg h]
    simp only [h, Bool.false_eq_true, false_and, reduceCtorEq]

theorem manifest_ofDocument_eq_ok_iff {d : Document} {m : Manifest} :
    Manifest.ofDocument d = .ok m ↔
      d.hasSection "snapshot".toList = true ∧ ∃ version description,
        d.values "snapshot".toList "version".toList = [version] ∧ version ≠ [] ∧
        d.values "snapshot".toList "description".toList = Option.toList description ∧
        d.hasSection "device_list".toList = true ∧
        m = {
          version
          description := description.getD []
          deviceList := d.pairs "device_list".toList
          clusters := d.pairs "clusters".toList
          traceMetadata := Manifest.tracePath d } := by
  unfold Manifest.ofDocument
  constructor
  · intro h
    split at h
    next hsection =>
      obtain ⟨version, hversion, h⟩ := bind_eq_ok_iff.1 h
      obtain ⟨description, hdescription, h⟩ := bind_eq_ok_iff.1 h
      obtain ⟨deviceList, hdeviceList, h⟩ := bind_eq_ok_iff.1 h
      obtain ⟨hversion, hne⟩ := readVersion_eq_ok_iff.1 hversion
      obtain ⟨hlist, rfl⟩ := readDeviceList_eq_ok_iff.1 hdeviceList
      cases h
      exact ⟨hsection, version, description, hversion, hne, single_eq_ok_iff.1 hdescription, hlist,
        rfl⟩
    next => cases h
  · rintro ⟨hsection, version, description, hversion, hne, hdescription, hlist, rfl⟩
    rw [if_pos hsection, readVersion_eq_ok_iff.2 ⟨hversion, hne⟩, single_eq_ok_iff.2 hdescription,
      readDeviceList_eq_ok_iff.2 ⟨hlist, rfl⟩]
    rfl

/-! ### Trace metadata -/

lemma readBuffer_eq_ok_iff {d : Document} {id : Text} {b : TraceBuffer} :
    TraceMetadata.readBuffer d id = .ok b ↔
      d.hasSection id = true ∧ ∃ name file, d.last? id "name".toList = some name ∧
        d.last? id "file".toList = some file ∧ TraceMetadata.fileList file ≠ [] ∧
        b = {
          id
          name
          files := TraceMetadata.fileList file
          format := (d.last? id "format".toList).getD [] } := by
  unfold TraceMetadata.readBuffer
  dsimp only
  constructor
  · intro h
    split at h
    next hsection =>
      split at h
      next name file hname hfile =>
        split at h
        next => cases h
        next hne =>
          cases h
          exact ⟨hsection, name, file, hname, hfile, by simpa using hne, rfl⟩
      next => cases h
    next => cases h
  · rintro ⟨hsection, name, file, hname, hfile, hne, rfl⟩
    rw [if_pos hsection, hname, hfile]
    simp [hne]

/-- A buffer depends on the last values of three keys of its section and on nothing else. -/
lemma readBuffer_congr {d e : Document} {id : Text} (hsection : d.hasSection id = e.hasSection id)
    (hlast : ∀ key ∈ ["name", "file", "format"], d.last? id key.toList = e.last? id key.toList) :
    TraceMetadata.readBuffer d id = TraceMetadata.readBuffer e id := by
  have hname := hlast "name" (by simp)
  have hfile := hlast "file" (by simp)
  have hformat := hlast "format" (by simp)
  unfold TraceMetadata.readBuffer
  rw [hsection, hname, hfile, hformat]

lemma map_id_of_readBuffers {d : Document} {ids : List Text} {buffers : List TraceBuffer}
    (h : ids.mapM (TraceMetadata.readBuffer d) = .ok buffers) :
    buffers.map TraceBuffer.id = ids := by
  have hkept : ∀ id b, TraceMetadata.readBuffer d id = .ok b → b.id = id := by
    intro id b hread
    obtain ⟨-, _, _, -, -, -, rfl⟩ := readBuffer_eq_ok_iff.1 hread
    rfl
  rw [map_eq_of_mapM hkept h]
  exact List.map_id _

lemma readBufferIds_eq_ok_iff {d : Document} {path : Text} {ids : List Text} :
    TraceMetadata.readBufferIds d path = .ok ids ↔
      ∃ list, d.first? "trace_buffers".toList "buffers".toList = some list ∧
        ids = Text.ascending (CommaList.items list) ∧ ids ≠ [] := by
  unfold TraceMetadata.readBufferIds
  constructor
  · intro h
    split at h
    next => cases h
    next list hlist =>
      split at h
      next => cases h
      next hids =>
        cases h
        exact ⟨list, hlist, rfl, hids⟩
  · rintro ⟨list, hlist, rfl, hids⟩
    rw [hlist]
    dsimp only
    split
    next hnil => exact absurd hnil hids
    next => rfl

theorem trace_ofDocument_eq_ok_iff {d : Document} {path : Text} {t : TraceMetadata} :
    TraceMetadata.ofDocument d path = .ok t ↔
      d.hasSection "trace_buffers".toList = true ∧ ∃ ids buffers,
        TraceMetadata.readBufferIds d path = .ok ids ∧
        ids.mapM (TraceMetadata.readBuffer d) = .ok buffers ∧
        t = {
          path
          bufferIds := ids
          buffers
          coreTraceSources := d.pairs "core_trace_sources".toList
          sourceBuffers := TraceMetadata.listPairs d "source_buffers".toList } := by
  unfold TraceMetadata.ofDocument
  constructor
  · intro h
    split at h
    next hsection =>
      obtain ⟨ids, hids, h⟩ := bind_eq_ok_iff.1 h
      obtain ⟨buffers, hbuffers, h⟩ := bind_eq_ok_iff.1 h
      cases h
      exact ⟨hsection, ids, buffers, hids, hbuffers, rfl⟩
    next => cases h
  · rintro ⟨hsection, ids, buffers, hids, hbuffers, rfl⟩
    rw [if_pos hsection, hids, ok_bind, hbuffers]
    rfl

end TraceSnapshot.Proofs
