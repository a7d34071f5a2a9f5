import Mathlib
import TraceSnapshot.Proofs.Arrangement

/-!
# Fit and unfit files

A file is fit if the part of the snapshot that it is about can be built from it. This file says
which manifests, device files and trace metadata files are fit, and what is reported of one that
is not: the first defect in the order in which the file is gone through.
-/

namespace TraceSnapshot.Proofs
open Ini (Document Entry)

variable {d : Document} {path name : Text}

/-- What is told of a file. -/
def complaint (d : Document) (code : Code) (message : Text) : Failure :=
  .reported ⟨code, message, d.source, .error⟩

/-! ### Memory dumps -/

/-- A text that spells a number of at most 64 bits. -/
def IsNumber (t : Text) : Prop := ∃ number, Unsigned.read t = .ok (some number)

/-- What is wrong with the section of a memory dump. Its addresses come first, one after the
other; only if all of them are numbers it matters whether anything is missing. -/
inductive DumpUnfit (d : Document) (path name : Text) : Device.Defect → Prop
  | notANumber {earlier value later}
      (hvalues : d.values name "address".toList = earlier ++ value :: later)
      (hnumbers : ∀ v ∈ earlier, IsNumber (Text.trim v))
      (hread : Unsigned.read (Text.trim value) = .ok none) :
      DumpUnfit d path name (.invalidAddress (Text.trim value) path name)
  | overlong {earlier value later n}
      (hvalues : d.values name "address".toList = earlier ++ value :: later)
      (hnumbers : ∀ v ∈ earlier, IsNumber (Text.trim v))
      (hread : Unsigned.read (Text.trim value) = .error ⟨n⟩) :
      DumpUnfit d path name (.overlongNumeral n)
  | incomplete (hnumbers : ∀ v ∈ d.values name "address".toList, IsNumber (Text.trim v))
      (hlacks : d.last? name "file".toList = none ∨ d.values name "address".toList = []) :
      DumpUnfit d path name (.incompleteDump path name)

lemma readAddress_eq_error_iff {value : Text} {defect : Device.Defect} :
    Device.readAddress path name value = .error defect ↔
      (Unsigned.read (Text.trim value) = .ok none ∧
        defect = .invalidAddress (Text.trim value) path name) ∨
      ∃ n, Unsigned.read (Text.trim value) = .error ⟨n⟩ ∧ defect = .overlongNumeral n := by
  unfold Device.readAddress
  dsimp only
  cases Unsigned.read (Text.trim value) with
  | error overlong =>
    obtain ⟨digits⟩ := overlong
    simp [eq_comm]
  | ok number? => cases number? <;> simp [eq_comm]

lemma exists_readAddresses_iff {values : List Text} :
    (∃ addresses, values.mapM (Device.readAddress path name) = .ok addresses) ↔
      ∀ v ∈ values, IsNumber (Text.trim v) := by
  simp only [exists_mapM_iff, exists_readAddress_iff, IsNumber]

lemma exists_readDump_iff : (∃ m, Device.readDump d path name = .ok m) ↔
    (∀ v ∈ d.values name "address".toList, IsNumber (Text.trim v)) ∧
      d.last? name "file".toList ≠ none ∧ d.values name "address".toList ≠ [] := by
  simp only [readDump_eq_ok_iff]
  rw [← @exists_readAddresses_iff path name]
  constructor
  · rintro ⟨_, addresses, file, address, number, haddresses, hfile, hlast, -⟩
    have hne : addresses ≠ [] := List.ne_nil_of_mem (List.mem_of_getLast? hlast)
    rw [ne_eq, eq_nil_iff_of_mapM haddresses] at hne
    refine ⟨⟨addresses, haddresses⟩, ?_, hne⟩
    rw [hfile]
    exact Option.some_ne_none file
  · rintro ⟨⟨addresses, haddresses⟩, hfile, hne⟩
    rw [ne_eq, ← eq_nil_iff_of_mapM haddresses] at hne
    obtain ⟨file, hfile⟩ := Option.ne_none_iff_exists'.1 hfile
    have hlast := List.getLast?_eq_some_getLast hne
    exact ⟨_, addresses, file, _, _, haddresses, hfile, hlast, rfl⟩

lemma readDump_eq_error_iff {defect : Device.Defect} :
    Device.readDump d path name = .error defect ↔
      (d.values name "address".toList).mapM (Device.readAddress path name) = .error defect ∨
      (∀ v ∈ d.values name "address".toList, IsNumber (Text.trim v)) ∧
        (d.last? name "file".toList = none ∨ d.values name "address".toList = []) ∧
        defect = .incompleteDump path name := by
  unfold Device.readDump
  dsimp only
  rw [bind_eq_error_iff, ← @exists_readAddresses_iff path name]
  apply or_congr_right
  constructor
  · rintro ⟨addresses, haddresses, h⟩
    rw [← eq_nil_iff_of_mapM haddresses, ← List.getLast?_eq_none_iff]
    split at h
    next => cases h
    next hlacks =>
      cases h
      refine ⟨⟨addresses, haddresses⟩, ?_, rfl⟩
      cases hfile : d.last? name "file".toList with
      | none => exact .inl rfl
      | some file =>
        cases hlast : addresses.getLast? with
        | none => exact .inr rfl
        | some pair => exact absurd hlast (hlacks file pair.1 pair.2 hfile)
  · rintro ⟨⟨addresses, haddresses⟩, hlacks, rfl⟩
    rw [← eq_nil_iff_of_mapM haddresses, ← List.getLast?_eq_none_iff] at hlacks
    refine ⟨addresses, haddresses, ?_⟩
    rcases hlacks with hfile | hlast
    · rw [hfile]
      rfl
    · rw [hlast]
      cases d.last? name "file".toList <;> rfl

theorem dumpUnfit_iff {defect : Device.Defect} :
    DumpUnfit d path name defect ↔ Device.readDump d path name = .error defect := by
  rw [readDump_eq_error_iff, mapM_eq_error_iff]
  simp only [exists_readAddress_iff, readAddress_eq_error_iff]
  constructor
  · intro h
    cases h with
    | notANumber hvalues hnumbers hread =>
      exact .inl ⟨_, _, _, hvalues, hnumbers, .inl ⟨hread, rfl⟩⟩
    | overlong hvalues hnumbers hread =>
      exact .inl ⟨_, _, _, hvalues, hnumbers, .inr ⟨_, hread, rfl⟩⟩
    | incomplete hnumbers hlacks => exact .inr ⟨hnumbers, hlacks, rfl⟩
  · rintro (⟨_, _, _, hvalues, hnumbers, ⟨hread, rfl⟩ | ⟨n, hread, rfl⟩⟩ |
      ⟨hnumbers, hlacks, rfl⟩)
    · exact .notANumber hvalues hnumbers hread
    · exact .overlong hvalues hnumbers hread
    · exact .incomplete hnumbers hlacks

/-! ### Devices -/

/-- A register entry whose id, if it has one, can be read. -/
def IdReadable (e : Entry) : Prop :=
  ∃ number, readIdNumber (RegisterKey.parse e.key).id = .ok number

/-- What is wrong with a device file. The name comes first, then the dumps in the order of their
sections, and then the ids of the registers in the order of the file. -/
inductive DeviceUnfit (d : Document) (path : Text) : Device.Defect → Prop
  | missingSection (hsection : d.hasSection "device".toList = false) :
      DeviceUnfit d path (.missingSection path)
  | missingName (hsection : d.hasSection "device".toList = true)
      (hname : d.values "device".toList "name".toList = []) :
      DeviceUnfit d path (.missingName path)
  | duplicateName {first second rest}
      (hname : d.values "device".toList "name".toList = first :: second :: rest) :
      DeviceUnfit d path (.duplicateName path)
  | dump {name before dump after defect}
      (hname : d.values "device".toList "name".toList = [name])
      (hsplit : d.names.filter Device.isDumpName = before ++ dump :: after)
      (hread : ∀ other ∈ before, ∃ m, Device.readDump d path other = .ok m)
      (hunfit : DumpUnfit d path dump defect) : DeviceUnfit d path defect
  | registerId {name dumps before entry after n}
      (hname : d.values "device".toList "name".toList = [name])
      (hdumps : Device.readDumps d path = .ok dumps)
      (hentries : d.entries "regs".toList = before ++ entry :: after)
      (hread : ∀ e ∈ before, IdReadable e)
      (hid : readIdNumber (RegisterKey.parse entry.key).id = .error ⟨n⟩) :
      DeviceUnfit d path (.overlongNumeral n)

lemma exists_ofEntry_iff {e : Entry} : (∃ r, Register.ofEntry e 0 = .ok r) ↔ IdReadable e := by
  unfold IdReadable
  rw [ofEntry_eq]
  cases readIdNumber (RegisterKey.parse e.key).id <;> simp [Except.map]

lemma ofEntry_eq_error_iff {e : Entry} {overlong : Unsigned.Overlong} :
    Register.ofEntry e 0 = .error overlong ↔
      readIdNumber (RegisterKey.parse e.key).id = .error overlong := by
  rw [ofEntry_eq, map_eq_error_iff]

lemma exists_readRegisters_iff : (∃ registers, Device.readRegisters d = .ok registers) ↔
    ∀ e ∈ d.entries "regs".toList, IdReadable e := by
  simp only [readRegisters_eq_ok_iff, ofEntries_eq, map_eq_ok_iff, ← exists_ofEntry_iff,
    ← exists_mapM_iff]
  constructor
  · rintro ⟨_, registers, h, -⟩
    exact ⟨registers, h⟩
  · rintro ⟨registers, h⟩
    exact ⟨_, registers, h, rfl⟩

lemma readRegisters_eq_error_iff {defect : Device.Defect} :
    Device.readRegisters d = .error defect ↔ ∃ before entry after n,
      d.entries "regs".toList = before ++ entry :: after ∧ (∀ e ∈ before, IdReadable e) ∧
        readIdNumber (RegisterKey.parse entry.key).id = .error ⟨n⟩ ∧
        defect = .overlongNumeral n := by
  unfold Device.readRegisters
  simp only [mapError_eq_error_iff, ofEntries_eq, map_eq_error_iff, mapM_eq_error_iff,
    exists_ofEntry_iff, ofEntry_eq_error_iff]
  constructor
  · rintro ⟨⟨n⟩, ⟨before, entry, after, hentries, hread, hid⟩, rfl⟩
    exact ⟨before, entry, after, n, hentries, hread, hid, rfl⟩
  · rintro ⟨before, entry, after, n, hentries, hread, hid, rfl⟩
    exact ⟨⟨n⟩, ⟨before, entry, after, hentries, hread, hid⟩, rfl⟩

theorem exists_device_iff {declaredPath : Text} :
    (∃ dev, Device.ofDocument d declaredPath = .ok dev) ↔
      (∃ name, d.values "device".toList "name".toList = [name]) ∧
      (∀ dump ∈ d.names, Device.isDumpName dump →
        ∃ m, Device.readDump d (Path.normalize declaredPath) dump = .ok m) ∧
      ∀ e ∈ d.entries "regs".toList, IdReadable e := by
  have hdumps : (∀ dump ∈ d.names, Device.isDumpName dump →
      ∃ m, Device.readDump d (Path.normalize declaredPath) dump = .ok m) ↔
        ∃ dumps, Device.readDumps d (Path.normalize declaredPath) = .ok dumps := by
    unfold Device.readDumps
    rw [exists_mapM_iff]
    simp only [List.mem_filter, and_imp]
  rw [hdumps, ← exists_readRegisters_iff]
  simp only [device_ofDocument_eq_ok_iff]
  constructor
  · rintro ⟨_, -, name, registers, dumps, hname, hregisters, hdumps, -⟩
    exact ⟨⟨name, hname⟩, ⟨dumps, hdumps⟩, registers, hregisters⟩
  · rintro ⟨⟨name, hname⟩, ⟨dumps, hdumps⟩, registers, hregisters⟩
    exact ⟨_, hasSection_of_values_eq_cons hname, name, registers, dumps, hname, hregisters,
      hdumps, rfl⟩

theorem deviceUnfit_iff {declaredPath : Text} {defect : Device.Defect} :
    DeviceUnfit d (Path.normalize declaredPath) defect ↔
      Device.ofDocument d declaredPath = .error defect := by
  unfold Device.ofDocument
  dsimp only
  constructor
  · intro h
    cases h with
    | missingSection hsection =>
      rw [if_neg (by rw [hsection]; exact Bool.false_ne_true)]
    | missingName hsection hname =>
      rw [if_pos hsection, hname]
    | duplicateName hname =>
      rw [if_pos (hasSection_of_values_eq_cons hname), hname]
    | dump hname hsplit hread hunfit =>
      have hdumps : Device.readDumps d (Path.normalize declaredPath) = .error defect :=
        mapM_eq_error_iff.2 ⟨_, _, _, hsplit, hread, dumpUnfit_iff.1 hunfit⟩
      rw [if_pos (hasSection_of_values_eq_cons hname), hname]
      dsimp only
      rw [hdumps]
      rfl
    | registerId hname hdumps hentries hread hid =>
      have hregisters := readRegisters_eq_error_iff.2 ⟨_, _, _, _, hentries, hread, hid, rfl⟩
      rw [if_pos (hasSection_of_values_eq_cons hname), hname]
      dsimp only
      rw [hdumps, ok_bind, hregisters]
      rfl
  · intro h
    split at h
    next hsection =>
      split at h
      next hname =>
        cases h
        exact .missingName hsection hname
      next name hname =>
        rcases bind_eq_error_iff.1 h with hdumps | ⟨dumps, hdumps, h⟩
        · obtain ⟨before, dump, after, hsplit, hread, hdump⟩ := mapM_eq_error_iff.1 hdumps
          exact .dump hname hsplit hread (dumpUnfit_iff.2 hdump)
        · rcases bind_eq_error_iff.1 h with hregisters | ⟨registers, -, h⟩
          · obtain ⟨before, entry, after, n, hentries, hread, hid, rfl⟩ :=
              readRegisters_eq_error_iff.1 hregisters
            exact .registerId hname hdumps hentries hread hid
          · cases h
      next first second rest hname =>
        cases h
        exact .duplicateName hname
    next hsection =>
      cases h
      exact .missingSection (Bool.not_eq_true _ ▸ hsection)

/-! ### Manifests -/

/-- What is wrong with a manifest. -/
inductive ManifestUnfit (d : Document) : Manifest.Defect → Prop
  | missingSection (hsection : d.hasSection "snapshot".toList = false) :
      ManifestUnfit d .missingSection
  | duplicateVersion {first second rest}
      (hversion : d.values "snapshot".toList "version".toList = first :: second :: rest) :
      ManifestUnfit d (.duplicateKey "version".toList)
  | missingVersion (hsection : d.hasSection "snapshot".toList = true)
      (hversion : d.values "snapshot".toList "version".toList = [] ∨
        d.values "snapshot".toList "version".toList = [[]]) : ManifestUnfit d .missingVersion
  | duplicateDescription {version first second rest}
      (hversion : d.values "snapshot".toList "version".toList = [version]) (hne : version ≠ [])
      (hdescription : d.values "snapshot".toList "description".toList = first :: second :: rest) :
      ManifestUnfit d (.duplicateKey "description".toList)
  | missingDeviceList {version description}
      (hversion : d.values "snapshot".toList "version".toList = [version]) (hne : version ≠ [])
      (hdescription : d.values "snapshot".toList "description".toList = Option.toList description)
      (hlist : d.hasSection "device_list".toList = false) : ManifestUnfit d .missingDeviceList

lemma single_eq_error_iff {key : Text} {defect : Manifest.Defect} :
    Manifest.single d key = .error defect ↔
      ∃ first second rest, d.values "snapshot".toList key = first :: second :: rest ∧
        defect = .duplicateKey key := by
  unfold Manifest.single
  generalize d.values "snapshot".toList key = values
  rcases values with _ | ⟨first, _ | ⟨second, rest⟩⟩ <;> simp [eq_comm]

lemma readVersion_eq_error_iff {defect : Manifest.Defect} :
    Manifest.readVersion d = .error defect ↔
      (∃ first second rest, d.values "snapshot".toList "version".toList = first :: second :: rest ∧
        defect = .duplicateKey "version".toList) ∨
      (d.values "snapshot".toList "version".toList = [] ∨
        d.values "snapshot".toList "version".toList = [[]]) ∧ defect = .missingVersion := by
  unfold Manifest.readVersion
  rw [bind_eq_error_iff, single_eq_error_iff]
  apply or_congr_right
  simp only [single_eq_ok_iff]
  constructor
  · rintro ⟨version?, hversion, h⟩
    split at h
    next =>
      cases h
      exact ⟨.inl hversion, rfl⟩
    next =>
      cases h
      exact ⟨.inr hversion, rfl⟩
    next => cases h
  · rintro ⟨hversion | hversion, rfl⟩
    · exact ⟨none, hversion, rfl⟩
    · exact ⟨some [], hversion, rfl⟩

lemma readDeviceList_eq_error_iff {defect : Manifest.Defect} :
    Manifest.readDeviceList d = .error defect ↔
      d.hasSection "device_list".toList = false ∧ defect = .missingDeviceList := by
  unfold Manifest.readDeviceList
  cases d.hasSection "device_list".toList <;> simp [eq_comm]

theorem exists_manifest_iff : (∃ m, Manifest.ofDocument d = .ok m) ↔
    (∃ version, d.values "snapshot".toList "version".toList = [version] ∧ version ≠ []) ∧
      (∃ description, d.values "snapshot".toList "description".toList = Option.toList description) ∧
      d.hasSection "device_list".toList = true := by
  simp only [manifest_ofDocument_eq_ok_iff]
  constructor
  · rintro ⟨_, -, version, description, hversion, hne, hdescription, hlist, -⟩
    exact ⟨⟨version, hversion, hne⟩, ⟨description, hdescription⟩, hlist⟩
  · rintro ⟨⟨version, hversion, hne⟩, ⟨description, hdescription⟩, hlist⟩
    exact ⟨_, hasSection_of_values_eq_cons hversion, version, description, hversion, hne,
      hdescription, hlist, rfl⟩

theorem manifestUnfit_iff {defect : Manifest.Defect} :
    ManifestUnfit d defect ↔ Manifest.ofDocument d = .error defect := by
  unfold Manifest.ofDocument
  constructor
  · intro h
    cases h with
    | missingSection hsection =>
      rw [if_neg (by rw [hsection]; exact Bool.false_ne_true)]
    | duplicateVersion hversion =>
      have hread := readVersion_eq_error_iff.2 (.inl ⟨_, _, _, hversion, rfl⟩)
      rw [if_pos (hasSection_of_values_eq_cons hversion), hread]
      rfl
    | missingVersion hsection hversion =>
      rw [if_pos hsection, readVersion_eq_error_iff.2 (.inr ⟨hversion, rfl⟩)]
      rfl
    | duplicateDescription hversion hne hdescription =>
      rw [if_pos (hasSection_of_values_eq_cons hversion), readVersion_eq_ok_iff.2 ⟨hversion, hne⟩,
        ok_bind, single_eq_error_iff.2 ⟨_, _, _, hdescription, rfl⟩]
      rfl
    | missingDeviceList hversion hne hdescription hlist =>
      rw [if_pos (hasSection_of_values_eq_cons hversion), readVersion_eq_ok_iff.2 ⟨hversion, hne⟩,
        ok_bind, single_eq_ok_iff.2 hdescription, ok_bind,
        readDeviceList_eq_error_iff.2 ⟨hlist, rfl⟩]
      rfl
  · intro h
    split at h
    next hsection =>
      rcases bind_eq_error_iff.1 h with hread | ⟨version, hread, h⟩
      · rcases readVersion_eq_error_iff.1 hread with ⟨_, _, _, hversion, rfl⟩ | ⟨hversion, rfl⟩
        · exact .duplicateVersion hversion
        · exact .missingVersion hsection hversion
      · obtain ⟨hversion, hne⟩ := readVersion_eq_ok_iff.1 hread
        rcases bind_eq_error_iff.1 h with hread | ⟨description, hread, h⟩
        · obtain ⟨_, _, _, hdescription, rfl⟩ := single_eq_error_iff.1 hread
          exact .duplicateDescription hversion hne hdescription
        · rcases bind_eq_error_iff.1 h with hdevices | ⟨_, -, h⟩
          · obtain ⟨hlist, rfl⟩ := readDeviceList_eq_error_iff.1 hdevices
            exact .missingDeviceList hversion hne (single_eq_ok_iff.1 hread) hlist
          · cases h
    next hsection =>
      cases h
      exact .missingSection (Bool.not_eq_true _ ▸ hsection)

/-! ### Trace metadata -/

/-- What is wrong with a trace buffer. -/
inductive BufferUnfit (d : Document) (id : Text) : TraceMetadata.Defect → Prop
  | dangling (hsection : d.hasSection id = false) : BufferUnfit d id (.danglingBuffer id)
  | incomplete (hsection : d.hasSection id = true)
      (hlacks : d.last? id "name".toList = none ∨ d.last? id "file".toList = none) :
      BufferUnfit d id (.incompleteBuffer id)
  | noFiles {name file} (hname : d.last? id "name".toList = some name)
      (hfile : d.last? id "file".toList = some file) (hempty : CommaList.items file = []) :
      BufferUnfit d id (.noFiles id)

/-- What is wrong with a trace metadata file. The list of buffers comes first, and then the
buffers in ascending order of their ids. -/
inductive TraceUnfit (d : Document) (path : Text) : TraceMetadata.Defect → Prop
  | missingSection (hsection : d.hasSection "trace_buffers".toList = false) :
      TraceUnfit d path (.missingSection path)
  | missingBuffers (hsection : d.hasSection "trace_buffers".toList = true)
      (hlist : d.first? "trace_buffers".toList "buffers".toList = none) :
      TraceUnfit d path (.missingBuffers path)
  | noBuffers {list} (hlist : d.first? "trace_buffers".toList "buffers".toList = some list)
      (hempty : CommaList.items list = []) : TraceUnfit d path (.noBuffers path)
  | buffer {list before id after defect}
      (hlist : d.first? "trace_buffers".toList "buffers".toList = some list)
      (hsplit : Text.ascending (CommaList.items list) = before ++ id :: after)
      (hread : ∀ other ∈ before, ∃ b, TraceMetadata.readBuffer d other = .ok b)
      (hunfit : BufferUnfit d id defect) : TraceUnfit d path defect

lemma hasSection_of_first?_eq_some {name key value : Text} (h : d.first? name key = some value) :
    d.hasSection name = true := by
  obtain ⟨rest, hvalues⟩ := List.head?_eq_some_iff.1 h
  exact hasSection_of_values_eq_cons hvalues

lemma hasSection_of_last?_eq_some {name key value : Text} (h : d.last? name key = some value) :
    d.hasSection name = true := by
  obtain ⟨first, rest, hvalues⟩ :=
    List.exists_cons_of_ne_nil (List.ne_nil_of_mem (mem_values_of_last? h))
  exact hasSection_of_values_eq_cons hvalues

lemma fileList_eq_nil_iff {file : Text} :
    TraceMetadata.fileList file = [] ↔ CommaList.items file = [] :=
  List.map_eq_nil_iff

lemma exists_readBuffer_iff {id : Text} : (∃ b, TraceMetadata.readBuffer d id = .ok b) ↔
    (∃ name, d.last? id "name".toList = some name) ∧
      ∃ file, d.last? id "file".toList = some file ∧ CommaList.items file ≠ [] := by
  simp only [readBuffer_eq_ok_iff, ne_eq, fileList_eq_nil_iff]
  constructor
  · rintro ⟨_, -, name, file, hname, hfile, hne, -⟩
    exact ⟨⟨name, hname⟩, file, hfile, hne⟩
  · rintro ⟨⟨name, hname⟩, file, hfile, hne⟩
    exact ⟨_, hasSection_of_last?_eq_some hname, name, file, hname, hfile, hne, rfl⟩

theorem bufferUnfit_iff {id : Text} {defect : TraceMetadata.Defect} :
    BufferUnfit d id defect ↔ TraceMetadata.readBuffer d id = .error defect := by
  unfold TraceMetadata.readBuffer
  dsimp only
  constructor
  · intro h
    cases h with
    | dangling hsection => rw [if_neg (by rw [hsection]; exact Bool.false_ne_true)]
    | incomplete hsection hlacks =>
      rw [if_pos hsection]
      rcases hlacks with hname | hfile
      · rw [hname]
      · rw [hfile]
        cases d.last? id "name".toList <;> rfl
    | noFiles hname hfile hempty =>
      rw [if_pos (hasSection_of_last?_eq_some hname), hname, hfile]
      dsimp only
      rw [fileList_eq_nil_iff.2 hempty]
      rfl
  · intro h
    split at h
    next hsection =>
      split at h
      next name file hname hfile =>
        split at h
        next hempty =>
          cases h
          exact .noFiles hname hfile (fileList_eq_nil_iff.1 (List.isEmpty_iff.1 hempty))
        next => cases h
      next hlacks =>
        cases h
        refine .incomplete hsection ?_
        cases hname : d.last? id "name".toList with
        | none => exact .inl rfl
        | some name =>
          cases hfile : d.last? id "file".toList with
          | none => exact .inr rfl
          | some file => exact absurd hfile (hlacks name file hname)
    next hsection =>
      cases h
      exact .dangling (Bool.not_eq_true _ ▸ hsection)

lemma ascending_eq_nil_iff {ts : List Text} : Text.ascending ts = [] ↔ ts = [] := by
  simp only [List.eq_nil_iff_forall_not_mem, mem_ascending]

lemma readBufferIds_eq_error_iff {defect : TraceMetadata.Defect} :
    TraceMetadata.readBufferIds d path = .error defect ↔
      (d.first? "trace_buffers".toList "buffers".toList = none ∧ defect = .missingBuffers path) ∨
      ∃ list, d.first? "trace_buffers".toList "buffers".toList = some list ∧
        CommaList.items list = [] ∧ defect = .noBuffers path := by
  unfold TraceMetadata.readBufferIds
  cases d.first? "trace_buffers".toList "buffers".toList with
  | none =>
    simp only [Except.error.injEq, reduceCtorEq, true_and, false_and, exists_false, or_false]
    exact eq_comm
  | some list =>
    simp only [reduceCtorEq, false_and, Option.some.injEq, exists_eq_left', false_or]
    rw [← ascending_eq_nil_iff]
    cases Text.ascending (CommaList.items list) with
    | nil =>
      simp only [Except.error.injEq, true_and]
      exact eq_comm
    | cons id rest => simp only [reduceCtorEq, false_and]

theorem exists_trace_iff : (∃ t, TraceMetadata.ofDocument d path = .ok t) ↔
    ∃ list, d.first? "trace_buffers".toList "buffers".toList = some list ∧
      CommaList.items list ≠ [] ∧
      ∀ id ∈ CommaList.items list, ∃ b, TraceMetadata.readBuffer d id = .ok b := by
  have hids : ∀ list, (∀ id ∈ CommaList.items list, ∃ b, TraceMetadata.readBuffer d id = .ok b) ↔
      ∃ buffers, (Text.ascending (CommaList.items list)).mapM (TraceMetadata.readBuffer d) =
        .ok buffers := by
    intro list
    simp only [exists_mapM_iff, mem_ascending]
  simp only [trace_ofDocument_eq_ok_iff, readBufferIds_eq_ok_iff, hids]
  constructor
  · rintro ⟨_, -, _, buffers, ⟨list, hlist, rfl, hne⟩, hbuffers, -⟩
    exact ⟨list, hlist, fun hempty => hne (ascending_eq_nil_iff.2 hempty), buffers, hbuffers⟩
  · rintro ⟨list, hlist, hne, buffers, hbuffers⟩
    exact ⟨_, hasSection_of_first?_eq_some hlist, _, buffers,
      ⟨list, hlist, rfl, fun hempty => hne (ascending_eq_nil_iff.1 hempty)⟩, hbuffers, rfl⟩

theorem traceUnfit_iff {defect : TraceMetadata.Defect} :
    TraceUnfit d path defect ↔ TraceMetadata.ofDocument d path = .error defect := by
  unfold TraceMetadata.ofDocument
  constructor
  · intro h
    cases h with
    | missingSection hsection => rw [if_neg (by rw [hsection]; exact Bool.false_ne_true)]
    | missingBuffers hsection hlist =>
      rw [if_pos hsection, readBufferIds_eq_error_iff.2 (.inl ⟨hlist, rfl⟩)]
      rfl
    | noBuffers hlist hempty =>
      rw [if_pos (hasSection_of_first?_eq_some hlist),
        readBufferIds_eq_error_iff.2 (.inr ⟨_, hlist, hempty, rfl⟩)]
      rfl
    | @buffer list before id after defect hlist hsplit hread hunfit =>
      have hne : Text.ascending (CommaList.items list) ≠ [] := by simp [hsplit]
      have hbuffers : (Text.ascending (CommaList.items list)).mapM (TraceMetadata.readBuffer d) =
          .error defect :=
        mapM_eq_error_iff.2 ⟨_, _, _, hsplit, hread, bufferUnfit_iff.1 hunfit⟩
      rw [if_pos (hasSection_of_first?_eq_some hlist),
        readBufferIds_eq_ok_iff.2 ⟨list, hlist, rfl, hne⟩, ok_bind, hbuffers]
      rfl
  · intro h
    split at h
    next hsection =>
      rcases bind_eq_error_iff.1 h with hids | ⟨ids, hids, h⟩
      · rcases readBufferIds_eq_error_iff.1 hids with ⟨hlist, rfl⟩ | ⟨list, hlist, hempty, rfl⟩
        · exact .missingBuffers hsection hlist
        · exact .noBuffers hlist hempty
      · obtain ⟨list, hlist, rfl, -⟩ := readBufferIds_eq_ok_iff.1 hids
        rcases bind_eq_error_iff.1 h with hbuffers | ⟨_, -, h⟩
        · obtain ⟨before, id, after, hsplit, hread, hbuffer⟩ := mapM_eq_error_iff.1 hbuffers
          exact .buffer hlist hsplit hread (bufferUnfit_iff.2 hbuffer)
        · cases h
    next hsection =>
      cases h
      exact .missingSection (Bool.not_eq_true _ ▸ hsection)

end TraceSnapshot.Proofs
