import Mathlib
import TraceSnapshot.Proofs.Fitness

/-!
# Complete device files

A device file is complete if it names its device once, all of its dumps have what they must have
and its register ids can be read. From a complete file the whole device is read as it stands there;
of any other one the first broken rule is told, dumps in the order of their sections.
-/

namespace TraceSnapshot.Proofs
open Ini (Document Entry)

variable {d : Document} {path name : Text}

/-! ### Memory dumps -/

/-- A section that gives a memory dump. All of its addresses are numbers, not only the last one. -/
structure CompleteDump (d : Document) (name : Text) : Prop where
  numbers : ∀ v ∈ d.values name "address".toList, IsNumber (Text.trim v)
  file : d.values name "file".toList ≠ []
  address : d.values name "address".toList ≠ []

/-- The memory dump of a section. Of a key the last value counts. -/
def DumpOf (d : Document) (name : Text) (m : MemoryDump) : Prop :=
  ∃ file address number, d.last? name "file".toList = some file ∧
    d.last? name "address".toList = some address ∧
    Unsigned.read (Text.trim address) = .ok (some number) ∧
    m = {
      sectionName := name
      file := Path.normalize (Text.unquoted file)
      address := Text.trim address
      addressValue := number
      space := Text.unquoted ((d.last? name "space".toList).getD [])
      length := Text.trim ((d.last? name "length".toList).getD [])
      offset := Text.trim ((d.last? name "offset".toList).getD []) }

/-- How a section is not complete. The first address that is no number is told of, whatever else
is missing and whatever address follows. -/
inductive DumpBreaks (d : Document) (path name : Text) : Failure → Prop
  | invalidAddress {earlier value later}
      (hvalues : d.values name "address".toList = earlier ++ value :: later)
      (hnumbers : ∀ v ∈ earlier, IsNumber (Text.trim v))
      (hread : Unsigned.read (Text.trim value) = .ok none) :
      DumpBreaks d path name (complaint d .invalidValue ("invalid dump address '".toList ++
        Text.trim value ++ "' in ".toList ++ path ++ "/".toList ++ name))
  | overlongAddress {earlier value later n}
      (hvalues : d.values name "address".toList = earlier ++ value :: later)
      (hnumbers : ∀ v ∈ earlier, IsNumber (Text.trim v))
      (hread : Unsigned.read (Text.trim value) = .error ⟨n⟩) :
      DumpBreaks d path name (.aborted (.overlongNumeral n))
  | incomplete (hnumbers : ∀ v ∈ d.values name "address".toList, IsNumber (Text.trim v))
      (hlacks : d.values name "file".toList = [] ∨ d.values name "address".toList = []) :
      DumpBreaks d path name (complaint d .missingKey
        ("dump section missing file or address: ".toList ++ path ++ "/".toList ++ name))

lemma completeDump_iff : CompleteDump d name ↔ ∃ m, Device.readDump d path name = .ok m := by
  rw [exists_readDump_iff, ne_eq, last?_eq_none_iff]
  exact ⟨fun h => ⟨h.numbers, h.file, h.address⟩, fun h => ⟨h.1, h.2.1, h.2.2⟩⟩

/-- The last of the addresses that are read comes from the last value. -/
lemma getLast?_of_readAddresses {values : List Text} {addresses : List (Text × Nat)}
    (h : values.mapM (Device.readAddress path name) = .ok addresses) {address : Text} {number : Nat}
    (hlast : addresses.getLast? = some (address, number)) :
    values.getLast?.map Text.trim = some address ∧ Unsigned.read address = .ok (some number) := by
  have htexts : addresses.map Prod.fst = values.map Text.trim :=
    map_eq_of_mapM (fun _ _ hread => (readAddress_eq_ok_iff.1 hread).2) h
  constructor
  · rw [← List.getLast?_map, ← htexts, List.getLast?_map, hlast]
    rfl
  · obtain ⟨value, -, hread⟩ := exists_of_mem_mapM h (List.mem_of_getLast? hlast)
    obtain ⟨hnumber, rfl⟩ := readAddress_eq_ok_iff.1 hread
    exact hnumber

lemma dumpOf_of_readDump {m : MemoryDump} (h : Device.readDump d path name = .ok m) :
    DumpOf d name m := by
  obtain ⟨addresses, file, address, number, haddresses, hfile, hlast, rfl⟩ :=
    readDump_eq_ok_iff.1 h
  obtain ⟨haddress, hnumber⟩ := getLast?_of_readAddresses haddresses hlast
  obtain ⟨value, hvalue, rfl⟩ := Option.map_eq_some_iff.1 haddress
  exact ⟨file, value, number, hfile, hvalue, hnumber, rfl⟩

/-- A section has one dump only. -/
lemma DumpOf.unique {m n : MemoryDump} (hm : DumpOf d name m) (hn : DumpOf d name n) : m = n := by
  obtain ⟨file, address, number, hfile, haddress, hnumber, rfl⟩ := hm
  obtain ⟨file', address', number', hfile', haddress', hnumber', rfl⟩ := hn
  obtain rfl : file = file' := Option.some.inj (hfile.symm.trans hfile')
  obtain rfl : address = address' := Option.some.inj (haddress.symm.trans haddress')
  obtain rfl : number = number' :=
    Option.some.inj (Except.ok.inj (hnumber.symm.trans hnumber'))
  rfl

lemma readDump_iff_dumpOf {m : MemoryDump} :
    Device.readDump d path name = .ok m ↔ CompleteDump d name ∧ DumpOf d name m := by
  constructor
  · intro h
    exact ⟨completeDump_iff.2 ⟨m, h⟩, dumpOf_of_readDump h⟩
  · rintro ⟨hcomplete, hdump⟩
    -- Some dump is read from a complete section, and a section has only one.
    obtain ⟨n, hread⟩ := (@completeDump_iff d path name).1 hcomplete
    rw [hread, (dumpOf_of_readDump hread).unique hdump]

/-- Whatever breaks a section is what reading it fails with. -/
lemma dumpBreaks_iff {failure : Failure} : DumpBreaks d path name failure ↔
    ∃ defect, Device.readDump d path name = .error defect ∧ defect.failure d.source = failure := by
  simp only [← dumpUnfit_iff]
  constructor
  · intro h
    cases h with
    | invalidAddress hvalues hnumbers hread =>
      exact ⟨_, .notANumber hvalues hnumbers hread, rfl⟩
    | overlongAddress hvalues hnumbers hread =>
      exact ⟨_, .overlong hvalues hnumbers hread, rfl⟩
    | incomplete hnumbers hlacks =>
      rw [← last?_eq_none_iff] at hlacks
      exact ⟨_, .incomplete hnumbers hlacks, rfl⟩
  · rintro ⟨defect, h, rfl⟩
    cases h with
    | notANumber hvalues hnumbers hread => exact .invalidAddress hvalues hnumbers hread
    | overlong hvalues hnumbers hread => exact .overlongAddress hvalues hnumbers hread
    | incomplete hnumbers hlacks =>
      rw [last?_eq_none_iff] at hlacks
      exact .incomplete hnumbers hlacks

/-! ### Devices -/

/-- The register of an entry at a position of its section. -/
def RegisterOf (e : Entry) (position : Nat) (r : Register) : Prop :=
  ∃ number, readIdNumber (RegisterKey.parse e.key).id = .ok number ∧
    r = {
      name := (RegisterKey.parse e.key).name
      value := Text.unquoted e.value
      id := (RegisterKey.parse e.key).id
      idNumber := number
      size := (RegisterKey.parse e.key).size
      order := position }

/-- A device file with one name, complete dumps and register ids that can be read. -/
structure CompleteDevice (d : Document) : Prop where
  name : ∃ name, d.values "device".toList "name".toList = [name]
  dumps : ∀ dump ∈ d.names, Device.isDumpName dump → CompleteDump d dump
  ids : ∀ e ∈ d.entries "regs".toList, IdReadable e

/-- The device of a file, with one register for each entry of its section and one dump for each
section of a dump, both in the order of the file. -/
def DeviceOf (d : Document) (path : Text) (dev : Device) : Prop :=
  ∃ name registers dumps, d.values "device".toList "name".toList = [name] ∧
    List.Forall₂ (fun entry r => RegisterOf entry.1 entry.2 r)
      (d.entries "regs".toList).zipIdx registers ∧
    List.Forall₂ (DumpOf d) (d.names.filter Device.isDumpName) dumps ∧
    dev = {
      name
      iniPath := path
      className := (d.last? "device".toList "class".toList).getD []
      typeName := (d.last? "device".toList "type".toList).getD []
      location := (d.last? "device".toList "location".toList).getD []
      registers
      dumps }

/-- How the reading of a device file ends. Each rule is looked at only if those before it are
kept. -/
inductive DeviceEnds (d : Document) (path : Text) : Except Failure Device → Prop
  | missingSection (hsection : "device".toList ∉ d.names) :
      DeviceEnds d path (.error (complaint d .missingSection
        ("device ini missing [device] section: ".toList ++ path)))
  | missingName (hsection : "device".toList ∈ d.names)
      (hname : d.values "device".toList "name".toList = []) :
      DeviceEnds d path (.error (complaint d .missingKey
        ("device ini missing [device] name: ".toList ++ path)))
  | duplicateName {first second rest}
      (hname : d.values "device".toList "name".toList = first :: second :: rest) :
      DeviceEnds d path (.error (complaint d .duplicateKey
        ("duplicate name key in [device]: ".toList ++ path)))
  | dump {name before dump after failure}
      (hname : d.values "device".toList "name".toList = [name])
      (hsplit : d.names.filter Device.isDumpName = before ++ dump :: after)
      (hbefore : ∀ other ∈ before, CompleteDump d other)
      (hbreaks : DumpBreaks d path dump failure) : DeviceEnds d path (.error failure)
  | registerId {name before entry after id n}
      (hname : d.values "device".toList "name".toList = [name])
      (hdumps : ∀ dump ∈ d.names, Device.isDumpName dump → CompleteDump d dump)
      (hentries : d.entries "regs".toList = before ++ entry :: after)
      (hbefore : ∀ e ∈ before, IdReadable e)
      (hid : (RegisterKey.parse entry.key).id = some id)
      (hread : Unsigned.read id = .error ⟨n⟩) :
      DeviceEnds d path (.error (.aborted (.overlongNumeral n)))
  | complete {dev} (hcomplete : CompleteDevice d) (hdevice : DeviceOf d path dev) :
      DeviceEnds d path (.ok dev)

lemma ofEntry_iff_registerOf {e : Entry} {position : Nat} {r : Register} :
    Register.ofEntry e position = .ok r ↔ RegisterOf e position r := by
  rw [ofEntry_eq, map_eq_ok_iff]
  unfold RegisterOf
  simp only [eq_comm]

lemma readRegisters_iff_registerOf {registers : List Register} :
    Device.readRegisters d = .ok registers ↔
      List.Forall₂ (fun entry r => RegisterOf entry.1 entry.2 r)
        (d.entries "regs".toList).zipIdx registers := by
  rw [readRegisters_eq_ok_iff]
  unfold Register.ofEntries
  rw [mapM_eq_ok_iff]
  simp only [ofEntry_iff_registerOf]

lemma completeDumps_iff : (∀ dump ∈ d.names, Device.isDumpName dump → CompleteDump d dump) ↔
    ∃ dumps, Device.readDumps d path = .ok dumps := by
  unfold Device.readDumps
  rw [exists_mapM_iff]
  simp only [List.mem_filter, and_imp, ← completeDump_iff]

lemma readDumps_iff_dumpOf {dumps : List MemoryDump} :
    Device.readDumps d path = .ok dumps ↔
      (∀ dump ∈ d.names, Device.isDumpName dump → CompleteDump d dump) ∧
        List.Forall₂ (DumpOf d) (d.names.filter Device.isDumpName) dumps := by
  unfold Device.readDumps
  rw [mapM_eq_ok_iff]
  simp only [readDump_iff_dumpOf, List.forall₂_and_left, List.mem_filter, and_imp]

lemma completeDevice_iff {declaredPath : Text} :
    CompleteDevice d ↔ ∃ dev, Device.ofDocument d declaredPath = .ok dev := by
  rw [exists_device_iff]
  simp only [← completeDump_iff]
  exact ⟨fun h => ⟨h.name, h.dumps, h.ids⟩, fun h => ⟨h.1, h.2.1, h.2.2⟩⟩

lemma device_iff_deviceOf {declaredPath : Text} {dev : Device} :
    Device.ofDocument d declaredPath = .ok dev ↔
      CompleteDevice d ∧ DeviceOf d (Path.normalize declaredPath) dev := by
  constructor
  · intro h
    refine ⟨completeDevice_iff.2 ⟨dev, h⟩, ?_⟩
    obtain ⟨-, name, registers, dumps, hname, hregisters, hdumps, rfl⟩ :=
      device_ofDocument_eq_ok_iff.1 h
    exact ⟨name, registers, dumps, hname, readRegisters_iff_registerOf.1 hregisters,
      (readDumps_iff_dumpOf.1 hdumps).2, rfl⟩
  · rintro ⟨hcomplete, name, registers, dumps, hname, hregisters, hdumps, rfl⟩
    exact device_ofDocument_eq_ok_iff.2 ⟨hasSection_of_values_eq_cons hname, name, registers, dumps,
      hname, readRegisters_iff_registerOf.2 hregisters,
      readDumps_iff_dumpOf.2 ⟨hcomplete.dumps, hdumps⟩, rfl⟩

lemma DeviceEnds.eq {declaredPath : Text} {r : Except Failure Device}
    (h : DeviceEnds d (Path.normalize declaredPath) r) :
    (Device.ofDocument d declaredPath).mapError (Device.Defect.failure d.source) = r := by
  cases h with
  | missingSection hsection =>
    rw [deviceUnfit_iff.1 (.missingSection (hasSection_eq_false_iff.2 hsection))]
    rfl
  | missingName hsection hname =>
    rw [deviceUnfit_iff.1 (.missingName (hasSection_iff.2 hsection) hname)]
    rfl
  | duplicateName hname =>
    rw [deviceUnfit_iff.1 (.duplicateName hname)]
    rfl
  | @dump name before dump after failure hname hsplit hbefore hbreaks =>
    obtain ⟨defect, hread, rfl⟩ := dumpBreaks_iff.1 hbreaks
    have hdumps : ∀ other ∈ before,
        ∃ m, Device.readDump d (Path.normalize declaredPath) other = .ok m :=
      fun other hother => completeDump_iff.1 (hbefore other hother)
    rw [deviceUnfit_iff.1 (.dump hname hsplit hdumps (dumpUnfit_iff.2 hread))]
    rfl
  | @registerId name before entry after id n hname hdumps hentries hbefore hid hread =>
    obtain ⟨dumps, hdumps⟩ := (@completeDumps_iff d (Path.normalize declaredPath)).1 hdumps
    have hnumber := readIdNumber_eq_error_iff.2 ⟨id, hid, hread⟩
    rw [deviceUnfit_iff.1 (.registerId hname hdumps hentries hbefore hnumber)]
    rfl
  | complete hcomplete hdevice =>
    rw [device_iff_deviceOf.2 ⟨hcomplete, hdevice⟩]
    rfl

lemma deviceEnds_ofDocument (d : Document) (declaredPath : Text) :
    DeviceEnds d (Path.normalize declaredPath)
      ((Device.ofDocument d declaredPath).mapError (Device.Defect.failure d.source)) := by
  cases hresult : Device.ofDocument d declaredPath with
  | ok dev =>
    obtain ⟨hcomplete, hdevice⟩ := device_iff_deviceOf.1 hresult
    exact .complete hcomplete hdevice
  | error defect =>
    cases deviceUnfit_iff.2 hresult with
    | missingSection hsection => exact .missingSection (hasSection_eq_false_iff.1 hsection)
    | missingName hsection hname => exact .missingName (hasSection_iff.1 hsection) hname
    | duplicateName hname => exact .duplicateName hname
    | dump hname hsplit hread hunfit =>
      exact .dump hname hsplit (fun other hother => completeDump_iff.2 (hread other hother))
        (dumpBreaks_iff.2 ⟨defect, dumpUnfit_iff.1 hunfit, rfl⟩)
    | registerId hname hdumps hentries hbefore hnumber =>
      obtain ⟨id, hid, hread⟩ := readIdNumber_eq_error_iff.1 hnumber
      exact .registerId hname (completeDumps_iff.2 ⟨_, hdumps⟩) hentries hbefore hid hread

/-- A device is read from a file if and only if the file is complete, and then all of it as the file
has it. Otherwise the first broken rule is told, with the file that breaks it. -/
theorem device_ofDocument_ends (d : Document) (declaredPath : Text) :
    let path := Path.normalize declaredPath
    let result := (Device.ofDocument d declaredPath).mapError (Device.Defect.failure d.source)
    (∀ r, result = r ↔ DeviceEnds d path r) ∧ ((∃ dev, result = .ok dev) ↔ CompleteDevice d) := by
  intro path result
  constructor
  · intro r
    constructor
    · rintro rfl
      exact deviceEnds_ofDocument d declaredPath
    · exact DeviceEnds.eq
  · simp only [result, mapError_eq_ok_iff]
    exact completeDevice_iff.symm

end TraceSnapshot.Proofs
