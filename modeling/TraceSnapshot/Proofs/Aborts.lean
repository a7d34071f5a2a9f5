import Mathlib
import TraceSnapshot.Proofs.AllOrNothing
import TraceSnapshot.Proofs.Fitness
import TraceSnapshot.Proofs.Numerals

/-!
# Runs that abort

A failure is told in a report, but no report is made of a path of the manifest with a null
character, nor of a decimal numeral with more digits than can be read. This file says exactly
which files make a run abort. That is about runs whose directory and output file are texts: names
with a lone surrogate, which no file content can bring in, are outside it.
-/

namespace TraceSnapshot.Proofs
open Ini (Document Entry)

/-! ### Numerals -/

/-- A decimal numeral of `n` digits, too long to be read. -/
structure Overlong (t : Text) (n : Nat) : Prop where
  length : t.length = n
  over_limit : 4300 < n
  digits : ∀ c ∈ t, c.isDigit
  no_zero : t.head? ≠ some '0'

lemma read_eq_error_iff {t : Text} {n : Nat} :
    Unsigned.read t = .error ⟨n⟩ ↔ Overlong t n := by
  constructor
  · intro h
    have hreads := readsAs_read t
    rw [h] at hreads
    cases hreads with
    | overlong hspells hlength =>
      obtain ⟨rfl, -, hdigits, hhead⟩ := spells_decimal_iff.1 hspells
      exact ⟨rfl, hlength, hdigits, hhead⟩
  · rintro ⟨rfl, hover, hdigits, hhead⟩
    have hne : t ≠ [] := by
      rintro rfl
      cases hover
    have hspells := spells_decimal_iff.2 ⟨rfl, hne, hdigits, hhead⟩
    exact (ReadsAs.overlong hspells hover).read_eq

/-! ### Devices -/

/-- The first thing wrong with a device file is a numeral of `n` digits: an address of a dump,
after dumps and addresses that can be read, or the id of a register, after all dumps and after
ids that can be read. -/
inductive OverlongIn (d : Document) (path : Text) (n : Nat) : Prop
  | address {before dump after earlier value later name}
      (hdumps : d.names.filter Device.isDumpName = before ++ dump :: after)
      (hread : ∀ other ∈ before, ∃ m, Device.readDump d path other = .ok m)
      (hvalues : d.values dump "address".toList = earlier ++ value :: later)
      (hnumbers : ∀ v ∈ earlier, ∃ number, Unsigned.read (Text.trim v) = .ok (some number))
      (hdevice : d.values "device".toList "name".toList = [name])
      (hoverlong : Overlong (Text.trim value) n) : OverlongIn d path n
  | registerId {dumps before entry after name id}
      (hdumps : Device.readDumps d path = .ok dumps)
      (hentries : d.entries "regs".toList = before ++ entry :: after)
      (hread : ∀ e ∈ before, ∃ number, readIdNumber (RegisterKey.parse e.key).id = .ok number)
      (hdevice : d.values "device".toList "name".toList = [name])
      (hid : (RegisterKey.parse entry.key).id = some id)
      (hoverlong : Overlong id n) : OverlongIn d path n

variable {d : Document} {path : Text} {n : Nat}

lemma readIdNumber_eq_overlong_iff {id : Option Text} :
    readIdNumber id = .error ⟨n⟩ ↔ ∃ t, id = some t ∧ Overlong t n := by
  simp only [readIdNumber_eq_error_iff, read_eq_error_iff]

theorem device_ofDocument_eq_overlong_iff {declaredPath : Text} :
    Device.ofDocument d declaredPath = .error (.overlongNumeral n) ↔
      OverlongIn d (Path.normalize declaredPath) n := by
  rw [← deviceUnfit_iff]
  constructor
  · intro h
    cases h with
    | dump hdevice hdumps hread hunfit =>
      cases hunfit with
      | overlong hvalues hnumbers hvalue =>
        exact .address hdumps hread hvalues hnumbers hdevice (read_eq_error_iff.1 hvalue)
    | registerId hdevice hdumps hentries hread hnumber =>
      obtain ⟨id, hid, hoverlong⟩ := readIdNumber_eq_overlong_iff.1 hnumber
      exact .registerId hdumps hentries hread hdevice hid hoverlong
  · intro h
    cases h with
    | address hdumps hread hvalues hnumbers hdevice hoverlong =>
      have hvalue := read_eq_error_iff.2 hoverlong
      exact .dump hdevice hdumps hread (.overlong hvalues hnumbers hvalue)
    | registerId hdumps hentries hread hdevice hid hoverlong =>
      have hnumber := readIdNumber_eq_overlong_iff.2 ⟨_, hid, hoverlong⟩
      exact .registerId hdevice hdumps hentries hread hnumber

/-! ### Loading -/

section Load

variable {p : SnapshotPlace} {files : Files} {validator : Validator} {cause : Abort}

/-- Why a snapshot is not loaded and no report tells it. The manifest is there, and either it
names a file by a path with a null character, after files that all pass the validator, or all
files pass and a device file has a numeral that is too long, after devices that are built. -/
inductive Aborts (p : SnapshotPlace) (files : Files) (validator : Validator) : Abort → Prop
  | nulInPath {m before file after calls} (hmanifest : p.readManifest files = .ok m)
      (hsplit : p.files m = before ++ file :: after)
      (hpassed : List.Forall₂ (Passes files validator) before calls)
      (hnul : '\x00' ∈ file.2) : Aborts p files validator .nulInPath
  | overlong {m before pair after calls document n} (hmanifest : p.readManifest files = .ok m)
      (hpassed : List.Forall₂ (Passes files validator) (p.files m) calls)
      (hsplit : m.deviceList = before ++ pair :: after)
      (hbuilt : ∀ earlier ∈ before, ∃ dev, p.readDevice files earlier.2 = .ok dev)
      (hread : files.readDocument (p.join pair.2) = .ok document)
      (hoverlong : OverlongIn document (Path.normalize pair.2) n) :
      Aborts p files validator (.overlongNumeral n)

lemma readText_eq_aborted_iff {path : Text} :
    files.readText path = .error (.aborted cause) ↔ cause = .nulInPath ∧ '\x00' ∈ path := by
  unfold Files.readText
  by_cases hnul : '\x00' ∈ path
  · simp [hnul, eq_comm]
  · cases files (SystemPath.ofText path) with
    | error reason => simp [hnul]
    | ok bytes => simp [hnul, mapError_eq_error_iff]

lemma readDocument_ne_aborted {path text : Text} (h : files.readText path = .ok text) :
    files.readDocument path ≠ .error (.aborted cause) := by
  unfold Files.readDocument
  rw [h, ok_bind, ne_eq, mapError_eq_error_iff]
  rintro ⟨fault, -, hreport⟩
  cases hreport

lemma failure_eq_aborted_iff {defect : Device.Defect} {source : Text} :
    defect.failure source = .aborted cause ↔
      ∃ n, defect = .overlongNumeral n ∧ cause = .overlongNumeral n := by
  cases defect <;> simp [Device.Defect.failure, eq_comm]

/-- A device file that was opened before aborts the building only by a numeral. -/
lemma readDevice_eq_aborted_iff {path text : Text} (h : files.readText (p.join path) = .ok text) :
    p.readDevice files path = .error (.aborted cause) ↔ ∃ document n,
      files.readDocument (p.join path) = .ok document ∧
        OverlongIn document (Path.normalize path) n ∧ cause = .overlongNumeral n := by
  unfold SnapshotPlace.readDevice
  rw [bind_eq_error_iff, or_iff_right (readDocument_ne_aborted h)]
  simp only [mapError_eq_error_iff, failure_eq_aborted_iff]
  constructor
  · rintro ⟨document, hread, defect, hdefect, n, rfl, hcause⟩
    exact ⟨document, n, hread, device_ofDocument_eq_overlong_iff.1 hdefect, hcause⟩
  · rintro ⟨document, n, hread, hoverlong, hcause⟩
    exact ⟨document, hread, _, device_ofDocument_eq_overlong_iff.2 hoverlong, n, rfl, hcause⟩

lemma readTrace_ne_aborted {path text : Text} (h : files.readText (p.join path) = .ok text) :
    p.readTrace files path ≠ .error (.aborted cause) := by
  unfold SnapshotPlace.readTrace
  rw [ne_eq, bind_eq_error_iff, or_iff_right (readDocument_ne_aborted h)]
  rintro ⟨document, -, hdefect⟩
  obtain ⟨defect, -, hreport⟩ := mapError_eq_error_iff.1 hdefect
  cases hreport

lemma no_nul_manifestPath (h : '\x00' ∉ p.directory) : '\x00' ∉ p.manifestPath := by
  have hname : '\x00' ∉ Manifest.fileName := by decide
  have hseparator : '\x00' ∉ p.separator.text := by cases p.separator <;> decide
  exact notMem_pathJoin h hname hseparator

lemma readable_of_passed {m : Manifest} {calls : List Call}
    (h : List.Forall₂ (Passes files validator) (p.files m) calls) :
    ∀ file ∈ p.files m, ∃ text, files.readText file.2 = .ok text := by
  have haccepted := checkEnds_iff.1 (.accepted h)
  have hresult : (files.check validator (p.files m)).result = .ok () := by rw [haccepted]
  intro file hfile
  obtain ⟨text, htext, -⟩ := check_eq_ok_iff.1 hresult file hfile
  exact ⟨text, htext⟩

lemma device_mem_files {m : Manifest} {pair : Text × Text} (h : pair ∈ m.deviceList) :
    (Role.device, p.join pair.2) ∈ p.files m := by
  unfold SnapshotPlace.files
  rw [List.mem_append]
  exact .inl (List.mem_cons_of_mem _ (List.mem_map_of_mem h))

lemma trace_mem_files {m : Manifest} {path : Text} (h : m.traceMetadata = some path) :
    (Role.trace, p.join path) ∈ p.files m := by
  unfold SnapshotPlace.files
  simp [h]

lemma LoadEnds.aborts {calls : List Call} (hdirectory : '\x00' ∉ p.directory)
    (h : LoadEnds p files validator calls (.error (.aborted cause))) :
    Aborts p files validator cause := by
  cases h with
  | manifest hmanifest =>
    cases hmanifest with
    | unreadable hread =>
      exact absurd (readText_eq_aborted_iff.1 hread).2 (no_nul_manifestPath hdirectory)
  | check hmanifest hcheck =>
    cases hcheck with
    | unreadable hsplit hpassed hread =>
      obtain ⟨rfl, hnul⟩ := readText_eq_aborted_iff.1 hread
      exact .nulInPath hmanifest hsplit hpassed hnul
  | build hmanifest hcheck hbuild =>
    cases hcheck with
    | accepted hpassed =>
      cases hbuild with
      | @device before pair after _ hsplit hbuilt hfails =>
        have hmem := mem_of_eq_append_cons hsplit
        obtain ⟨text, htext⟩ := readable_of_passed hpassed _ (device_mem_files hmem)
        obtain ⟨document, n, hread, hoverlong, rfl⟩ := (readDevice_eq_aborted_iff htext).1 hfails
        exact .overlong hmanifest hpassed hsplit hbuilt hread hoverlong
      | trace hbuilt hnamed hfails =>
        obtain ⟨text, htext⟩ := readable_of_passed hpassed _ (trace_mem_files hnamed)
        exact absurd hfails (readTrace_ne_aborted htext)

lemma Aborts.loadEnds (h : Aborts p files validator cause) :
    ∃ calls, LoadEnds p files validator calls (.error (.aborted cause)) := by
  cases h with
  | nulInPath hmanifest hsplit hpassed hnul =>
    have hread : files.readText _ = .error (.aborted .nulInPath) :=
      readText_eq_aborted_iff.2 ⟨rfl, hnul⟩
    exact ⟨_, .check hmanifest (.unreadable hsplit hpassed hread)⟩
  | overlong hmanifest hpassed hsplit hbuilt hread hoverlong =>
    obtain ⟨text, htext, -⟩ := readDocument_eq_ok_iff.1 hread
    have hfails := (readDevice_eq_aborted_iff htext).2 ⟨_, _, hread, hoverlong, rfl⟩
    exact ⟨_, .build hmanifest (.accepted hpassed) (.device hsplit hbuilt hfails)⟩

theorem load_eq_aborted_iff (hdirectory : '\x00' ∉ p.directory) :
    (p.load files validator).result = .error (.aborted cause) ↔ Aborts p files validator cause := by
  constructor
  · intro h
    have hends : LoadEnds p files validator (p.load files validator).calls
        (.error (.aborted cause)) := by
      rw [loadEnds_iff, ← h]
    exact hends.aborts hdirectory
  · intro h
    obtain ⟨calls, hends⟩ := h.loadEnds
    rw [loadEnds_iff.1 hends]

end Load

/-! ### Runs -/

lemma endingAfter_eq_aborted_iff {disk : Disk} {output : Text} {result : Except Failure Snapshot}
    {cause : Abort} {s : Option Snapshot} (h : '\x00' ∉ output) :
    endingAfter disk output result = .failed (.aborted cause) s ↔
      result = .error (.aborted cause) ∧ s = none := by
  cases result with
  | error failure => simp [endingAfter, eq_comm]
  | ok built =>
    have hwrite : disk.writeDump output built ≠ .error (.aborted cause) := by
      unfold Disk.writeDump
      simp [h, mapError_eq_error_iff]
    unfold endingAfter
    dsimp only
    cases hwritten : disk.writeDump output built with
    | error failure =>
      rw [hwritten, ne_eq, Except.error.injEq] at hwrite
      simp [hwrite]
    | ok after => simp

/-- Let the directory and the output file be named by texts without null characters. Then the run
ends with a written dump or with a report, unless the files make it abort. In that case no snapshot
is kept, and what the files did is to name a path with a null character in the manifest or to hold
an overlong numeral in a device file. -/
theorem run_ends_with_result_iff (disk : Disk) (validator : Validator) (output : Text)
    {configured : Text} {r : Request} {separator : Separator}
    (hseparator : Separator.choose r.separator configured = .ok separator)
    (hdirectory : '\x00' ∉ r.directory) (houtput : '\x00' ∉ output) :
    let p : SnapshotPlace := ⟨r.directory, separator⟩
    let ending := (disk.run validator configured r output).1.ending
    (((∃ path s, ending = .written path s) ∨
        ∃ report s, ending = .failed (.reported report) s) ↔
      ∀ cause, ¬ Aborts p disk.read validator cause) ∧
    ∀ cause s, ending = .failed (.aborted cause) s ↔
      Aborts p disk.read validator cause ∧ s = none := by
  intro p ending
  have haborted : ∀ cause s, ending = .failed (.aborted cause) s ↔
      Aborts p disk.read validator cause ∧ s = none := by
    intro cause s
    have hending : ending = endingAfter disk output (p.load disk.read validator).result := by
      rw [← load_of_separator hseparator]
      exact congrArg Outcome.ending run_outcome
    rw [hending, endingAfter_eq_aborted_iff houtput, load_eq_aborted_iff hdirectory]
  refine ⟨?_, haborted⟩
  constructor
  · intro h cause hcause
    have hfailed := (haborted cause none).2 ⟨hcause, rfl⟩
    rcases h with ⟨path, s, hwritten⟩ | ⟨report, s, hreported⟩
    · rw [hwritten] at hfailed
      cases hfailed
    · rw [hreported] at hfailed
      cases hfailed
  · intro hnone
    cases hending : ending with
    | written path s => exact .inl ⟨path, s, rfl⟩
    | failed failure s =>
      cases failure with
      | reported report => exact .inr ⟨report, s, rfl⟩
      | aborted cause => exact absurd ((haborted cause s).1 hending).1 (hnone cause)

-- The run ends at the missing file, so the path with a null character behind it does no harm.
example :
    let disk := diskOf [("snapshot.ini", "[snapshot]\nversion=1\n[device_list]\na=x\nb=\x00\n")]
    (disk.run Validator.acceptAll [] ⟨[], none⟩ "dump".toList).1.ending =
      .failed (.reported (Files.cannotOpen ['x'] .missing)) none := by
  decide +kernel

def nulListed : Disk :=
  diskOf [("snapshot.ini", "[snapshot]\nversion=1\n[device_list]\na=\x00\n")]

/-- A path with a null character that the manifest lists ends a run without any report, though
the directory and the output file are well named and the validator is content. -/
theorem run_aborts_at_nul_path :
    let ending := (nulListed.run Validator.acceptAll [] ⟨[], none⟩ "dump".toList).1.ending
    Separator.choose none [] = .ok .slash ∧ '\x00' ∉ "dump".toList ∧
      ending = .failed (.aborted .nulInPath) none ∧
      ¬ ((∃ path s, ending = .written path s) ∨
        ∃ report s, ending = .failed (.reported report) s) := by
  have hending : (nulListed.run Validator.acceptAll [] ⟨[], none⟩ "dump".toList).1.ending =
      .failed (.aborted .nulInPath) none := by
    decide +kernel
  refine ⟨rfl, by decide, hending, ?_⟩
  rintro (⟨path, s, hwritten⟩ | ⟨report, s, hreported⟩)
  · rw [hending] at hwritten
    cases hwritten
  · rw [hending] at hreported
    cases hreported

end TraceSnapshot.Proofs
