import Mathlib.Tactic.Lemma
import TraceSnapshot.Load
import TraceSnapshot.Proofs.LexicalForm
import TraceSnapshot.Proofs.ModelReading

/-!
# Loading

What each stage of loading a snapshot needs for its result: the manifest, every device file
and the trace metadata file are read, parsed and built one after the other.
-/

namespace TraceSnapshot.Proofs
open Ini (Document)

lemma readText_eq_ok_iff {files : Files} {path text : Text} :
    files.readText path = .ok text ↔ '\x00' ∉ path ∧
      ∃ bytes, files (SystemPath.ofText path) = .ok bytes ∧ Utf8.decode bytes = .ok text := by
  unfold Files.readText
  by_cases hnul : '\x00' ∈ path
  · simp [hnul]
  · cases files (SystemPath.ofText path) with
    | error reason => simp [hnul]
    | ok bytes => simp [hnul, mapError_eq_ok_iff]

lemma readDocument_eq_ok_iff {files : Files} {path : Text} {d : Document} :
    files.readDocument path = .ok d ↔
      ∃ text, files.readText path = .ok text ∧ Document.parse text path = .ok d := by
  unfold Files.readDocument
  simp only [bind_eq_ok_iff, mapError_eq_ok_iff]

lemma lexicalDocument_of_readDocument {files : Files} {path : Text} {d : Document}
    (h : files.readDocument path = .ok d) : LexicalDocument d := by
  obtain ⟨text, -, hparse⟩ := readDocument_eq_ok_iff.1 h
  exact lexicalDocument_of_parse hparse

lemma readManifest_eq_ok_iff {p : SnapshotPlace} {files : Files} {m : Manifest} :
    p.readManifest files = .ok m ↔
      ∃ d, files.readDocument p.manifestPath = .ok d ∧ Manifest.ofDocument d = .ok m := by
  unfold SnapshotPlace.readManifest
  simp only [bind_eq_ok_iff, mapError_eq_ok_iff]

lemma readDevice_eq_ok_iff {p : SnapshotPlace} {files : Files} {path : Text} {dev : Device} :
    p.readDevice files path = .ok dev ↔
      ∃ d, files.readDocument (p.join path) = .ok d ∧ Device.ofDocument d path = .ok dev := by
  unfold SnapshotPlace.readDevice
  simp only [bind_eq_ok_iff, mapError_eq_ok_iff]

lemma readTrace_eq_ok_iff {p : SnapshotPlace} {files : Files} {path : Text} {t : TraceMetadata} :
    p.readTrace files path = .ok t ↔
      ∃ d, files.readDocument (p.join path) = .ok d ∧ TraceMetadata.ofDocument d path = .ok t := by
  unfold SnapshotPlace.readTrace
  simp only [bind_eq_ok_iff, mapError_eq_ok_iff]

lemma assemble_eq_ok_iff {p : SnapshotPlace} {files : Files} {m : Manifest} {s : Snapshot} :
    p.assemble files m = .ok s ↔ ∃ devices trace,
      m.deviceList.mapM (fun pair => p.readDevice files pair.2) = .ok devices ∧
      m.traceMetadata.mapM (p.readTrace files) = .ok trace ∧
      s = { directory := p.directory, manifest := m, devices, trace } := by
  unfold SnapshotPlace.assemble
  simp only [bind_eq_ok_iff, pure_eq_ok, Except.ok.injEq]
  constructor
  · rintro ⟨devices, hdevices, trace, htrace, rfl⟩
    exact ⟨devices, trace, hdevices, htrace, rfl⟩
  · rintro ⟨devices, trace, hdevices, htrace, rfl⟩
    exact ⟨devices, hdevices, trace, htrace, rfl⟩

lemma check_eq_ok_iff {files : Files} {validator : Validator} {sequence : List (Role × Text)} :
    (files.check validator sequence).result = .ok () ↔ ∀ file ∈ sequence,
      ∃ text, files.readText file.2 = .ok text ∧ validator file.1 text file.2 = none := by
  induction sequence with
  | nil => simp [Files.check]
  | cons file rest ih =>
    obtain ⟨role, path⟩ := file
    rw [List.forall_mem_cons, ← ih, Files.check]
    cases files.readText path with
    | error failure => simp
    | ok text =>
      dsimp only
      cases hreport : validator role text path with
      | some report => simp [hreport]
      | none => simp [hreport]

/-- A snapshot is loaded if the manifest can be read, the validator accepts every file and all
parts are built. -/
theorem load_eq_ok_iff {p : SnapshotPlace} {files : Files} {validator : Validator}
    {s : Snapshot} :
    (p.load files validator).result = .ok s ↔ ∃ m built, p.readManifest files = .ok m ∧
      (files.check validator (p.files m)).result = .ok () ∧ p.assemble files m = .ok built ∧
      s = built.canonical := by
  unfold SnapshotPlace.load
  constructor
  · intro h
    split at h
    next => cases h
    next m hm =>
      dsimp only at h
      split at h
      next => cases h
      next hchecked =>
        obtain ⟨built, hbuilt, rfl⟩ := map_eq_ok_iff.1 h
        exact ⟨m, built, hm, hchecked, hbuilt, rfl⟩
  · rintro ⟨m, built, hm, hchecked, hbuilt, rfl⟩
    rw [hm]
    dsimp only
    rw [hchecked]
    dsimp only
    rw [hbuilt]
    rfl

theorem request_load_eq_ok_iff {r : Request} {configured : Text} {files : Files}
    {validator : Validator} {s : Snapshot} :
    (r.load configured files validator).result = .ok s ↔ ∃ separator,
      Separator.choose r.separator configured = .ok separator ∧
      (SnapshotPlace.load ⟨r.directory, separator⟩ files validator).result = .ok s := by
  unfold Request.load
  cases h : Separator.choose r.separator configured <;> simp

end TraceSnapshot.Proofs
