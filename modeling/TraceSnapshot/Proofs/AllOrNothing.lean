import Mathlib.Tactic.Lemma
import TraceSnapshot.Proofs.DiskWriting
import TraceSnapshot.Proofs.FirstFailure

/-!
# A run is all or nothing

A run that fails leaves the disk as it was, whatever it fails at. A run that succeeds writes
the dump of the snapshot that was on the disk before, and touches nothing but the output file,
also if that is one of the files of the snapshot.
-/

namespace TraceSnapshot.Proofs

variable {d : Disk} {validator : Validator} {configured output : Text} {r : Request}

lemma writeDump_eq_ok_iff {s : Snapshot} {after : Disk} :
    d.writeDump output s = .ok after ↔ '\x00' ∉ output ∧ ∃ target,
      d.locate (SystemPath.ofText output) = .ok target ∧ d.node? target ≠ some .directory ∧
        after = d.put target (.file (Utf8.encode s.dumpText)) := by
  unfold Disk.writeDump
  by_cases hnul : '\x00' ∈ output
  · simp [hnul]
  · simp [hnul, mapError_eq_ok_iff, write_eq_ok_iff]

lemma disk_eq_of_run_failed {failure : Failure} {s : Option Snapshot}
    (h : (d.run validator configured r output).1.ending = .failed failure s) :
    (d.run validator configured r output).2 = d := by
  revert h
  unfold Disk.run
  dsimp only
  split
  next => exact fun _ => rfl
  next snapshot =>
    split
    next => exact fun _ => rfl
    next =>
      intro h
      cases h

lemma writtenAt_of_run_written {path : SystemPath} {s : Snapshot}
    (h : (d.run validator configured r output).1.ending = .written path s) :
    path = SystemPath.ofText output ∧ (r.load configured d.read validator).result = .ok s ∧
      ∃ target, d.locate path = .ok target ∧
        WrittenAt d (d.run validator configured r output).2 target (Utf8.encode s.dumpText) := by
  revert h
  unfold Disk.run
  dsimp only
  split
  next =>
    intro h
    cases h
  next snapshot hload =>
    split
    next =>
      intro h
      cases h
    next after hwrite =>
      intro h
      cases h
      obtain ⟨-, target, hlocate, hnode, rfl⟩ := writeDump_eq_ok_iff.1 hwrite
      exact ⟨rfl, hload, target, hlocate, writtenAt_put hnode⟩

lemma no_nul_of_run_written {path : SystemPath} {s : Snapshot}
    (h : (d.run validator configured r output).1.ending = .written path s) : '\x00' ∉ output := by
  intro hnul
  have hwrite : ∀ s, d.writeDump output s = .error (.aborted .nulInPath) := by
    intro s
    unfold Disk.writeDump
    rw [if_pos (List.contains_iff_mem.2 hnul)]
  rw [run_outcome] at h
  cases hload : (r.load configured d.read validator).result with
  | error failure =>
    rw [hload] at h
    cases h
  | ok s =>
    simp only [hload, endingAfter, hwrite] at h
    cases h

lemma run_written_of_load {s : Snapshot} {target : Location}
    (hload : (r.load configured d.read validator).result = .ok s) (hnul : '\x00' ∉ output)
    (hlocate : d.locate (SystemPath.ofText output) = .ok target)
    (hnode : d.node? target ≠ some .directory) :
    (d.run validator configured r output).1.ending = .written (SystemPath.ofText output) s := by
  have hwrite : d.writeDump output s = .ok (d.put target (.file (Utf8.encode s.dumpText))) :=
    writeDump_eq_ok_iff.2 ⟨hnul, target, hlocate, hnode, rfl⟩
  rw [run_outcome, hload, endingAfter, hwrite]

/-- A run is all or nothing. If it fails, with a report or without one, the disk is as it was
before. If it succeeds, the output file holds the dump of the snapshot that was loaded from the
disk before the run, in UTF-8, whatever it held then; no other place of the disk has changed,
and every path that does not lead to the output file holds what it held. It does succeed if
the snapshot can be loaded and the output file can be opened. -/
theorem run_all_or_nothing (d : Disk) (validator : Validator) (configured : Text) (r : Request)
    (output : Text) :
    (∀ failure s, (d.run validator configured r output).1.ending = .failed failure s →
      (d.run validator configured r output).2 = d) ∧
    (∀ path s, (d.run validator configured r output).1.ending = .written path s →
      path = SystemPath.ofText output ∧ (r.load configured d.read validator).result = .ok s ∧
      content? (d.run validator configured r output).2 path = some (Utf8.encode s.dumpText) ∧
      (d.run validator configured r output).2.current = d.current ∧
      ∃ target, d.locate path = .ok target ∧
        (∀ place, place ≠ target →
          (d.run validator configured r output).2.node? place = d.node? place) ∧
        ∀ other, d.locate other ≠ .ok target →
          content? (d.run validator configured r output).2 other = content? d other) ∧
    ∀ s target, (r.load configured d.read validator).result = .ok s → '\x00' ∉ output →
      d.locate (SystemPath.ofText output) = .ok target → d.node? target ≠ some .directory →
      (d.run validator configured r output).1.ending = .written (SystemPath.ofText output) s := by
  refine ⟨fun failure s => disk_eq_of_run_failed, ?_, fun s target => run_written_of_load⟩
  intro path s h
  obtain ⟨hpath, hload, target, hlocate, hwritten⟩ := writtenAt_of_run_written h
  exact ⟨hpath, hload, hwritten.content?_of_locate_eq hlocate, hwritten.current, target, hlocate,
    hwritten.node_other, fun other => hwritten.content?_of_locate_ne⟩

def oneDevice : Disk :=
  diskOf [("snapshot.ini", "[snapshot]\nversion=1\n[device_list]\na=x\n"),
    ("x", "[device]\nname=n\n")]

def oneDeviceSnapshot : Snapshot where
  directory := []
  manifest := ⟨['1'], [], [(['a'], ['x'])], [], none⟩
  devices := [⟨['n'], ['x'], [], [], [], [], []⟩]
  trace := none

/-- A run whose output is its own device file writes the dump of the device that was there,
and a run that is refused writes nothing. -/
theorem run_over_device_file :
    (oneDevice.run Validator.acceptAll [] ⟨[], none⟩ ['x']).1.ending =
        .written (SystemPath.ofText ['x']) oneDeviceSnapshot ∧
      content? (oneDevice.run Validator.acceptAll [] ⟨[], none⟩ ['x']).2 (SystemPath.ofText ['x']) =
        some (Utf8.encode oneDeviceSnapshot.dumpText) ∧
      (oneDevice.run (refusing ['x']) [] ⟨[], none⟩ ['x']).1.ending =
        .failed (.reported (refusal ['x'])) none ∧
      (oneDevice.run (refusing ['x']) [] ⟨[], none⟩ ['x']).2 = oneDevice := by
  have hwritten : (oneDevice.run Validator.acceptAll [] ⟨[], none⟩ ['x']).1.ending =
      .written (SystemPath.ofText ['x']) oneDeviceSnapshot := by
    conv => lhs; cbv
    rfl
  have hfailed : (oneDevice.run (refusing ['x']) [] ⟨[], none⟩ ['x']).1.ending =
      .failed (.reported (refusal ['x'])) none := by
    conv => lhs; cbv
    rfl
  have hsome := (run_all_or_nothing oneDevice Validator.acceptAll [] ⟨[], none⟩ ['x']).2.1 _ _ hwritten
  have hnone := (run_all_or_nothing oneDevice (refusing ['x']) [] ⟨[], none⟩ ['x']).1 _ _ hfailed
  exact ⟨hwritten, hsome.2.2.1, hfailed, hnone⟩

end TraceSnapshot.Proofs
