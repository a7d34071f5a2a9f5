import Mathlib
import TraceSnapshot.Proofs.Loading
import TraceSnapshot.Run

/-!
# The first failure

A run goes through the manifest, the validator, the device files and the trace metadata in
that order, and ends at the first failure. The validator is shown the files of the manifest
one after the other, each with its text, and none after a file that cannot be read or that it
rejects.
-/

namespace TraceSnapshot.Proofs
open Ini (Document)

/-! ### Checking files -/

section Check

variable {files : Files} {validator : Validator}

/-- The call for a file that can be read and that the validator is content with. -/
structure Passes (files : Files) (validator : Validator) (file : Role × Text) (call : Call) :
    Prop where
  same_file : (call.role, call.source) = file
  text : files.readText call.source = .ok call.text
  content : validator call.role call.text call.source = none

/-- How a check ends: at the first file that cannot be read, at the first file that is
rejected, or after the last file. -/
inductive CheckEnds (files : Files) (validator : Validator) (sequence : List (Role × Text)) :
    List Call → Except Failure Unit → Prop
  | unreadable {before after : List (Role × Text)} {file : Role × Text} {calls : List Call}
      {failure : Failure} (hsplit : sequence = before ++ file :: after)
      (hpassed : List.Forall₂ (Passes files validator) before calls)
      (hread : files.readText file.2 = .error failure) :
      CheckEnds files validator sequence calls (.error failure)
  | rejected {before after : List (Role × Text)} {call : Call} {calls : List Call}
      {report : Report}
      (hsplit : sequence = before ++ (call.role, call.source) :: after)
      (hpassed : List.Forall₂ (Passes files validator) before calls)
      (hread : files.readText call.source = .ok call.text)
      (hreport : validator call.role call.text call.source = some report) :
      CheckEnds files validator sequence (calls ++ [call]) (.error (.reported report))
  | accepted {calls : List Call} (hpassed : List.Forall₂ (Passes files validator) sequence calls) :
      CheckEnds files validator sequence calls (.ok ())

lemma CheckEnds.cons {file : Role × Text} {call : Call} {sequence : List (Role × Text)}
    {calls : List Call} {result : Except Failure Unit} (hcall : Passes files validator file call)
    (h : CheckEnds files validator sequence calls result) :
    CheckEnds files validator (file :: sequence) (call :: calls) result := by
  cases h with
  | unreadable split passed unreadable =>
    exact .unreadable (congrArg (file :: ·) split) (.cons hcall passed) unreadable
  | rejected split passed text rejected =>
    exact .rejected (congrArg (file :: ·) split) (.cons hcall passed) text rejected
  | accepted passed => exact .accepted (.cons hcall passed)

theorem checkEnds_check (files : Files) (validator : Validator) (sequence : List (Role × Text)) :
    CheckEnds files validator sequence (files.check validator sequence).calls
      (files.check validator sequence).result := by
  induction sequence with
  | nil => exact .accepted .nil
  | cons file rest ih =>
    obtain ⟨role, path⟩ := file
    unfold Files.check
    cases htext : files.readText path with
    | error failure =>
      have hsplit : (role, path) :: rest = [] ++ (role, path) :: rest := rfl
      exact .unreadable hsplit .nil htext
    | ok text =>
      let call : Call := ⟨role, path, text⟩
      have hsplit : (role, path) :: rest = [] ++ (call.role, call.source) :: rest := rfl
      dsimp only
      cases hreport : validator role text path with
      | some report => exact .rejected hsplit .nil htext hreport
      | none => exact ih.cons ⟨rfl, htext, hreport⟩

lemma check_append_of_passes {before rest : List (Role × Text)} {calls : List Call}
    (h : List.Forall₂ (Passes files validator) before calls) :
    files.check validator (before ++ rest) =
      ⟨calls ++ (files.check validator rest).calls, (files.check validator rest).result⟩ := by
  induction h with
  | nil => rfl
  | @cons file call before calls hcall _ ih =>
    obtain ⟨rfl, htext, hcontent⟩ := hcall
    rw [List.cons_append, Files.check, htext]
    dsimp only
    rw [hcontent, ih]
    rfl

/-- A check ends in one way only. -/
theorem checkEnds_iff {sequence : List (Role × Text)} {calls : List Call}
    {result : Except Failure Unit} :
    CheckEnds files validator sequence calls result ↔
      files.check validator sequence = ⟨calls, result⟩ := by
  constructor
  · intro h
    cases h with
    | unreadable split passed unreadable =>
      rw [split, check_append_of_passes passed, Files.check, unreadable]
      simp
    | rejected split passed text rejected =>
      rw [split, check_append_of_passes passed, Files.check, text]
      dsimp only
      rw [rejected]
    | accepted passed =>
      rw [← List.append_nil sequence, check_append_of_passes passed]
      simp [Files.check]
  · intro h
    have hends := checkEnds_check files validator sequence
    rwa [h] at hends

lemma calls_of_passes {sequence : List (Role × Text)} {calls : List Call}
    (h : List.Forall₂ (Passes files validator) sequence calls) :
    calls.map (fun call => (call.role, call.source)) = sequence ∧
      ∀ call ∈ calls, files.readText call.source = .ok call.text := by
  induction h with
  | nil => simp
  | cons hcall _ ih =>
    rw [List.map_cons, List.forall_mem_cons, ih.1, hcall.same_file]
    exact ⟨rfl, hcall.text, ih.2⟩

/-- The calls of a check are about the first files of the sequence, and show their texts. -/
lemma CheckEnds.calls_prefix {sequence : List (Role × Text)} {calls : List Call}
    {result : Except Failure Unit} (h : CheckEnds files validator sequence calls result) :
    calls.map (fun call => (call.role, call.source)) <+: sequence ∧
      ∀ call ∈ calls, files.readText call.source = .ok call.text := by
  cases h with
  | unreadable split passed _ =>
    obtain ⟨hfiles, htext⟩ := calls_of_passes passed
    rw [hfiles, split]
    exact ⟨List.prefix_append _ _, htext⟩
  | @rejected before after call calls _ split passed text _ =>
    obtain ⟨hfiles, htext⟩ := calls_of_passes passed
    rw [List.map_append, hfiles, split, List.forall_mem_append, List.forall_mem_singleton]
    refine ⟨?_, htext, text⟩
    rw [List.map_singleton, List.prefix_append_right_inj]
    exact List.prefix_append [_] after
  | accepted passed =>
    obtain ⟨hfiles, htext⟩ := calls_of_passes passed
    exact ⟨hfiles ▸ List.prefix_refl _, htext⟩

end Check

/-! ### The manifest and the building -/

section Load

variable {p : SnapshotPlace} {files : Files}

/-- Why there is no manifest: it cannot be read, it is not well formed, or something is wrong
with what it says. -/
inductive ManifestFails (p : SnapshotPlace) (files : Files) : Failure → Prop
  | unreadable {failure} (hread : files.readText p.manifestPath = .error failure) :
      ManifestFails p files failure
  | illFormed {text fault} (hread : files.readText p.manifestPath = .ok text)
      (hparse : Document.parse text p.manifestPath = .error fault) :
      ManifestFails p files (.reported (fault.report p.manifestPath))
  | unfit {text document defect} (hread : files.readText p.manifestPath = .ok text)
      (hparse : Document.parse text p.manifestPath = .ok document)
      (hdefect : Manifest.ofDocument document = .error defect) :
      ManifestFails p files (.reported (defect.report p.manifestPath))

theorem manifestFails_iff {failure : Failure} :
    ManifestFails p files failure ↔ p.readManifest files = .error failure := by
  unfold SnapshotPlace.readManifest Files.readDocument
  simp only [bind_eq_error_iff, bind_eq_ok_iff, mapError_eq_ok_iff, mapError_eq_error_iff]
  constructor
  · intro h
    cases h with
    | unreadable hread => exact Or.inl (Or.inl hread)
    | illFormed hread hparse => exact Or.inl (Or.inr ⟨_, hread, _, hparse, rfl⟩)
    | @unfit text document defect hread hparse hdefect =>
      refine Or.inr ⟨document, ⟨text, hread, hparse⟩, defect, hdefect, ?_⟩
      rw [source_of_parse hparse]
  · rintro ((hread | ⟨text, hread, fault, hparse, rfl⟩) |
      ⟨document, ⟨text, hread, hparse⟩, defect, hdefect, rfl⟩)
    · exact .unreadable hread
    · exact .illFormed hread hparse
    · rw [source_of_parse hparse]
      exact .unfit hread hparse hdefect

/-- How the building ends: at the first device of the manifest that fails, at the trace
metadata if all devices are built, or with a snapshot. -/
inductive BuildEnds (p : SnapshotPlace) (files : Files) (m : Manifest) :
    Except Failure Snapshot → Prop
  | device {before pair after failure} (hsplit : m.deviceList = before ++ pair :: after)
      (hbuilt : ∀ earlier ∈ before, ∃ dev, p.readDevice files earlier.2 = .ok dev)
      (hfails : p.readDevice files pair.2 = .error failure) : BuildEnds p files m (.error failure)
  | trace {devices path failure}
      (hbuilt : List.Forall₂ (fun pair dev => p.readDevice files pair.2 = .ok dev)
        m.deviceList devices)
      (hnamed : m.traceMetadata = some path) (hfails : p.readTrace files path = .error failure) :
      BuildEnds p files m (.error failure)
  | built {devices trace}
      (hbuilt : List.Forall₂ (fun pair dev => p.readDevice files pair.2 = .ok dev)
        m.deviceList devices)
      (htrace : m.traceMetadata.mapM (p.readTrace files) = .ok trace) :
      BuildEnds p files m (.ok (Snapshot.canonical ⟨p.directory, m, devices, trace⟩))

theorem buildEnds_iff {m : Manifest} {result : Except Failure Snapshot} :
    BuildEnds p files m result ↔ (p.assemble files m).map Snapshot.canonical = result := by
  unfold SnapshotPlace.assemble
  constructor
  · intro h
    cases h with
    | device split hbuilt hfails =>
      rw [mapM_eq_error_iff.2 ⟨_, _, _, split, hbuilt, hfails⟩]
      rfl
    | trace hbuilt named hfails =>
      rw [mapM_eq_ok_iff.2 hbuilt, ok_bind, optionMapM_eq_error_iff.2 ⟨_, named, hfails⟩]
      rfl
    | built hbuilt htrace =>
      rw [mapM_eq_ok_iff.2 hbuilt, ok_bind, htrace]
      rfl
  · rintro rfl
    cases hdevices : m.deviceList.mapM fun pair => p.readDevice files pair.2 with
    | error failure =>
      obtain ⟨before, pair, after, split, hbuilt, hfails⟩ := mapM_eq_error_iff.1 hdevices
      exact .device split hbuilt hfails
    | ok devices =>
      rw [ok_bind]
      have hbuilt := mapM_eq_ok_iff.1 hdevices
      cases htrace : m.traceMetadata.mapM (p.readTrace files) with
      | error failure =>
        obtain ⟨path, named, hfails⟩ := optionMapM_eq_error_iff.1 htrace
        exact .trace hbuilt named hfails
      | ok trace => exact .built hbuilt htrace

/-- How loading ends, with the calls of the validator that were made. Without a manifest no call
is made, and nothing is built before every file was accepted. -/
inductive LoadEnds (p : SnapshotPlace) (files : Files) (validator : Validator) :
    List Call → Except Failure Snapshot → Prop
  | manifest {failure} (hmanifest : ManifestFails p files failure) :
      LoadEnds p files validator [] (.error failure)
  | check {m calls failure} (hmanifest : p.readManifest files = .ok m)
      (hcheck : CheckEnds files validator (p.files m) calls (.error failure)) :
      LoadEnds p files validator calls (.error failure)
  | build {m calls result} (hmanifest : p.readManifest files = .ok m)
      (hcheck : CheckEnds files validator (p.files m) calls (.ok ()))
      (hbuild : BuildEnds p files m result) : LoadEnds p files validator calls result

theorem loadEnds_iff {validator : Validator} {calls : List Call}
    {result : Except Failure Snapshot} :
    LoadEnds p files validator calls result ↔ p.load files validator = ⟨calls, result⟩ := by
  unfold SnapshotPlace.load
  constructor
  · intro h
    cases h with
    | manifest hmanifest => rw [manifestFails_iff.1 hmanifest]
    | check hmanifest hcheck =>
      rw [hmanifest]
      dsimp only
      rw [checkEnds_iff.1 hcheck]
    | build hmanifest hcheck hbuild =>
      rw [hmanifest]
      dsimp only
      rw [checkEnds_iff.1 hcheck]
      dsimp only
      rw [buildEnds_iff.1 hbuild]
  · intro h
    cases hmanifest : p.readManifest files with
    | error failure =>
      rw [hmanifest] at h
      cases h
      exact .manifest (manifestFails_iff.2 hmanifest)
    | ok m =>
      have hends := checkEnds_check files validator (p.files m)
      rw [hmanifest] at h
      dsimp only at h
      generalize files.check validator (p.files m) = checked at h hends
      obtain ⟨checkedCalls, checkedResult⟩ := checked
      cases checkedResult with
      | error failure =>
        cases h
        exact .check hmanifest hends
      | ok _ =>
        cases h
        exact .build hmanifest hends (buildEnds_iff.2 rfl)

lemma LoadEnds.calls_prefix {validator : Validator} {m : Manifest} {calls : List Call}
    {result : Except Failure Snapshot} (h : LoadEnds p files validator calls result)
    (hm : p.readManifest files = .ok m) :
    calls.map (fun call => (call.role, call.source)) <+: p.files m ∧
      ∀ call ∈ calls, files.readText call.source = .ok call.text := by
  cases h with
  | manifest hmanifest =>
    rw [manifestFails_iff, hm] at hmanifest
    cases hmanifest
  | check hmanifest hcheck =>
    cases hm.symm.trans hmanifest
    exact hcheck.calls_prefix
  | build hmanifest hcheck _ =>
    cases hm.symm.trans hmanifest
    exact hcheck.calls_prefix

end Load

/-! ### Runs -/

/-- How a run ends after loading. -/
def endingAfter (d : Disk) (output : Text) : Except Failure Snapshot → Ending
  | .error failure => .failed failure none
  | .ok s =>
    match d.writeDump output s with
    | .error failure => .failed failure (some s)
    | .ok _ => .written (SystemPath.ofText output) s

lemma run_outcome {d : Disk} {validator : Validator} {configured output : Text} {r : Request} :
    (d.run validator configured r output).1 =
      ⟨(r.load configured d.read validator).calls,
        endingAfter d output (r.load configured d.read validator).result⟩ := by
  unfold Disk.run endingAfter
  generalize r.load configured d.read validator = loaded
  obtain ⟨calls, result⟩ := loaded
  cases result with
  | error failure => rfl
  | ok s =>
    dsimp only
    cases d.writeDump output s <;> rfl

lemma load_of_separator {configured : Text} {files : Files} {validator : Validator} {r : Request}
    {separator : Separator} (h : Separator.choose r.separator configured = .ok separator) :
    r.load configured files validator = SnapshotPlace.load ⟨r.directory, separator⟩ files
      validator := by
  unfold Request.load
  rw [h]

/-- The first failure wins. Without a manifest nothing is checked and the run ends with the
failure of the manifest. Otherwise the validator is shown the manifest, the device files in the
order of the manifest, each as often as it is listed, and the file about the trace, each with
its text, up to the first that cannot be read or is rejected, and that failure ends the run.
Only if it is content with all of them are the devices and the trace metadata built. -/
theorem run_ends_at_first_failure (d : Disk) (validator : Validator) (output : Text)
    {configured : Text} {r : Request} {separator : Separator}
    (hseparator : Separator.choose r.separator configured = .ok separator) :
    let p : SnapshotPlace := ⟨r.directory, separator⟩
    let outcome := (d.run validator configured r output).1
    (∃ result, LoadEnds p d.read validator outcome.calls result ∧
      outcome.ending = endingAfter d output result) ∧
    ∀ m, p.readManifest d.read = .ok m →
      p.files m = [(Role.snapshot, p.manifestPath)] ++
        m.deviceList.map (fun pair => (Role.device, p.join pair.2)) ++
        m.traceMetadata.toList.map (fun path => (Role.trace, p.join path)) ∧
      outcome.calls.map (fun call => (call.role, call.source)) <+: p.files m ∧
      ∀ call ∈ outcome.calls, d.read.readText call.source = .ok call.text := by
  intro p outcome
  have houtcome : outcome = ⟨(p.load d.read validator).calls,
      endingAfter d output (p.load d.read validator).result⟩ := by
    rw [← load_of_separator hseparator]
    exact run_outcome
  have hload : LoadEnds p d.read validator outcome.calls (p.load d.read validator).result := by
    rw [houtcome]
    exact loadEnds_iff.2 rfl
  refine ⟨⟨_, hload, by rw [houtcome]⟩, ?_⟩
  intro m hm
  refine ⟨?_, hload.calls_prefix hm⟩
  unfold SnapshotPlace.files
  cases m.traceMetadata <;> rfl

/-- A disk with these files in its working directory. -/
def diskOf (texts : List (String × String)) : Disk :=
  texts.foldl
    (fun d (name, text) => d.put [['w'], name.toList] (.file (Utf8.encode text.toList)))
    (Disk.fresh [['w']])

def refusal (source : Text) : Report where
  code := .validation
  message := "refused".toList
  source := source

/-- The validator that refuses the files with this name. -/
def refusing (refused : Text) : Validator := fun _ _ source =>
  if source = refused then some (refusal source) else none

/-- A manifest that lists a device twice. -/
def repeatingManifest : Manifest where
  version := ['1']
  description := []
  deviceList := [(['a'], ['x']), (['b'], ['x']), (['c'], ['y'])]
  clusters := []
  traceMetadata := none

/-- A device that is listed twice is shown twice, and then the run ends at the file that is
refused. That no device has a name is not found out. -/
theorem run_ends_at_refused_file :
    let p : SnapshotPlace := ⟨[], .slash⟩
    let d := diskOf [("snapshot.ini", "[snapshot]\nversion=1\n[device_list]\na=x\nb=x\nc=y\n"),
      ("x", "[device]\n"), ("y", "[device]\n")]
    let outcome := (d.run (refusing ['y']) [] ⟨[], none⟩ "dump".toList).1
    outcome.ending = .failed (.reported (refusal ['y'])) none ∧
      (∃ result, LoadEnds p d.read (refusing ['y']) outcome.calls result ∧
        outcome.ending = endingAfter d "dump".toList result) ∧
      p.readManifest d.read = .ok repeatingManifest ∧
      outcome.calls.map (fun call => (call.role, call.source)) <+: p.files repeatingManifest := by
  have hseparator : Separator.choose none [] = .ok .slash := rfl
  have hmanifest : SnapshotPlace.readManifest ⟨[], .slash⟩
      (diskOf [("snapshot.ini", "[snapshot]\nversion=1\n[device_list]\na=x\nb=x\nc=y\n"),
        ("x", "[device]\n"), ("y", "[device]\n")]).read = .ok repeatingManifest := by
    apply eq_ok_of_toOption_eq_some
    cbv
  refine ⟨?_, ?_, hmanifest, ?_⟩
  · cbv
  · exact (run_ends_at_first_failure _ _ "dump".toList (r := ⟨[], none⟩) hseparator).1
  · exact ((run_ends_at_first_failure _ _ "dump".toList (r := ⟨[], none⟩) hseparator).2
      repeatingManifest hmanifest).2.1

end TraceSnapshot.Proofs
