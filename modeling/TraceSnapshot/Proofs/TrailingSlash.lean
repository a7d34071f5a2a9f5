import Mathlib
import TraceSnapshot.Proofs.AllOrNothing
import TraceSnapshot.Proofs.PathJoining

/-!
# A slash behind the directory

A snapshot directory may be written with a slash at its end. All paths below it are joined alike
then; only an empty path, which leads to the directory itself, looks different. But a directory
cannot be read as a file, however it is written, so two runs differ at most in the file that their
report names.
-/

namespace TraceSnapshot.Proofs

/-! ### Paths -/

/-- A path that is written without a slash of either kind at its end. -/
def EndsInName (path : Text) : Prop := ∃ c ∈ path.getLast?, Path.isSlash c = false

section Paths

variable {path : Text}

/-- The slashes in front of a path settle its root. -/
lemma rootOf_append_cons {c : Char} (hc : c ≠ '/') (front rest : Text) :
    SystemPath.rootOf (front ++ c :: rest) = SystemPath.rootOf (front ++ [c]) := by
  match front with
  | [] => simp [SystemPath.rootOf, hc]
  | [x] => by_cases hx : x = '/' <;> simp [SystemPath.rootOf, hc, hx]
  | [x, y] =>
    by_cases hx : x = '/' <;> by_cases hy : y = '/' <;> simp [SystemPath.rootOf, hc, hx, hy]
  | x :: y :: z :: front =>
    by_cases hx : x = '/' <;> by_cases hy : y = '/' <;> by_cases hz : z = '/' <;>
      simp [SystemPath.rootOf, hx, hy, hz]

lemma ofText_append (h : EndsInName path) (rest : Text) :
    SystemPath.ofText (path ++ '/' :: rest) = { SystemPath.ofText path with
      names := (SystemPath.ofText path).names ++ (SystemPath.ofText rest).names } := by
  obtain ⟨c, hlast, hc⟩ := h
  have hne : c ≠ '/' := by
    rintro rfl
    cases hc
  obtain ⟨front, rfl⟩ := List.getLast?_eq_some_iff.1 hlast
  have hroot := rootOf_append_cons hne front ('/' :: rest)
  unfold SystemPath.ofText
  rw [List.splitOn_append_cons_self, List.filter_append, List.append_assoc, List.singleton_append,
    hroot]

lemma ofText_concat_slash (h : EndsInName path) :
    SystemPath.ofText (path ++ ['/']) = SystemPath.ofText path := by
  have hnames : (SystemPath.ofText []).names = [] := rfl
  rw [ofText_append h, hnames, List.append_nil]

lemma withoutTrailingSlashes_concat_slash (path : Text) :
    Path.withoutTrailingSlashes (path ++ ['/']) = Path.withoutTrailingSlashes path := by
  unfold Path.withoutTrailingSlashes
  rw [List.reverse_append, List.reverse_singleton, List.singleton_append,
    List.dropWhile_cons_of_pos rfl]

lemma gapAfter_of_endsInName {base : Text} (h : EndsInName base) (s : Separator) :
    gapAfter base s = s.text := by
  obtain ⟨c, hlast, hc⟩ := h
  unfold gapAfter
  rw [Option.mem_def.1 hlast]
  simp [hc]

lemma join_concat_slash {base : Text} (hbase : EndsInName base) (hne : path ≠ []) :
    Path.join (base ++ ['/']) path Separator.slash.text =
      Path.join base path Separator.slash.text := by
  cases h : Path.isAbsolute path with
  | true => rw [join_of_absolute .slash _ h, join_of_absolute .slash _ h]
  | false =>
    have hnone : gapAfter (base ++ ['/']) .slash = [] := by simp [gapAfter, Path.isSlash]
    rw [join_of_relative .slash _ hne h, join_of_relative .slash _ hne h, hnone, List.append_nil,
      gapAfter_of_endsInName hbase]
    rfl

end Paths

/-! ### Directories -/

section Directories

variable {d : Disk}

lemma follow_append {place target : Location} {names rest : List Text}
    (h : d.follow place (names ++ rest) = .ok target) :
    ∃ way, d.follow place names = .ok way ∧ d.follow way rest = .ok target := by
  induction names generalizing place with
  | nil => exact ⟨place, rfl, h⟩
  | cons name names ih =>
    rw [List.cons_append, Disk.follow] at h
    rw [Disk.follow]
    split at h
    next => cases h
    next => cases h
    next =>
      split at h
      next => cases h
      next => exact ih h

lemma directory_of_follow_cons {place target : Location} {name : Text} {rest : List Text}
    (h : d.follow place (name :: rest) = .ok target) : d.node? place = some .directory := by
  rw [Disk.follow] at h
  split at h
  next => cases h
  next => cases h
  next hdirectory => exact hdirectory

lemma intercalate_isPrefix (separator : Text) (parts more : List Text) :
    separator.intercalate parts <+: separator.intercalate (parts ++ more) := by
  induction parts with
  | nil => exact List.nil_prefix
  | cons part rest ih =>
    by_cases hrest : rest = []
    · by_cases hmore : more = []
      · rw [hmore, List.append_nil]
      · rw [hrest, List.singleton_append, List.intercalate_cons_of_ne_nil hmore,
          List.intercalate_singleton, List.append_assoc]
        exact List.prefix_append _ _
    · have happend : rest ++ more ≠ [] := by simp [hrest]
      rw [List.cons_append, List.intercalate_cons_of_ne_nil hrest,
        List.intercalate_cons_of_ne_nil happend]
      exact (List.prefix_append_right_inj _).2 ih

/-- A path is shown no longer than one below it, also if it is shown as a dot. -/
lemma length_text_le (path : SystemPath) {name : Text} (hname : 0 < (Utf8.encode name).length) :
    (Utf8.encode path.text).length ≤
      (Utf8.encode { path with names := path.names ++ [name] : SystemPath }.text).length := by
  obtain ⟨root, names⟩ := path
  by_cases hdot : root = .relative ∧ names = []
  · obtain ⟨rfl, rfl⟩ := hdot
    have hshown : SystemPath.text ⟨.relative, [name]⟩ = name := by
      simp [SystemPath.text, PathRoot.text]
    rw [List.nil_append, hshown]
    exact hname
  · have hshown : SystemPath.text ⟨root, names⟩ = root.text ++ ['/'].intercalate names := by
      cases root <;> cases names <;> simp_all [SystemPath.text]
    have hbelow : SystemPath.text ⟨root, names ++ [name]⟩ =
        root.text ++ ['/'].intercalate (names ++ [name]) := by
      cases root <;> cases names <;> rfl
    obtain ⟨rest, hrest⟩ := intercalate_isPrefix ['/'] names [name]
    rw [hshown, hbelow, ← hrest, ← List.append_assoc]
    unfold Utf8.encode
    rw [@List.flatMap_append _ _ (root.text ++ _), List.length_append]
    exact Nat.le_add_right _ _

/-- Where a file can be read, there is a directory above it. -/
lemma read_eq_isDirectory {path : SystemPath} {name : Text} {bytes : Bytes}
    (hname : 0 < (Utf8.encode name).length)
    (h : d.read { path with names := path.names ++ [name] } = .ok bytes) :
    d.read path = .error .isDirectory := by
  have hlocate : ∃ target, d.locate { path with names := path.names ++ [name] } = .ok target := by
    unfold Disk.read at h
    split at h
    next => cases h
    next target htarget => exact ⟨target, htarget⟩
  obtain ⟨target, htarget⟩ := hlocate
  unfold Disk.locate at htarget
  split at htarget
  next => cases htarget
  next hlength =>
    obtain ⟨way, hway, hbelow⟩ := follow_append htarget
    have hshort : ¬ Disk.longestPath < (Utf8.encode path.text).length :=
      fun hlong => hlength (hlong.trans_le (length_text_le path hname))
    have hplace : d.locate path = .ok way := by
      unfold Disk.locate
      rw [if_neg hshort]
      exact hway
    unfold Disk.read
    simp only [hplace, directory_of_follow_cons hbelow]

end Directories

/-! ### Failures -/

/-- The same failure, told about the same file or about another one. -/
inductive SameFailure : Failure → Failure → Prop
  | reported (report : Report) (source : Option Text) :
      SameFailure (.reported report) (.reported { report with source })
  | aborted (cause : Abort) : SameFailure (.aborted cause) (.aborted cause)

/-- Both succeed, with related results, or both fail alike. -/
inductive SameResult {α : Type} (R : α → α → Prop) : Except Failure α → Except Failure α → Prop
  | ok {a b} (h : R a b) : SameResult R (.ok a) (.ok b)
  | error {failure failure'} (h : SameFailure failure failure') :
      SameResult R (.error failure) (.error failure')

lemma SameFailure.refl (failure : Failure) : SameFailure failure failure := by
  cases failure with
  | reported report => exact .reported report report.source
  | aborted cause => exact .aborted cause

lemma SameResult.imp {α : Type} {R S : α → α → Prop} (himp : ∀ a b, R a b → S a b)
    {x y : Except Failure α} (h : SameResult R x y) : SameResult S x y := by
  cases h with
  | ok hab => exact .ok (himp _ _ hab)
  | error hfailure => exact .error hfailure

/-! ### Loading -/

section Load

variable {p : SnapshotPlace} {files : Files} {validator : Validator}

/-- The same place, with a slash behind its directory. -/
def withSlash (p : SnapshotPlace) : SnapshotPlace := { p with directory := p.directory ++ ['/'] }

/-- A place whose directory has no slash at its end and whose paths are joined by slashes. -/
structure Unslashed (p : SnapshotPlace) : Prop where
  directory : EndsInName p.directory
  separator : p.separator = .slash

/-- One path for a file, or two of which neither can be read. -/
inductive SameFile (files : Files) : Text → Text → Prop
  | same (path : Text) : SameFile files path path
  | unreadable {path path' failure failure'} (hread : files.readText path = .error failure)
      (hread' : files.readText path' = .error failure') (h : SameFailure failure failure') :
      SameFile files path path'

lemma Unslashed.join_withSlash (h : Unslashed p) {path : Text} (hne : path ≠ []) :
    (withSlash p).join path = p.join path := by
  obtain ⟨directory, separator⟩ := p
  obtain rfl := h.separator
  exact join_concat_slash h.directory hne

lemma Unslashed.manifestPath_withSlash (h : Unslashed p) :
    (withSlash p).manifestPath = p.manifestPath :=
  h.join_withSlash (by decide)

lemma Unslashed.readManifest_withSlash (h : Unslashed p) (files : Files) :
    (withSlash p).readManifest files = p.readManifest files := by
  unfold SnapshotPlace.readManifest
  rw [h.manifestPath_withSlash]

lemma sameFile_concat_slash {directory : Text} {reason : OpenFailure}
    (hdirectory : EndsInName directory)
    (hreason : files (SystemPath.ofText directory) = .error reason) :
    SameFile files directory (directory ++ ['/']) := by
  have hreason' : files (SystemPath.ofText (directory ++ ['/'])) = .error reason := by
    rw [ofText_concat_slash hdirectory, hreason]
  by_cases hnul : '\x00' ∈ directory
  · have hread : ∀ back, files.readText (directory ++ back) = .error (.aborted .nulInPath) := by
      intro back
      simp [Files.readText, hnul]
    have hread' := hread []
    rw [List.append_nil] at hread'
    exact .unreadable hread' (hread _) (.refl _)
  · have hread : files.readText directory =
        .error (.reported (Files.cannotOpen directory reason)) := by
      simp [Files.readText, hnul, hreason]
    have hread' : files.readText (directory ++ ['/']) =
        .error (.reported (Files.cannotOpen (directory ++ ['/']) reason)) := by
      simp [Files.readText, hnul, hreason']
    exact .unreadable hread hread' (.reported _ _)

lemma Unslashed.sameFile (h : Unslashed p) {reason : OpenFailure}
    (hreason : files (SystemPath.ofText p.directory) = .error reason) (path : Text) :
    SameFile files (p.join path) ((withSlash p).join path) := by
  by_cases hne : path = []
  · rw [hne]
    exact sameFile_concat_slash h.directory hreason
  · rw [h.join_withSlash hne]
    exact .same _

/-- The files of a snapshot with their paths as the manifest gives them. -/
def named (m : Manifest) : List (Role × Text) :=
  (Role.snapshot, Manifest.fileName) :: (m.deviceList.map fun pair => (Role.device, pair.2)) ++
    (m.traceMetadata.map fun path => (Role.trace, path)).toList

lemma files_eq_map_named (p : SnapshotPlace) (m : Manifest) :
    p.files m = (named m).map fun file => (file.1, p.join file.2) := by
  unfold SnapshotPlace.files named
  cases m.traceMetadata <;> simp [SnapshotPlace.manifestPath]

/-- Two checks that go over the same files under two paths make the same calls. -/
lemma check_of_sameFiles {f g : Text → Text} {sequence : List (Role × Text)}
    (h : ∀ path, SameFile files (f path) (g path)) :
    (files.check validator (sequence.map fun file => (file.1, g file.2))).calls =
        (files.check validator (sequence.map fun file => (file.1, f file.2))).calls ∧
      SameResult Eq (files.check validator (sequence.map fun file => (file.1, f file.2))).result
        (files.check validator (sequence.map fun file => (file.1, g file.2))).result := by
  induction sequence with
  | nil => exact ⟨rfl, .ok rfl⟩
  | cons file rest ih =>
    obtain ⟨role, path⟩ := file
    have hfile := h path
    simp only [List.map_cons, Files.check]
    generalize f path = one, g path = other at hfile
    cases hfile with
    | unreadable hread hread' hfailure =>
      rw [hread, hread']
      exact ⟨rfl, .error hfailure⟩
    | same =>
      cases files.readText one with
      | error failure => exact ⟨rfl, .error (.refl _)⟩
      | ok text =>
        dsimp only
        cases validator role text one with
        | some report => exact ⟨rfl, .error (.refl _)⟩
        | none => exact ⟨congrArg (_ :: ·) ih.1, ih.2⟩

lemma SameFile.eq_of_readable {path path' text : Text} (h : SameFile files path path')
    (hread : files.readText path = .ok text) : path' = path := by
  cases h with
  | same => rfl
  | unreadable hfails =>
    rw [hread] at hfails
    cases hfails

/-- Where all files have the same path, the same snapshot is built, but for its directory. -/
lemma assemble_withSlash {m : Manifest}
    (h : ∀ file ∈ named m, (withSlash p).join file.2 = p.join file.2) :
    (withSlash p).assemble files m =
      (p.assemble files m).map fun s => { s with directory := s.directory ++ ['/'] } := by
  have hdevices : (m.deviceList.mapM fun pair => (withSlash p).readDevice files pair.2) =
      m.deviceList.mapM fun pair => p.readDevice files pair.2 := by
    apply mapM_congr
    intro pair hpair
    unfold SnapshotPlace.readDevice
    rw [h (Role.device, pair.2)]
    simp only [named, List.mem_append, List.mem_cons, List.mem_map]
    exact .inl (.inr ⟨pair, hpair, rfl⟩)
  have htrace : m.traceMetadata.mapM ((withSlash p).readTrace files) =
      m.traceMetadata.mapM (p.readTrace files) := by
    cases hpath : m.traceMetadata with
    | none => rfl
    | some path =>
      change ((withSlash p).readTrace files path).map some = (p.readTrace files path).map some
      unfold SnapshotPlace.readTrace
      rw [h (Role.trace, path) (by simp [named, hpath])]
  unfold SnapshotPlace.assemble
  rw [hdevices, htrace]
  cases m.deviceList.mapM fun pair => p.readDevice files pair.2 with
  | error failure => rfl
  | ok devices => cases m.traceMetadata.mapM (p.readTrace files) <;> rfl

/-- If the directory cannot be read as a file, a slash behind it changes no call and no result,
but for the directory that the snapshot keeps and the file that a report names. -/
theorem load_withSlash (h : Unslashed p)
    (hbelow : ∀ text, files.readText p.manifestPath = .ok text →
      ∃ reason, files (SystemPath.ofText p.directory) = .error reason) :
    ((withSlash p).load files validator).calls = (p.load files validator).calls ∧
      SameResult (fun s s' => s' = { s with directory := s.directory ++ ['/'] })
        (p.load files validator).result ((withSlash p).load files validator).result := by
  unfold SnapshotPlace.load
  rw [h.readManifest_withSlash]
  cases hmanifest : p.readManifest files with
  | error failure => exact ⟨rfl, .error (.refl _)⟩
  | ok m =>
    obtain ⟨document, hdocument, -⟩ := readManifest_eq_ok_iff.1 hmanifest
    obtain ⟨text, htext, -⟩ := readDocument_eq_ok_iff.1 hdocument
    obtain ⟨reason, hreason⟩ := hbelow text htext
    have hfile := h.sameFile hreason
    obtain ⟨hcalls, hresult⟩ := @check_of_sameFiles files validator _ _ (named m) hfile
    rw [← files_eq_map_named, ← files_eq_map_named] at hcalls hresult
    have hpaths : (files.check validator (p.files m)).result = .ok () →
        ∀ file ∈ named m, (withSlash p).join file.2 = p.join file.2 := by
      intro hchecked file hmem
      rw [check_eq_ok_iff, files_eq_map_named, List.forall_mem_map] at hchecked
      obtain ⟨text, htext, -⟩ := hchecked file hmem
      exact (hfile file.2).eq_of_readable htext
    dsimp only
    generalize files.check validator (p.files m) = checked,
      files.check validator ((withSlash p).files m) = checked' at *
    obtain ⟨calls, result⟩ := checked
    obtain ⟨calls', result'⟩ := checked'
    dsimp only at hcalls hresult hpaths ⊢
    cases hresult with
    | error hfailure => exact ⟨hcalls, .error hfailure⟩
    | @ok accepted _ hsame =>
      dsimp only
      rw [assemble_withSlash (hpaths rfl)]
      cases p.assemble files m with
      | error failure => exact ⟨hcalls, .error (.refl _)⟩
      | ok s => exact ⟨hcalls, .ok rfl⟩

end Load

/-! ### Runs -/

/-- Two runs write the same dump to the same file, or fail alike and both with or without a
snapshot. -/
inductive SameEnding : Ending → Ending → Prop
  | written {path s s'} (hdump : s'.dumpText = s.dumpText) :
      SameEnding (.written path s) (.written path s')
  | failed {failure failure'} {s s' : Option Snapshot} (h : SameFailure failure failure')
      (hkept : s'.isSome = s.isSome) : SameEnding (.failed failure s) (.failed failure' s')

lemma dumpText_concat_slash (s : Snapshot) :
    Snapshot.dumpText { s with directory := s.directory ++ ['/'] } = s.dumpText := by
  have hdirectory : Path.normalize (s.directory ++ ['/']) = Path.normalize s.directory ++ ['/'] :=
    List.map_append
  unfold Snapshot.dumpText Snapshot.dumpLines
  dsimp only
  rw [hdirectory, withoutTrailingSlashes_concat_slash]

/-- A run depends on what was loaded only by the dump of it. -/
lemma run_of_sameResult {d : Disk} {validator : Validator} {configured : Text} (output : Text)
    {r r' : Request}
    (hcalls : (r'.load configured d.read validator).calls =
      (r.load configured d.read validator).calls)
    (hresult : SameResult (fun s s' => s'.dumpText = s.dumpText)
      (r.load configured d.read validator).result
      (r'.load configured d.read validator).result) :
    (d.run validator configured r' output).1.calls =
        (d.run validator configured r output).1.calls ∧
      SameEnding (d.run validator configured r output).1.ending
        (d.run validator configured r' output).1.ending ∧
      (d.run validator configured r' output).2 = (d.run validator configured r output).2 := by
  unfold Disk.run
  generalize r.load configured d.read validator = loaded,
    r'.load configured d.read validator = loaded' at hcalls hresult
  obtain ⟨calls, result⟩ := loaded
  obtain ⟨calls', result'⟩ := loaded'
  dsimp only at hcalls hresult ⊢
  cases hresult with
  | error hfailure => exact ⟨hcalls, .failed hfailure rfl, rfl⟩
  | @ok s s' hdump =>
    have hwrite : d.writeDump output s' = d.writeDump output s := by
      unfold Disk.writeDump
      rw [hdump]
    dsimp only
    rw [hwrite]
    cases d.writeDump output s with
    | error failure => exact ⟨hcalls, .failed (.refl _) rfl, rfl⟩
    | ok after => exact ⟨hcalls, .written hdump, rfl⟩

lemma Unslashed.manifestPath_eq {p : SnapshotPlace} (h : Unslashed p) :
    p.manifestPath = p.directory ++ '/' :: Manifest.fileName := by
  have hname : Manifest.fileName ≠ [] := by decide
  unfold SnapshotPlace.manifestPath SnapshotPlace.join
  rw [h.separator, join_of_relative .slash _ hname rfl, gapAfter_of_endsInName h.directory,
    List.append_assoc]
  rfl

/-- On a disk, a directory with a manifest in it cannot be read as a file. -/
lemma Unslashed.read_directory {d : Disk} {p : SnapshotPlace} (h : Unslashed p) {text : Text}
    (htext : d.read.readText p.manifestPath = .ok text) :
    d.read (SystemPath.ofText p.directory) = .error .isDirectory := by
  obtain ⟨-, bytes, hread, -⟩ := readText_eq_ok_iff.1 htext
  have hnames : (SystemPath.ofText Manifest.fileName).names = [Manifest.fileName] := rfl
  rw [h.manifestPath_eq, ofText_append h.directory, hnames] at hread
  exact read_eq_isDirectory (by decide) hread

/-- With `/` as separator it does not matter whether the directory is given with a slash behind it
or without. Whatever the validator, it is shown the same files under the same names. Either both
runs write the same dump to the same file and leave the same disk, or both fail with the same
failure; only the file that a report names may differ. -/
theorem run_of_trailing_slash (d : Disk) (validator : Validator) (output : Text)
    {configured directory : Text} {chosen : Option Text}
    (hseparator : Separator.choose chosen configured = .ok .slash)
    (hdirectory : EndsInName directory) :
    let plain := d.run validator configured ⟨directory, chosen⟩ output
    let slashed := d.run validator configured ⟨directory ++ ['/'], chosen⟩ output
    slashed.1.calls = plain.1.calls ∧ SameEnding plain.1.ending slashed.1.ending ∧
      slashed.2 = plain.2 := by
  intro plain slashed
  have hplace : Unslashed ⟨directory, .slash⟩ := ⟨hdirectory, rfl⟩
  have hload : ∀ place, Request.load ⟨place, chosen⟩ configured d.read validator =
      SnapshotPlace.load ⟨place, .slash⟩ d.read validator :=
    fun _ => load_of_separator hseparator
  obtain ⟨hcalls, hresult⟩ := @load_withSlash _ d.read validator hplace
    fun _ htext => ⟨_, hplace.read_directory htext⟩
  apply run_of_sameResult
  · rw [hload, hload]
    exact hcalls
  · rw [hload, hload]
    refine hresult.imp ?_
    rintro s _ rfl
    exact dumpText_concat_slash s

/-- A manifest that lists a device with an empty path. -/
def directoryListed : Disk :=
  diskOf [("snapshot.ini", "[snapshot]\nversion=1\n[device_list]\na=\n")]

/-- A run that succeeds, and one that ends at the directory itself and names it as it was given. -/
theorem run_of_trailing_slash_atDirectory :
    let run (d : Disk) (directory : Text) := d.run Validator.acceptAll [] ⟨directory, none⟩ ['o']
    EndsInName ['/', 'w'] ∧
      (run oneDevice ['/', 'w']).1.ending = .written (SystemPath.ofText ['o'])
        { oneDeviceSnapshot with directory := ['/', 'w'] } ∧
      (run oneDevice (['/', 'w'] ++ ['/'])).2 = (run oneDevice ['/', 'w']).2 ∧
      (run directoryListed ['/', 'w']).1.ending =
        .failed (.reported (Files.cannotOpen ['/', 'w'] .isDirectory)) none ∧
      (run directoryListed (['/', 'w'] ++ ['/'])).1.ending =
        .failed (.reported (Files.cannotOpen ['/', 'w', '/'] .isDirectory)) none ∧
      SameEnding (run directoryListed ['/', 'w']).1.ending
        (run directoryListed (['/', 'w'] ++ ['/'])).1.ending := by
  have hseparator : Separator.choose none [] = .ok .slash := rfl
  have hname : EndsInName ['/', 'w'] := ⟨'w', rfl, rfl⟩
  have hended : (oneDevice.run Validator.acceptAll [] ⟨['/', 'w'], none⟩ ['o']).1.ending =
      .written (SystemPath.ofText ['o']) { oneDeviceSnapshot with directory := ['/', 'w'] } := by
    conv => lhs; cbv
    rfl
  have hwritten := run_of_trailing_slash oneDevice Validator.acceptAll ['o'] hseparator hname
  have hfailed := run_of_trailing_slash directoryListed Validator.acceptAll ['o'] hseparator hname
  refine ⟨hname, hended, hwritten.2.2, ?_, ?_, hfailed.2.1⟩
  · decide +kernel
  · decide +kernel

end TraceSnapshot.Proofs
