import Mathlib
import TraceSnapshot.Proofs.DumpReading

/-!
# The dump determines the snapshot

The lines of a dump are found again in its text, although the directory may hold line feeds
of its own: no line below the one that names the manifest looks like it. So whatever the
files of a snapshot hold, no text in them can pass for another line, field or record.
-/

namespace TraceSnapshot.Proofs
open DumpText (field namedField count)

/-! ### Lines below the directory -/

/-- The line that names the manifest. -/
def manifestLine : Text := field "snapshot_ini" Manifest.fileName

def bodyLines (s : Snapshot) : List Text :=
  s.manifest.headLines ++ (s.devices.flatMap Device.dumpLines ++
    (s.manifest.clusterLines ++ s.trace.elim [] TraceMetadata.dumpLines))

/-- A line that stays one line in a text and does not look like the one that names the
manifest. -/
structure BodyLine (line : Text) : Prop where
  no_newline : '\n' ∉ line
  other : line ≠ manifestLine

/-- Text that a line of the body can start with. -/
def OtherStart (first : Text) : Prop := '\n' ∉ first ∧ ¬ first <+: manifestLine

instance {first : Text} : Decidable (OtherStart first) :=
  inferInstanceAs (Decidable ('\n' ∉ first ∧ ¬ first <+: manifestLine))

lemma bodyLine_append {first rest : Text} (hfirst : OtherStart first)
    (hrest : '\n' ∉ rest) : BodyLine (first ++ rest) := by
  refine ⟨by simp [hfirst.1, hrest], ?_⟩
  intro h
  exact hfirst.2 (h ▸ List.prefix_append first rest)

lemma bodyLine_field {key : String} {v : Text} (hkey : OtherStart key.toList) (hv : '\n' ∉ v) :
    BodyLine (field key v) := by
  unfold field
  rw [List.append_assoc]
  exact bodyLine_append hkey (by simp [hv])

lemma bodyLine_count {key : String} {n : Nat} (hkey : OtherStart key.toList) :
    BodyLine (count key n) :=
  bodyLine_field hkey fun h => absurd (isDigit_of_mem_ofNat h) (by decide)

lemma bodyLine_namedField {key : String} {name v : Text} (hkey : OtherStart key.toList)
    (hname : '\n' ∉ name) (hv : '\n' ∉ v) : BodyLine (namedField key name v) := by
  unfold namedField
  rw [List.append_assoc, List.append_assoc]
  exact bodyLine_append hkey (by simp [hname, hv])

lemma newline_notMem_join {items : List Text} (h : ∀ item ∈ items, '\n' ∉ item) :
    '\n' ∉ CommaList.join items :=
  notMem_intercalate (by decide) h

/-! ### Records are body lines -/

lemma bodyLine_register {r : Register} (h : LegibleRegister r) : BodyLine r.dumpLine := by
  have hline := h.one_line
  simp only [List.forall_mem_cons, List.not_mem_nil, false_imp_iff, implies_true, and_true] at hline
  obtain ⟨hname, hvalue, hid, hsize⟩ := hline
  unfold Register.dumpLine
  simp only [List.append_assoc]
  exact bodyLine_append (by decide) (by simp [hname, hvalue, hid, hsize])

lemma bodyLine_memoryDump {m : MemoryDump} (h : LegibleMemoryDump m) :
    ∀ line ∈ m.dumpLines, BodyLine line := by
  have hline := h.one_line
  unfold MemoryDump.dumpLines
  simp only [List.forall_mem_cons, List.not_mem_nil, false_imp_iff, implies_true, and_true]
    at hline ⊢
  obtain ⟨hsection, hfile, hspace, haddress, hlength, hoffset⟩ := hline
  exact ⟨⟨by decide, by decide⟩, bodyLine_field (by decide) hsection,
    bodyLine_field (by decide) hfile, bodyLine_field (by decide) hspace,
    bodyLine_field (by decide) haddress, bodyLine_field (by decide) hlength,
    bodyLine_field (by decide) hoffset⟩

lemma bodyLine_device {d : Device} (h : LegibleDevice d) : ∀ line ∈ d.dumpLines, BodyLine line := by
  have hline := h.one_line
  unfold Device.dumpLines
  simp only [List.forall_mem_append, List.forall_mem_cons, List.not_mem_nil, false_imp_iff,
    implies_true, and_true] at hline ⊢
  obtain ⟨hname, hclass, htype, hlocation, hini⟩ := hline
  refine ⟨⟨⟨⟨by decide, by decide⟩, bodyLine_field (by decide) hname,
    bodyLine_field (by decide) hclass, bodyLine_field (by decide) htype,
    bodyLine_field (by decide) hlocation, bodyLine_field (by decide) hini,
    bodyLine_count (by decide), bodyLine_count (by decide)⟩, ?_⟩, ?_⟩
  · intro line hmem
    obtain ⟨r, hr, rfl⟩ := List.mem_map.1 hmem
    exact bodyLine_register (h.register r hr)
  · intro line hmem
    obtain ⟨m, hm, hmem⟩ := List.mem_flatMap.1 hmem
    exact bodyLine_memoryDump (h.dump m hm) line hmem

lemma bodyLine_headLines {m : Manifest} (h : LegibleManifest m) :
    ∀ line ∈ m.headLines, BodyLine line := by
  have hline := h.one_line
  unfold Manifest.headLines
  simp only [List.forall_mem_append, List.forall_mem_cons, List.not_mem_nil, false_imp_iff,
    implies_true, and_true] at hline ⊢
  obtain ⟨hversion, hdescription, -⟩ := hline
  refine ⟨⟨bodyLine_field (by decide) hversion, bodyLine_field (by decide) hdescription,
    bodyLine_count (by decide)⟩, ?_⟩
  intro line hmem
  obtain ⟨pair, hpair, rfl⟩ := List.mem_map.1 hmem
  have hpair := (h.device pair hpair).one_line
  exact bodyLine_namedField (by decide) (hpair _ (by simp))
    (no_newline_normalize (hpair _ (by simp)))

lemma bodyLine_clusterLines {m : Manifest} (h : LegibleManifest m) :
    ∀ line ∈ m.clusterLines, BodyLine line := by
  unfold Manifest.clusterLines
  split
  next => simp
  next =>
    rw [List.forall_mem_cons]
    refine ⟨bodyLine_count (by decide), ?_⟩
    intro line hmem
    obtain ⟨pair, hpair, rfl⟩ := List.mem_map.1 hmem
    have hpair := (h.cluster pair hpair).one_line
    refine bodyLine_namedField (by decide) (hpair _ (by simp)) (newline_notMem_join ?_)
    exact fun item hitem hc => hpair pair.2 (by simp) (mem_of_mem_items hitem hc)

lemma bodyLine_buffer {b : TraceBuffer} (h : LegibleBuffer b) :
    ∀ line ∈ b.dumpLines, BodyLine line := by
  have hline := h.one_line
  unfold TraceBuffer.dumpLines
  simp only [List.forall_mem_cons, List.not_mem_nil, false_imp_iff, implies_true, and_true]
    at hline ⊢
  obtain ⟨hid, hname, hformat, hfiles⟩ := hline
  exact ⟨⟨by decide, by decide⟩, bodyLine_field (by decide) hid, bodyLine_field (by decide) hname,
    bodyLine_field (by decide) hformat, bodyLine_field (by decide) (newline_notMem_join hfiles)⟩

lemma bodyLine_pair {marker first second : String} {pair : Text × Text} (h : LegiblePair pair)
    (hmarker : BodyLine marker.toList) (hfirst : OtherStart first.toList)
    (hsecond : OtherStart second.toList) :
    ∀ line ∈ pairLines marker first second pair, BodyLine line := by
  unfold pairLines
  simp only [List.forall_mem_cons, List.not_mem_nil, false_imp_iff, implies_true, and_true]
  exact ⟨hmarker, bodyLine_field hfirst (h.one_line _ (by simp)),
    bodyLine_field hsecond (h.one_line _ (by simp))⟩

lemma bodyLine_trace {t : TraceMetadata} (h : LegibleTrace t) :
    ∀ line ∈ t.dumpLines, BodyLine line := by
  have hline := h.one_line
  rw [trace_dumpLines_eq]
  simp only [List.forall_mem_append, List.forall_mem_cons, List.forall_mem_flatMap,
    List.not_mem_nil, false_imp_iff, implies_true, and_true] at hline ⊢
  obtain ⟨hpath, hids⟩ := hline
  refine ⟨bodyLine_field (by decide) (no_newline_normalize hpath),
    bodyLine_field (by decide) (newline_notMem_join hids), ?_, ?_, ?_⟩
  · exact fun b hb => bodyLine_buffer (h.buffer b hb)
  · exact fun pair hpair => bodyLine_pair (h.coreTraceSource pair hpair) ⟨by decide, by decide⟩
      (by decide) (by decide)
  · exact fun pair hpair => bodyLine_pair (h.sourceBuffer pair hpair) ⟨by decide, by decide⟩
      (by decide) (by decide)

lemma bodyLine_of_mem_bodyLines {s : Snapshot} (h : LegibleSnapshot s) :
    ∀ line ∈ bodyLines s, BodyLine line := by
  unfold bodyLines
  simp only [List.forall_mem_append, List.forall_mem_flatMap]
  refine ⟨bodyLine_headLines h.manifest, fun d hd => bodyLine_device (h.device d hd),
    bodyLine_clusterLines h.manifest, ?_⟩
  cases htrace : s.trace with
  | none => simp
  | some t => exact bodyLine_trace (h.trace t htrace)

/-! ### The body -/

lemma head?_traceLines_ne {s : Snapshot} {other : Text}
    (h : ¬ "trace.metadata".toList <+: other) :
    (s.trace.elim [] TraceMetadata.dumpLines).head? ≠ some other := by
  cases s.trace with
  | none => simp
  | some t =>
    rw [Option.elim_some, trace_dumpLines_eq, List.head?_cons, ne_eq, Option.some.injEq]
    exact field_ne h

lemma head?_clusterLines_ne {m : Manifest} {other : Text} {r : List Text}
    (h : ¬ "clusters.count".toList <+: other) (hr : r.head? ≠ some other) :
    (m.clusterLines ++ r).head? ≠ some other := by
  unfold Manifest.clusterLines
  split
  next => exact hr
  next =>
    rw [List.cons_append, List.head?_cons, ne_eq, Option.some.injEq]
    exact field_ne h

/-- Manifest, devices, clusters and trace metadata are read back one after the other. -/
lemma content_eq_of_bodyLines_eq {s t : Snapshot} (hs : LegibleSnapshot s)
    (ht : LegibleSnapshot t)
    (hdirectory : (snapshotContent s).directory = (snapshotContent t).directory)
    (h : bodyLines s = bodyLines t) : snapshotContent s = snapshotContent t := by
  obtain ⟨hversion, hdescription, hlist, h⟩ := headLines_toldApart hs.manifest ht.manifest h
  have hdevice : ∀ u : Snapshot,
      (u.manifest.clusterLines ++ u.trace.elim [] TraceMetadata.dumpLines).head? ≠
        some "[[device]]".toList := fun u =>
    head?_clusterLines_ne (by decide) (head?_traceLines_ne (by decide))
  obtain ⟨hdevices, h⟩ := marked_toldApart (fun d => ⟨_, rfl⟩)
    (fun d hd e he => device_toldApart (hs.device d hd) (ht.device e he)) (hdevice s) (hdevice t) h
  have hcluster : ∀ (u : Snapshot) (k : Nat),
      (u.trace.elim [] TraceMetadata.dumpLines).head? ≠ some (count "clusters.count" k) := by
    intro u k
    apply head?_traceLines_ne
    intro hprefix
    have hstart := List.prefix_of_prefix_length_le hprefix
      ((List.prefix_append _ _).trans (List.prefix_append _ _)) (by decide)
    exact absurd hstart (by decide)
  obtain ⟨hclusters, h⟩ := clusterLines_toldApart hs.manifest ht.manifest (hcluster s)
    (hcluster t) h
  have htrace := traceLines_toldApart hs.trace ht.trace h
  simp only [snapshotContent] at hdirectory ⊢
  rw [hdirectory, hversion, hdescription, hlist, hdevices, hclusters, htrace]

/-! ### The text -/

lemma lines_flatMap {ls : List Text} (h : ∀ line ∈ ls, '\n' ∉ line) :
    Text.lines (ls.flatMap fun line => line ++ ['\n']) = ls ++ [[]] := by
  unfold Text.lines
  induction ls with
  | nil => rfl
  | cons line ls ih =>
    rw [List.forall_mem_cons] at h
    rw [List.flatMap_cons, List.append_assoc, List.cons_append, List.nil_append,
      List.splitOn_append_cons_self_of_not_mem h.1, ih h.2, List.cons_append]

def directoryLine (s : Snapshot) : Text := field "snapshot_dir" (snapshotContent s).directory

/-- Only the line of the directory may be several lines. -/
lemma lines_dumpText {s : Snapshot} (h : LegibleSnapshot s) :
    Text.lines s.dumpText =
      Text.lines (directoryLine s) ++ manifestLine :: (bodyLines s ++ [[]]) := by
  have hlines : s.dumpLines = directoryLine s :: manifestLine :: bodyLines s := by
    simp only [Snapshot.dumpLines, bodyLines, List.append_assoc, List.cons_append, List.nil_append]
    rfl
  have hbody : ∀ line ∈ manifestLine :: bodyLines s, '\n' ∉ line := by
    rw [List.forall_mem_cons]
    exact ⟨by decide, fun line hline => (bodyLine_of_mem_bodyLines h line hline).no_newline⟩
  unfold Snapshot.dumpText
  rw [hlines, List.flatMap_cons, List.append_assoc, List.cons_append, List.nil_append]
  change List.splitOn _ _ = _
  -- Nothing is known about line feeds in the directory, so its line is split as it is.
  rw [List.splitOn_append_cons_self]
  exact congrArg _ (lines_flatMap hbody)

/-- What stands before the last of a sign is read back, and so is what comes after it. -/
lemma append_cons_inj_of_last {α : Type} {c : α} {a a' b b' : List α} (hb : c ∉ b)
    (hb' : c ∉ b') : a ++ c :: b = a' ++ c :: b' ↔ a = a' ∧ b = b' := by
  rw [← List.reverse_inj]
  simp only [List.reverse_append, List.reverse_cons, List.append_assoc, List.cons_append,
    List.nil_append]
  rw [append_cons_inj (by simpa using hb) (by simpa using hb'), List.reverse_inj,
    List.reverse_inj, and_comm]

/-- The lines below the last line that names the manifest are the body. -/
lemma directoryLine_and_bodyLines_eq {s t : Snapshot} (hs : LegibleSnapshot s)
    (ht : LegibleSnapshot t) (h : s.dumpText = t.dumpText) :
    directoryLine s = directoryLine t ∧ bodyLines s = bodyLines t := by
  have hlast : ∀ u : Snapshot, LegibleSnapshot u → manifestLine ∉ bodyLines u ++ [[]] := by
    intro u hu hmem
    rcases List.mem_append.1 hmem with hmem | hmem
    · exact (bodyLine_of_mem_bodyLines hu _ hmem).other rfl
    · exact absurd hmem (by decide)
  have hlines := congrArg Text.lines h
  rw [lines_dumpText hs, lines_dumpText ht,
    append_cons_inj_of_last (hlast s hs) (hlast t ht)] at hlines
  obtain ⟨hdirectory, hbody⟩ := hlines
  exact ⟨splitOn_injective '\n' hdirectory, (List.append_left_inj _).1 hbody⟩

/-- The dump determines the snapshot. Two snapshots that are loaded, from whatever directories
and files and under whatever validators, agree on all that a dump tells if their dumps are the
same text. -/
theorem snapshotContent_eq_of_dumpText_eq {r r' : Request} {configured configured' : Text}
    {files files' : Files} {validator validator' : Validator} {s t : Snapshot}
    (hs : (r.load configured files validator).result = .ok s)
    (ht : (r'.load configured' files' validator').result = .ok t)
    (h : s.dumpText = t.dumpText) : snapshotContent s = snapshotContent t := by
  have hs := legibleSnapshot_of_load hs
  have ht := legibleSnapshot_of_load ht
  obtain ⟨hdirectory, hbody⟩ := directoryLine_and_bodyLines_eq hs ht h
  exact content_eq_of_bodyLines_eq hs ht (field_inj.1 hdirectory) hbody

/-- Files with these texts, and no others. -/
def filesOf (texts : List (String × String)) : Files := fun path =>
  match texts.find? fun (name, _) => SystemPath.ofText name.toList = path with
  | none => .error .missing
  | some (_, text) => .ok (Utf8.encode text.toList)

/-- The snapshot of a device with two registers, declared at these positions. -/
def twoRegisters (first second : Nat) (directory : String) : Snapshot where
  directory := directory.toList
  manifest := ⟨['1'], [], [("c".toList, "d".toList)], [], none⟩
  devices := [⟨['c'], ['d'], [], [], [],
    [⟨['r'], ['1'], none, none, none, first⟩, ⟨['s'], ['2'], none, none, none, second⟩], []⟩]
  trace := none

/-- A slash after the directory, quotes, and the order of the sections and registers leave
the dump as it is, and what it tells. -/
theorem snapshotContent_eq_of_rearranged_files :
    (twoRegisters 0 1 "a").dumpText = (twoRegisters 1 0 "a/").dumpText ∧
      twoRegisters 0 1 "a" ≠ twoRegisters 1 0 "a/" ∧
      snapshotContent (twoRegisters 0 1 "a") = snapshotContent (twoRegisters 1 0 "a/") := by
  have hs : (Request.load ⟨"a".toList, none⟩ []
      (filesOf [("a/snapshot.ini", "[snapshot]\nversion=1\n[device_list]\nc=d\n"),
        ("a/d", "[device]\nname=c\n[regs]\nr=1\ns=2\n")])
      Validator.acceptAll).result = .ok (twoRegisters 0 1 "a") := by
    apply eq_ok_of_toOption_eq_some
    cbv
  have ht : (Request.load ⟨"a/".toList, none⟩ []
      (filesOf [("a/snapshot.ini", "[device_list]\nc=d\n[snapshot]\nversion=1\n"),
        ("a/d", "[regs]\ns='2'\nr=1\n[device]\nname=c\n")])
      Validator.acceptAll).result = .ok (twoRegisters 1 0 "a/") := by
    apply eq_ok_of_toOption_eq_some
    cbv
  have hdump : (twoRegisters 0 1 "a").dumpText = (twoRegisters 1 0 "a/").dumpText := rfl
  exact ⟨hdump, by decide, snapshotContent_eq_of_dumpText_eq hs ht hdump⟩

end TraceSnapshot.Proofs
