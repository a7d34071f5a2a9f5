import Mathlib.Data.List.Basic
import Mathlib.Tactic.Lemma
import TraceSnapshot.Proofs.Legibility
import TraceSnapshot.Run

/-!
# Reading a dump

A dump can be read back: line by line it tells where each field, each record and each list
ends. So two snapshots with the same dump agree on all that a dump tells of them. The only
text that may hold line feeds is the snapshot directory, and its end is the last line that
names the manifest.
-/

namespace TraceSnapshot.Proofs
open DumpText (field namedField count)

/-! ### What a dump tells -/

structure RegisterContent where
  name : Text
  value : Text
  id : Text
  size : Text
  deriving DecidableEq

/-- A register with empty texts for what it lacks. Its number and its position are not told. -/
def registerContent (r : Register) : RegisterContent :=
  ⟨r.name, r.value, r.id.getD [], r.size.getD []⟩

structure MemoryDumpContent where
  sectionName : Text
  file : Text
  space : Text
  address : Text
  length : Text
  offset : Text
  deriving DecidableEq

def memoryDumpContent (m : MemoryDump) : MemoryDumpContent :=
  ⟨m.sectionName, m.file, m.space, m.address, m.length, m.offset⟩

structure DeviceContent where
  name : Text
  className : Text
  typeName : Text
  location : Text
  iniPath : Text
  registers : List RegisterContent
  dumps : List MemoryDumpContent
  deriving DecidableEq

def deviceContent (d : Device) : DeviceContent :=
  ⟨d.name, d.className, d.typeName, d.location, d.iniPath, d.registers.map registerContent,
    d.dumps.map memoryDumpContent⟩

structure TraceContent where
  path : Text
  bufferIds : List Text
  buffers : List TraceBuffer
  coreTraceSources : List (Text × Text)
  sourceBuffers : List (Text × Text)
  deriving DecidableEq

def traceContent (t : TraceMetadata) : TraceContent :=
  ⟨Path.normalize t.path, t.bufferIds, t.buffers, t.coreTraceSources, t.sourceBuffers⟩

structure SnapshotContent where
  directory : Text
  version : Text
  description : Text
  deviceList : List (Text × Text)
  devices : List DeviceContent
  clusters : List (Text × List Text)
  trace : Option TraceContent
  deriving DecidableEq

/-- What the dump of a snapshot tells: paths with `/`, the directory without slashes at its
end, and the members of a cluster one by one. -/
def snapshotContent (s : Snapshot) : SnapshotContent where
  directory := Path.withoutTrailingSlashes (Path.normalize s.directory)
  version := s.manifest.version
  description := s.manifest.description
  deviceList := s.manifest.deviceList.map fun (key, path) => (key, Path.normalize path)
  devices := s.devices.map deviceContent
  clusters := s.manifest.clusters.map fun (key, members) => (key, CommaList.items members)
  trace := s.trace.map traceContent

/-! ### Lines -/

@[simp] lemma field_inj {key : String} {v w : Text} : field key v = field key w ↔ v = w := by
  unfold field
  exact List.append_right_inj _

@[simp] lemma count_inj {key : String} {m n : Nat} : count key m = count key n ↔ m = n := by
  unfold count
  rw [field_inj, ofNat_injective.eq_iff]

/-- A line that starts otherwise than another one is another line. -/
lemma field_ne {key : String} {v line : Text} (h : ¬ key.toList <+: line) : field key v ≠ line := by
  rintro rfl
  exact h ((List.prefix_append _ _).trans (List.prefix_append _ _))

/-- What stands before the first of a sign is read back, and so is what comes after it. -/
lemma append_cons_inj {α : Type} {c : α} {a a' b b' : List α} (ha : c ∉ a) (ha' : c ∉ a') :
    a ++ c :: b = a' ++ c :: b' ↔ a = a' ∧ b = b' := by
  constructor
  · intro h
    rcases List.append_eq_append_iff.1 h with ⟨between, rfl, hrest⟩ | ⟨between, rfl, hrest⟩
    all_goals
      cases between with
      | nil => simp_all
      | cons x between => simp_all
  · rintro ⟨rfl, rfl⟩
    rfl

lemma namedField_inj {key : String} {n n' v v' : Text} (hn : '=' ∉ n) (hn' : '=' ∉ n') :
    namedField key n v = namedField key n' v' ↔ n = n' ∧ v = v' := by
  have hsplit : ∀ n v : Text,
      namedField key n v = key.toList ++ ((n ++ [' ']) ++ '=' :: ([' '] ++ v)) := by
    intro n v
    simp [namedField]
  rw [hsplit, hsplit, List.append_right_inj, append_cons_inj (by simp [hn]) (by simp [hn']),
    List.append_left_inj, List.append_right_inj]

/-- The name of a register ends at the first equals sign, its value at the first semicolon and
its id at the equals sign after that. -/
lemma registerContent_eq_of_dumpLine_eq {a b : Register} (ha : LegibleRegister a)
    (hb : LegibleRegister b) (h : a.dumpLine = b.dumpLine) :
    registerContent a = registerContent b := by
  have hsplit : ∀ r : Register, r.dumpLine =
      "reg.".toList ++ ((r.name ++ [' ']) ++ '=' :: (([' '] ++ r.value ++ [' ']) ++ ';' ::
        (" meta: id=".toList ++ ((r.id.getD [] ++ " size".toList) ++ '=' :: r.size.getD [])))) := by
    intro r
    have hequals : " = ".toList = [' '] ++ '=' :: [' '] := rfl
    have hmeta : " ; meta: id=".toList = [' '] ++ ';' :: " meta: id=".toList := rfl
    have hsize : " size=".toList = " size".toList ++ ['='] := rfl
    unfold Register.dumpLine
    rw [hequals, hmeta, hsize]
    simp only [List.append_assoc, List.cons_append, List.nil_append]
  rw [hsplit, hsplit, List.append_right_inj] at h
  obtain ⟨hname, h⟩ := (append_cons_inj (by simp [ha.name_no_equals])
    (by simp [hb.name_no_equals])).1 h
  obtain ⟨hvalue, h⟩ := (append_cons_inj (by simp [ha.value_no_semicolon])
    (by simp [hb.value_no_semicolon])).1 h
  rw [List.append_right_inj] at h
  obtain ⟨hid, hsize⟩ := (append_cons_inj (by simp [ha.id_no_equals])
    (by simp [hb.id_no_equals])).1 h
  simp only [List.append_left_inj, List.append_right_inj] at hname hvalue hid
  simp [registerContent, hname, hvalue, hid, hsize]

/-! ### Records -/

section Records

variable {α β : Type} {write : α → List Text} {content : α → β}

/-- Two records tell their content and where they end, whatever lines come after them. -/
def ToldApart (write : α → List Text) (content : α → β) (a b : α) : Prop :=
  ∀ r s, write a ++ r = write b ++ s → content a = content b ∧ r = s

lemma toldApart_line {line : α → Text} {a b : α} (h : line a = line b → content a = content b) :
    ToldApart (fun a => [line a]) content a b := by
  intro r s heq
  obtain ⟨hline, hrest⟩ := List.cons.inj heq
  exact ⟨h hline, hrest⟩

/-- Lists of records are read back if their length is known. -/
lemma flatMap_toldApart {as bs : List α} (hlength : as.length = bs.length)
    (h : ∀ a ∈ as, ∀ b ∈ bs, ToldApart write content a b) {r s : List Text}
    (heq : as.flatMap write ++ r = bs.flatMap write ++ s) :
    as.map content = bs.map content ∧ r = s := by
  induction as generalizing bs with
  | nil =>
    cases bs with
    | nil => exact ⟨rfl, heq⟩
    | cons b bs => cases hlength
  | cons a as ih =>
    cases bs with
    | nil => cases hlength
    | cons b bs =>
      rw [List.flatMap_cons, List.flatMap_cons, List.append_assoc, List.append_assoc] at heq
      obtain ⟨hab, heq⟩ := h a List.mem_cons_self b List.mem_cons_self _ _ heq
      obtain ⟨hmap, hrest⟩ := ih (Nat.succ.inj hlength)
        (fun a ha b hb => h a (List.mem_cons_of_mem _ ha) b (List.mem_cons_of_mem _ hb)) heq
      exact ⟨by rw [List.map_cons, List.map_cons, hab, hmap], hrest⟩

lemma map_toldApart {line : α → Text} {as bs : List α} (hlength : as.length = bs.length)
    (h : ∀ a ∈ as, ∀ b ∈ bs, line a = line b → content a = content b) {r s : List Text}
    (heq : as.map line ++ r = bs.map line ++ s) : as.map content = bs.map content ∧ r = s := by
  rw [List.map_eq_flatMap, List.map_eq_flatMap] at heq
  exact flatMap_toldApart hlength (fun a ha b hb => toldApart_line (h a ha b hb)) heq

/-- Lists of records are read back if every record starts with a marker and the line after the
last one is no marker. -/
lemma marked_toldApart {marker : Text} (hmarker : ∀ a, ∃ rest, write a = marker :: rest)
    {as bs : List α} (h : ∀ a ∈ as, ∀ b ∈ bs, ToldApart write content a b) {r s : List Text}
    (hr : r.head? ≠ some marker) (hs : s.head? ≠ some marker)
    (heq : as.flatMap write ++ r = bs.flatMap write ++ s) :
    as.map content = bs.map content ∧ r = s := by
  induction as generalizing bs with
  | nil =>
    cases bs with
    | nil => exact ⟨rfl, heq⟩
    | cons b bs =>
      obtain ⟨rest, hrest⟩ := hmarker b
      rw [List.flatMap_nil, List.nil_append, List.flatMap_cons, hrest] at heq
      exact absurd (by rw [heq]; rfl) hr
  | cons a as ih =>
    cases bs with
    | nil =>
      obtain ⟨rest, hrest⟩ := hmarker a
      rw [List.flatMap_nil, List.nil_append, List.flatMap_cons, hrest] at heq
      exact absurd (by rw [← heq]; rfl) hs
    | cons b bs =>
      rw [List.flatMap_cons, List.flatMap_cons, List.append_assoc, List.append_assoc] at heq
      obtain ⟨hab, heq⟩ := h a List.mem_cons_self b List.mem_cons_self _ _ heq
      obtain ⟨hmap, hrest⟩ := ih
        (fun a ha b hb => h a (List.mem_cons_of_mem _ ha) b (List.mem_cons_of_mem _ hb)) heq
      exact ⟨by rw [List.map_cons, List.map_cons, hab, hmap], hrest⟩

lemma head?_marked_ne {marker other : Text} (hmarker : ∀ a, ∃ rest, write a = marker :: rest)
    (hne : marker ≠ other) {r : List Text} (hr : r.head? ≠ some other) (as : List α) :
    (as.flatMap write ++ r).head? ≠ some other := by
  cases as with
  | nil => exact hr
  | cons a as =>
    obtain ⟨rest, hrest⟩ := hmarker a
    rw [List.flatMap_cons, hrest]
    simpa using hne

end Records

lemma memoryDump_toldApart (a b : MemoryDump) :
    ToldApart MemoryDump.dumpLines memoryDumpContent a b := by
  intro r s h
  simp only [MemoryDump.dumpLines, List.cons_append, List.nil_append, List.cons.injEq, field_inj,
    true_and] at h
  obtain ⟨hsection, hfile, hspace, haddress, hlength, hoffset, hrest⟩ := h
  exact ⟨by simp [memoryDumpContent, hsection, hfile, hspace, haddress, hlength, hoffset], hrest⟩

/-- The counts in front of the registers and the dumps say how many of them follow. -/
lemma device_toldApart {a b : Device} (ha : LegibleDevice a) (hb : LegibleDevice b) :
    ToldApart Device.dumpLines deviceContent a b := by
  intro r s h
  simp only [Device.dumpLines, List.cons_append, List.nil_append, List.append_assoc,
    List.cons.injEq, field_inj, count_inj, true_and] at h
  obtain ⟨hname, hclass, htype, hlocation, hini, hregisters, hdumps, h⟩ := h
  obtain ⟨hregister, h⟩ := map_toldApart hregisters
    (fun a' ha' b' hb' => registerContent_eq_of_dumpLine_eq (ha.register a' ha')
      (hb.register b' hb')) h
  obtain ⟨hdump, hrest⟩ := flatMap_toldApart hdumps
    (fun a' _ b' _ => memoryDump_toldApart a' b') h
  exact ⟨by simp [deviceContent, hname, hclass, htype, hlocation, hini, hregister, hdump], hrest⟩

lemma join_inj_of_items {as bs : List Text} (ha : ∀ a ∈ as, ListItem a) (hb : ∀ b ∈ bs, ListItem b)
    (h : CommaList.join as = CommaList.join bs) : as = bs := by
  rw [← items_join ha, h, items_join hb]

lemma join_inj_of_no_comma {as bs : List Text} (has : as ≠ []) (hbs : bs ≠ [])
    (ha : ∀ a ∈ as, ',' ∉ a) (hb : ∀ b ∈ bs, ',' ∉ b)
    (h : CommaList.join as = CommaList.join bs) : as = bs := by
  unfold CommaList.join at h
  rw [← List.splitOn_intercalate ',' ha has, h, List.splitOn_intercalate ',' hb hbs]

lemma buffer_toldApart {a b : TraceBuffer} (ha : LegibleBuffer a) (hb : LegibleBuffer b) :
    ToldApart TraceBuffer.dumpLines id a b := by
  intro r s h
  simp only [TraceBuffer.dumpLines, List.cons_append, List.nil_append, List.cons.injEq, field_inj,
    true_and] at h
  obtain ⟨hid, hname, hformat, hfiles, hrest⟩ := h
  have hfiles := join_inj_of_no_comma ha.files_nonempty hb.files_nonempty ha.files_no_comma
    hb.files_no_comma hfiles
  refine ⟨?_, hrest⟩
  cases a
  cases b
  simp_all

/-- The lines of a pair under a marker. -/
def pairLines (marker first second : String) (pair : Text × Text) : List Text :=
  [marker.toList, field first pair.1, field second pair.2]

lemma pair_toldApart {marker first second : String} (a b : Text × Text) :
    ToldApart (pairLines marker first second) id a b := by
  intro r s h
  simp only [pairLines, List.cons_append, List.nil_append, List.cons.injEq, field_inj,
    true_and] at h
  obtain ⟨hfirst, hsecond, hrest⟩ := h
  exact ⟨Prod.ext hfirst hsecond, hrest⟩

lemma pairLines_marker {marker first second : String} (pair : Text × Text) :
    ∃ rest, pairLines marker first second pair = marker.toList :: rest :=
  ⟨_, rfl⟩

/-! ### The parts of a dump -/

/-- Lines with a name in their key are read back if their number is known. -/
lemma namedLines_toldApart {γ : Type} {key : String} {shown : Text → Text} {content : Text → γ}
    (hshown : ∀ u v, shown u = shown v → content u = content v) {as bs : List (Text × Text)}
    (hlength : as.length = bs.length) (ha : ∀ pair ∈ as, LegiblePair pair)
    (hb : ∀ pair ∈ bs, LegiblePair pair) {r s : List Text}
    (h : as.map (fun (name, value) => namedField key name (shown value)) ++ r =
      bs.map (fun (name, value) => namedField key name (shown value)) ++ s) :
    as.map (fun (name, value) => (name, content value)) =
      bs.map (fun (name, value) => (name, content value)) ∧ r = s := by
  refine map_toldApart hlength ?_ h
  intro a ha' b hb' hline
  obtain ⟨hname, hvalue⟩ :=
    (namedField_inj (ha a ha').key_no_equals (hb b hb').key_no_equals).1 hline
  exact Prod.ext hname (hshown _ _ hvalue)

/-- The first lines of a manifest say how many devices it lists. -/
lemma headLines_toldApart {m n : Manifest} (hm : LegibleManifest m) (hn : LegibleManifest n)
    {r s : List Text} (h : m.headLines ++ r = n.headLines ++ s) :
    m.version = n.version ∧ m.description = n.description ∧
      m.deviceList.map (fun (key, path) => (key, Path.normalize path)) =
        n.deviceList.map (fun (key, path) => (key, Path.normalize path)) ∧ r = s := by
  simp only [Manifest.headLines, List.cons_append, List.nil_append, List.cons.injEq, field_inj,
    count_inj] at h
  obtain ⟨hversion, hdescription, hlength, h⟩ := h
  exact ⟨hversion, hdescription, namedLines_toldApart (fun _ _ => id) hlength hm.device hn.device h⟩

lemma items_eq_of_join_items_eq (u v : Text)
    (h : CommaList.join (CommaList.items u) = CommaList.join (CommaList.items v)) :
    CommaList.items u = CommaList.items v :=
  join_inj_of_items (fun _ => listItem_of_mem_items) (fun _ => listItem_of_mem_items) h

/-- Clusters are there if their count is. -/
lemma clusterLines_toldApart {m n : Manifest} (hm : LegibleManifest m) (hn : LegibleManifest n)
    {r s : List Text} (hr : ∀ k, r.head? ≠ some (count "clusters.count" k))
    (hs : ∀ k, s.head? ≠ some (count "clusters.count" k))
    (h : m.clusterLines ++ r = n.clusterLines ++ s) :
    m.clusters.map (fun (key, members) => (key, CommaList.items members)) =
      n.clusters.map (fun (key, members) => (key, CommaList.items members)) ∧ r = s := by
  have hcluster := hm.cluster
  have hcluster' := hn.cluster
  unfold Manifest.clusterLines at h
  generalize m.clusters = as at h hcluster ⊢
  generalize n.clusters = bs at h hcluster' ⊢
  cases as with
  | nil =>
    cases bs with
    | nil => exact ⟨rfl, h⟩
    | cons b bs =>
      rw [List.isEmpty_nil, if_pos rfl, List.nil_append] at h
      exact absurd (by rw [h]; rfl) (hr (b :: bs).length)
  | cons a as =>
    cases bs with
    | nil =>
      rw [List.isEmpty_nil, if_pos rfl, List.nil_append] at h
      exact absurd (by rw [← h]; rfl) (hs (a :: as).length)
    | cons b bs =>
      simp only [List.isEmpty_cons, Bool.false_eq_true, if_false, List.cons_append,
        List.cons.injEq, count_inj] at h
      exact namedLines_toldApart items_eq_of_join_items_eq h.1 hcluster hcluster' h.2

lemma trace_dumpLines_eq (t : TraceMetadata) : t.dumpLines =
    field "trace.metadata" (Path.normalize t.path) ::
      field "trace_buffers.ids" (CommaList.join t.bufferIds) ::
        (t.buffers.flatMap TraceBuffer.dumpLines ++
          (t.coreTraceSources.flatMap (pairLines "[[core_trace_source]]" "core" "source") ++
            (t.sourceBuffers.flatMap (pairLines "[[source_buffer]]" "source" "buffers") ++ []))) := by
  rw [List.append_nil, ← List.append_assoc]
  rfl

/-- The lists of trace metadata are told apart by their markers. -/
lemma trace_toldApart {t u : TraceMetadata} (ht : LegibleTrace t) (hu : LegibleTrace u)
    (h : t.dumpLines = u.dumpLines) : traceContent t = traceContent u := by
  rw [trace_dumpLines_eq, trace_dumpLines_eq] at h
  simp only [List.cons.injEq, field_inj] at h
  obtain ⟨hpath, hids, h⟩ := h
  have hids := join_inj_of_items ht.bufferId hu.bufferId hids
  have hsources : ∀ v : TraceMetadata,
      (v.sourceBuffers.flatMap (pairLines "[[source_buffer]]" "source" "buffers") ++ []).head? ≠
        some "[[core_trace_source]]".toList := fun v =>
    head?_marked_ne pairLines_marker (by decide) (by simp) _
  have hlists : ∀ v : TraceMetadata,
      (v.coreTraceSources.flatMap (pairLines "[[core_trace_source]]" "core" "source") ++
        (v.sourceBuffers.flatMap (pairLines "[[source_buffer]]" "source" "buffers") ++ [])).head? ≠
          some "[[trace_buffer]]".toList := fun v =>
    head?_marked_ne pairLines_marker (by decide)
      (head?_marked_ne pairLines_marker (by decide) (by simp) _) _
  obtain ⟨hbuffers, h⟩ := marked_toldApart (fun b => ⟨_, rfl⟩)
    (fun a ha b hb => buffer_toldApart (ht.buffer a ha) (hu.buffer b hb)) (hlists t) (hlists u) h
  obtain ⟨hcore, h⟩ := marked_toldApart pairLines_marker (fun a _ b _ => pair_toldApart a b)
    (hsources t) (hsources u) h
  obtain ⟨hsource, -⟩ := marked_toldApart pairLines_marker (fun a _ b _ => pair_toldApart a b)
    (by simp) (by simp) h
  simp only [List.map_id] at hbuffers hcore hsource
  simp [traceContent, hpath, hids, hbuffers, hcore, hsource]

lemma traceLines_toldApart {t u : Option TraceMetadata} (ht : ∀ v, t = some v → LegibleTrace v)
    (hu : ∀ v, u = some v → LegibleTrace v)
    (h : t.elim [] TraceMetadata.dumpLines = u.elim [] TraceMetadata.dumpLines) :
    t.map traceContent = u.map traceContent := by
  cases t with
  | none =>
    cases u with
    | none => rfl
    | some u => cases h
  | some t =>
    cases u with
    | none => cases h
    | some u => exact congrArg some (trace_toldApart (ht t rfl) (hu u rfl) h)

end TraceSnapshot.Proofs
