import Mathlib
import TraceSnapshot.Proofs.Grammar
import TraceSnapshot.Proofs.Layout
import TraceSnapshot.Proofs.Traversal

/-!
# Files put together

A file that stands below another one goes on in the section where that one stopped. If it starts
with a header, as it has to if it is to be read alone, it does not matter what stands above: the
documents of both are merged section by section.
-/

namespace TraceSnapshot.Proofs
open Ini (Document Entry Fault Line)

/-! ### Merged documents -/

/-- The sections of a document and behind them those of another one that are new, each with the
entries of both. -/
structure Merges (d e merged : Document) : Prop where
  names : merged.names = d.names ++ e.names.filter fun name => name ∉ d.names
  entries : ∀ name, merged.entries name = d.entries name ++ e.entries name

section Merging

variable {d e merged : Document} {current above : Option Text}

lemma merges_empty (d : Document) (source : Text) : Merges d (.empty source) d where
  names := (List.append_nil d.names).symm
  entries name := (List.append_nil (d.entries name)).symm

lemma Merges.mem_names (h : Merges d e merged) {name : Text} :
    name ∈ merged.names ↔ name ∈ d.names ∨ name ∈ e.names := by
  rw [h.names, List.mem_append, List.mem_filter]
  by_cases hname : name ∈ d.names <;> simp [hname]

lemma Merges.opened (h : Merges d e merged) (name : Text) :
    Merges d (e.opened name) (merged.opened name) where
  names := by
    rw [names_opened, names_opened, h.names]
    by_cases hd : name ∈ d.names
    · by_cases he : name ∈ e.names <;> simp [hd, he]
    · by_cases he : name ∈ e.names <;> simp [hd, he]
  entries other := by rw [entries_opened, entries_opened, h.entries]

lemma Merges.added (h : Merges d e merged) {name : Text} (hname : name ∈ e.names) (entry : Entry) :
    Merges d (e.added name entry) (merged.added name entry) where
  names := by
    have hmerged : name ∈ merged.names := h.mem_names.2 (Or.inr hname)
    rw [names_added_of_mem entry hname, names_added_of_mem entry hmerged, h.names]
  entries other := by
    rw [entries_added, entries_added]
    split
    next hother => rw [hother, h.entries, List.append_assoc]
    next => exact h.entries other

/-- A line that can be read alone does the same below another file, in whatever section that file
stopped. -/
lemma Merges.afterLine (h : Merges d e merged) {number other : Nat} {line : Line}
    (hcurrent : ∀ name, current = some name → name ∈ e.names) {next : Document × Option Text}
    (hline : afterLine e current number line = .ok next) :
    ∃ merged', afterLine merged (current.or above) other line = .ok (merged', next.2.or above) ∧
      Merges d next.1 merged' ∧ ∀ name, next.2 = some name → name ∈ next.1.names := by
  cases line with
  | blank =>
    cases hline
    exact ⟨merged, rfl, h, hcurrent⟩
  | header name =>
    cases hline
    refine ⟨merged.opened name, rfl, h.opened name, ?_⟩
    intro opened hopened
    cases hopened
    exact mem_names_opened_self e name
  | unclosed content => cases hline
  | definition content key value =>
    cases current with
    | none => cases hline
    | some name =>
      cases hline
      have hname := hcurrent name rfl
      refine ⟨merged.added name ⟨key, value⟩, rfl, h.added hname _, ?_⟩
      intro entered hentered
      cases hentered
      rw [names_added_of_mem _ hname]
      exact hname
  | bare content => cases current <;> cases hline

/-- Lines that can be read alone are read below another file as well, and the documents stay
merged. -/
theorem merges_readLines {raws : List Text} {number other : Nat} {result : Document}
    (h : Merges d e merged) (hcurrent : ∀ name, current = some name → name ∈ e.names)
    (hread : e.readLines current number raws = .ok result) :
    ∃ merged', merged.readLines (current.or above) other raws = .ok merged' ∧
      Merges d result merged' := by
  induction raws generalizing e merged current number other with
  | nil =>
    cases hread
    exact ⟨merged, rfl, h⟩
  | cons raw rest ih =>
    rw [readLines_cons, bind_eq_ok_iff] at hread
    obtain ⟨next, hline, hrest⟩ := hread
    obtain ⟨merged', hline', hnext, hsection⟩ := h.afterLine hcurrent hline
    rw [readLines_cons, hline', ok_bind]
    exact ih hnext hsection hrest

end Merging

/-! ### Going on below a file -/

lemma lines_append (t u : Text) : Text.lines (t ++ '\n' :: u) = Text.lines t ++ Text.lines u :=
  List.splitOn_append_cons_self t u

lemma section_of_afterLine {d : Document} {current : Option Text} {number : Nat} {raw : Text}
    {next : Document × Option Text} (h : afterLine d current number (Line.read raw) = .ok next) :
    next.2 = (headerName? (Text.withoutComment raw)).or current := by
  have hsays := says_read raw
  generalize Text.withoutComment raw = line, Line.read raw = said at h hsays
  cases hsays with
  | blank hopen =>
    cases h
    rw [headerName?_eq_none hopen, Option.none_or]
  | header hname =>
    cases h
    rw [hname, Option.some_or]
  | unclosed => cases h
  | definition hentry =>
    rw [headerName?_eq_none (definition?_eq_some_iff.1 hentry).1, Option.none_or]
    cases current <;> cases h
    rfl
  | bare => cases current <;> cases h

/-- What comes below is read in the section of the nearest header. -/
theorem readLines_append (d : Document) (current : Option Text) (number : Nat)
    (raws rest : List Text) : d.readLines current number (raws ++ rest) =
      d.readLines current number raws >>= fun next =>
        next.readLines ((nearestHeader? (raws.map Text.withoutComment)).or current)
          (number + raws.length) rest := by
  induction raws generalizing d current number with
  | nil => rfl
  | cons raw raws ih =>
    rw [List.cons_append, readLines_cons, readLines_cons]
    cases hline : afterLine d current number (Line.read raw) with
    | error fault => rfl
    | ok next =>
      rw [ok_bind, ok_bind, ih, section_of_afterLine hline, ← Option.or_assoc,
        ← nearestHeader?_cons, List.map_cons, List.length_cons, Nat.add_right_comm, Nat.add_assoc]

lemma parse_append (t u source : Text) : Document.parse (t ++ '\n' :: u) source =
    Document.parse t source >>= fun d =>
      d.readLines (nearestHeader? (contents t)) (1 + (Text.lines t).length) (Text.lines u) := by
  unfold Document.parse contents
  rw [lines_append, readLines_append]
  simp only [Option.or_none]

lemma parse_append_of_ok {t u source : Text} {d e : Document}
    (ht : Document.parse t source = .ok d) (hu : Document.parse u source = .ok e) :
    ∃ merged, Document.parse (t ++ '\n' :: u) source = .ok merged ∧ Merges d e merged := by
  rw [parse_append, ht, ok_bind]
  exact merges_readLines (merges_empty d source) (by simp) hu

lemma parse_append_of_error {t source : Text} {fault : Fault}
    (ht : Document.parse t source = .error fault) (u : Text) :
    Document.parse (t ++ '\n' :: u) source = .error fault := by
  rw [parse_append, ht, error_bind]

/-! ### Opening a section again -/

lemma mem_names_of_nearestHeader? {t source name : Text} {d : Document}
    (ht : Document.parse t source = .ok d) (hname : nearestHeader? (contents t) = some name) :
    name ∈ d.names := by
  obtain ⟨-, hd, -⟩ := parse_eq_ok_iff.1 ht
  rw [hd.names, List.mem_eraseDups]
  exact List.mem_of_getLast? hname

/-- A header of the section that the reader is in already changes nothing. -/
lemma renumbered_of_reopened {t u header source name : Text}
    (hname : nearestHeader? (contents t) = some name) (hnewline : '\n' ∉ header)
    (hheader : headerName? (Text.withoutComment header) = some name) :
    Renumbered (Document.parse (t ++ '\n' :: u) source)
      (Document.parse (t ++ '\n' :: (header ++ '\n' :: u)) source) := by
  rw [parse_append, parse_append]
  cases ht : Document.parse t source with
  | error fault => exact .error fault fault.line
  | ok d =>
    have hlines : Text.lines (header ++ '\n' :: u) = header :: Text.lines u :=
      List.splitOn_append_cons_self_of_not_mem hnewline u
    rw [ok_bind, ok_bind, hname, hlines, readLines_cons, read_of_headerName? hheader]
    change Renumbered _ ((d.opened name).readLines (some name) _ (Text.lines u))
    rw [opened_of_mem (mem_names_of_nearestHeader? ht hname)]
    exact renumbered_readLines (.refl _) d (some name) _ _

/-! ### Blocks -/

/-- The entries of a section are those of all blocks, block by block. -/
lemma parse_joined {blocks : List Text} {docs : List Document} {source : Text}
    (h : blocks.mapM (Document.parse · source) = .ok docs) :
    ∃ d, Document.parse (joined blocks) source = .ok d ∧
      (∀ name, name ∈ d.names ↔ ∃ e ∈ docs, name ∈ e.names) ∧
      ∀ name, d.entries name = docs.flatMap fun e => e.entries name := by
  rw [mapM_eq_ok_iff] at h
  induction h with
  | nil =>
    refine ⟨.empty source, rfl, ?_, fun _ => rfl⟩
    intro name
    simp [Document.names, Document.empty, OrderedMap.keys, OrderedMap.empty]
  | @cons block e blocks docs hblock hblocks ih =>
    by_cases hnil : blocks = []
    · subst hnil
      cases hblocks
      have hsingle : joined [block] = block := List.intercalate_singleton
      exact ⟨e, by rw [hsingle, hblock], by simp, by simp⟩
    · obtain ⟨d, hd, hnames, hentries⟩ := ih
      obtain ⟨merged, hmerged, hmerges⟩ := parse_append_of_ok hblock hd
      have hjoined : joined (block :: blocks) = block ++ '\n' :: joined blocks := by
        unfold joined
        rw [List.intercalate_cons_of_ne_nil hnil, List.append_assoc]
        rfl
      refine ⟨merged, hjoined ▸ hmerged, ?_, ?_⟩
      · intro name
        rw [hmerges.mem_names, hnames]
        simp
      · intro name
        rw [hmerges.entries, hentries, List.flatMap_cons]

lemma parse_joined_of_perm {blocks blocks' : List Text} {source : Text}
    (hperm : blocks.Perm blocks') (h : ∀ block ∈ blocks, ∃ d, Document.parse block source = .ok d) :
    ∃ d d', Document.parse (joined blocks) source = .ok d ∧
      Document.parse (joined blocks') source = .ok d' ∧ d.names.Perm d'.names ∧
      ∀ name, (d.entries name).Perm (d'.entries name) := by
  obtain ⟨docs, hdocs⟩ := exists_mapM_iff.2 h
  obtain ⟨docs', hdocs', hsame⟩ := exists_mapM_of_perm hperm hdocs
  obtain ⟨d, hd, hnames, hentries⟩ := parse_joined hdocs
  obtain ⟨d', hd', hnames', hentries'⟩ := parse_joined hdocs'
  refine ⟨d, d', hd, hd', ?_, ?_⟩
  · rw [List.perm_ext_iff_of_nodup (nodup_names d) (nodup_names d')]
    intro name
    rw [hnames, hnames']
    simp only [hsame.mem_iff]
  · intro name
    rw [hentries, hentries']
    exact hsame.flatMap_right _

/-- Putting one file below another merges what they say. The first fault of the upper file is the
first of both. A header of the section that a file stopped in can be left out or put in, and blocks
that can be read alone can stand in any order: then the same sections hold the same entries, only
in another order. -/
theorem parse_merges_concatenation (source : Text) :
    (∀ t u d e, Document.parse t source = .ok d → Document.parse u source = .ok e →
      ∃ merged, Document.parse (t ++ '\n' :: u) source = .ok merged ∧ Merges d e merged) ∧
    (∀ t fault, Document.parse t source = .error fault →
      ∀ u, Document.parse (t ++ '\n' :: u) source = .error fault) ∧
    (∀ t u header name, nearestHeader? (contents t) = some name → '\n' ∉ header →
      headerName? (Text.withoutComment header) = some name →
      Renumbered (Document.parse (t ++ '\n' :: u) source)
        (Document.parse (t ++ '\n' :: (header ++ '\n' :: u)) source)) ∧
    ∀ blocks blocks' : List Text, blocks.Perm blocks' →
      (∀ block ∈ blocks, ∃ d, Document.parse block source = .ok d) →
      ∃ d d', Document.parse (joined blocks) source = .ok d ∧
        Document.parse (joined blocks') source = .ok d' ∧ d.names.Perm d'.names ∧
        ∀ name, (d.entries name).Perm (d'.entries name) :=
  ⟨fun _ _ _ _ ht hu => parse_append_of_ok ht hu, fun _ _ ht u => parse_append_of_error ht u,
    fun _ _ _ _ hname hnewline hheader => renumbered_of_reopened hname hnewline hheader,
    fun _ _ hperm h => parse_joined_of_perm hperm h⟩

/-- A section that is opened again below another one. -/
def reopeningFile : Text := "[b]\nx=2\n[a]\nk=3".toList

theorem parse_merges_reopeningFile :
    (∃ merged, Document.parse ("[a]\nk=1".toList ++ '\n' :: reopeningFile) ['f'] = .ok merged ∧
      merged.names = [['a'], ['b']] ∧ merged.entries ['a'] = [⟨['k'], ['1']⟩, ⟨['k'], ['3']⟩]) ∧
    Document.parse ("[a".toList ++ '\n' :: reopeningFile) ['f'] =
      .error ⟨1, .unclosedHeader, "[a".toList⟩ ∧
    (∃ number, Document.parse (reopeningFile ++ '\n' :: "[a]\nk".toList) ['f'] =
      .error ⟨number, .notADefinition, ['k']⟩) ∧
    ∃ d, Document.parse (joined ["[a]\nk=1".toList, reopeningFile]) ['f'] = .ok d ∧
      (d.entries ['a']).Perm [⟨['k'], ['3']⟩, ⟨['k'], ['1']⟩] := by
  obtain ⟨hmerges, hfault, hheader, hblocks⟩ := parse_merges_concatenation ['f']
  refine ⟨?_, hfault _ _ rfl _, ?_, ?_⟩
  · obtain ⟨merged, hmerged, hparts⟩ := hmerges "[a]\nk=1".toList reopeningFile _ _ rfl rfl
    exact ⟨merged, hmerged, by rw [hparts.names]; rfl, by rw [hparts.entries]; rfl⟩
  · have hrenumbered := hheader reopeningFile ['k'] "[a]".toList ['a'] rfl (by decide) rfl
    have hshorter : Document.parse (reopeningFile ++ '\n' :: ['k']) ['f'] =
        .error ⟨5, .notADefinition, ['k']⟩ := rfl
    rw [hshorter] at hrenumbered
    generalize hother : Document.parse _ ['f'] = other at hrenumbered
    cases hrenumbered with
    | error _ number => exact ⟨number, hother⟩
  · have hread : ∀ block ∈ ["[a]\nk=1".toList, reopeningFile],
        ∃ d, Document.parse block ['f'] = .ok d := by
      simp only [List.forall_mem_cons, List.not_mem_nil, false_implies, implies_true, and_true]
      exact ⟨⟨_, rfl⟩, ⟨_, rfl⟩⟩
    obtain ⟨d, d', hd, hd', -, hentries⟩ :=
      hblocks _ [reopeningFile, "[a]\nk=1".toList] (.swap _ _ _) hread
    cases hd'
    exact ⟨d, hd, hentries ['a']⟩

end TraceSnapshot.Proofs
