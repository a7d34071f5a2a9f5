import Mathlib.Tactic.Lemma
import TraceSnapshot.Proofs.DocumentReading
import TraceSnapshot.Proofs.OrderedMaps

/-!
# The grammar of snapshot files

What a file says is settled by its lines and by the headers above them. This file tells so without
a reader: which lines are headers, definitions or offences, and which sections and entries a file
without an offence holds. The reader is then followed line by line. What it has read at any time
is the document of the lines above.
-/

namespace TraceSnapshot.Proofs
open Ini (Document Entry Fault Line Offence)

/-! ### What a file says -/

/-- The lines of a text, each cut where its comment starts. -/
def contents (text : Text) : List Text := (Text.lines text).map Text.withoutComment

/-- The name in the nearest header among the lines above. -/
def nearestHeader? (above : List Text) : Option Text := (above.filterMap headerName?).getLast?

/-- The definitions that have a header of that name as their nearest one, in the order of the
lines. -/
def entriesUnder (name : Text) (lines : List Text) : List Entry :=
  lines.zipIdx.filterMap fun (line, position) =>
    if nearestHeader? (lines.take position) = some name then definition? line else none

/-- The document holds what the lines say: a section for each name in a header, in the order of
the first headers, and every definition in the section of its nearest header. -/
structure Transcribes (lines : List Text) (d : Document) : Prop where
  names : d.names = (lines.filterMap headerName?).eraseDups
  entries : ∀ name, d.entries name = entriesUnder name lines

/-- A line that must not stand below these lines. Where there is no header yet, it does not matter
whether the line could be a definition. -/
inductive Offends (above : List Text) (line : Text) : Offence → Prop
  | unclosedHeader {before rest} (hline : line = before ++ '[' :: rest) (hbefore : '[' ∉ before)
      (hrest : ']' ∉ rest) : Offends above line .unclosedHeader
  | beforeHeader (hopen : '[' ∉ line) (hblank : Text.trim line ≠ [])
      (habove : nearestHeader? above = none) : Offends above line .beforeHeader
  | notADefinition (hopen : '[' ∉ line) (hblank : Text.trim line ≠ [])
      (habove : nearestHeader? above ≠ none) (hequals : '=' ∉ line) :
      Offends above line .notADefinition

/-- No line offends against the lines above it. -/
def Inoffensive (lines : List Text) : Prop :=
  ∀ above line below, lines = above ++ line :: below → ∀ offence, ¬ Offends above line offence

/-- The fault is about the first line that offends. -/
def FirstOffence (lines : List Text) (fault : Fault) : Prop :=
  ∃ above line below, lines = above ++ line :: below ∧ Inoffensive above ∧
    Offends above line fault.offence ∧ fault.line = above.length + 1 ∧
    fault.content = Text.trim line

/-! ### One more line -/

variable {above : List Text} {line : Text} {d : Document}

lemma nearestHeader?_concat (above : List Text) (line : Text) :
    nearestHeader? (above ++ [line]) = (headerName? line).or (nearestHeader? above) := by
  unfold nearestHeader?
  rw [List.filterMap_append, List.getLast?_append]
  cases h : headerName? line with
  | none => simp [h]
  | some name => simp [h]

lemma nearestHeader?_cons (line : Text) (below : List Text) :
    nearestHeader? (line :: below) = (nearestHeader? below).or (headerName? line) := by
  unfold nearestHeader?
  cases hline : headerName? line with
  | none => rw [List.filterMap_cons_none hline, Option.or_none]
  | some name =>
    rw [List.filterMap_cons_some hline, List.getLast?_cons]
    cases (below.filterMap headerName?).getLast? <;> rfl

lemma entriesUnder_concat (name : Text) (above : List Text) (line : Text) :
    entriesUnder name (above ++ [line]) = entriesUnder name above ++
      (if nearestHeader? above = some name then definition? line else none).toList := by
  unfold entriesUnder
  rw [List.zipIdx_append, List.filterMap_append]
  congr 1
  · apply List.filterMap_congr
    intro pair hpair
    have hlt := List.snd_lt_of_mem_zipIdx hpair
    dsimp only
    rw [List.take_append_of_le_length (by omega)]
  · have hall : (above ++ [line]).take above.length = above := List.take_left
    simp only [List.zipIdx_singleton, List.filterMap_cons, List.filterMap_nil, Nat.zero_add, hall]
    cases if nearestHeader? above = some name then definition? line else none <;> rfl

lemma Transcribes.skipped (h : Transcribes above d) (hheader : headerName? line = none)
    (hdefinition : definition? line = none) : Transcribes (above ++ [line]) d where
  names := by
    rw [h.names, List.filterMap_append, List.filterMap_cons_none hheader]
    simp
  entries name := by
    rw [h.entries, entriesUnder_concat, hdefinition, ite_self]
    simp

/-- A header opens its section and gives no entry. -/
lemma Transcribes.opened {name : Text} (h : Transcribes above d)
    (hheader : headerName? line = some name) : Transcribes (above ++ [line]) (d.opened name) where
  names := by
    rw [names_opened, h.names, List.filterMap_append, List.filterMap_cons_some hheader]
    rw [List.filterMap_nil, eraseDups_concat]
    simp only [List.contains_iff_mem, List.mem_eraseDups]
  entries other := by
    have hopen : '[' ∈ line := by
      obtain ⟨before, inner, after, rfl, -⟩ := headerName?_eq_some_iff.1 hheader
      simp
    rw [entries_opened, h.entries, entriesUnder_concat, definition?_eq_none (.inl hopen), ite_self]
    simp

/-- A definition goes into the section of the nearest header, which is there already. -/
lemma Transcribes.added {name : Text} {entry : Entry} (h : Transcribes above d)
    (habove : nearestHeader? above = some name) (hentry : definition? line = some entry) :
    Transcribes (above ++ [line]) (d.added name entry) where
  names := by
    have hname : name ∈ d.names := by
      rw [h.names, List.mem_eraseDups]
      exact List.mem_of_getLast? habove
    have hheader := headerName?_eq_none (definition?_eq_some_iff.1 hentry).1
    rw [names_added_of_mem entry hname, h.names, List.filterMap_append,
      List.filterMap_cons_none hheader]
    simp
  entries other := by
    rw [entries_added, entriesUnder_concat, habove, hentry]
    by_cases hother : other = name
    · simp [hother, h.entries]
    · have hname : name ≠ other := fun e => hother e.symm
      simp [hother, hname, h.entries]

lemma inoffensive_nil : Inoffensive [] := by
  intro above line below h
  simp at h

lemma Inoffensive.concat (h : Inoffensive above) (hline : ∀ offence, ¬ Offends above line offence) :
    Inoffensive (above ++ [line]) := by
  intro earlier other later hsplit
  rcases List.eq_nil_or_concat' later with rfl | ⟨rest, last, rfl⟩
  · obtain ⟨rfl, hother⟩ := List.append_inj' hsplit rfl
    cases hother
    exact hline
  · rw [← List.cons_append, ← List.append_assoc] at hsplit
    obtain ⟨habove, -⟩ := List.append_inj' hsplit rfl
    exact h earlier other rest habove

lemma trim_ne_nil_of_equals (h : '=' ∈ line) : Text.trim line ≠ [] := by
  intro hblank
  exact absurd (isBlank_of_trim_eq_nil hblank h) (by decide)

lemma not_offends_of_blank {offence : Offence} (hopen : '[' ∉ line) (hblank : Text.trim line = []) :
    ¬ Offends above line offence := by
  intro h
  cases h with
  | unclosedHeader hline => exact hopen (by simp [hline])
  | beforeHeader _ hcontent => exact hcontent hblank
  | notADefinition _ hcontent => exact hcontent hblank

lemma not_offends_of_header {name : Text} {offence : Offence} (hname : headerName? line = some name) :
    ¬ Offends above line offence := by
  obtain ⟨before, inner, after, hline, hbefore, -⟩ := headerName?_eq_some_iff.1 hname
  have hopen : '[' ∈ line := by simp [hline]
  intro h
  cases h with
  | @unclosedHeader other rest hother hfirst hrest =>
    -- The first bracket of the line is the same in both readings.
    have hcut := cut_eq_some_iff.2 ⟨hline, hbefore⟩
    rw [cut_eq_some_iff.2 ⟨hother, hfirst⟩] at hcut
    cases hcut
    exact hrest (by simp)
  | beforeHeader hnone => exact hnone hopen
  | notADefinition hnone => exact hnone hopen

lemma not_offends_of_definition {name : Text} {entry : Entry} {offence : Offence}
    (habove : nearestHeader? above = some name) (hentry : definition? line = some entry) :
    ¬ Offends above line offence := by
  obtain ⟨hopen, before, after, hline, -⟩ := definition?_eq_some_iff.1 hentry
  intro h
  cases h with
  | unclosedHeader hother => exact hopen (by simp [hother])
  | beforeHeader _ _ hnone => simp [habove] at hnone
  | notADefinition _ _ _ hequals => exact hequals (by simp [hline])

/-! ### Following the reader -/

/-- What comes of the lines: the fault of the first offence or, without one, their document. -/
inductive Reading (lines : List Text) : Except Fault Document → Prop
  | ok {result} (hnone : Inoffensive lines) (hresult : Transcribes lines result) :
      Reading lines (.ok result)
  | error {fault} (hfault : FirstOffence lines fault) : Reading lines (.error fault)

/-- Having read the lines above, the reader is under their nearest header. -/
theorem reading_readLines {raws : List Text} (hd : Transcribes above d)
    (hnone : Inoffensive above) : Reading (above ++ raws.map Text.withoutComment)
      (d.readLines (nearestHeader? above) (above.length + 1) raws) := by
  induction raws generalizing above d with
  | nil =>
    rw [List.map_nil, List.append_nil]
    exact .ok hnone hd
  | cons raw rest ih =>
    have hnext : ∀ {line next}, Transcribes (above ++ [line]) next →
        (∀ offence, ¬ Offends above line offence) →
        Reading (above ++ line :: rest.map Text.withoutComment)
          (next.readLines ((headerName? line).or (nearestHeader? above))
            (above.length + 1 + 1) rest) := by
      intro line next hnext hline
      have hread := ih hnext (hnone.concat hline)
      rwa [List.append_assoc, List.length_append, nearestHeader?_concat] at hread
    have hstop : ∀ {line offence}, Offends above line offence →
        Reading (above ++ line :: rest.map Text.withoutComment)
          (.error ⟨above.length + 1, offence, Text.trim line⟩) := by
      intro line offence hoffends
      exact .error ⟨above, line, _, rfl, hnone, hoffends, rfl, rfl⟩
    have hsays := says_read raw
    rw [List.map_cons]
    unfold Document.readLines
    generalize Text.withoutComment raw = line, Line.read raw = said at hsays
    cases hsays with
    | blank hopen hblank =>
      have hheader := headerName?_eq_none hopen
      have hequals : '=' ∉ line := fun hmem => trim_ne_nil_of_equals hmem hblank
      have hread := hnext (hd.skipped hheader (definition?_eq_none (.inr hequals)))
        fun _ => not_offends_of_blank hopen hblank
      rwa [hheader] at hread
    | header hname =>
      have hread := hnext (hd.opened hname) fun _ => not_offends_of_header hname
      rwa [hname] at hread
    | unclosed hline hbefore hrest => exact hstop (.unclosedHeader hline hbefore hrest)
    | definition hentry =>
      obtain ⟨hopen, before, after, hline, -⟩ := definition?_eq_some_iff.1 hentry
      cases habove : nearestHeader? above with
      | none =>
        have hequals : '=' ∈ line := by simp [hline]
        exact hstop (.beforeHeader hopen (trim_ne_nil_of_equals hequals) habove)
      | some name =>
        have hread := hnext (hd.added habove hentry) fun _ =>
          not_offends_of_definition habove hentry
        rwa [headerName?_eq_none hopen, habove] at hread
    | bare hopen hblank hequals =>
      cases habove : nearestHeader? above with
      | none => exact hstop (.beforeHeader hopen hblank habove)
      | some name => exact hstop (.notADefinition hopen hblank (by simp [habove]) hequals)

theorem reading_parse (text source : Text) :
    Reading (contents text) (Document.parse text source) := by
  have hempty : Transcribes [] (.empty source) := ⟨rfl, fun _ => rfl⟩
  exact reading_readLines hempty inoffensive_nil

/-! ### What the lines determine -/

lemma FirstOffence.not_inoffensive {lines : List Text} {fault : Fault}
    (h : FirstOffence lines fault) : ¬ Inoffensive lines := by
  obtain ⟨above, line, below, hlines, -, hoffends, -⟩ := h
  intro hnone
  exact hnone above line below hlines fault.offence hoffends

lemma offends_unique {offence other : Offence}
    (h : Offends above line offence) (h' : Offends above line other) : offence = other := by
  cases h with
  | unclosedHeader hline =>
    have hopen : '[' ∈ line := by simp [hline]
    cases h' with
    | unclosedHeader => rfl
    | beforeHeader hnone => exact absurd hopen hnone
    | notADefinition hnone => exact absurd hopen hnone
  | beforeHeader hopen _ habove =>
    cases h' with
    | unclosedHeader hline => exact absurd (by simp [hline]) hopen
    | beforeHeader => rfl
    | notADefinition _ _ hsome => exact absurd habove hsome
  | notADefinition hopen _ habove =>
    cases h' with
    | unclosedHeader hline => exact absurd (by simp [hline]) hopen
    | beforeHeader _ _ hnone => exact absurd hnone habove
    | notADefinition => rfl

lemma isPrefix_of_offends {lines below above' rest : List Text} {offence : Offence}
    (hlines : lines = above ++ line :: below) (hoffends : Offends above line offence)
    (hlines' : lines = above' ++ rest) (hnone : Inoffensive above') : above' <+: above := by
  rcases List.append_eq_append_iff.1 (hlines.symm.trans hlines') with ⟨between, hab, hrest⟩ | h
  · cases between with
    | nil =>
      have hsame : above' = above := hab.trans (List.append_nil above)
      exact hsame ▸ List.prefix_rfl
    | cons first between =>
      obtain ⟨rfl, -⟩ := List.cons.inj hrest
      exact absurd hoffends (hnone above line between hab offence)
  · obtain ⟨between, rfl, -⟩ := h
    exact List.prefix_append _ _

lemma FirstOffence.unique {lines : List Text} {fault other : Fault} (h : FirstOffence lines fault)
    (h' : FirstOffence lines other) : fault = other := by
  obtain ⟨above, line, below, hlines, hnone, hoffends, hnumber, hcontent⟩ := h
  obtain ⟨above', line', below', hlines', hnone', hoffends', hnumber', hcontent'⟩ := h'
  have hle := isPrefix_of_offends hlines hoffends hlines' hnone'
  have hge := isPrefix_of_offends hlines' hoffends' hlines hnone
  have habove : above' = above := hle.eq_of_length_le hge.length_le
  subst habove
  rw [hlines, List.append_cancel_left_eq, List.cons.injEq] at hlines'
  obtain ⟨rfl, -⟩ := hlines'
  have hoffence := offends_unique hoffends hoffends'
  obtain ⟨number, offence, content⟩ := fault
  obtain ⟨number', offence', content'⟩ := other
  dsimp only at hnumber hnumber' hcontent hcontent' hoffence
  rw [hnumber, hnumber', hcontent, hcontent', hoffence]

lemma parse_eq_error_iff {text source : Text} {fault : Fault} :
    Document.parse text source = .error fault ↔ FirstOffence (contents text) fault := by
  have hreading := reading_parse text source
  generalize Document.parse text source = outcome at hreading
  constructor
  · rintro rfl
    cases hreading with
    | error hfault => exact hfault
  · intro hfault
    cases hreading with
    | ok hnone => exact absurd hnone hfault.not_inoffensive
    | error hother => rw [hfault.unique hother]

lemma parse_eq_ok_iff {text source : Text} {d : Document} :
    Document.parse text source = .ok d ↔
      Inoffensive (contents text) ∧ Transcribes (contents text) d ∧ d.source = source := by
  constructor
  · intro h
    have hreading := reading_parse text source
    rw [h] at hreading
    cases hreading with
    | ok hnone hd => exact ⟨hnone, hd, source_of_parse h⟩
  · rintro ⟨hnone, hd, hsource⟩
    have hreading := reading_parse text source
    cases h : Document.parse text source with
    | error fault => exact absurd hnone (parse_eq_error_iff.1 h).not_inoffensive
    | ok result =>
      rw [h] at hreading
      cases hreading with
      | ok _ hresult =>
        have hnames : result.names = d.names := hresult.names.trans hd.names.symm
        have hentries : ∀ name, result.entries name = d.entries name := fun name =>
          (hresult.entries name).trans (hd.entries name).symm
        have hsources : result.source = d.source := (source_of_parse h).trans hsource.symm
        rw [document_ext hsources hnames hentries]

/-- The reader follows the grammar. It refuses a text if a line offends, and then tells of the
first such line; and any other text it reads as the one document that holds what the lines say. -/
theorem parse_follows_grammar (text source : Text) :
    ((∃ fault, Document.parse text source = .error fault) ↔
      ∃ above line below offence, contents text = above ++ line :: below ∧
        Offends above line offence) ∧
    (∀ fault, Document.parse text source = .error fault ↔
      FirstOffence (contents text) fault ∧
        fault.report source = ⟨.malformed, fault.message, some source, .error⟩) ∧
    ∀ d, Document.parse text source = .ok d ↔
      Inoffensive (contents text) ∧ Transcribes (contents text) d ∧ d.source = source := by
  refine ⟨⟨?_, ?_⟩, ?_, fun _ => parse_eq_ok_iff⟩
  · rintro ⟨fault, hfault⟩
    obtain ⟨above, line, below, hlines, -, hoffends, -⟩ := parse_eq_error_iff.1 hfault
    exact ⟨above, line, below, fault.offence, hlines, hoffends⟩
  · rintro ⟨above, line, below, offence, hlines, hoffends⟩
    cases h : Document.parse text source with
    | error fault => exact ⟨fault, rfl⟩
    | ok d => exact absurd hoffends ((parse_eq_ok_iff.1 h).1 above line below hlines offence)
  · intro fault
    rw [parse_eq_error_iff]
    exact ⟨fun h => ⟨h, rfl⟩, And.left⟩

-- The bracket that is never closed comes later, and a comment may stand before the first header.
example : Document.parse "# note\n k \n[a]\n[b".toList ['f'] =
    .error ⟨2, .beforeHeader, ['k']⟩ := by rfl

end TraceSnapshot.Proofs
