import Mathlib
import TraceSnapshot.Proofs.Concatenation
import TraceSnapshot.Proofs.LexicalForm

/-!
# Printing documents

Sections are printed one below the other, each with its name in a header and a row for every
entry. Rows of the lexical form say what they were printed from: nothing in them starts a comment
or a header, and neither a key nor a name goes on behind the character that ends it. So the
sections are read back, and the lexical form is all that can be said about a document that was
read.
-/

namespace TraceSnapshot.Proofs
open Ini (Document Entry Line)

/-! ### Rows -/

def headerRow (name : Text) : Text := '[' :: (name ++ [']'])

def entryRow (e : Entry) : Text := e.key ++ '=' :: e.value

/-- The rows of a section, given by its name and its entries. -/
def sectionRows (s : Text × List Entry) : List Text := headerRow s.1 :: s.2.map entryRow

def printed (sections : List (Text × List Entry)) : Text := joined (sections.flatMap sectionRows)

structure LexicalSection (s : Text × List Entry) : Prop where
  name : LexicalName s.1
  entry : ∀ e ∈ s.2, LexicalEntry e

lemma withoutComment_eq_self {t : Text} (h : ∀ c ∈ t, Text.startsComment c = false) :
    Text.withoutComment t = t := by
  unfold Text.withoutComment
  rw [List.takeWhile_eq_self_iff]
  intro c hc
  rw [h c hc]
  rfl

lemma LexicalName.read_headerRow {name : Text} (h : LexicalName name) :
    Line.read (headerRow name) = .header name := by
  have hcomment : ∀ c ∈ headerRow name, Text.startsComment c = false := by
    unfold headerRow
    rw [List.forall_mem_cons, List.forall_mem_append, List.forall_mem_singleton]
    exact ⟨rfl, h.no_comment, rfl⟩
  apply read_of_headerName?
  rw [withoutComment_eq_self hcomment, headerName?_eq_some_iff]
  exact ⟨[], name, [], rfl, List.not_mem_nil, h.no_close, h.trimmed.symm⟩

lemma read_of_definition? {raw key value : Text}
    (h : definition? (Text.withoutComment raw) = some ⟨key, value⟩) :
    Line.read raw = .definition (Text.trim (Text.withoutComment raw)) key value := by
  obtain ⟨hopen, before, after, hline, hbefore, hentry⟩ := definition?_eq_some_iff.1 h
  cases hentry
  have hequals : '=' ∈ Text.withoutComment raw := by simp [hline]
  have hcut : Text.cut '=' (Text.withoutComment raw) = some (before, after) :=
    cut_eq_some_iff.2 ⟨hline, hbefore⟩
  unfold Line.read
  simp only [cut_eq_none_iff.2 hopen, hcut, List.isEmpty_iff, trim_ne_nil_of_equals hequals,
    if_false]

lemma LexicalEntry.read_entryRow {e : Entry} (h : LexicalEntry e) :
    Line.read (entryRow e) = .definition (Text.trim (entryRow e)) e.key e.value := by
  have hcomment : ∀ c ∈ entryRow e, Text.startsComment c = false := by
    unfold entryRow
    rw [List.forall_mem_append, List.forall_mem_cons]
    exact ⟨h.key.no_comment, rfl, h.value.no_comment⟩
  have hline := withoutComment_eq_self hcomment
  have hentry : definition? (Text.withoutComment (entryRow e)) = some ⟨e.key, e.value⟩ := by
    rw [hline, definition?_eq_some_iff]
    refine ⟨?_, e.key, e.value, rfl, h.key_no_equals, ?_⟩
    · simp [entryRow, h.key_no_open, h.value_no_open]
    · rw [h.key.trimmed, h.value.trimmed]
  rw [read_of_definition? hentry, hline]

lemma LexicalSection.newline_notMem {s : Text × List Entry} (h : LexicalSection s) {row : Text}
    (hrow : row ∈ sectionRows s) : '\n' ∉ row := by
  rcases List.mem_cons.1 hrow with rfl | hrow
  · simp [headerRow, h.name.no_newline]
  · obtain ⟨e, he, rfl⟩ := List.mem_map.1 hrow
    simp [entryRow, (h.entry e he).key.no_newline, (h.entry e he).value.no_newline]

/-! ### Reading rows back -/

lemma upsertPairs_append {κ α : Type} [DecidableEq κ] {k : κ} {pairs : List (κ × α)}
    (h : k ∉ pairs.map Prod.fst) (f : Option α → α) (rest : List (κ × α)) :
    OrderedMap.upsertPairs k f (pairs ++ rest) = pairs ++ OrderedMap.upsertPairs k f rest := by
  induction pairs with
  | nil => rfl
  | cons pair pairs ih =>
    rw [List.map_cons, List.mem_cons, not_or] at h
    rw [List.cons_append, OrderedMap.upsertPairs, if_neg (Ne.symm h.1), ih h.2]
    rfl

lemma pairs_opened_of_notMem {d : Document} {name : Text} (h : name ∉ d.names) :
    (d.opened name).sections.pairs = d.sections.pairs ++ [(name, [])] := by
  have happend := upsertPairs_append h (fun entries => entries.getD []) []
  rwa [List.append_nil] at happend

/-- An entry goes to the end of the section that was opened last. -/
lemma pairs_added_last {d : Document} {above : List (Text × List Entry)} {name : Text}
    {entries : List Entry} (h : d.sections.pairs = above ++ [(name, entries)]) (e : Entry) :
    (d.added name e).sections.pairs = above ++ [(name, entries ++ [e])] := by
  have hnew : name ∉ above.map Prod.fst := by
    have hnodup := d.sections.nodup
    rw [h, List.map_append, List.map_singleton, List.nodup_append_comm, List.singleton_append,
      List.nodup_cons] at hnodup
    exact hnodup.1
  change OrderedMap.upsertPairs name _ d.sections.pairs = _
  rw [h, upsertPairs_append hnew, OrderedMap.upsertPairs, if_pos rfl]
  rfl

lemma readLines_entryRows {d : Document} {above : List (Text × List Entry)} {name : Text}
    {entries new : List Entry} (h : d.sections.pairs = above ++ [(name, entries)])
    (hnew : ∀ e ∈ new, LexicalEntry e) (number : Nat) (rest : List Text) :
    ∃ next : Document, next.sections.pairs = above ++ [(name, entries ++ new)] ∧
      d.readLines (some name) number (new.map entryRow ++ rest) =
        next.readLines (some name) (number + new.length) rest := by
  induction new generalizing d entries number with
  | nil => exact ⟨d, by rw [h, List.append_nil], rfl⟩
  | cons e new ih =>
    rw [List.forall_mem_cons] at hnew
    obtain ⟨next, hnext, hread⟩ := ih (pairs_added_last h e) hnew.2 (number + 1)
    refine ⟨next, by rw [hnext, List.append_assoc, List.singleton_append], ?_⟩
    rw [List.map_cons, List.cons_append, readLines_cons, hnew.1.read_entryRow, List.length_cons,
      Nat.add_comm new.length, ← Nat.add_assoc]
    exact hread

/-- Below what has been read already, the rows of new sections add just these sections. -/
theorem readLines_sectionRows {d : Document} {sections : List (Text × List Entry)}
    (hnodup : ((d.sections.pairs ++ sections).map Prod.fst).Nodup)
    (h : ∀ s ∈ sections, LexicalSection s) (current : Option Text) (number : Nat) :
    ∃ result : Document, result.sections.pairs = d.sections.pairs ++ sections ∧
      d.readLines current number (sections.flatMap sectionRows) = .ok result := by
  induction sections generalizing d current number with
  | nil => exact ⟨d, (List.append_nil _).symm, rfl⟩
  | cons s sections ih =>
    obtain ⟨name, entries⟩ := s
    rw [List.forall_mem_cons] at h
    have hname : name ∉ d.names := by
      rw [List.map_append, List.map_cons, List.nodup_middle, List.nodup_cons] at hnodup
      exact fun hmem => hnodup.1 (List.mem_append_left _ hmem)
    obtain ⟨next, hnext, hentries⟩ := readLines_entryRows (pairs_opened_of_notMem hname) h.1.entry
      (number + 1) (sections.flatMap sectionRows)
    rw [List.nil_append] at hnext
    rw [← List.singleton_append, ← List.append_assoc, ← hnext] at hnodup
    obtain ⟨result, hresult, hsections⟩ := ih hnodup h.2 (some name) (number + 1 + entries.length)
    refine ⟨result, by rw [hresult, hnext, List.append_assoc, List.singleton_append], ?_⟩
    rw [List.flatMap_cons, sectionRows, List.cons_append, readLines_cons, h.1.name.read_headerRow]
    exact hentries.trans hsections

lemma parse_printed {sections : List (Text × List Entry)}
    (hnodup : (sections.map Prod.fst).Nodup) (h : ∀ s ∈ sections, LexicalSection s)
    (source : Text) :
    Document.parse (printed sections) source = .ok ⟨source, ⟨sections, hnodup⟩⟩ := by
  cases sections with
  | nil => rfl
  | cons s rest =>
    have hlines : Text.lines (printed (s :: rest)) = (s :: rest).flatMap sectionRows := by
      apply lines_joined
      · simp [sectionRows]
      · intro row hrow
        obtain ⟨t, ht, hrow⟩ := List.mem_flatMap.1 hrow
        exact (h t ht).newline_notMem hrow
    obtain ⟨result, hpairs, hread⟩ := @readLines_sectionRows (.empty source) _ hnodup h none 1
    have hparse : Document.parse (printed (s :: rest)) source = .ok result := by
      unfold Document.parse
      rw [hlines]
      exact hread
    have hsource := source_of_parse hparse
    rw [hparse]
    obtain ⟨_, _, _⟩ := result
    cases hpairs
    cases hsource
    rfl

/-- The last row may end with a line feed as the others do. -/
lemma parse_append_newline {text source : Text} {d : Document}
    (h : Document.parse text source = .ok d) :
    Document.parse (text ++ ['\n']) source = .ok d := by
  rw [parse_append, h, ok_bind]
  rfl

lemma LexicalDocument.lexicalSection {d : Document} (h : LexicalDocument d)
    {s : Text × List Entry} (hs : s ∈ d.sections.pairs) : LexicalSection s where
  name := h.name s.1 (List.mem_map_of_mem hs)
  entry e he := by
    refine h.entry s.1 e ?_
    unfold Document.entries
    rw [get?_eq_some_iff.2 hs]
    exact he

/-- The documents that can be read are those of the lexical form. Whatever text a document was read
from, its names, keys and values have that form; and any sections that have it, if no two have the
same name, are read from the text that they are printed to, without or with a line feed at the
end. -/
theorem parse_image (source : Text) :
    (∀ text d, Document.parse text source = .ok d →
      ∀ s ∈ d.sections.pairs, LexicalSection s) ∧
    ∀ sections : List (Text × List Entry), (hnodup : (sections.map Prod.fst).Nodup) →
      (∀ s ∈ sections, LexicalSection s) →
      Document.parse (printed sections) source = .ok ⟨source, ⟨sections, hnodup⟩⟩ ∧
      Document.parse (printed sections ++ ['\n']) source = .ok ⟨source, ⟨sections, hnodup⟩⟩ := by
  constructor
  · intro text d hparse s hs
    exact (lexicalDocument_of_parse hparse).lexicalSection hs
  · intro sections hnodup h
    have hparse := parse_printed hnodup h source
    exact ⟨hparse, parse_append_newline hparse⟩

/-- A name that could start a definition, a key that could end a header, and empty parts. -/
def oddSections : List (Text × List Entry) :=
  [("a[=".toList, [⟨[], "=v]".toList⟩, ⟨"k]".toList, []⟩]), ([], [])]

theorem parse_image_oddSections :
    (∀ s ∈ oddSections, LexicalSection s) ∧
      Document.parse "[a[=]\n==v]\nk]=\n[]".toList ['f'] =
        .ok ⟨['f'], ⟨oddSections, by decide⟩⟩ ∧
      Document.parse " [ ] ;\n\n k] = \t#[b]".toList ['f'] =
        .ok ⟨['f'], ⟨[([], [⟨"k]".toList, []⟩])], by decide⟩⟩ ∧
      LexicalEntry ⟨"k]".toList, []⟩ := by
  have hform : ∀ s ∈ oddSections, LexicalSection s := by
    unfold oddSections
    rw [List.forall_mem_cons, List.forall_mem_singleton]
    constructor
    · refine ⟨⟨⟨rfl, by decide, by simp [Text.startsComment]⟩, by decide⟩, ?_⟩
      rw [List.forall_mem_cons, List.forall_mem_singleton]
      constructor
      · exact ⟨plain_nil, by decide, by decide,
          ⟨rfl, by decide, by simp [Text.startsComment]⟩, by decide⟩
      · exact ⟨⟨rfl, by decide, by simp [Text.startsComment]⟩, by decide, by decide,
          plain_nil, by decide⟩
    · exact ⟨⟨plain_nil, List.not_mem_nil⟩, fun _ he => absurd he List.not_mem_nil⟩
  have hread : Document.parse " [ ] ;\n\n k] = \t#[b]".toList ['f'] =
      .ok ⟨['f'], ⟨[([], [⟨"k]".toList, []⟩])], by decide⟩⟩ := rfl
  obtain ⟨hlexical, hprinted⟩ := parse_image ['f']
  have hsection := hlexical _ _ hread _ (List.mem_singleton_self _)
  exact ⟨hform, (hprinted oddSections (by decide) hform).1, hread,
    hsection.entry _ (List.mem_singleton_self _)⟩

end TraceSnapshot.Proofs
