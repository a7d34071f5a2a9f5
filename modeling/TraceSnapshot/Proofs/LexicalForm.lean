import Mathlib.Tactic.Lemma
import TraceSnapshot.Proofs.DocumentReading

/-!
# Lexical form

A name, a key or a value of a document comes out of one line, in front of its comment and
without the blanks around it. So some characters never occur in it, which is what keeps the
lines of a dump apart later on.
-/

namespace TraceSnapshot.Proofs
open Ini (Document Entry Fault Line)

/-- Trimmed text of one line without a comment. -/
structure Plain (t : Text) : Prop where
  trimmed : Text.trim t = t
  no_newline : '\n' ∉ t
  no_comment : ∀ c ∈ t, Text.startsComment c = false

structure LexicalName (name : Text) : Prop extends Plain name where
  no_close : ']' ∉ name

structure LexicalEntry (e : Entry) : Prop where
  key : Plain e.key
  key_no_equals : '=' ∉ e.key
  key_no_open : '[' ∉ e.key
  value : Plain e.value
  value_no_open : '[' ∉ e.value

/-- The form of every name, key and value in a document. -/
structure LexicalDocument (d : Document) : Prop where
  name : ∀ name ∈ d.names, LexicalName name
  entry : ∀ name, ∀ e ∈ d.entries name, LexicalEntry e

lemma Plain.no_semicolon {t : Text} (h : Plain t) : ';' ∉ t := by
  intro hc
  exact absurd (h.no_comment ';' hc) (by decide)

lemma plain_nil : Plain [] := ⟨rfl, by simp, by simp⟩

lemma plain_trim {raw part : Text} (hraw : '\n' ∉ raw) (hpart : part ⊆ Text.withoutComment raw) :
    Plain (Text.trim part) where
  trimmed := trim_trim part
  no_newline hc := hraw (mem_of_mem_withoutComment (hpart (mem_of_mem_trim hc)))
  no_comment c hc := by
    have hkept := List.mem_takeWhile_imp (hpart (mem_of_mem_trim hc))
    simpa using hkept

/-! ### Lines -/

lemma lexicalName_of_header {raw name : Text} (hraw : '\n' ∉ raw)
    (h : Line.read raw = .header name) : LexicalName name := by
  obtain ⟨before, inner, after, hline, -, hinner, rfl⟩ :=
    headerName?_eq_some_iff.1 (headerName?_of_read h)
  refine ⟨plain_trim hraw ?_, fun hc => hinner (mem_of_mem_trim hc)⟩
  intro c hc
  rw [hline]
  simp [hc]

lemma lexicalEntry_of_definition {raw content key value : Text} (hraw : '\n' ∉ raw)
    (h : Line.read raw = .definition content key value) : LexicalEntry ⟨key, value⟩ := by
  obtain ⟨hopen, before, after, hline, hbefore, hentry⟩ :=
    definition?_eq_some_iff.1 (definition?_of_read h)
  cases hentry
  have hsubBefore : before ⊆ Text.withoutComment raw := by
    intro c hc
    rw [hline]
    simp [hc]
  have hsubAfter : after ⊆ Text.withoutComment raw := by
    intro c hc
    rw [hline]
    simp [hc]
  exact {
    key := plain_trim hraw hsubBefore
    key_no_equals := fun hc => hbefore (mem_of_mem_trim hc)
    key_no_open := fun hc => hopen (hsubBefore (mem_of_mem_trim hc))
    value := plain_trim hraw hsubAfter
    value_no_open := fun hc => hopen (hsubAfter (mem_of_mem_trim hc)) }

/-! ### Documents -/

lemma LexicalDocument.opened {d : Document} {name : Text} (h : LexicalDocument d)
    (hname : LexicalName name) : LexicalDocument (d.opened name) where
  name other hother := by
    rw [names_opened] at hother
    split at hother
    · exact h.name other hother
    · rcases List.mem_append.1 hother with hother | hother
      · exact h.name other hother
      · exact List.mem_singleton.1 hother ▸ hname
  entry other e he := by
    rw [entries_opened] at he
    exact h.entry other e he

lemma LexicalDocument.added {d : Document} {name : Text} {e : Entry} (h : LexicalDocument d)
    (hname : name ∈ d.names) (he : LexicalEntry e) : LexicalDocument (d.added name e) where
  name other hother := by
    rw [names_added_of_mem e hname] at hother
    exact h.name other hother
  entry other f hf := by
    rw [entries_added] at hf
    split at hf
    · rcases List.mem_append.1 hf with hf | hf
      · exact h.entry name f hf
      · exact List.mem_singleton.1 hf ▸ he
    · exact h.entry other f hf

/-- Every document that is read from a text has the lexical form. -/
theorem lexicalDocument_of_parse {text source : Text} {d : Document}
    (h : Document.parse text source = .ok d) : LexicalDocument d := by
  refine readLines_induction (P := LexicalDocument) ?_ ?_ ?_ (by simp) h
  · intro raw hraw name hline d hd
    exact hd.opened (lexicalName_of_header (newline_notMem_of_mem_lines hraw) hline)
  · intro raw hraw content key value hline d name hname hd
    exact hd.added hname
      (lexicalEntry_of_definition (newline_notMem_of_mem_lines hraw) hline)
  · exact ⟨fun _ hname => absurd hname List.not_mem_nil, fun _ _ he => absurd he List.not_mem_nil⟩

lemma LexicalDocument.plain_of_mem_values {d : Document} (h : LexicalDocument d)
    {name key value : Text} (hvalue : value ∈ d.values name key) : Plain value := by
  obtain ⟨e, he, -, rfl⟩ := mem_values_iff.1 hvalue
  exact (h.entry name e he).value

lemma LexicalDocument.plain_last? {d : Document} (h : LexicalDocument d) (name key : Text) :
    Plain ((d.last? name key).getD []) := by
  cases hlast : d.last? name key with
  | none => exact plain_nil
  | some value => exact h.plain_of_mem_values (mem_values_of_last? hlast)

end TraceSnapshot.Proofs
