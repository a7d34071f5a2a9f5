import Mathlib
import TraceSnapshot.Proofs.ReaderAgreement
import TraceSnapshot.Validator

/-!
# What schemas ask for

The validator looks for violations of a schema in the outline of a file. Whether there are any
depends only on which sections, keys and last values the file has. So the verdict can be told
from the document of the file as well, as long as both readers agree on it.
-/

namespace TraceSnapshot.Proofs
open Ini (Document Outline)
open Schema (SectionRule ValueRule Violation)

/-! ### Verdicts -/

/-- A file as a schema sees it: the values of the keys in every section that is there. -/
abbrev Content := Text → Option (Text → Option Text)

def outlineContent (o : Outline) : Content := fun name => (o.get? name).map OrderedMap.get?

/-- Of every key of a document the last value counts. -/
def documentContent (d : Document) : Content := fun name =>
  if d.hasSection name then some (d.last? name) else none

/-- A section that has what a rule asks for. -/
structure SectionMeets (r : SectionRule) (value? : Text → Option Text) : Prop where
  required : ∀ key ∈ r.required, value? key ≠ none
  allowed : ∀ key value, value? key = some value →
    ∀ rule ∈ r.values, rule.keys.selects key → rule.constraint.accepts value

/-- A file that has what a schema asks for. -/
structure Meets (s : Schema) (c : Content) : Prop where
  required : ∀ name ∈ s.required, c name ≠ none
  sections : ∀ name value?, c name = some value? →
    ∀ r ∈ s.sections, r.sections.selects name → SectionMeets r value?

lemma foremost?_eq_none_iff {vs : List Violation} : Violation.foremost? vs = none ↔ vs = [] := by
  cases vs with
  | nil => simp [Violation.foremost?]
  | cons v rest =>
    unfold Violation.foremost?
    cases Violation.foremost? rest with
    | none => simp
    | some w =>
      dsimp only
      split <;> simp

lemma absent_eq_nil_iff {α : Type} {required : List Text} {m : OrderedMap Text α} :
    Schema.absent required m = [] ↔ ∀ name ∈ required, m.get? name ≠ none := by
  unfold Schema.absent OrderedMap.contains
  rw [List.filter_eq_nil_iff]
  apply forall₂_congr
  intro name _
  cases m.get? name <;> simp

lemma section_violations_eq_nil_iff {r : SectionRule} {name : Text} {pairs : OrderedMap Text Text} :
    r.violations name pairs = [] ↔ (r.sections.selects name → SectionMeets r pairs.get?) := by
  unfold SectionRule.violations
  by_cases hselects : r.sections.selects name = true
  · have hvalues : pairs.pairs.flatMap (r.valueViolations name) = [] ↔
        ∀ key value, pairs.get? key = some value →
          ∀ rule ∈ r.values, rule.keys.selects key → rule.constraint.accepts value := by
      unfold SectionRule.valueViolations
      simp [List.flatMap_eq_nil_iff, get?_eq_some_iff]
    rw [if_pos hselects, List.append_eq_nil_iff, List.map_eq_nil_iff, absent_eq_nil_iff, hvalues]
    exact ⟨fun h _ => ⟨h.1, h.2⟩, fun h => ⟨(h hselects).required, (h hselects).allowed⟩⟩
  · rw [if_neg hselects]
    exact iff_of_true rfl fun h => absurd h hselects

theorem violations_eq_nil_iff {s : Schema} {o : Outline} :
    s.violations o = [] ↔ Meets s (outlineContent o) := by
  have hsections : (o.pairs.flatMap fun pair =>
      s.sections.flatMap fun r => r.violations pair.1 pair.2) = [] ↔
        ∀ name value?, outlineContent o name = some value? →
          ∀ r ∈ s.sections, r.sections.selects name → SectionMeets r value? := by
    simp only [List.flatMap_eq_nil_iff, section_violations_eq_nil_iff, outlineContent,
      Option.map_eq_some_iff, get?_eq_some_iff]
    constructor
    · rintro h name _ ⟨pairs, hmem, rfl⟩ r hr
      exact h (name, pairs) hmem r hr
    · intro h pair hmem r hr
      exact h pair.1 _ ⟨pair.2, hmem, rfl⟩ r hr
  have hrequired : Schema.absent s.required o = [] ↔
      ∀ name ∈ s.required, outlineContent o name ≠ none := by
    simp only [absent_eq_nil_iff, outlineContent, ne_eq, Option.map_eq_none_iff]
  unfold Schema.violations
  rw [List.append_eq_nil_iff, List.map_eq_nil_iff, hrequired, hsections]
  exact ⟨fun h => ⟨h.1, h.2⟩, fun h => ⟨h.required, h.sections⟩⟩

theorem schema_eq_none_iff {role : Role} {text source : Text} :
    Validator.schema role text source = none ↔
      Meets (Schema.ofRole role) (outlineContent (Outline.read text)) := by
  unfold Validator.schema Schema.check
  rw [Option.map_eq_none_iff, foremost?_eq_none_iff, violations_eq_nil_iff]

/-! ### Documents -/

/-- No schema is about the section without a name, on which the readers differ. -/
lemma nameless_notMem_schema (role : Role) : [] ∉ (Schema.ofRole role).required ∧
    ∀ r ∈ (Schema.ofRole role).sections, r.sections.selects [] = false := by
  cases role <;> decide

lemma outlineContent_of_collapses {o : Outline} {d : Document} (h : Collapses o d) {name : Text}
    (hname : name ≠ []) : outlineContent o name = documentContent d name := by
  have hmem : name ∈ o.keys ↔ name ∈ d.names := by
    rw [h.names, List.mem_append, List.mem_filter]
    split <;> simp [hname]
  unfold outlineContent documentContent
  cases hget : o.get? name with
  | none =>
    rw [get?_eq_none_iff, hmem, ← hasSection_iff] at hget
    rw [if_neg hget]
    rfl
  | some pairs =>
    have hsection : d.hasSection name = true := by
      rw [hasSection_iff, ← hmem]
      by_contra habsent
      rw [get?_eq_none_iff.2 habsent] at hget
      cases hget
    have hvalues : pairs.get? = d.last? name := funext (h.values name pairs hget)
    rw [if_pos hsection, ← hvalues]
    rfl

lemma Meets.congr {role : Role} {c c' : Content} (h : ∀ name, name ≠ [] → c name = c' name)
    (hmeets : Meets (Schema.ofRole role) c) : Meets (Schema.ofRole role) c' := by
  obtain ⟨hrequired, hselects⟩ := nameless_notMem_schema role
  constructor
  · intro name hname
    rw [← h name (ne_of_mem_of_not_mem hname hrequired)]
    exact hmeets.required name hname
  · intro name value? hvalue r hr hselected
    have hne : name ≠ [] := by
      rintro rfl
      rw [hselects r hr] at hselected
      cases hselected
    rw [← h name hne] at hvalue
    exact hmeets.sections name value? hvalue r hr hselected

/-- On files on which both readers agree, the validator is content with a file exactly if its
document has what the schema asks for. -/
theorem schema_eq_none_iff_of_parse {role : Role} {text source : Text} {d : Document}
    (hparse : Document.parse text source = .ok d)
    (hfirst : ∀ raw ∈ Text.lines text, BracketFirst raw) :
    Validator.schema role text source = none ↔
      Meets (Schema.ofRole role) (documentContent d) := by
  have hcollapses : Collapses (Outline.read text) d := (follows_read hparse hfirst).collapses
  have hcontent : ∀ name, name ≠ [] →
      outlineContent (Outline.read text) name = documentContent d name :=
    fun name hname => outlineContent_of_collapses hcollapses hname
  rw [schema_eq_none_iff]
  exact ⟨fun h => h.congr hcontent, fun h => h.congr fun name hname => (hcontent name hname).symm⟩

end TraceSnapshot.Proofs
