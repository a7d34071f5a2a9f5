import Mathlib.Tactic.Lemma
import TraceSnapshot.Ini.Outline
import TraceSnapshot.Proofs.DocumentReading
import TraceSnapshot.Proofs.OrderedMaps

/-!
# The two readers agree

A file is read twice: forgivingly into an outline, which the schemas are checked against, and
exactly into a document, which the snapshot is built from. On every file that the exact reader
accepts, the outline is the document with the last value of each key, unless an opening bracket
follows other text on its line. Both readers are followed line by line.
-/

namespace TraceSnapshot.Proofs
open Ini (Document Entry Line Outline)
open Ini.Outline (Item)

/-! ### Single lines -/

/-- An opening bracket, if there is one before the comment, comes first on the line. -/
def BracketFirst (raw : Text) : Prop :=
  '[' ∈ Text.withoutComment raw →
    (Text.trimStart (Text.withoutComment raw)).head? = some '['

instance (raw : Text) : Decidable (BracketFirst raw) :=
  inferInstanceAs (Decidable (_ → _))

lemma item_of_blank {raw : Text} (h : Line.read raw = .blank) : Item.read raw = .skip := by
  have hsays := says_read raw
  rw [h] at hsays
  cases hsays with
  | blank _ hblank =>
    unfold Item.read
    rw [hblank]
    rfl

lemma trimStart_of_bracketFirst {raw before rest : Text} (hfirst : BracketFirst raw)
    (hline : Text.withoutComment raw = before ++ '[' :: rest) (hbefore : '[' ∉ before) :
    Text.trimStart (Text.withoutComment raw) = '[' :: rest := by
  have hhead := hfirst (by simp [hline])
  rw [hline, trimStart_append_cons rfl] at hhead ⊢
  -- Whatever stays of the text in front of the bracket would have to start with one.
  cases htrim : Text.trimStart before with
  | nil => rfl
  | cons c cs =>
    rw [htrim] at hhead
    cases hhead
    have hmem : '[' ∈ Text.trimStart before := by simp [htrim]
    exact absurd ((List.dropWhile_sublist _).subset hmem) hbefore

lemma item_of_header {raw name : Text} (hfirst : BracketFirst raw)
    (h : Line.read raw = .header name) : Item.read raw = .header name := by
  obtain ⟨before, inner, after, hline, hbefore, hinner, rfl⟩ :=
    headerName?_eq_some_iff.1 (headerName?_of_read h)
  have hstart := trimStart_of_bracketFirst hfirst hline hbefore
  have htrim : Text.trim (Text.withoutComment raw) = '[' :: (inner ++ ']' :: Text.trimEnd after) := by
    unfold Text.trim
    rw [hstart]
    exact trimEnd_append_cons rfl ('[' :: inner) after
  have hcut : Text.cut ']' (inner ++ ']' :: Text.trimEnd after) =
      some (inner, Text.trimEnd after) := cut_eq_some_iff.2 ⟨rfl, hinner⟩
  unfold Item.read
  simp only [htrim, hcut]

lemma item_of_definition {raw content key value : Text}
    (h : Line.read raw = .definition content key value) :
    Item.read raw = .definition key value := by
  obtain ⟨hopen, before, after, hline, hbefore, hentry⟩ :=
    definition?_eq_some_iff.1 (definition?_of_read h)
  cases hentry
  unfold Item.read
  dsimp only
  generalize Text.withoutComment raw = line at hopen hline ⊢
  have htrim : Text.trim line = Text.trimStart before ++ '=' :: Text.trimEnd after := by
    unfold Text.trim
    rw [hline, trimStart_append_cons rfl, trimEnd_append_cons rfl]
  have hstart : '=' ∉ Text.trimStart before := fun hc =>
    hbefore ((List.dropWhile_sublist _).subset hc)
  have hcut : Text.cut '=' (Text.trim line) =
      some (Text.trimStart before, Text.trimEnd after) :=
    cut_eq_some_iff.2 ⟨htrim, hstart⟩
  have hitem : Item.ofDefinition (Text.trim line) =
      .definition (Text.trim before) (Text.trim after) := by
    unfold Item.ofDefinition
    rw [hcut]
    dsimp only
    rw [trim_trimStart, trim_trimEnd]
  split
  next rest hhead =>
    have hmem : '[' ∈ Text.trim line := by simp [hhead]
    exact absurd (mem_of_mem_trim hmem) hopen
  next => exact hitem

/-! ### Line by line -/

/-- While a file is read, the outline holds the last values of the document so far, and the
nameless section in front. -/
structure Follows (o : Outline) (d : Document) : Prop where
  names : o.keys = [] :: d.names.filter (· ≠ [])
  pairs : ∀ name, (o.get? name).getD .empty = filled (d.pairs name)

lemma pairs_added (d : Document) (name other : Text) (e : Entry) :
    (d.added name e).pairs other =
      if other = name then d.pairs name ++ [(e.key, e.value)] else d.pairs other := by
  unfold Document.pairs
  rw [entries_added]
  split
  · exact List.map_append
  · rfl

lemma Follows.opened {o : Outline} {d : Document} (h : Follows o d) (name : Text) :
    Follows (o.upsert name fun pairs => pairs.getD .empty) (d.opened name) where
  names := by
    rw [OrderedMap.keys_upsert, names_opened, h.names]
    by_cases hnil : name = []
    · subst hnil
      by_cases hmem : [] ∈ d.names
      · simp [hmem]
      · simp [hmem, List.filter_append]
    · by_cases hmem : name ∈ d.names
      · simp [hnil, hmem]
      · simp [hnil, hmem, List.filter_append]
  pairs other := by
    have hpairs : (d.opened name).pairs other = d.pairs other := by
      unfold Document.pairs
      rw [entries_opened]
    rw [hpairs, ← h.pairs other, OrderedMap.get?_upsert]
    split
    next hother =>
      subst hother
      rfl
    next => rfl

lemma Follows.added {o : Outline} {d : Document} (h : Follows o d) {name : Text}
    (hname : name ∈ d.names) (key value : Text) :
    Follows (o.put name key value) (d.added name ⟨key, value⟩) where
  names := by
    have hmem : name ∈ o.keys := by
      rw [h.names, List.mem_cons, List.mem_filter]
      by_cases hnil : name = []
      · exact Or.inl hnil
      · exact Or.inr ⟨hname, by simpa using hnil⟩
    unfold Outline.put
    rw [OrderedMap.keys_upsert, if_pos hmem, names_added_of_mem _ hname, h.names]
  pairs other := by
    unfold Outline.put
    rw [OrderedMap.get?_upsert, pairs_added]
    split
    next hother =>
      subst hother
      rw [filled_concat, ← h.pairs other]
      rfl
    next => exact h.pairs other

/-- Wherever the exact reader gets on, the forgiving one gets on in the same section. -/
theorem follows_readLines {raws : List Text} (hfirst : ∀ raw ∈ raws, BracketFirst raw)
    {o : Outline} {d result : Document} {section? : Option Text} {current : Text} {number : Nat}
    (hfollows : Follows o d)
    (hcurrent : ∀ name, section? = some name → current = name ∧ name ∈ d.names)
    (h : d.readLines section? number raws = .ok result) :
    Follows (o.readLines current raws) result := by
  induction raws generalizing o d section? current number with
  | nil =>
    cases h
    exact hfollows
  | cons raw rest ih =>
    rw [List.forall_mem_cons] at hfirst
    have ih := @ih hfirst.2
    unfold Document.readLines at h
    unfold Outline.readLines
    split at h
    next hline =>
      rw [item_of_blank hline]
      exact ih hfollows hcurrent h
    next name hline =>
      rw [item_of_header hfirst.1 hline]
      apply ih (hfollows.opened name) _ h
      intro other hother
      cases hother
      exact ⟨rfl, mem_names_opened_self d name⟩
    next => cases h
    next => cases h
    next => cases h
    next => cases h
    next content key value name hline =>
      obtain ⟨rfl, hname⟩ := hcurrent name rfl
      rw [item_of_definition hline]
      apply ih (hfollows.added hname key value) _ h
      intro other hother
      cases hother
      rw [names_added_of_mem _ hname]
      exact ⟨rfl, hname⟩

/-! ### Whole files -/

/-- The outline has the sections of the document in their order, but the nameless one in front
and only if it has entries. Each section has its keys in the order of their first definition,
and each key its last value. -/
structure Collapses (o : Outline) (d : Document) : Prop where
  names : o.keys = (if d.entries [] = [] then [] else [[]]) ++ d.names.filter (· ≠ [])
  keys : ∀ name pairs, o.get? name = some pairs →
    pairs.keys = ((d.entries name).map Entry.key).eraseDups
  values : ∀ name pairs, o.get? name = some pairs → ∀ key, pairs.get? key = d.last? name key

lemma get?_filled_pairs (d : Document) (name key : Text) :
    (filled (d.pairs name)).get? key = d.last? name key := by
  rw [get?_filled]
  unfold Document.pairs Document.last? Document.values
  simp only [List.filter_map, List.map_map]
  rfl

lemma keys_filled_pairs (d : Document) (name : Text) :
    (filled (d.pairs name)).keys = ((d.entries name).map Entry.key).eraseDups := by
  rw [keys_filled]
  unfold Document.pairs
  rw [List.map_map]
  rfl

lemma collapses_of_filled {o : Outline} {d : Document}
    (hnames : o.keys =
      (if d.entries [] = [] then [] else [[]]) ++ d.names.filter (· ≠ []))
    (hfilled : ∀ name pairs, o.get? name = some pairs → pairs = filled (d.pairs name)) :
    Collapses o d where
  names := hnames
  keys name pairs hget := by rw [hfilled name pairs hget, keys_filled_pairs]
  values name pairs hget key := by rw [hfilled name pairs hget, get?_filled_pairs]

lemma isEmpty_filled_pairs (d : Document) (name : Text) :
    (filled (d.pairs name)).pairs.isEmpty = true ↔ d.entries name = [] := by
  have hkeys := keys_filled_pairs d name
  unfold OrderedMap.keys at hkeys
  rw [List.isEmpty_iff, ← List.map_eq_nil_iff (f := Prod.fst), hkeys]
  cases d.entries name with
  | nil => simp
  | cons e es => simp [List.eraseDups_cons]

lemma Follows.collapses {o : Outline} {d : Document} (h : Follows o d) :
    Collapses o.withoutEmptyPreamble d := by
  have hfilled : ∀ name pairs, o.get? name = some pairs → pairs = filled (d.pairs name) := by
    intro name pairs hget
    have hname := h.pairs name
    rwa [hget] at hname
  unfold Outline.withoutEmptyPreamble
  cases hget : o.get? [] with
  | none =>
    rw [get?_eq_none_iff, h.names] at hget
    exact absurd List.mem_cons_self hget
  | some preamble =>
    dsimp only
    rw [hfilled [] preamble hget]
    by_cases hentries : d.entries [] = []
    · rw [if_pos ((isEmpty_filled_pairs d []).2 hentries)]
      have hnames : (o.erase []).keys = d.names.filter (· ≠ []) := by
        rw [keys_erase, h.names]
        simp
      have hnone : (o.erase []).get? [] = none := by
        rw [get?_eq_none_iff, hnames]
        simp
      apply collapses_of_filled
      · rw [hnames, if_pos hentries]
        rfl
      · intro name pairs hname
        have hne : name ≠ [] := by
          rintro rfl
          rw [hnone] at hname
          cases hname
        rw [get?_erase_of_ne hne] at hname
        exact hfilled name pairs hname
    · rw [if_neg fun hnil => hentries ((isEmpty_filled_pairs d []).1 hnil)]
      apply collapses_of_filled
      · rw [h.names, if_neg hentries]
        rfl
      · exact hfilled

lemma follows_read {text source : Text} {d : Document}
    (hparse : Document.parse text source = .ok d)
    (hfirst : ∀ raw ∈ Text.lines text, BracketFirst raw) :
    Follows (Outline.readLines (OrderedMap.empty.insert [] .empty) [] (Text.lines text)) d := by
  apply follows_readLines hfirst (d := .empty source) _ _ hparse
  · refine ⟨rfl, ?_⟩
    intro name
    rw [get?_insert]
    split <;> rfl
  · intro name hname
    cases hname

/-- The two readers agree on every file that the exact reader accepts, as long as no opening
bracket follows other text on its line. -/
theorem outline_collapses_document {text source : Text} {d : Document}
    (hparse : Document.parse text source = .ok d)
    (hfirst : ∀ raw ∈ Text.lines text, BracketFirst raw) : Collapses (Outline.read text) d :=
  (follows_read hparse hfirst).collapses

/-- A file that opens a section again, defines a key twice and has a nameless section. -/
def reopening : Text :=
  "[b]\nk=1\n\t[] ; here\nx=1;[\n[a]\n[b]\nk = 2\nj=3".toList

def reopeningDocument : Document where
  source := ['f']
  sections :=
    ⟨[(['b'], [⟨['k'], ['1']⟩, ⟨['k'], ['2']⟩, ⟨['j'], ['3']⟩]), ([], [⟨['x'], ['1']⟩]),
      (['a'], [])], by decide⟩

theorem outline_collapses_reopening :
    Document.parse reopening ['f'] = .ok reopeningDocument ∧
      (∀ raw ∈ Text.lines reopening, BracketFirst raw) ∧
      Collapses (Outline.read reopening) reopeningDocument ∧
      (Outline.read reopening).keys = [[], ['b'], ['a']] := by
  have hparse : Document.parse reopening ['f'] = .ok reopeningDocument := by rfl
  have hfirst : ∀ raw ∈ Text.lines reopening, BracketFirst raw := by decide
  have hcollapses := outline_collapses_document hparse hfirst
  exact ⟨hparse, hfirst, hcollapses, hcollapses.names⟩

-- A bracket after other text opens a section for the exact reader only.
example :
    (Document.parse "[a]\nx[b]".toList ['f']).toOption.map Document.names = some [['a'], ['b']] ∧
      (Outline.read "[a]\nx[b]".toList).keys = [['a']] := by decide

end TraceSnapshot.Proofs
