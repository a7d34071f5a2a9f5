import Mathlib.Tactic.Lemma
import TraceSnapshot.Ini.Document
import TraceSnapshot.Proofs.OrderedMaps
import TraceSnapshot.Proofs.TextParts

/-!
# Reading documents

A document grows line by line: a header opens a section and a definition adds an entry to
it. This file says which lines are headers and definitions, what these two steps do to the
sections and the entries, and that whatever both steps keep holds of every document that was
read.
-/

namespace TraceSnapshot.Proofs
open Ini (Document Entry Fault Line)

/-! ### What a line says -/

/-- The name in a header stands between the first opening bracket of the line and the next
closing one. -/
def headerName? (line : Text) : Option Text :=
  (Text.cut '[' line).bind fun (_, rest) =>
    (Text.cut ']' rest).map fun (name, _) => Text.trim name

/-- The key and the value of a line without a bracket stand around its first equals sign. -/
def definition? (line : Text) : Option Entry :=
  if '[' ∈ line then none
  else (Text.cut '=' line).map fun (key, value) => ⟨Text.trim key, Text.trim value⟩

lemma headerName?_eq_some_iff {line name : Text} : headerName? line = some name ↔
    ∃ before inner after, line = before ++ '[' :: (inner ++ ']' :: after) ∧ '[' ∉ before ∧
      ']' ∉ inner ∧ name = Text.trim inner := by
  unfold headerName?
  simp only [Option.bind_eq_some_iff, Option.map_eq_some_iff, Prod.exists, cut_eq_some_iff]
  constructor
  · rintro ⟨before, _, ⟨rfl, hbefore⟩, inner, after, ⟨rfl, hinner⟩, rfl⟩
    exact ⟨before, inner, after, rfl, hbefore, hinner, rfl⟩
  · rintro ⟨before, inner, after, rfl, hbefore, hinner, rfl⟩
    exact ⟨before, _, ⟨rfl, hbefore⟩, inner, after, ⟨rfl, hinner⟩, rfl⟩

lemma headerName?_eq_none {line : Text} (h : '[' ∉ line) : headerName? line = none := by
  unfold headerName?
  rw [cut_eq_none_iff.2 h]
  rfl

lemma definition?_eq_some_iff {line : Text} {entry : Entry} : definition? line = some entry ↔
    '[' ∉ line ∧ ∃ before after, line = before ++ '=' :: after ∧ '=' ∉ before ∧
      entry = ⟨Text.trim before, Text.trim after⟩ := by
  unfold definition?
  split
  next h => simp [h]
  next h =>
    simp only [Option.map_eq_some_iff, Prod.exists, cut_eq_some_iff]
    constructor
    · rintro ⟨before, after, ⟨hline, hbefore⟩, rfl⟩
      exact ⟨h, before, after, hline, hbefore, rfl⟩
    · rintro ⟨-, before, after, hline, hbefore, rfl⟩
      exact ⟨before, after, ⟨hline, hbefore⟩, rfl⟩

lemma definition?_eq_none {line : Text} (h : '[' ∈ line ∨ '=' ∉ line) : definition? line = none := by
  unfold definition?
  split
  next => rfl
  next hopen =>
    rw [cut_eq_none_iff.2 (h.resolve_left hopen)]
    rfl

/-- All that can be read from a line. -/
inductive Says (line : Text) : Line → Prop
  | blank (hopen : '[' ∉ line) (hblank : Text.trim line = []) : Says line .blank
  | header {name} (hname : headerName? line = some name) : Says line (.header name)
  | unclosed {before rest} (hline : line = before ++ '[' :: rest) (hbefore : '[' ∉ before)
      (hrest : ']' ∉ rest) : Says line (.unclosed (Text.trim line))
  | definition {key value} (hentry : definition? line = some ⟨key, value⟩) :
      Says line (.definition (Text.trim line) key value)
  | bare (hopen : '[' ∉ line) (hblank : Text.trim line ≠ []) (hequals : '=' ∉ line) :
      Says line (.bare (Text.trim line))

theorem says_read (raw : Text) : Says (Text.withoutComment raw) (Line.read raw) := by
  unfold Line.read
  dsimp only
  generalize Text.withoutComment raw = line
  split
  next before rest hopen =>
    split
    next inner after hclose =>
      apply Says.header
      unfold headerName?
      rw [hopen, Option.bind_some]
      dsimp only
      rw [hclose, Option.map_some]
    next hclose =>
      obtain ⟨hline, hbefore⟩ := cut_eq_some_iff.1 hopen
      exact .unclosed hline hbefore (cut_eq_none_iff.1 hclose)
  next hopen =>
    have hopen := cut_eq_none_iff.1 hopen
    split
    next hblank => exact .blank hopen (List.isEmpty_iff.1 hblank)
    next hblank =>
      split
      next before after hequals =>
        apply Says.definition
        unfold definition?
        rw [if_neg hopen, hequals, Option.map_some]
      next hequals =>
        exact .bare hopen (fun hnil => hblank (List.isEmpty_iff.2 hnil))
          (cut_eq_none_iff.1 hequals)

lemma headerName?_of_read {raw name : Text} (h : Line.read raw = .header name) :
    headerName? (Text.withoutComment raw) = some name := by
  have hsays := says_read raw
  rw [h] at hsays
  cases hsays with
  | header hname => exact hname

lemma read_of_headerName? {raw name : Text} (h : headerName? (Text.withoutComment raw) = some name) :
    Line.read raw = .header name := by
  obtain ⟨before, inner, after, hline, hbefore, hinner, rfl⟩ := headerName?_eq_some_iff.1 h
  have hopen : Text.cut '[' (Text.withoutComment raw) = some (before, inner ++ ']' :: after) :=
    cut_eq_some_iff.2 ⟨hline, hbefore⟩
  have hclose : Text.cut ']' (inner ++ ']' :: after) = some (inner, after) :=
    cut_eq_some_iff.2 ⟨rfl, hinner⟩
  unfold Line.read
  simp only [hopen, hclose]

lemma definition?_of_read {raw content key value : Text}
    (h : Line.read raw = .definition content key value) :
    definition? (Text.withoutComment raw) = some ⟨key, value⟩ := by
  have hsays := says_read raw
  rw [h] at hsays
  cases hsays with
  | definition hentry => exact hentry

/-! ### Sections and entries -/

lemma nodup_names (d : Document) : d.names.Nodup := d.sections.nodup

lemma names_opened (d : Document) (name : Text) :
    (d.opened name).names = if name ∈ d.names then d.names else d.names ++ [name] := by
  refine (OrderedMap.keys_upsert _ _ _).trans ?_
  congr

lemma mem_names_opened_self (d : Document) (name : Text) : name ∈ (d.opened name).names := by
  rw [names_opened]
  split
  next h => exact h
  next => simp

lemma names_added (d : Document) (name : Text) (entry : Entry) :
    (d.added name entry).names = if name ∈ d.names then d.names else d.names ++ [name] := by
  refine (OrderedMap.keys_upsert _ _ _).trans ?_
  congr

lemma names_added_of_mem {d : Document} {name : Text} (entry : Entry) (h : name ∈ d.names) :
    (d.added name entry).names = d.names := by
  rw [names_added, if_pos h]

@[simp] lemma entries_empty (source name : Text) : (Document.empty source).entries name = [] := rfl

@[simp] lemma entries_opened (d : Document) (name other : Text) :
    (d.opened name).entries other = d.entries other := by
  unfold Document.entries Document.opened
  rw [OrderedMap.get?_upsert]
  by_cases h : other = name
  · simp [h]
  · simp [h]

@[simp] lemma entries_added (d : Document) (name other : Text) (entry : Entry) :
    (d.added name entry).entries other =
      if other = name then d.entries name ++ [entry] else d.entries other := by
  unfold Document.entries Document.added
  rw [OrderedMap.get?_upsert]
  by_cases h : other = name
  · simp [h]
  · simp [h]

lemma mem_values_iff {d : Document} {name key value : Text} :
    value ∈ d.values name key ↔ ∃ entry ∈ d.entries name, entry.key = key ∧ entry.value = value := by
  simp [Document.values, and_assoc]

lemma mem_values_of_first? {d : Document} {name key value : Text}
    (h : d.first? name key = some value) : value ∈ d.values name key :=
  List.mem_of_head? h

lemma mem_values_of_last? {d : Document} {name key value : Text}
    (h : d.last? name key = some value) : value ∈ d.values name key :=
  List.mem_of_getLast? h

lemma first?_eq_none_iff {d : Document} {name key : Text} :
    d.first? name key = none ↔ d.values name key = [] :=
  List.head?_eq_none_iff

lemma last?_eq_none_iff {d : Document} {name key : Text} :
    d.last? name key = none ↔ d.values name key = [] :=
  List.getLast?_eq_none_iff

lemma exists_last?_iff {d : Document} {name key : Text} :
    (∃ value, d.last? name key = some value) ↔ d.values name key ≠ [] := by
  rw [ne_eq, ← last?_eq_none_iff, ← ne_eq, Option.ne_none_iff_exists']

lemma values_ne_nil_of_last? {d : Document} {name key value : Text}
    (h : d.last? name key = some value) : d.values name key ≠ [] :=
  exists_last?_iff.1 ⟨value, h⟩

lemma mem_pairs_iff {d : Document} {name : Text} {pair : Text × Text} :
    pair ∈ d.pairs name ↔ ∃ entry ∈ d.entries name, (entry.key, entry.value) = pair :=
  List.mem_map

lemma hasSection_iff {d : Document} {name : Text} : d.hasSection name = true ↔ name ∈ d.names := by
  unfold Document.hasSection OrderedMap.contains Document.names
  rw [Option.isSome_iff_ne_none, ne_eq, get?_eq_none_iff, not_not]

lemma hasSection_eq_false_iff {d : Document} {name : Text} :
    d.hasSection name = false ↔ name ∉ d.names := by
  rw [← hasSection_iff, Bool.not_eq_true]

lemma hasSection_of_values_eq_cons {d : Document} {name key value : Text} {rest : List Text}
    (h : d.values name key = value :: rest) : d.hasSection name = true := by
  rw [hasSection_iff]
  by_contra hname
  have hentries : d.entries name = [] := by
    unfold Document.entries
    rw [get?_eq_none_iff.2 hname]
    rfl
  unfold Document.values at h
  rw [hentries] at h
  cases h

/-- A document is determined by its name, its sections and their entries. -/
lemma document_ext {d e : Document} (hsource : d.source = e.source) (hnames : d.names = e.names)
    (hentries : ∀ name, d.entries name = e.entries name) : d = e := by
  have hpairs : ∀ d : Document,
      d.sections.pairs = d.names.map fun name => (name, d.entries name) := by
    intro d
    exact pairs_eq_map_keys d.sections []
  have hsections : d.sections.pairs = e.sections.pairs := by
    rw [hpairs d, hpairs e, hnames]
    exact List.map_congr_left fun name _ => congrArg (Prod.mk name) (hentries name)
  obtain ⟨source, pairs, hnodup⟩ := d
  obtain ⟨source', pairs', hnodup'⟩ := e
  dsimp only at hsource hsections
  subst hsource hsections
  rfl

lemma opened_of_mem {d : Document} {name : Text} (h : name ∈ d.names) : d.opened name = d :=
  document_ext rfl (by rw [names_opened, if_pos h]) fun other => entries_opened d name other

/-! ### Reading line by line -/

/-- What the reader makes of one line: the document from there on and the section that it is in. -/
def afterLine (d : Document) (current : Option Text) (number : Nat) :
    Line → Except Fault (Document × Option Text)
  | .blank => .ok (d, current)
  | .header name => .ok (d.opened name, some name)
  | .unclosed content => .error ⟨number, .unclosedHeader, content⟩
  | .definition content key value =>
    match current with
    | none => .error ⟨number, .beforeHeader, content⟩
    | some name => .ok (d.added name ⟨key, value⟩, some name)
  | .bare content =>
    match current with
    | none => .error ⟨number, .beforeHeader, content⟩
    | some _ => .error ⟨number, .notADefinition, content⟩

/-- Of a line the reader sees only what it says. -/
lemma readLines_cons (d : Document) (current : Option Text) (number : Nat) (raw : Text)
    (rest : List Text) : d.readLines current number (raw :: rest) =
      afterLine d current number (Line.read raw) >>= fun next =>
        next.1.readLines next.2 (number + 1) rest := by
  conv_lhs => unfold Document.readLines
  cases Line.read raw with
  | blank => rfl
  | header name => rfl
  | unclosed content => rfl
  | definition content key value => cases current <;> rfl
  | bare content => cases current <;> rfl

/-- What headers and definitions keep holds of every document that is read. A definition
goes into a section that a header has opened. -/
theorem readLines_induction {P : Document → Prop} {raws : List Text}
    (hopened : ∀ raw ∈ raws, ∀ name, Line.read raw = .header name → ∀ d, P d → P (d.opened name))
    (hadded : ∀ raw ∈ raws, ∀ content key value, Line.read raw = .definition content key value →
      ∀ d, ∀ name ∈ d.names, P d → P (d.added name ⟨key, value⟩))
    {d result : Document} {current : Option Text} {number : Nat} (hd : P d)
    (hcurrent : ∀ name, current = some name → name ∈ d.names)
    (h : d.readLines current number raws = .ok result) : P result := by
  induction raws generalizing d current number with
  | nil =>
    cases h
    exact hd
  | cons raw rest ih =>
    have ih := @ih (fun raw hraw => hopened raw (List.mem_cons_of_mem _ hraw))
      (fun raw hraw => hadded raw (List.mem_cons_of_mem _ hraw))
    unfold Document.readLines at h
    split at h
    next => exact ih hd hcurrent h
    next name hline =>
      have hP := hopened raw List.mem_cons_self name hline d hd
      refine ih hP (fun other hother => ?_) h
      cases hother
      exact mem_names_opened_self d name
    next => cases h
    next => cases h
    next => cases h
    next => cases h
    next content key value name hline =>
      have hname := hcurrent name rfl
      have hP := hadded raw List.mem_cons_self content key value hline d name hname hd
      refine ih hP (fun other hother => ?_) h
      cases hother
      rw [names_added_of_mem _ hname]
      exact hname

lemma newline_notMem_of_mem_lines {text raw : Text} (h : raw ∈ Text.lines text) : '\n' ∉ raw :=
  notMem_of_mem_splitOn h

lemma source_of_parse {text source : Text} {d : Document}
    (h : Document.parse text source = .ok d) : d.source = source :=
  readLines_induction (P := fun d => d.source = source) (fun _ _ _ _ _ hd => hd)
    (fun _ _ _ _ _ _ _ _ _ hd => hd) rfl (by simp) h

/-- The name of a file has no part in what is read from it. -/
lemma readLines_withSource (d : Document) (source : Text) (current : Option Text) (number : Nat)
    (raws : List Text) : Document.readLines { d with source } current number raws =
      (d.readLines current number raws).map fun result => { result with source } := by
  induction raws generalizing d current number with
  | nil => rfl
  | cons raw rest ih =>
    unfold Document.readLines
    cases Line.read raw with
    | blank => exact ih d current (number + 1)
    | header name => exact ih (d.opened name) (some name) (number + 1)
    | unclosed content => rfl
    | definition content key value =>
      cases current with
      | none => rfl
      | some name => exact ih (d.added name ⟨key, value⟩) (some name) (number + 1)
    | bare content => cases current <;> rfl

lemma parse_withSource {text source : Text} {d : Document} (h : Document.parse text source = .ok d)
    (other : Text) : Document.parse text other = .ok { d with source := other } := by
  unfold Document.parse at h ⊢
  have hread := readLines_withSource (.empty source) other none 1 (Text.lines text)
  rw [h] at hread
  exact hread

end TraceSnapshot.Proofs
