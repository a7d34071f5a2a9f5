import Mathlib
import TraceSnapshot.Proofs.DocumentReading
import TraceSnapshot.Validator

/-!
# Layout and comments

Blanks around a line and a comment behind it say nothing, and neither does a line that holds
nothing else. Both readers see through them: what a line says depends on the line without its
comment and without the blanks at its ends.
-/

namespace TraceSnapshot.Proofs
open Ini (Document Fault Line Outline)
open Ini.Outline (Item)

/-! ### Dressed lines -/

/-- The blanks that neither end a line nor start a comment. -/
def isSpacing (c : Char) : Bool := c == ' ' || c == '\t' || c == '\x0b' || c == '\x0c'

/-- A row is a line with spacing around it and perhaps a comment behind. -/
inductive Dressed (line : Text) : Text → Prop
  | intro {front back comment : Text} (hfront : ∀ c ∈ front, isSpacing c)
      (hback : ∀ c ∈ back, isSpacing c) (hcomment : ∀ c ∈ comment.head?, Text.startsComment c)
      (hnewline : '\n' ∉ comment) : Dressed line (front ++ line ++ back ++ comment)

lemma isBlank_of_isSpacing {c : Char} (h : isSpacing c) : Text.isBlank c := by
  unfold isSpacing at h
  unfold Text.isBlank
  grind

lemma startsComment_of_isSpacing {c : Char} (h : isSpacing c) : Text.startsComment c = false := by
  unfold isSpacing at h
  unfold Text.startsComment
  grind

lemma notMem_of_isSpacing {c : Char} (hc : isSpacing c = false) {t : Text}
    (h : ∀ x ∈ t, isSpacing x) : c ∉ t := by
  intro hmem
  rw [h c hmem] at hc
  cases hc

/-- Without its comment, the row is the line without its comment and with spacing around it. -/
lemma Dressed.withoutComment {line row : Text} (h : Dressed line row) :
    ∃ front back, (∀ c ∈ front, isSpacing c) ∧ (∀ c ∈ back, isSpacing c) ∧
      Text.withoutComment row = front ++ Text.withoutComment line ++ back := by
  obtain @⟨front, back, comment, hfront, hback, hcomment, -⟩ := h
  have hkept : ∀ t : Text, (∀ c ∈ t, isSpacing c) → ∀ rest,
      Text.withoutComment (t ++ rest) = t ++ Text.withoutComment rest := by
    intro t ht rest
    apply List.takeWhile_append_of_pos
    intro c hc
    rw [startsComment_of_isSpacing (ht c hc)]
    rfl
  have hnone : Text.withoutComment comment = [] := by
    cases comment with
    | nil => rfl
    | cons c rest =>
      have hc := hcomment c rfl
      exact List.takeWhile_cons_of_neg (by simp [hc])
  rw [List.append_assoc, List.append_assoc, hkept front hfront]
  by_cases hline : (Text.withoutComment line).length = line.length
  · -- The line has no comment of its own, so it keeps the spacing behind it.
    refine ⟨front, back, hfront, hback, ?_⟩
    have hself : Text.withoutComment line = line :=
      (List.takeWhile_prefix _).eq_of_length hline
    have happend : Text.withoutComment (line ++ (back ++ comment)) =
        line ++ Text.withoutComment (back ++ comment) := by
      unfold Text.withoutComment at hline ⊢
      rw [List.takeWhile_append, if_pos hline]
    rw [happend, hkept back hback, hnone, hself]
    simp
  · refine ⟨front, [], hfront, by simp, ?_⟩
    have happend : Text.withoutComment (line ++ (back ++ comment)) = Text.withoutComment line := by
      unfold Text.withoutComment at hline ⊢
      rw [List.takeWhile_append, if_neg hline]
    rw [happend, List.append_nil]

lemma Dressed.trim_eq {line row : Text} (h : Dressed line row) :
    Text.trim (Text.withoutComment row) = Text.trim (Text.withoutComment line) := by
  obtain ⟨front, back, hfront, hback, hrow⟩ := h.withoutComment
  rw [hrow, trim_append_blank fun c hc => isBlank_of_isSpacing (hback c hc),
    trim_blank_append fun c hc => isBlank_of_isSpacing (hfront c hc)]

/-- A row says what its line says. -/
theorem Dressed.read_eq {line row : Text} (h : Dressed line row) : Line.read row = Line.read line := by
  have htrim := h.trim_eq
  obtain ⟨front, back, hfront, hback, hrow⟩ := h.withoutComment
  have hcut : ∀ c, isSpacing c = false → Text.cut c (Text.withoutComment row) =
      (Text.cut c (Text.withoutComment line)).map fun parts =>
        (front ++ parts.1, parts.2 ++ back) := by
    intro c hc
    rw [hrow]
    exact cut_append_append (notMem_of_isSpacing hc hfront) (notMem_of_isSpacing hc hback) _
  unfold Line.read
  dsimp only
  rw [htrim, hcut '[' rfl]
  cases Text.cut '[' (Text.withoutComment line) with
  | some parts =>
    obtain ⟨before, rest⟩ := parts
    have hclose : Text.cut ']' (rest ++ back) =
        (Text.cut ']' rest).map fun parts => (parts.1, parts.2 ++ back) :=
      @cut_append_append ']' [] back List.not_mem_nil (notMem_of_isSpacing rfl hback) rest
    rw [Option.map_some]
    dsimp only
    rw [hclose]
    cases Text.cut ']' rest <;> rfl
  | none =>
    rw [Option.map_none]
    dsimp only
    split
    next => rfl
    next =>
      rw [hcut '=' rfl]
      cases Text.cut '=' (Text.withoutComment line) with
      | none => rfl
      | some parts =>
        obtain ⟨key, value⟩ := parts
        rw [Option.map_some]
        dsimp only
        rw [trim_blank_append fun c hc => isBlank_of_isSpacing (hfront c hc),
          trim_append_blank fun c hc => isBlank_of_isSpacing (hback c hc)]

theorem Dressed.item_eq {line row : Text} (h : Dressed line row) : Item.read row = Item.read line := by
  unfold Item.read
  rw [h.trim_eq]

lemma Dressed.newline_notMem {line row : Text} (h : Dressed line row) (hline : '\n' ∉ line) :
    '\n' ∉ row := by
  obtain ⟨hfront, hback, -, hnewline⟩ := h
  have hspacing : ∀ t : Text, (∀ c ∈ t, isSpacing c) → '\n' ∉ t := fun _ => notMem_of_isSpacing rfl
  exact List.not_mem_append (List.not_mem_append
    (List.not_mem_append (hspacing _ hfront) hline) (hspacing _ hback)) hnewline

/-! ### Rows of a file -/

/-- Rows with line feeds between them. -/
def joined (rows : List Text) : Text := ['\n'].intercalate rows

lemma lines_joined {rows : List Text} (hne : rows ≠ []) (h : ∀ row ∈ rows, '\n' ∉ row) :
    Text.lines (joined rows) = rows :=
  List.splitOn_intercalate '\n' h hne

/-- The rows are the lines and, among them, any number of rows that say nothing. -/
inductive Interspersed : List Text → List Text → Prop
  | nil : Interspersed [] []
  | kept (line) {lines rows} (h : Interspersed lines rows) :
      Interspersed (line :: lines) (line :: rows)
  | inserted {row lines rows} (hrow : Dressed [] row) (h : Interspersed lines rows) :
      Interspersed lines (row :: rows)

lemma Interspersed.refl (lines : List Text) : Interspersed lines lines := by
  induction lines with
  | nil => exact .nil
  | cons line _ ih => exact .kept line ih

lemma lines_joined_of_dressed {text : Text} {rows : List Text}
    (h : List.Forall₂ Dressed (Text.lines text) rows) : Text.lines (joined rows) = rows := by
  apply lines_joined
  · rintro rfl
    exact List.splitOn_ne_nil '\n' text (List.forall₂_nil_right_iff.1 h)
  · have hlines : ∀ line ∈ Text.lines text, '\n' ∉ line := fun _ => newline_notMem_of_mem_lines
    generalize Text.lines text = lines at h hlines
    induction h with
    | nil => simp
    | cons hrow _ ih =>
      rw [List.forall_mem_cons] at hlines ⊢
      exact ⟨hrow.newline_notMem hlines.1, ih hlines.2⟩

lemma lines_joined_of_interspersed {text : Text} {rows : List Text}
    (h : Interspersed (Text.lines text) rows) : Text.lines (joined rows) = rows := by
  apply lines_joined
  · rintro rfl
    generalize hlines : Text.lines text = lines at h
    cases h
    exact List.splitOn_ne_nil '\n' text hlines
  · have hlines : ∀ line ∈ Text.lines text, '\n' ∉ line := fun _ => newline_notMem_of_mem_lines
    generalize Text.lines text = lines at h hlines
    induction h with
    | nil => simp
    | kept line _ ih =>
      rw [List.forall_mem_cons] at hlines ⊢
      exact ⟨hlines.1, ih hlines.2⟩
    | inserted hrow _ ih =>
      rw [List.forall_mem_cons]
      exact ⟨hrow.newline_notMem List.not_mem_nil, ih hlines⟩

/-! ### Reading the rows -/

section Readers

variable {lines rows : List Text}

lemma readLines_of_dressed (h : List.Forall₂ Dressed lines rows) (d : Document)
    (current : Option Text) (number : Nat) :
    d.readLines current number rows = d.readLines current number lines := by
  induction h generalizing d current number with
  | nil => rfl
  | cons hrow _ ih =>
    rw [readLines_cons, readLines_cons, hrow.read_eq]
    congr 1
    funext next
    exact ih next.1 next.2 (number + 1)

lemma outline_readLines_of_dressed (h : List.Forall₂ Dressed lines rows) (o : Outline)
    (current : Text) : o.readLines current rows = o.readLines current lines := by
  induction h generalizing o current with
  | nil => rfl
  | cons hrow _ ih =>
    unfold Outline.readLines
    rw [hrow.item_eq]
    split <;> exact ih _ _

lemma outline_readLines_of_interspersed (h : Interspersed lines rows) (o : Outline)
    (current : Text) : o.readLines current rows = o.readLines current lines := by
  induction h generalizing o current with
  | nil => rfl
  | kept line _ ih =>
    unfold Outline.readLines
    split <;> exact ih _ _
  | inserted hrow _ ih =>
    have hskip : Item.read [] = .skip := rfl
    rw [Outline.readLines, hrow.item_eq, hskip]
    exact ih o current

/-- The same outcome, except that a fault may name another line. -/
inductive Renumbered {α : Type} : Except Fault α → Except Fault α → Prop
  | ok (a) : Renumbered (.ok a) (.ok a)
  | error (fault : Fault) (number : Nat) :
      Renumbered (.error fault) (.error { fault with line := number })

lemma Renumbered.bind {α β : Type} {x y : Except Fault α} {f g : α → Except Fault β}
    (h : Renumbered x y) (hrest : ∀ a, Renumbered (f a) (g a)) :
    Renumbered (x >>= f) (y >>= g) := by
  cases h with
  | ok a => exact hrest a
  | error fault number => exact .error fault number

lemma renumbered_afterLine (d : Document) (current : Option Text) (number other : Nat)
    (line : Line) : Renumbered (afterLine d current number line) (afterLine d current other line) := by
  cases line with
  | blank => exact .ok _
  | header name => exact .ok _
  | unclosed content => exact .error _ other
  | definition content key value =>
    cases current with
    | none => exact .error _ other
    | some name => exact .ok _
  | bare content => cases current <;> exact .error _ other

/-- Rows that say nothing leave the reader as it is, but for the number of the line it is at. -/
theorem renumbered_readLines (h : Interspersed lines rows) (d : Document)
    (current : Option Text) (number other : Nat) :
    Renumbered (d.readLines current number lines) (d.readLines current other rows) := by
  induction h generalizing d current number other with
  | nil => exact .ok d
  | kept line _ ih =>
    rw [readLines_cons, readLines_cons]
    apply (renumbered_afterLine d current number other _).bind
    intro next
    exact ih next.1 next.2 (number + 1) (other + 1)
  | inserted hrow _ ih =>
    have hblank : Line.read [] = .blank := rfl
    rw [readLines_cons, hrow.read_eq, hblank]
    exact ih d current number (other + 1)

end Readers

/-- Layout and comments do not matter. A file whose lines are dressed in spacing and comments is
read as the bare lines are, by both readers and by the validator, down to the fault that is found.
With any number of rows in between that say nothing, both readers still read the same, and only
the line of a fault may have another number. -/
theorem reading_of_relaid_text (text source : Text) :
    (∀ rows, List.Forall₂ Dressed (Text.lines text) rows →
      Document.parse (joined rows) source = Document.parse text source ∧
      Outline.read (joined rows) = Outline.read text ∧
      ∀ role, Validator.schema role (joined rows) source = Validator.schema role text source) ∧
    ∀ rows, Interspersed (Text.lines text) rows →
      Outline.read (joined rows) = Outline.read text ∧
      Renumbered (Document.parse text source) (Document.parse (joined rows) source) := by
  constructor
  · intro rows h
    have hlines := lines_joined_of_dressed h
    have houtline : Outline.read (joined rows) = Outline.read text := by
      unfold Outline.read
      rw [hlines, outline_readLines_of_dressed h]
    refine ⟨?_, houtline, ?_⟩
    · unfold Document.parse
      rw [hlines, readLines_of_dressed h]
    · intro role
      unfold Validator.schema Schema.check
      rw [houtline]
  · intro rows h
    have hlines := lines_joined_of_interspersed h
    constructor
    · unfold Outline.read
      rw [hlines, outline_readLines_of_interspersed h]
    · unfold Document.parse
      rw [hlines]
      exact renumbered_readLines h _ _ _ _

/-- A file whose last header is never closed. -/
def unclosedFile : Text := "[a]\nk = 1;x\n[b".toList

theorem reading_of_relaid_unclosedFile :
    List.Forall₂ Dressed (Text.lines unclosedFile)
      ["\t[a]\r".toList, " k = 1;x \x0b#[".toList, "[b\x0c ; ]".toList] ∧
    Document.parse "\t[a]\r\n k = 1;x \x0b#[\n[b\x0c ; ]".toList ['f'] =
      .error ⟨3, .unclosedHeader, "[b".toList⟩ ∧
    Interspersed (Text.lines unclosedFile)
      ["[a]".toList, " \r".toList, "k = 1;x".toList, "# [c]".toList, "[b".toList] ∧
    ∃ number, Document.parse "[a]\n \r\nk = 1;x\n# [c]\n[b".toList ['f'] =
      .error ⟨number, .unclosedHeader, "[b".toList⟩ := by
  have hparse : Document.parse unclosedFile ['f'] = .error ⟨3, .unclosedHeader, "[b".toList⟩ := rfl
  have hdressed : List.Forall₂ Dressed (Text.lines unclosedFile)
      ["\t[a]\r".toList, " k = 1;x \x0b#[".toList, "[b\x0c ; ]".toList] := by
    refine .cons ?_ (.cons ?_ (.cons ?_ .nil))
    · exact @Dressed.intro _ ['\t'] [] ['\r'] (by simp [isSpacing]) (by simp)
        (by simp [Text.startsComment]) (by simp)
    · exact @Dressed.intro _ [' '] " \x0b".toList "#[".toList (by simp [isSpacing])
        (by simp [isSpacing]) (by simp [Text.startsComment]) (by simp)
    · exact @Dressed.intro _ [] "\x0c ".toList "; ]".toList (by simp) (by simp [isSpacing])
        (by simp [Text.startsComment]) (by simp)
  have hspread : Interspersed (Text.lines unclosedFile)
      ["[a]".toList, " \r".toList, "k = 1;x".toList, "# [c]".toList, "[b".toList] := by
    refine .kept _ (.inserted ?_ (.kept _ (.inserted ?_ (.kept _ .nil))))
    · exact @Dressed.intro _ [' '] [] ['\r'] (by simp [isSpacing]) (by simp)
        (by simp [Text.startsComment]) (by simp)
    · exact @Dressed.intro _ [] [] "# [c]".toList (by simp) (by simp)
        (by simp [Text.startsComment]) (by simp)
  obtain ⟨hsame, hsaid⟩ := reading_of_relaid_text unclosedFile ['f']
  refine ⟨hdressed, (hsame _ hdressed).1.trans hparse, hspread, ?_⟩
  have hrenumbered := (hsaid _ hspread).2
  rw [hparse] at hrenumbered
  generalize hother : Document.parse (joined _) ['f'] = other at hrenumbered
  cases hrenumbered with
  | error _ number => exact ⟨number, hother⟩

end TraceSnapshot.Proofs
