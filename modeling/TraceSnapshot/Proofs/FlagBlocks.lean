import Mathlib.Data.List.Basic
import Mathlib.Tactic.Lemma
import TraceSnapshot.CommandLine
import TraceSnapshot.Proofs.TextParts
import TraceSnapshot.Proofs.Traversal

/-!
# Blocks of a command line

A command line is accepted if it is a row of blocks, each a flag with its value or the switch, and
nothing else stands in the place of a flag. Then it says what the last block of each flag says.
-/

namespace TraceSnapshot.Proofs
open CommandLine

/-! ### Values -/

/-- Digits of any script, with or without a point in front of the last of them. -/
inductive Decimal : Text → Prop
  | whole {digits} (hne : digits ≠ [])
      (hdigits : ∀ c ∈ digits, CharClass.decimalDigit.contains c) : Decimal digits
  | fractional {whole fraction} (hwhole : ∀ c ∈ whole, CharClass.decimalDigit.contains c)
      (hne : fraction ≠ []) (hfraction : ∀ c ∈ fraction, CharClass.decimalDigit.contains c) :
      Decimal (whole ++ '.' :: fraction)

/-- A decimal after a minus sign. A line feed may end it. -/
def NegativeNumber (t : Text) : Prop :=
  ∃ number ending, Decimal number ∧ (ending = [] ∨ ending = ['\n']) ∧ t = '-' :: (number ++ ending)

/-- The three tokens that are flags. -/
def flagTexts : List Text := [ValueFlag.directory.text, ValueFlag.output.text, quietFlag]

/-- A text that can be the value of a flag. With a minus sign in front it has to be a number, or to
hold a space and not to look like one of the flags. -/
def Admissible (t : Text) : Prop :=
  t.head? ≠ some '-' ∨ t = ['-'] ∨ NegativeNumber t ∨
    ' ' ∈ t ∧ ¬ ValueFlag.output.text <+: t ∧ ∀ flag ∈ flagTexts, ¬ flag ++ ['='] <+: t

lemma decimal_iff_cut {t : Text} : Decimal t ↔
    match Text.cut '.' t with
    | none => t ≠ [] ∧ ∀ c ∈ t, CharClass.decimalDigit.contains c
    | some (whole, fraction) => (∀ c ∈ whole, CharClass.decimalDigit.contains c) ∧
        fraction ≠ [] ∧ ∀ c ∈ fraction, CharClass.decimalDigit.contains c := by
  have hpoint : CharClass.decimalDigit.contains '.' = false := by decide
  have hdigits : ∀ digits : Text, (∀ c ∈ digits, CharClass.decimalDigit.contains c) →
      '.' ∉ digits := by
    intro digits h hmem
    rw [h '.' hmem] at hpoint
    cases hpoint
  constructor
  · intro h
    cases h with
    | whole hne hwhole =>
      rw [cut_eq_none_iff.2 (hdigits _ hwhole)]
      exact ⟨hne, hwhole⟩
    | fractional hwhole hne hfraction =>
      rw [cut_eq_some_iff.2 ⟨rfl, hdigits _ hwhole⟩]
      exact ⟨hwhole, hne, hfraction⟩
  · intro h
    split at h
    next => exact .whole h.1 h.2
    next whole fraction hcut =>
      obtain ⟨rfl, -⟩ := cut_eq_some_iff.1 hcut
      exact .fractional h.1 h.2.1 h.2.2

lemma getLast?_ne_newline_of_decimal {t : Text} (h : Decimal t) : t.getLast? ≠ some '\n' := by
  have hnewline : CharClass.decimalDigit.contains '\n' = false := by decide
  intro hlast
  have hdigit : CharClass.decimalDigit.contains '\n' = true := by
    cases h with
    | whole hne hdigits => exact hdigits _ (List.mem_of_getLast? hlast)
    | fractional hwhole hne hfraction =>
      rw [List.getLast?_append_of_ne_nil _ (List.cons_ne_nil _ _),
        List.getLast?_cons_of_ne_nil hne] at hlast
      exact hfraction _ (List.mem_of_getLast? hlast)
  rw [hdigit] at hnewline
  cases hnewline

/-- The text without a line feed at its end. -/
def withoutNewline (t : Text) : Text := if t.getLast? = some '\n' then t.dropLast else t

lemma isNegativeNumber_cons_iff {t : Text} :
    isNegativeNumber ('-' :: t) = true ↔ Decimal (withoutNewline t) := by
  rw [decimal_iff_cut]
  unfold isNegativeNumber
  dsimp only
  change (match Text.cut '.' (withoutNewline t) with
    | none => !(withoutNewline t).isEmpty && (withoutNewline t).all CharClass.decimalDigit.contains
    | some (whole, fraction) => whole.all CharClass.decimalDigit.contains && !fraction.isEmpty &&
        fraction.all CharClass.decimalDigit.contains) = true ↔ _
  cases Text.cut '.' (withoutNewline t) with
  | none => simp
  | some parts => simp [and_assoc]

lemma isNegativeNumber_iff {t : Text} : isNegativeNumber t = true ↔ NegativeNumber t := by
  constructor
  · intro h
    obtain ⟨rest, rfl⟩ : ∃ rest, t = '-' :: rest := by
      unfold isNegativeNumber at h
      split at h
      next rest => exact ⟨rest, rfl⟩
      next => cases h
    rw [isNegativeNumber_cons_iff] at h
    unfold withoutNewline at h
    by_cases hlast : rest.getLast? = some '\n'
    · obtain ⟨number, rfl⟩ := List.getLast?_eq_some_iff.1 hlast
      rw [if_pos hlast, List.dropLast_concat] at h
      exact ⟨number, ['\n'], h, .inr rfl, rfl⟩
    · rw [if_neg hlast] at h
      exact ⟨rest, [], h, .inl rfl, by rw [List.append_nil]⟩
  · rintro ⟨number, ending, hnumber, hending, rfl⟩
    rw [isNegativeNumber_cons_iff]
    have hlast := getLast?_ne_newline_of_decimal hnumber
    rcases hending with rfl | rfl
    · rw [List.append_nil]
      unfold withoutNewline
      rwa [if_neg hlast]
    · unfold withoutNewline
      rwa [List.getLast?_concat, if_pos rfl, List.dropLast_concat]

lemma mem_flagTexts_iff {t : Text} : t ∈ flagTexts ↔ ∃ token, (t, token) ∈ flags := by
  have hflags : flagTexts = flags.map Prod.fst := rfl
  simp [hflags]

lemma assignsFlag_iff {t : Text} :
    assignsFlag t = true ↔ ∃ flag ∈ flagTexts, flag ++ ['='] <+: t := by
  unfold assignsFlag
  simp only [List.any_eq_true, List.isPrefixOf_iff_prefix, Prod.exists, mem_flagTexts_iff]
  constructor
  · rintro ⟨flag, token, hmem, hprefix⟩
    exact ⟨flag, ⟨token, hmem⟩, hprefix⟩
  · rintro ⟨flag, ⟨token, hmem⟩, hprefix⟩
    exact ⟨flag, token, hmem, hprefix⟩

lemma isValue_iff {t : Text} : isValue t = true ↔ Admissible t := by
  unfold isValue Admissible
  simp only [Bool.or_eq_true, Bool.and_eq_true, Bool.not_eq_true', bne_iff_ne, beq_iff_eq,
    isNegativeNumber_iff, List.contains_iff_mem, or_assoc, and_assoc]
  rw [← Bool.not_eq_true, ← Bool.not_eq_true, List.isPrefixOf_iff_prefix, assignsFlag_iff]
  simp only [not_exists, not_and]

/-! ### Blocks -/

/-- A flag with its value, or the switch. -/
inductive Block where
  | valued (flag : ValueFlag) (value : Text)
  | quiet
  deriving DecidableEq

namespace Block

def tokens : Block → List Text
  | valued flag value => [flag.text, value]
  | quiet => [quietFlag]

/-- The value that a block gives to a flag. -/
def value? (flag : ValueFlag) : Block → Option Text
  | valued other value => if other = flag then some value else none
  | quiet => none

end Block

/-- The tokens of blocks in a row. -/
def rowOf (blocks : List Block) : List Text := blocks.flatMap Block.tokens

/-- The value that the last block of a flag gives to it. -/
def lastValue? (flag : ValueFlag) (blocks : List Block) : Option Text :=
  (blocks.filterMap (Block.value? flag)).getLast?

/-- What a row of blocks asks for. Each value is admissible, and the last one of each flag is not
empty. -/
structure AsksFor (blocks : List Block) (a : Arguments) : Prop where
  admissible : ∀ flag value, Block.valued flag value ∈ blocks → Admissible value
  directory : lastValue? .directory blocks = some a.directory
  directory_nonempty : a.directory ≠ []
  output : lastValue? .output blocks = some a.output
  output_nonempty : a.output ≠ []
  quiet : a.quiet = true ↔ .quiet ∈ blocks

lemma ofText_flag (flag : ValueFlag) : Token.ofText flag.text = .value flag := by
  cases flag <;> rfl

/-- What is no flag is told from its first character. -/
lemma ofText_of_notMem {t : Text} (h : t ∉ flagTexts) :
    Token.ofText t = if t.head? = some '-' then .unknownFlag else .word := by
  have hlookup : flags.lookup t = none := by
    rw [List.lookup_eq_none_iff]
    intro pair hpair
    have hmem : pair.1 ∈ flagTexts := mem_flagTexts_iff.2 ⟨pair.2, hpair⟩
    simp only [bne_iff_ne, ne_eq]
    rintro rfl
    exact h hmem
  unfold Token.ofText
  rw [hlookup]
  split
  next heq => cases heq
  next => rfl
  next hdash =>
    rw [if_neg]
    intro hhead
    obtain ⟨rest, rfl⟩ := List.head?_eq_some_iff.1 hhead
    exact hdash rest rfl

lemma eq_text_of_ofText {t : Text} {flag : ValueFlag} (h : Token.ofText t = .value flag) :
    t = flag.text := by
  by_cases hmem : t ∈ flagTexts
  · simp only [flagTexts, List.mem_cons, List.not_mem_nil, or_false] at hmem
    rcases hmem with rfl | rfl | rfl
    · rw [ofText_flag] at h
      cases h
      rfl
    · rw [ofText_flag] at h
      cases h
      rfl
    · cases h
  · rw [ofText_of_notMem hmem] at h
    split at h <;> cases h

lemma eq_quietFlag_of_ofText {t : Text} (h : Token.ofText t = .quiet) : t = quietFlag := by
  by_cases hmem : t ∈ flagTexts
  · simp only [flagTexts, List.mem_cons, List.not_mem_nil, or_false] at hmem
    rcases hmem with rfl | rfl | rfl
    · cases h
    · cases h
    · rfl
  · rw [ofText_of_notMem hmem] at h
    split at h <;> cases h

/-! ### Scanning blocks -/

/-- What was read, after one more block. -/
def scanBlock (s : Scan) : Block → Scan
  | .valued flag value => s.set flag value
  | .quiet => { s with quiet := true }

def scanRow (s : Scan) (blocks : List Block) : Scan := blocks.foldl scanBlock s

variable {s s' : Scan} {tokens : List Text} {blocks : List Block}

lemma read_flag (s : Scan) (flag : ValueFlag) (value : Text) (rest : List Text) :
    s.read (flag.text :: value :: rest) =
      if isValue value then (s.set flag value).read rest else .error (.missingValue flag) := by
  rw [Scan.read.eq_def]
  dsimp only
  rw [ofText_flag]

lemma read_quietFlag (s : Scan) (rest : List Text) :
    s.read (quietFlag :: rest) = Scan.read { s with quiet := true } rest := by
  rw [Scan.read.eq_def]
  rfl

/-- A row of blocks is read block by block. -/
lemma read_rowOf (hvalues : ∀ flag value, Block.valued flag value ∈ blocks → Admissible value) :
    s.read (rowOf blocks) = .ok (scanRow s blocks) := by
  induction blocks generalizing s with
  | nil => rfl
  | cons block blocks ih =>
    have ih := @ih (scanBlock s block) fun flag value h =>
      hvalues flag value (List.mem_cons_of_mem _ h)
    -- A block is one step of the scan, of two tokens or of one.
    cases block with
    | valued flag value =>
      have hvalue : isValue value = true := isValue_iff.2 (hvalues flag value List.mem_cons_self)
      change s.read (flag.text :: value :: rowOf blocks) = _
      rw [read_flag, if_pos hvalue]
      exact ih
    | quiet =>
      change s.read (quietFlag :: rowOf blocks) = _
      rw [read_quietFlag]
      exact ih

/-- Words are only ever added. -/
lemma words_isPrefix_of_read (h : s.read tokens = .ok s') : s.words <+: s'.words := by
  fun_induction Scan.read s tokens with
  | case1 =>
    cases h
    exact List.prefix_refl _
  | case2 s token flag value rest _ _ ih =>
    have hwords : (s.set flag value).words = s.words := by cases flag <;> rfl
    exact hwords ▸ ih h
  | case5 s token rest _ ih => exact ih h
  | case6 s token rest _ ih => exact (List.prefix_append _ _).trans (ih h)
  | case3 | case4 | case7 => cases h

/-- A command line that is read without any words is a row of blocks. -/
lemma exists_blocks_of_read (h : s.read tokens = .ok s') (hwords : s'.words = []) :
    ∃ blocks, tokens = rowOf blocks ∧
      (∀ flag value, Block.valued flag value ∈ blocks → Admissible value) ∧
      s' = scanRow s blocks := by
  fun_induction Scan.read s tokens with
  | case1 =>
    cases h
    exact ⟨[], rfl, by simp, rfl⟩
  | case2 s token flag value rest htoken hvalue ih =>
    obtain ⟨blocks, rfl, hvalues, rfl⟩ := ih h
    refine ⟨.valued flag value :: blocks, ?_, ?_, rfl⟩
    · rw [eq_text_of_ofText htoken]
      rfl
    · intro flag' value' hmem
      rcases List.mem_cons.1 hmem with heq | hmem
      · cases heq
        exact isValue_iff.1 hvalue
      · exact hvalues flag' value' hmem
  | case5 s token rest htoken ih =>
    obtain ⟨blocks, rfl, hvalues, rfl⟩ := ih h
    refine ⟨.quiet :: blocks, ?_, ?_, rfl⟩
    · rw [eq_quietFlag_of_ofText htoken]
      rfl
    · intro flag value hmem
      rcases List.mem_cons.1 hmem with heq | hmem
      · cases heq
      · exact hvalues flag value hmem
  | case6 s token rest _ ih =>
    -- A word is kept to the end, and at the end there is none.
    have hprefix := words_isPrefix_of_read h
    rw [hwords] at hprefix
    simp at hprefix
  | case3 | case4 | case7 => cases h

lemma unknownFlag?_rowOf (blocks : List Block) : unknownFlag? (rowOf blocks) = none := by
  induction blocks with
  | nil => rfl
  | cons block blocks ih =>
    cases block with
    | valued flag value =>
      change unknownFlag? (flag.text :: value :: rowOf blocks) = none
      rw [unknownFlag?.eq_def]
      dsimp only
      rw [ofText_flag]
      exact ih
    | quiet =>
      change unknownFlag? (quietFlag :: rowOf blocks) = none
      rw [unknownFlag?.eq_def]
      exact ih

/-! ### What the blocks say -/

/-- What was read for a flag. -/
def scannedValue? (s : Scan) : ValueFlag → Option Text
  | .directory => s.directory
  | .output => s.output

lemma lastValue?_cons (flag : ValueFlag) (block : Block) (blocks : List Block) :
    lastValue? flag (block :: blocks) = (lastValue? flag blocks).or (block.value? flag) := by
  unfold lastValue?
  cases hvalue : block.value? flag with
  | none => rw [List.filterMap_cons_none hvalue, Option.or_none]
  | some value =>
    rw [List.filterMap_cons_some hvalue, List.getLast?_cons]
    cases (blocks.filterMap (Block.value? flag)).getLast? <;> rfl

lemma scannedValue?_scanBlock (s : Scan) (block : Block) (flag : ValueFlag) :
    scannedValue? (scanBlock s block) flag = (block.value? flag).or (scannedValue? s flag) := by
  cases block with
  | valued other value => cases flag <;> cases other <;> rfl
  | quiet => cases flag <;> rfl

lemma scannedValue?_scanRow (s : Scan) (blocks : List Block) (flag : ValueFlag) :
    scannedValue? (scanRow s blocks) flag = (lastValue? flag blocks).or (scannedValue? s flag) := by
  induction blocks generalizing s with
  | nil => rfl
  | cons block blocks ih =>
    change scannedValue? (scanRow (scanBlock s block) blocks) flag = _
    rw [ih, scannedValue?_scanBlock, lastValue?_cons, Option.or_assoc]

lemma quiet_scanRow (s : Scan) (blocks : List Block) :
    (scanRow s blocks).quiet = true ↔ s.quiet = true ∨ .quiet ∈ blocks := by
  induction blocks generalizing s with
  | nil => simp [scanRow]
  | cons block blocks ih =>
    change (scanRow (scanBlock s block) blocks).quiet = true ↔ _
    rw [ih]
    cases block with
    | valued flag value => cases flag <;> simp [scanBlock, Scan.set]
    | quiet => simp [scanBlock]

lemma words_scanRow (s : Scan) (blocks : List Block) : (scanRow s blocks).words = s.words := by
  induction blocks generalizing s with
  | nil => rfl
  | cons block blocks ih =>
    change (scanRow (scanBlock s block) blocks).words = _
    rw [ih]
    cases block with
    | valued flag value => cases flag <;> rfl
    | quiet => rfl

lemma arguments_eq_ok_iff {a : Arguments} : s.arguments = .ok a ↔
    s.words = [] ∧ s.directory = some a.directory ∧ a.directory ≠ [] ∧
      s.output = some a.output ∧ a.output ≠ [] ∧ a.quiet = s.quiet := by
  obtain ⟨directory, output, quiet⟩ := a
  unfold Scan.arguments
  constructor
  · intro h
    split at h
    next => cases h
    next => cases h
    next => cases h
    next hdirectory houtput =>
      split at h
      next => cases h
      next hwords =>
        split at h
        next => cases h
        next hempty =>
          cases h
          have hwords : s.words = [] := by simpa using hwords
          have hempty : directory ≠ [] ∧ output ≠ [] := by simpa using hempty
          exact ⟨hwords, hdirectory, hempty.1, houtput, hempty.2, rfl⟩
  · rintro ⟨hwords, hdirectory, hdirectory_ne, houtput, houtput_ne, rfl⟩
    rw [hdirectory, houtput]
    dsimp only
    rw [hwords]
    simp [hdirectory_ne, houtput_ne]

lemma arguments_scanRow_iff {a : Arguments} :
    (scanRow ⟨none, none, false, []⟩ blocks).arguments = .ok a ↔
      lastValue? .directory blocks = some a.directory ∧ a.directory ≠ [] ∧
      lastValue? .output blocks = some a.output ∧ a.output ≠ [] ∧
      (a.quiet = true ↔ .quiet ∈ blocks) := by
  have hvalue : ∀ flag, scannedValue? (scanRow ⟨none, none, false, []⟩ blocks) flag =
      lastValue? flag blocks := by
    intro flag
    rw [scannedValue?_scanRow]
    cases flag <;> exact Option.or_none
  have hdirectory : (scanRow ⟨none, none, false, []⟩ blocks).directory =
      lastValue? .directory blocks := hvalue .directory
  have houtput : (scanRow ⟨none, none, false, []⟩ blocks).output = lastValue? .output blocks :=
    hvalue .output
  have hquiet := quiet_scanRow ⟨none, none, false, []⟩ blocks
  rw [arguments_eq_ok_iff, words_scanRow, hdirectory, houtput, Bool.eq_iff_iff, hquiet]
  simp

lemma parse_arguments_eq_ok_iff {a : Arguments} :
    Arguments.parse tokens = .ok a ↔ ∃ blocks, tokens = rowOf blocks ∧ AsksFor blocks a := by
  unfold Arguments.parse
  constructor
  · intro h
    split at h
    next => cases h
    next =>
      obtain ⟨s, hread, hs⟩ := bind_eq_ok_iff.1 h
      have hwords := (arguments_eq_ok_iff.1 hs).1
      obtain ⟨blocks, rfl, hvalues, rfl⟩ := exists_blocks_of_read hread hwords
      obtain ⟨hdirectory, hdirectory_ne, houtput, houtput_ne, hquiet⟩ :=
        arguments_scanRow_iff.1 hs
      exact ⟨blocks, rfl, hvalues, hdirectory, hdirectory_ne, houtput, houtput_ne, hquiet⟩
  · rintro ⟨blocks, rfl, h⟩
    rw [unknownFlag?_rowOf]
    dsimp only
    rw [read_rowOf h.admissible]
    exact arguments_scanRow_iff.2
      ⟨h.directory, h.directory_nonempty, h.output, h.output_nonempty, h.quiet⟩

/-- A row is read block by block in one way only. -/
lemma tokens_append_inj {b c : Block} {xs ys : List Text}
    (h : b.tokens ++ xs = c.tokens ++ ys) : xs = ys := by
  cases b with
  | valued flag value =>
    cases c with
    | valued other value' => exact (List.cons.inj (List.cons.inj h).2).2
    | quiet =>
      have hflag : flag.text = quietFlag := (List.cons.inj h).1
      cases flag <;> exact absurd hflag (by decide)
  | quiet =>
    cases c with
    | valued flag value =>
      have hflag : quietFlag = flag.text := (List.cons.inj h).1
      cases flag <;> exact absurd hflag (by decide)
    | quiet => exact (List.cons.inj h).2

lemma head_mem_flagTexts {b : Block} {token : Text} {xs rest : List Text}
    (h : b.tokens ++ xs = token :: rest) : token ∈ flagTexts := by
  cases b with
  | valued flag value =>
    rw [← (List.cons.inj h).1]
    cases flag <;> decide
  | quiet =>
    rw [← (List.cons.inj h).1]
    decide

/-- Behind a row of blocks stands a flag or nothing. -/
lemma rowOf_ne_append_cons {before : List Block} {token : Text} {rest : List Text}
    (htoken : token ∉ flagTexts) : rowOf blocks ≠ rowOf before ++ token :: rest := by
  unfold rowOf
  intro h
  -- Both rows lose their first block until the token comes first, where only a flag can stand.
  induction before generalizing blocks with
  | nil =>
    cases blocks with
    | nil => cases h
    | cons block blocks => exact htoken (head_mem_flagTexts h)
  | cons first before ih =>
    rw [List.flatMap_cons, List.append_assoc] at h
    cases blocks with
    | nil => cases first <;> cases h
    | cons block blocks => exact ih (tokens_append_inj h)

/-- A command line is accepted if and only if it is a row of blocks that gives each flag a last value
that is not empty. Any other is a usage error, and so is a row of blocks with a token behind it that
is no flag, whether it is a word or has a flag and more in one. -/
theorem parse_accepts_blocks :
    (∀ tokens a, Arguments.parse tokens = .ok a ↔
      ∃ blocks, tokens = rowOf blocks ∧ AsksFor blocks a) ∧
    (∀ tokens, (¬ ∃ blocks a, tokens = rowOf blocks ∧ AsksFor blocks a) →
      ∃ e, Arguments.parse tokens = .error e ∧ e.report.code = .usage ∧ e.report.source = none) ∧
    ∀ before token rest, token ∉ flagTexts →
      ∀ a, Arguments.parse (rowOf before ++ token :: rest) ≠ .ok a := by
  refine ⟨fun _ _ => parse_arguments_eq_ok_iff, ?_, ?_⟩
  · intro tokens hnone
    cases hresult : Arguments.parse tokens with
    | ok a =>
      obtain ⟨blocks, htokens, h⟩ := parse_arguments_eq_ok_iff.1 hresult
      exact absurd ⟨blocks, a, htokens, h⟩ hnone
    | error e => exact ⟨e, rfl, rfl, rfl⟩
  · intro before token rest htoken a hresult
    obtain ⟨blocks, htokens, -⟩ := parse_arguments_eq_ok_iff.1 hresult
    exact rowOf_ne_append_cons htoken htokens.symm

/-- A flag that is joined to its value is no flag, and no block either. -/
theorem parse_refuses_assignment : "-o=f".toList ∉ flagTexts ∧
    (∀ a, Arguments.parse ["-ss_dir".toList, ['s'], "-o=f".toList] ≠ .ok a) ∧
    ∃ e, Arguments.parse ["-ss_dir".toList, ['s'], "-o=f".toList] = .error e ∧
      e.report.code = .usage ∧ e.report.source = none := by
  have hnever := parse_accepts_blocks.2.2 [.valued .directory ['s']] "-o=f".toList [] (by decide)
  refine ⟨by decide, hnever, parse_accepts_blocks.2.1 _ ?_⟩
  rintro ⟨blocks, a, htokens, h⟩
  exact hnever a ((parse_accepts_blocks.1 _ a).2 ⟨blocks, htokens, h⟩)

end TraceSnapshot.Proofs
