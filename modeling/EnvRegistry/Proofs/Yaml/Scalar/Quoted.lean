import EnvRegistry.Proofs.Yaml.Scalar.Plain
import EnvRegistry.Yaml.Scalar.Quoted
import Mathlib.Tactic.Ring
import Mathlib.Tactic.SplitIfs

/-! # Quoted scalars come back

    Between single quotes a quote is doubled and a break is followed by the
    spaces that the next line begins with (`scanSingleQuoted_written`).  Between
    double quotes whatever cannot be seen is escaped, so that such a scalar never
    leaves its line (`scanDoubleQuoted_written`). -/

namespace EnvRegistry.Yaml

/-- No marker stands inside a line. -/
theorem markerInQuotes_inside {pos : Position} (hcolumn : pos.column ≠ 0) (gap : Gap)
    (cs : List Char) : markerInQuotes gap pos cs = false := by
  simp [markerInQuotes, hcolumn]

/-! ## Section 1: Single quotes -/

section SingleQuoted

variable {indent : Nat} {tail : List Char}

theorem scanSingleQuoted_cons {c : Char} (hreturn : c ≠ '\r') (hquote : c ≠ '\'')
    (text : List Char) (gap : Gap) (pos : Position) (rest : List Char) :
    scanSingleQuoted text gap pos (c :: rest) =
      if isBlank c then scanSingleQuoted text (gap.addBlank c) (pos.forward 1) rest
      else if isBreak c then scanSingleQuoted text (gap.addBreak c) (pos.newLine 1) rest
      else if markerInQuotes gap pos (c :: rest) then .error .markerInQuotes
      else scanSingleQuoted (text ++ gap.value ++ [c]) .none (pos.after c) rest := by
  rw [scanSingleQuoted]
  · intro rest' hc
    exact absurd hc hreturn
  · intro rest' hc
    exact absurd hc hquote
  · intro hc
    exact absurd hc hquote

/-- A character of the text, as it stands between single quotes. -/
def singleQuotedChar (c : Char) : List Char := if c = '\'' then ['\'', '\''] else [c]

theorem scanSingleQuoted_space (text : List Char) (gap : Gap) (pos : Position) (rest : List Char) :
    scanSingleQuoted text gap pos (' ' :: rest) =
      scanSingleQuoted text (gap.addBlank ' ') (pos.forward 1) rest := by
  rw [scanSingleQuoted_cons (by decide) (by decide)]
  rfl

theorem scanSingleQuoted_break {c : Char} (hshown : isPrintable c = true)
    (hbreak : isBreak c = true) (text : List Char) (gap : Gap) (pos : Position)
    (rest : List Char) :
    scanSingleQuoted text gap pos (c :: rest) =
      scanSingleQuoted text (gap.addBreak c) (pos.newLine 1) rest := by
  have hquote : c ≠ '\'' := by
    rintro rfl
    revert hbreak
    decide
  have hspace : isBlank c = false := by
    rw [isBlank_eq_isSpace hshown]
    refine Bool.eq_false_iff.mpr fun hc => ?_
    rw [eq_space hc] at hbreak
    revert hbreak
    decide
  rw [scanSingleQuoted_cons (ne_return hshown) hquote, hspace, hbreak]
  rfl

/-- The spaces that a line begins with say nothing. -/
theorem scanSingleQuoted_spaces {gap : Gap} (hbroken : gap.broken = true) (text : List Char)
    (n : Nat) (pos : Position) (rest : List Char) :
    scanSingleQuoted text gap pos (spaces n ++ rest) =
      scanSingleQuoted text gap (pos.forward n) rest := by
  induction n generalizing pos with
  | zero => rfl
  | succ n ih =>
    have hgap : gap.addBlank ' ' = gap := by rw [Gap.addBlank, if_pos hbroken]
    rw [spaces, List.replicate_succ, List.cons_append, scanSingleQuoted_space, hgap, ← spaces, ih,
      Position.forward_forward, Nat.add_comm]

/-- A character that is no blank and no break ends the gap before it. -/
theorem scanSingleQuoted_char {c : Char} (hshown : isPrintable c = true)
    (hbreak : isBreak c = false) (hspace : isSpace c = false) (text : List Char) (gap : Gap)
    {pos : Position} (hcolumn : pos.column ≠ 0) (rest : List Char) :
    ∃ pos' : Position, pos'.column ≠ 0 ∧
      scanSingleQuoted text gap pos (singleQuotedChar c ++ rest) =
        scanSingleQuoted (text ++ gap.value ++ [c]) .none pos' rest := by
  by_cases hquote : c = '\''
  · subst hquote
    refine ⟨pos.forward 2, Nat.succ_ne_zero _, ?_⟩
    rw [singleQuotedChar, if_pos rfl]
    exact scanSingleQuoted.eq_3 text gap pos rest
  · refine ⟨pos.after c, Nat.succ_ne_zero _, ?_⟩
    rw [singleQuotedChar, if_neg hquote, List.singleton_append,
      scanSingleQuoted_cons (ne_return hshown) hquote, isBlank_eq_isSpace hshown, hspace, hbreak,
      markerInQuotes_inside hcolumn]
    rfl

/-- What is left of a text between single quotes. -/
structure QuotedRest (cs : List Char) : Prop where
  shown : ∀ c ∈ cs, isPrintable c = true
  single : ∀ c ∈ cs, c ≠ '\n'
  spaces : hasNeighbours isSpace isBreak cs = false
  breaks : hasNeighbours isBreak isSpace cs = false

theorem QuotedRest.of_cons {c : Char} {cs : List Char} (h : QuotedRest (c :: cs)) :
    QuotedRest cs := by
  have hshorter (p q : Char → Bool) (hneighbours : hasNeighbours p q (c :: cs) = false) :
      hasNeighbours p q cs = false := by
    cases cs with
    | nil => rfl
    | cons d cs => exact (hasNeighbours_cons hneighbours).2
  exact ⟨fun d hd => h.shown d (List.mem_cons_of_mem _ hd),
    fun d hd => h.single d (List.mem_cons_of_mem _ hd), hshorter _ _ h.spaces,
    hshorter _ _ h.breaks⟩

theorem head_of_hasNeighbours {p q : Char → Bool} {c : Char} {cs : List Char}
    (h : hasNeighbours p q (c :: cs) = false) (hc : p c = true) : cs.head?.any q = false := by
  cases cs with
  | nil => rfl
  | cons d cs => exact (hasNeighbours_cons h).1 hc

theorem scanSingleQuoted_close (htail : tail.head? ≠ some '\'') (text : List Char) (gap : Gap)
    (pos : Position) :
    scanSingleQuoted text gap pos ('\'' :: tail) =
      .ok ⟨text ++ gap.value, false, ⟨pos.forward 1, tail⟩⟩ := by
  rw [scanSingleQuoted]
  rintro rest rfl
  exact htail rfl

/-- A separator of lines or paragraphs is kept as it is. -/
theorem gap_value_separator {b : Char} (hb : b ≠ '\n') (later : List Char) :
    Gap.value { broken := true, first := some b, later } = b :: later := by
  simp only [Gap.value, if_true]
  split
  next heq => exact absurd (Option.some.inj heq) hb
  next => rfl

theorem singleQuotedFrom_char {c : Char} (hbreak : isBreak c = false) (afterBreak : Bool)
    (rest : List Char) :
    singleQuotedFrom indent afterBreak (c :: rest) =
      (if afterBreak then spaces indent else []) ++
        (singleQuotedChar c ++ singleQuotedFrom indent false rest) := by
  rw [singleQuotedFrom, hbreak, if_neg Bool.false_ne_true, List.append_assoc, singleQuotedChar]

/-- The gap before what is left of a text: spaces of the line that is being read, or the breaks
before a line of which no more than the spaces that it begins with have been read. -/
inductive GapBefore (pos : Position) (cs : List Char) : Gap → Prop
  | inLine {blanks : List Char} : (blanks ≠ [] → cs.head?.any isBreak = false) →
      pos.column ≠ 0 → GapBefore pos cs { blanks }
  | between {b : Char} {later : List Char} : b ≠ '\n' → cs.head?.any isSpace = false →
      GapBefore pos cs { broken := true, first := some b, later }

namespace GapBefore

variable {c : Char} {cs : List Char} {gap : Gap} {pos : Position}

theorem none (hcolumn : pos.column ≠ 0) : GapBefore pos cs .none :=
  inLine (fun hne => absurd rfl hne) hcolumn

/-- A break that is kept follows no space. -/
theorem addBreak (h : GapBefore pos (c :: cs) gap) (hbreak : isBreak c = true)
    (hshown : isPrintable c = true) (hsingle : c ≠ '\n') (hnext : cs.head?.any isSpace = false)
    (pos' : Position) :
    GapBefore pos' cs (gap.addBreak c) ∧ (gap.addBreak c).value = gap.value ++ [c] ∧
      (gap.addBreak c).broken = true := by
  have hself := breakValue_self hbreak hshown
  cases h with
  | @inLine blanks hblanks _ =>
    -- A break follows no space, so there are no blanks to be dropped.
    have hnone : blanks = [] := by
      by_contra hsome
      have := hblanks hsome
      rw [List.head?_cons, Option.any_some, hbreak] at this
      cases this
    rw [Gap.addBreak, if_neg Bool.false_ne_true, hself, hnone]
    exact ⟨between hsingle hnext, gap_value_separator hsingle [], rfl⟩
  | between hb _ =>
    rw [Gap.addBreak, if_pos rfl, hself]
    exact ⟨between hb hnext, by
      rw [gap_value_separator hb, gap_value_separator hb, List.cons_append], rfl⟩

/-- A space follows no break, and no break follows it. -/
theorem addSpace (h : GapBefore pos (c :: cs) gap) (hspace : isSpace c = true)
    (hnext : cs.head?.any isBreak = false) :
    GapBefore (pos.forward 1) cs (gap.addBlank ' ') ∧
      (gap.addBlank ' ').value = gap.value ++ [' '] ∧
      gap.broken = false ∧ (gap.addBlank ' ').broken = false := by
  cases h with
  | inLine _ _ => exact ⟨inLine (fun _ => hnext) (Nat.succ_ne_zero _), rfl, rfl, rfl⟩
  | between _ hspace' =>
    rw [List.head?_cons, Option.any_some, hspace] at hspace'
    cases hspace'

/-- The spaces that a line begins with lead to what is left of it. -/
theorem scan_indentation (h : GapBefore pos cs gap) (hindent : 0 < indent) (text : List Char) :
    ∃ pos' : Position, pos'.column ≠ 0 ∧ ∀ rest,
      scanSingleQuoted text gap pos ((if gap.broken then spaces indent else []) ++ rest) =
        scanSingleQuoted text gap pos' rest := by
  cases h with
  | inLine _ hcolumn => exact ⟨pos, hcolumn, fun rest => rfl⟩
  | between _ _ =>
    refine ⟨pos.forward indent, ?_, fun rest => scanSingleQuoted_spaces rfl text indent pos rest⟩
    simp only [Position.forward]
    omega

end GapBefore

/-- What is between single quotes comes back, with the gap before it. -/
theorem scanSingleQuoted_from (hindent : 0 < indent) (htail : tail.head? ≠ some '\'')
    {cs : List Char} (h : QuotedRest cs) {gap : Gap} {pos : Position} (hgap : GapBefore pos cs gap)
    (text : List Char) :
    ∃ pos', scanSingleQuoted text gap pos
        (singleQuotedFrom indent gap.broken cs ++ '\'' :: tail) =
      .ok ⟨text ++ gap.value ++ cs, false, ⟨pos', tail⟩⟩ := by
  -- A break and a space join the gap, and any other character ends it.
  induction cs generalizing text gap pos with
  | nil =>
    obtain ⟨pos₁, -, hspaces⟩ := hgap.scan_indentation hindent text
    refine ⟨pos₁.forward 1, ?_⟩
    rw [singleQuotedFrom, hspaces, scanSingleQuoted_close htail, List.append_nil]
  | cons c rest ih =>
    have hshown := h.shown c List.mem_cons_self
    by_cases hbreak : isBreak c = true
    · have hnext := head_of_hasNeighbours h.breaks hbreak
      obtain ⟨hgap', hvalue, hbroken⟩ := hgap.addBreak hbreak hshown
        (h.single c List.mem_cons_self) hnext (pos.newLine 1)
      obtain ⟨pos', hscan⟩ := ih h.of_cons hgap' text
      refine ⟨pos', ?_⟩
      rw [hbroken] at hscan
      rw [singleQuotedFrom, if_pos hbreak, List.cons_append, scanSingleQuoted_break hshown hbreak,
        hscan, hvalue]
      simp
    rw [Bool.not_eq_true] at hbreak
    by_cases hspace : isSpace c = true
    · have hnext := head_of_hasNeighbours h.spaces hspace
      obtain ⟨hgap', hvalue, hbroken, hbroken'⟩ := hgap.addSpace hspace hnext
      obtain ⟨pos', hscan⟩ := ih h.of_cons hgap' text
      refine ⟨pos', ?_⟩
      rw [hbroken'] at hscan
      have hchar : singleQuotedChar ' ' = [' '] := rfl
      rw [singleQuotedFrom_char hbreak, hbroken, if_neg Bool.false_ne_true, eq_space hspace, hchar,
        List.nil_append, List.singleton_append, List.cons_append, scanSingleQuoted_space, hscan,
        hvalue]
      simp
    · rw [Bool.not_eq_true] at hspace
      obtain ⟨pos₁, hcolumn₁, hspaces⟩ := hgap.scan_indentation hindent text
      obtain ⟨pos₂, hcolumn₂, hchar⟩ := scanSingleQuoted_char hshown hbreak hspace text gap hcolumn₁
        (singleQuotedFrom indent false rest ++ '\'' :: tail)
      obtain ⟨pos', hscan⟩ := ih h.of_cons (.none hcolumn₂) (text ++ gap.value ++ [c])
      refine ⟨pos', ?_⟩
      rw [singleQuotedFrom_char hbreak, List.append_assoc, List.append_assoc, hspaces, hchar]
      refine hscan.trans ?_
      simp [Gap.none, Gap.value]

/-- A text between single quotes comes back. -/
theorem scanSingleQuoted_written (hindent : 0 < indent) (htail : tail.head? ≠ some '\'')
    {cs : List Char} (h : canBeSingleQuoted cs = true) (hsingle : ∀ c ∈ cs, c ≠ '\n')
    {pos : Position} (hcolumn : pos.column ≠ 0) :
    ∃ pos', scanSingleQuoted [] .none pos (singleQuotedFrom indent false cs ++ '\'' :: tail) =
      .ok ⟨cs, false, ⟨pos', tail⟩⟩ := by
  simp only [canBeSingleQuoted, Bool.and_eq_true, Bool.not_eq_true'] at h
  obtain ⟨hshown, hspaces⟩ := needsEscapes_eq_false h.1
  have hrest : QuotedRest cs := ⟨hshown, hsingle, hspaces, h.2⟩
  exact scanSingleQuoted_from hindent htail hrest (.none hcolumn) []

end SingleQuoted

/-! ## Section 2: Escapes -/

section Escapes

theorem hexValue?_hexDigit : ∀ n < 16, hexValue? (hexDigit n) = some n := by decide

theorem charOfCode?_toNat (c : Char) : charOfCode? c.toNat = some c := by
  have hvalid : c.toNat < 0xD800 ∨ 0xDFFF < c.toNat ∧ c.toNat < 0x110000 := c.valid
  have hnone : ((0xD800 ≤ c.toNat && c.toNat ≤ 0xDFFF) || 0x10FFFF < c.toNat) = false := by
    simp
    omega
  rw [charOfCode?, hnone, if_neg Bool.false_ne_true, Char.ofNat_toNat]

/-- Some of the digits of a number are read, and others are still to come. -/
theorem scanDoubleQuoted_hexDigits (text : List Char) (later count n value : Nat) (pos : Position)
    (rest : List Char) (hlater : 0 < later) :
    scanDoubleQuoted text .none pos (.hex (count + later) value) (hexDigits count n ++ rest) =
      scanDoubleQuoted text .none (pos.forward count)
        (.hex later (value * 16 ^ count + n % 16 ^ count)) rest := by
  induction count generalizing n later rest with
  | zero => simp [hexDigits, Position.forward, Nat.mod_one]
  | succ count ih =>
    have hmod : 16 * (value * 16 ^ count + n / 16 % 16 ^ count) + n % 16 =
        value * 16 ^ (count + 1) + n % 16 ^ (count + 1) := by
      rw [Nat.pow_succ', Nat.mod_mul]
      ring
    have hmore : ¬ later + 1 ≤ 1 := by omega
    rw [hexDigits, List.append_assoc, show count + 1 + later = count + (later + 1) by omega,
      ih (later + 1) (n / 16) _ (Nat.succ_pos _), List.singleton_append, scanDoubleQuoted,
      hexValue?_hexDigit _ (Nat.mod_lt _ (by decide))]
    simp only [hmore, if_false, hmod, Nat.add_sub_cancel]
    rfl

/-- The digits of a character's number are read back as the character. -/
theorem scanDoubleQuoted_hex (text : List Char) (count : Nat) {c : Char}
    (hc : c.toNat < 16 ^ (count + 1)) (pos : Position) (rest : List Char) :
    scanDoubleQuoted text .none pos (.hex (count + 1) 0) (hexDigits (count + 1) c.toNat ++ rest) =
      scanDoubleQuoted (text ++ [c]) .none (pos.forward (count + 1)) .plain rest := by
  have hcode : 16 * (0 * 16 ^ count + c.toNat / 16 % 16 ^ count) + c.toNat % 16 = c.toNat := by
    have hsmall : c.toNat / 16 < 16 ^ count := by
      rw [Nat.pow_succ] at hc
      omega
    rw [Nat.mod_eq_of_lt hsmall]
    omega
  rw [hexDigits, List.append_assoc, scanDoubleQuoted_hexDigits _ _ _ _ _ _ _ Nat.one_pos,
    List.singleton_append, scanDoubleQuoted, hexValue?_hexDigit _ (Nat.mod_lt _ (by decide))]
  simp only [Nat.le_refl, if_true, hcode, charOfCode?_toNat]
  rfl

/-- An escape is read back as the character it was made for. -/
theorem scanDoubleQuoted_escape (text : List Char) (c : Char) (pos : Position) (rest : List Char) :
    ∃ pos' : Position, pos'.column ≠ 0 ∧
      scanDoubleQuoted text .none pos .escape (escapeOf c ++ rest) =
        scanDoubleQuoted (text ++ [c]) .none pos' .plain rest := by
  rw [escapeOf.eq_def]
  split
  -- The last case is that of the characters without an escape of their own.
  case h_16 =>
    have hmany : c.toNat < 0x110000 := by
      have hvalid : c.toNat < 0xD800 ∨ 0xDFFF < c.toNat ∧ c.toNat < 0x110000 := c.valid
      omega
    dsimp only
    split_ifs
    · refine ⟨(pos.forward 1).forward 2, Nat.succ_ne_zero _, ?_⟩
      rw [← scanDoubleQuoted_hex text 1 (by omega)]
      rfl
    · refine ⟨(pos.forward 1).forward 4, Nat.succ_ne_zero _, ?_⟩
      rw [← scanDoubleQuoted_hex text 3 (by omega)]
      rfl
    · refine ⟨(pos.forward 1).forward 8, Nat.succ_ne_zero _, ?_⟩
      rw [← scanDoubleQuoted_hex text 7 (by omega)]
      rfl
  all_goals exact ⟨pos.forward 1, Nat.succ_ne_zero _, rfl⟩

end Escapes

/-! ## Section 3: Double quotes -/

section DoubleQuoted

theorem scanDoubleQuoted_cons {c : Char} (hreturn : c ≠ '\r') (text : List Char) (gap : Gap)
    (pos : Position) (rest : List Char) :
    scanDoubleQuoted text gap pos .plain (c :: rest) =
      if isBlank c then scanDoubleQuoted text (gap.addBlank c) (pos.forward 1) .plain rest
      else if isBreak c then scanDoubleQuoted text (gap.addBreak c) (pos.newLine 1) .plain rest
      else if markerInQuotes gap pos (c :: rest) then .error .markerInQuotes
      else if c = '"' then .ok ⟨text ++ gap.value, false, ⟨pos.forward 1, rest⟩⟩
      else if c = '\\' then
        scanDoubleQuoted (text ++ gap.value) .none (pos.forward 1) .escape rest
      else scanDoubleQuoted (text ++ gap.value ++ [c]) .none (pos.after c) .plain rest := by
  rw [scanDoubleQuoted]
  intro rest' hc
  exact absurd hc hreturn

/-- What is between double quotes comes back, after blanks. -/
theorem scanDoubleQuoted_from (cs tail text blanks : List Char) {pos : Position}
    (hcolumn : pos.column ≠ 0) :
    ∃ pos', scanDoubleQuoted text { blanks } pos .plain
        (cs.flatMap doubleQuotedChar ++ '"' :: tail) =
      .ok ⟨text ++ blanks ++ cs, false, ⟨pos', tail⟩⟩ := by
  -- Blanks wait in the gap until it is clear that no line ends after them.
  induction cs generalizing text blanks pos with
  | nil =>
    refine ⟨pos.forward 1, ?_⟩
    rw [List.flatMap_nil, List.nil_append, scanDoubleQuoted_cons (by decide),
      markerInQuotes_inside hcolumn, List.append_nil]
    rfl
  | cons c rest ih =>
    rw [List.flatMap_cons, List.append_assoc]
    by_cases hescaped : (!isPrintable c || isBreak c || c = '"' || c = '\\') = true
    · obtain ⟨pos₁, hcolumn₁, hchar⟩ := scanDoubleQuoted_escape (text ++ blanks) c (pos.forward 1)
        (rest.flatMap doubleQuotedChar ++ '"' :: tail)
      obtain ⟨pos', hscan⟩ := ih (text ++ blanks ++ [c]) [] hcolumn₁
      refine ⟨pos', ?_⟩
      rw [doubleQuotedChar, if_pos hescaped, List.cons_append, scanDoubleQuoted_cons (by decide),
        markerInQuotes_inside hcolumn]
      refine Eq.trans hchar (Eq.trans hscan ?_)
      simp
    · rw [doubleQuotedChar, if_neg hescaped, List.singleton_append]
      simp only [Bool.not_eq_true, Bool.or_eq_false_iff, decide_eq_false_iff_not,
        Bool.not_eq_false'] at hescaped
      obtain ⟨⟨⟨hshown, hbreak⟩, hquote⟩, hslash⟩ := hescaped
      rw [scanDoubleQuoted_cons (ne_return hshown), isBlank_eq_isSpace hshown]
      by_cases hspace : isSpace c = true
      · have hnext : (pos.forward 1).column ≠ 0 := Nat.succ_ne_zero _
        obtain ⟨pos', hscan⟩ := ih text (blanks ++ [c]) hnext
        refine ⟨pos', ?_⟩
        rw [if_pos hspace, Gap.addBlank, if_neg Bool.false_ne_true]
        refine Eq.trans hscan ?_
        simp
      · have hnext : (pos.after c).column ≠ 0 := Nat.succ_ne_zero _
        obtain ⟨pos', hscan⟩ := ih (text ++ blanks ++ [c]) [] hnext
        refine ⟨pos', ?_⟩
        rw [if_neg hspace, hbreak, markerInQuotes_inside hcolumn, if_neg Bool.false_ne_true,
          if_neg Bool.false_ne_true, if_neg hquote, if_neg hslash]
        refine Eq.trans hscan ?_
        simp

/-- Any text between double quotes comes back. -/
theorem scanDoubleQuoted_written (cs tail : List Char) {pos : Position} (hcolumn : pos.column ≠ 0) :
    ∃ pos', scanDoubleQuoted [] .none pos .plain (cs.flatMap doubleQuotedChar ++ '"' :: tail) =
      .ok ⟨cs, false, ⟨pos', tail⟩⟩ :=
  scanDoubleQuoted_from cs tail [] [] hcolumn

end DoubleQuoted

end EnvRegistry.Yaml
