import EnvRegistry.Proofs.Yaml.Scalar.Block

/-! # What scalars are written like

    The style that is chosen for a text says what the text is like
    (`styleOf_cases`).  Whatever the style, a scalar has no character that must
    not stand in a text (`isAllowed_scalarChars`). -/

namespace EnvRegistry.Yaml

/-! ## Section 1: Styles -/

section Styles

/-- What the choice of a style says about a text. -/
theorem styleOf_cases (s : String) :
    (styleOf s = .literal ∧ canBeLiteral s.toList = true ∧ s.toList ≠ []) ∨
    (styleOf s = .plain ∧ canBePlain s.toList = true ∧ standsForOther s = false) ∨
    (styleOf s = .singleQuoted ∧ canBeSingleQuoted s.toList = true ∧ ∀ c ∈ s.toList, c ≠ '\n') ∨
    styleOf s = .doubleQuoted := by
  rw [styleOf]
  split_ifs with hlines hliteral hplain hsingle
  · refine .inl ⟨rfl, hliteral, ?_⟩
    rintro hnil
    rw [hnil] at hlines
    cases hlines
  · exact .inr (.inr (.inr rfl))
  · simp only [Bool.and_eq_true, Bool.not_eq_true'] at hplain
    exact .inr (.inl ⟨rfl, hplain.1.1, hplain.1.2⟩)
  · refine .inr (.inr (.inl ⟨rfl, hsingle, ?_⟩))
    rintro c hc rfl
    exact hlines (List.elem_eq_true_of_mem hc)
  · exact .inr (.inr (.inr rfl))

/-- A plain text is not empty, since nothing would be there to read. -/
theorem ne_nil_of_plain {s : String} (h : standsForOther s = false) : s.toList ≠ [] := by
  intro hnil
  have hempty : s.isEmpty = true := by
    rw [← String.ofList_toList (s := s), hnil]
    rfl
  rw [standsForOther, hempty] at h
  simp at h

/-- A digit is none of the characters that could mean something. -/
theorem digit_ne {c d : Char} (hc : c.isDigit = true) (hd : d.isDigit = false) : c ≠ d := by
  rintro rfl
  rw [hc] at hd
  cases hd

theorem isPrintable_digit {c : Char} (hc : c.isDigit = true) : isPrintable c = true := by
  simp only [Char.isDigit, Bool.and_eq_true, decide_eq_true_eq, ge_iff_le, UInt32.le_iff_toNat_le]
    at hc
  have hlow : 0x30 ≤ c.toNat := hc.1
  have hhigh : c.toNat ≤ 0x39 := hc.2
  simp only [isPrintable, Bool.or_eq_true, Bool.and_eq_true, decide_eq_true_eq]
  omega

theorem isBreak_digit {c : Char} (hc : c.isDigit = true) : isBreak c = false := by
  simp [isBreak, digit_ne hc (d := '\n') rfl, digit_ne hc (d := '\r') rfl,
    digit_ne hc (d := '\u0085') rfl, digit_ne hc (d := '\u2028') rfl,
    digit_ne hc (d := '\u2029') rfl]

theorem isSpace_digit {c : Char} (hc : c.isDigit = true) : isSpace c = false :=
  decide_eq_false (digit_ne hc rfl)

theorem insideMeansMore_digits {cs : List Char} (h : ∀ c ∈ cs, c.isDigit = true) (previous : Char) :
    insideMeansMore previous cs = false := by
  induction cs generalizing previous with
  | nil => rfl
  | cons c rest ih =>
    obtain ⟨hc, hrest⟩ := List.forall_mem_cons.mp h
    rw [insideMeansMore, ih hrest, decide_eq_false (digit_ne hc (d := ':') rfl),
      decide_eq_false (digit_ne hc (d := '#') rfl)]
    rfl

theorem startMeansMore_digits {cs : List Char} (h : ∀ c ∈ cs, c.isDigit = true) :
    startMeansMore cs = false := by
  cases cs with
  | nil => rfl
  | cons c rest =>
    have hc := h c List.mem_cons_self
    have hnone : startIndicators.any Char.isDigit = false := by decide
    have hstart : startIndicators.contains c = false := by
      rw [List.contains_eq_mem, decide_eq_false_iff_not]
      exact fun hmem => List.any_eq_false.mp hnone c hmem hc
    have hquestion : c ≠ '?' := digit_ne hc rfl
    have hcolon : c ≠ ':' := digit_ne hc rfl
    have hdash : c ≠ '-' := digit_ne hc rfl
    have hdot : c ≠ '.' := digit_ne hc rfl
    simp only [startMeansMore, hstart, List.take_succ_cons, List.cons.injEq, hquestion, hcolon,
      hdash, hdot, false_and, decide_false]
    rfl

theorem hasNeighbours_of_none {p : Char → Bool} {cs : List Char} (h : ∀ c ∈ cs, p c = false)
    (q : Char → Bool) : hasNeighbours p q cs = false := by
  induction cs with
  | nil => rfl
  | cons c rest ih =>
    obtain ⟨hc, hrest⟩ := List.forall_mem_cons.mp h
    cases rest with
    | nil => rfl
    | cons d rest =>
      rw [hasNeighbours, hc, ih hrest]
      rfl

theorem any_eq_false_of {p : Char → Bool} {o : Option Char} (h : ∀ c, o = some c → p c = false) :
    o.any p = false := by
  cases o with
  | none => rfl
  | some c => exact h c rfl

/-- Digits need no quotes, unless they are to be a text. -/
theorem canBePlain_digits {cs : List Char} (h : ∀ c ∈ cs, c.isDigit = true) :
    canBePlain cs = true := by
  have hescapes : needsEscapes cs = false := by
    rw [needsEscapes, hasNeighbours_of_none (fun c hc => isSpace_digit (h c hc)), Bool.or_false,
      List.any_eq_false]
    intro c hc
    simp [isPrintable_digit (h c hc)]
  have hbreaks : cs.any isBreak = false := by
    rw [List.any_eq_false]
    intro c hc
    simp [isBreak_digit (h c hc)]
  -- What is neither a space nor a break anywhere is neither at the ends.
  have hends : hasBlankEnds cs = false := by
    have hend : ∀ c ∈ cs, (isSpace c || isBreak c) = false := fun c hc => by
      rw [isSpace_digit (h c hc), isBreak_digit (h c hc)]
      rfl
    simp only [hasBlankEnds]
    rw [any_eq_false_of fun c hc => hend c (List.mem_of_mem_head? hc),
      any_eq_false_of fun c hc => hend c (List.mem_of_getLast? hc)]
    rfl
  have hmore : meansMore cs = false := by
    simp only [meansMore, startMeansMore_digits h, Bool.false_or]
    cases cs with
    | nil => rfl
    | cons c rest => exact insideMeansMore_digits (List.forall_mem_cons.mp h).2 c
  rw [canBePlain, hescapes, hbreaks, hends, hmore]
  rfl

end Styles

/-! ## Section 2: Ends of lines -/

section Ends

/-- The break that the line of a value ends with, unless the value does. -/
def lineEnd (value : List Char) : List Char := if value.getLast?.any isBreak then [] else ['\n']

theorem lineEnd_concat (value : List Char) {c : Char} (hbreak : isBreak c = false) :
    lineEnd (value ++ [c]) = ['\n'] := by
  simp [lineEnd, hbreak]

/-- A text without quotes has no breaks. -/
theorem lineEnd_plain {cs : List Char} (h : canBePlain cs = true) : lineEnd cs = ['\n'] := by
  simp only [canBePlain, Bool.and_eq_true, Bool.not_eq_true', List.any_eq_false] at h
  rw [lineEnd]
  split
  next hbreak =>
    obtain ⟨c, hc, hbreak⟩ := (Option.any_eq_true _ _).mp hbreak
    exact absurd hbreak (h.1.1.2 c (List.mem_of_getLast? hc))
  next => rfl

theorem literalFrom_concat (indent : Nat) (afterBreak : Bool) (cs : List Char) (c : Char) :
    ∃ front, literalFrom indent afterBreak (cs ++ [c]) = front ++ [c] := by
  induction cs generalizing afterBreak with
  | nil =>
    rw [List.nil_append, literalFrom, literalFrom, literalFrom]
    split
    · exact ⟨[], rfl⟩
    · exact ⟨_, rfl⟩
  | cons d rest ih =>
    rw [List.cons_append, literalFrom]
    split
    · obtain ⟨front, hfront⟩ := ih true
      exact ⟨d :: front, by rw [hfront, List.cons_append]⟩
    · obtain ⟨front, hfront⟩ := ih false
      exact ⟨(if afterBreak then spaces indent else []) ++ d :: front, by
        rw [hfront, List.append_assoc, List.cons_append]⟩

/-- A block ends with a break just if its text does. -/
theorem lineEnd_literal {cs : List Char} (hne : cs ≠ []) (header : List Char) (indent : Nat)
    (afterBreak : Bool) :
    lineEnd (header ++ literalFrom indent afterBreak cs) = lastBreak cs := by
  obtain rfl | ⟨ds, c, rfl⟩ := List.eq_nil_or_concat' cs
  · exact absurd rfl hne
  · obtain ⟨front, hfront⟩ := literalFrom_concat indent afterBreak ds c
    rw [hfront, ← List.append_assoc, lineEnd, lastBreak, List.getLast?_concat, List.getLast?_concat]

end Ends

/-! ## Section 3: Characters -/

section Characters

variable {c : Char} {cs : List Char} {indent : Nat}

theorem isAllowed_of_isPrintable (h : isPrintable c = true) : isAllowed c = true := by
  have hvalid : c.toNat < 0xD800 ∨ 0xDFFF < c.toNat ∧ c.toNat < 0x110000 := c.valid
  simp only [isPrintable, isAllowed, Bool.or_eq_true, Bool.and_eq_true, decide_eq_true_eq] at h ⊢
  omega

theorem isAllowed_space (n : Nat) : ∀ c ∈ spaces n, isAllowed c = true := by
  intro c hc
  rw [List.eq_of_mem_replicate hc]
  decide

theorem isAllowed_hexDigits (count n : Nat) : ∀ c ∈ hexDigits count n, isAllowed c = true := by
  have hdigit : ∀ d < 16, isAllowed (hexDigit d) = true := by decide
  induction count generalizing n with
  | zero => exact fun c hc => absurd hc List.not_mem_nil
  | succ count ih =>
    intro c hc
    rw [hexDigits, List.mem_append, List.mem_singleton] at hc
    obtain hc | rfl := hc
    · exact ih _ c hc
    · exact hdigit _ (Nat.mod_lt _ (by decide))

theorem isAllowed_escapeOf (c : Char) : ∀ d ∈ escapeOf c, isAllowed d = true := by
  have hcode (mark : Char) (hmark : isAllowed mark = true) (count n : Nat) :
      ∀ d ∈ mark :: hexDigits count n, isAllowed d = true :=
    List.forall_mem_cons.mpr ⟨hmark, isAllowed_hexDigits count n⟩
  rw [escapeOf.eq_def]
  split
  case h_16 =>
    dsimp only
    split_ifs
    · exact hcode 'x' rfl 2 _
    · exact hcode 'u' rfl 4 _
    · exact hcode 'U' rfl 8 _
  all_goals exact List.all_eq_true.mp (by decide)

theorem isAllowed_doubleQuotedChar (c : Char) :
    ∀ d ∈ doubleQuotedChar c, isAllowed d = true := by
  rw [doubleQuotedChar]
  split
  · exact List.forall_mem_cons.mpr ⟨rfl, isAllowed_escapeOf c⟩
  next hshown =>
    simp only [Bool.not_eq_true, Bool.or_eq_false_iff, Bool.not_eq_false'] at hshown
    exact List.forall_mem_singleton.mpr (isAllowed_of_isPrintable hshown.1.1.1)

theorem isAllowed_literalFrom (h : ∀ c ∈ cs, isAllowed c = true) (afterBreak : Bool) :
    ∀ c ∈ literalFrom indent afterBreak cs, isAllowed c = true := by
  induction cs generalizing afterBreak with
  | nil => exact fun c hc => absurd hc List.not_mem_nil
  | cons d rest ih =>
    obtain ⟨hd, hrest⟩ := List.forall_mem_cons.mp h
    rw [literalFrom]
    split
    · exact List.forall_mem_cons.mpr ⟨hd, ih hrest true⟩
    · refine List.forall_mem_append.mpr ⟨?_, List.forall_mem_cons.mpr ⟨hd, ih hrest false⟩⟩
      split
      · exact isAllowed_space indent
      · exact fun c hc => absurd hc List.not_mem_nil

theorem isAllowed_singleQuotedFrom (h : ∀ c ∈ cs, isAllowed c = true) (afterBreak : Bool) :
    ∀ c ∈ singleQuotedFrom indent afterBreak cs, isAllowed c = true := by
  have hspaces (b : Bool) : ∀ c ∈ (if b then spaces indent else []), isAllowed c = true := by
    split
    · exact isAllowed_space indent
    · exact fun c hc => absurd hc List.not_mem_nil
  induction cs generalizing afterBreak with
  | nil => exact hspaces afterBreak
  | cons d rest ih =>
    obtain ⟨hd, hrest⟩ := List.forall_mem_cons.mp h
    rw [singleQuotedFrom]
    split
    · exact List.forall_mem_cons.mpr ⟨hd, ih hrest true⟩
    · refine List.forall_mem_append.mpr
        ⟨List.forall_mem_append.mpr ⟨hspaces afterBreak, ?_⟩, ih hrest false⟩
      split
      · exact List.all_eq_true.mp (by decide)
      · exact List.forall_mem_singleton.mpr hd

theorem isAllowed_literalHeader (cs : List Char) : ∀ c ∈ literalHeader cs, isAllowed c = true := by
  rw [literalHeader_eq, literalMarks, chompingMark_eq]
  split <;> cases chompingOf cs <;> exact List.all_eq_true.mp (by decide)

/-- Every character of a scalar may stand in a text. -/
theorem isAllowed_scalarChars (indent : Nat) (s : String) :
    ∀ c ∈ scalarChars indent s, isAllowed c = true := by
  have hprintable (h : needsEscapes s.toList = false) : ∀ c ∈ s.toList, isAllowed c = true :=
    fun c hc => isAllowed_of_isPrintable ((needsEscapes_eq_false h).1 c hc)
  obtain ⟨hstyle, h, -⟩ | ⟨hstyle, h, -⟩ | ⟨hstyle, h, -⟩ | hstyle := styleOf_cases s
  · simp only [canBeLiteral, Bool.and_eq_true, Bool.not_eq_true'] at h
    rw [scalarChars, hstyle]
    exact List.forall_mem_append.mpr ⟨isAllowed_literalHeader _,
      List.forall_mem_cons.mpr ⟨rfl, isAllowed_literalFrom (hprintable h.1) true⟩⟩
  · simp only [canBePlain, Bool.and_eq_true, Bool.not_eq_true'] at h
    rw [scalarChars, hstyle]
    exact hprintable h.1.1.1
  · simp only [canBeSingleQuoted, Bool.and_eq_true, Bool.not_eq_true'] at h
    rw [scalarChars, hstyle]
    exact List.forall_mem_cons.mpr ⟨rfl, List.forall_mem_append.mpr
      ⟨isAllowed_singleQuotedFrom (hprintable h.1) false, List.forall_mem_singleton.mpr rfl⟩⟩
  · rw [scalarChars, hstyle]
    refine List.forall_mem_cons.mpr
      ⟨rfl, List.forall_mem_append.mpr ⟨?_, List.forall_mem_singleton.mpr rfl⟩⟩
    intro d hd
    obtain ⟨c, -, hd⟩ := List.mem_flatMap.mp hd
    exact isAllowed_doubleQuotedChar c d hd

end Characters

end EnvRegistry.Yaml
