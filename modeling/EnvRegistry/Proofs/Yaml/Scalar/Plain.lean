import EnvRegistry.Yaml.Scalar.Plain
import EnvRegistry.Yaml.Writer
import Mathlib.Data.List.Basic

/-! # Plain scalars come back

    A text that is written without quotes is read again up to the colon after
    it, if it is a key (`scanPlain_key`), or up to the end of its line
    (`scanPlain_line`).

    The readers of scalars go through a text from the left and keep what they
    have read, so what is said of them is proved by induction on the characters
    that are left, for any text read before and any text that follows. -/

namespace EnvRegistry.Yaml

/-! ## Section 1: Characters and places -/

section Characters

variable {c : Char}

/-- Of the blanks only the space may be written as it is. -/
theorem isBlank_eq_isSpace (h : isPrintable c = true) : isBlank c = isSpace c := by
  have htab : c ≠ '\t' := by
    rintro rfl
    revert h
    decide
  simp [isBlank, isSpace, htab]

theorem ne_return (h : isPrintable c = true) : c ≠ '\r' := by
  rintro rfl
  revert h
  decide

/-- A break that can be seen stands for itself. -/
theorem breakValue_self (hbreak : isBreak c = true) (hshown : isPrintable c = true) :
    breakValue c = c := by
  simp only [isBreak, Bool.or_eq_true, decide_eq_true_eq] at hbreak
  obtain (((rfl | rfl) | rfl) | rfl) | rfl := hbreak
  · rfl
  · exact absurd rfl (ne_return hshown)
  · revert hshown
    decide
  · rfl
  · rfl

theorem eq_space (h : isSpace c = true) : c = ' ' := of_decide_eq_true h

/-- A text without anything that would have to be escaped. -/
theorem needsEscapes_eq_false {cs : List Char} (h : needsEscapes cs = false) :
    (∀ c ∈ cs, isPrintable c = true) ∧ hasNeighbours isSpace isBreak cs = false := by
  rw [needsEscapes, Bool.or_eq_false_iff, List.any_eq_false] at h
  refine ⟨fun c hc => ?_, h.2⟩
  have hshown := h.1 c hc
  rwa [Bool.not_eq_true, Bool.not_eq_false'] at hshown

theorem hasNeighbours_cons {p q : Char → Bool} {a b : Char} {cs : List Char}
    (h : hasNeighbours p q (a :: b :: cs) = false) :
    (p a = true → q b = false) ∧ hasNeighbours p q (b :: cs) = false := by
  rw [hasNeighbours, Bool.or_eq_false_iff] at h
  refine ⟨fun hp => ?_, h.2⟩
  have hboth := h.1
  rwa [hp, Bool.true_and] at hboth

end Characters

/-- The place after some characters of the same line. -/
def Position.along (p : Position) (cs : List Char) : Position := cs.foldl Position.after p

@[simp] theorem Position.along_nil (p : Position) : p.along [] = p := rfl

@[simp] theorem Position.along_cons (p : Position) (c : Char) (cs : List Char) :
    p.along (c :: cs) = (p.after c).along cs := rfl

theorem Position.forward_forward (p : Position) (m n : Nat) :
    (p.forward m).forward n = p.forward (m + n) := by
  simp only [Position.forward]
  congr 1 <;> omega

@[simp] theorem Position.along_line (p : Position) (cs : List Char) :
    (p.along cs).line = p.line := by
  induction cs generalizing p with
  | nil => rfl
  | cons c cs ih => rw [along_cons, ih, after]

@[simp] theorem Position.along_column (p : Position) (cs : List Char) :
    (p.along cs).column = p.column + cs.length := by
  induction cs generalizing p with
  | nil => rfl
  | cons c cs ih =>
    simp only [along_cons, ih, after, List.length_cons]
    omega

/-- A character takes at most four bytes. -/
theorem Position.along_index_le (p : Position) (cs : List Char) :
    (p.along cs).index ≤ p.index + 4 * cs.length := by
  induction cs generalizing p with
  | nil => exact Nat.le_refl _
  | cons c cs ih =>
    have hsize := c.utf8Size_le_four
    have hrest := ih (p.after c)
    rw [along_cons, List.length_cons]
    simp only [after] at hrest ⊢
    omega

/-- Nothing follows, or a line that begins with a letter. -/
def StartsWithLetter : List Char → Prop
  | [] => True
  | c :: _ => 'a' ≤ c ∧ c ≤ 'z'

theorem startsWithLetter_nil : StartsWithLetter [] := trivial

theorem letter_ne {c d : Char} (hc : 'a' ≤ c ∧ c ≤ 'z') (hd : ¬ ('a' ≤ d ∧ d ≤ 'z')) : c ≠ d := by
  rintro rfl
  exact hd hc

theorem isBlank_letter {c : Char} (hc : 'a' ≤ c ∧ c ≤ 'z') : isBlank c = false := by
  simp [isBlank, letter_ne hc (d := ' ') (by decide), letter_ne hc (d := '\t') (by decide)]

theorem isBreak_letter {c : Char} (hc : 'a' ≤ c ∧ c ≤ 'z') : isBreak c = false := by
  simp [isBreak, letter_ne hc (d := '\n') (by decide), letter_ne hc (d := '\r') (by decide),
    letter_ne hc (d := '\u0085') (by decide), letter_ne hc (d := '\u2028') (by decide),
    letter_ne hc (d := '\u2029') (by decide)]

/-! ## Section 2: Plain scalars -/

section Plain

variable {indent : Int} {tail : List Char}

theorem scanPlain_cons {c : Char} (hreturn : c ≠ '\r') (inFlow : Bool) (indent : Int)
    (text : List Char) (gap : Gap) (pos : Position) (rest : List Char) :
    scanPlain inFlow indent text gap pos (c :: rest) =
      if isBlank c then
        if gap.broken && (pos.column : Int) < indent && c = '\t' then .error .tabInIndentation
        else scanPlain inFlow indent text (gap.addBlank c) (pos.forward 1) rest
      else if isBreak c then
        scanPlain inFlow indent text (gap.addBreak c) (pos.newLine 1) rest
      else if !gap.isNone && plainEndsAfterGap inFlow indent pos.column (c :: rest) then
        .ok ⟨text, gap.broken, ⟨pos, c :: rest⟩⟩
      else if inFlow && c = ':' && colonGoesWrong rest then .error .colonInFlow
      else if plainEnds inFlow c rest then .ok ⟨text, gap.broken, ⟨pos, c :: rest⟩⟩
      else scanPlain inFlow indent (text ++ gap.value ++ [c]) .none (pos.after c) rest := by
  rw [scanPlain]
  intro rest' hc
  exact absurd hc hreturn

theorem scanPlain_space {gap : Gap} (hbroken : gap.broken = false) (indent : Int)
    (text : List Char) (pos : Position) (rest : List Char) :
    scanPlain false indent text gap pos (' ' :: rest) =
      scanPlain false indent text (gap.addBlank ' ') (pos.after ' ') rest := by
  have hblank : isBlank ' ' = true := rfl
  rw [scanPlain_cons (by decide), if_pos hblank, hbroken]
  rfl

/-- A character that does not end the scalar ends the gap before it. -/
theorem scanPlain_char {c : Char} (hshown : isPrintable c = true) (hbreak : isBreak c = false)
    (hspace : isSpace c = false) {gap : Gap} {pos : Position} {rest : List Char}
    (hgap : (!gap.isNone && plainEndsAfterGap false indent pos.column (c :: rest)) = false)
    (hends : plainEnds false c rest = false) (text : List Char) :
    scanPlain false indent text gap pos (c :: rest) =
      scanPlain false indent (text ++ gap.value ++ [c]) .none (pos.after c) rest := by
  rw [scanPlain_cons (ne_return hshown), isBlank_eq_isSpace hshown, hspace, hbreak, hgap, hends]
  rfl

theorem endsWord_append {cs : List Char} (h : endsWord cs = false) (tail : List Char) :
    endsWord (cs ++ tail) = false := by
  cases cs with
  | nil => simp [endsWord] at h
  | cons c cs => exact h

/-- What is left of a plain scalar after a word and some spaces. -/
structure PlainRest (previous : Char) (blanks cs : List Char) : Prop where
  shown : ∀ c ∈ cs, isPrintable c = true ∧ isBreak c = false
  inside : insideMeansMore previous cs = false
  blank : blanks ≠ [] → isSpace previous = true
  word : cs = [] → blanks = []
  last : ∀ c, cs.getLast? = some c → isSpace c = false

namespace PlainRest

variable {previous c : Char} {blanks rest : List Char}

theorem inside_cons (h : PlainRest previous blanks (c :: rest)) :
    (c = ':' → endsWord rest = false) ∧ (c = '#' → isBlank previous = false) ∧
      insideMeansMore c rest = false := by
  have hinside := h.inside
  simp only [insideMeansMore, Bool.or_eq_false_iff] at hinside
  obtain ⟨⟨hcolon, hcomment⟩, hinside⟩ := hinside
  refine ⟨?_, ?_, hinside⟩
  · rintro rfl
    simpa using hcolon
  · rintro rfl
    have hwords : endsWord [previous] = false := by simpa using hcomment
    rw [endsWord, Bool.or_eq_false_iff] at hwords
    exact hwords.1

theorem last_cons (h : PlainRest previous blanks (c :: rest)) :
    ∀ d, rest.getLast? = some d → isSpace d = false := by
  intro d hd
  refine h.last d ?_
  rw [List.getLast?_cons, hd]
  rfl

theorem after_space (h : PlainRest previous blanks (c :: rest)) (hspace : isSpace c = true) :
    PlainRest c (blanks ++ [c]) rest := by
  refine ⟨fun d hd => h.shown d (List.mem_cons_of_mem _ hd), h.inside_cons.2.2, fun _ => hspace, ?_,
    h.last_cons⟩
  rintro rfl
  -- The scalar does not end in a space.
  have hlast := h.last c rfl
  rw [hspace] at hlast
  cases hlast

theorem after_char (h : PlainRest previous blanks (c :: rest)) : PlainRest c [] rest :=
  ⟨fun d hd => h.shown d (List.mem_cons_of_mem _ hd), h.inside_cons.2.2, fun hne => absurd rfl hne,
    fun _ => rfl, h.last_cons⟩

/-- No comment begins after the spaces. -/
theorem continues (h : PlainRest previous blanks (c :: rest)) {pos : Position}
    (hcolumn : indent ≤ pos.column) (hline : pos.column ≠ 0) (tail : List Char) :
    (!Gap.isNone { blanks } && plainEndsAfterGap false indent pos.column (c :: (rest ++ tail))) =
      false := by
  cases blanks with
  | nil => rfl
  | cons b bs =>
    have hblank : isBlank previous = true := by
      rw [eq_space (h.blank (List.cons_ne_nil _ _))]
      decide
    have hc : c ≠ '#' := by
      intro hc
      rw [h.inside_cons.2.1 hc] at hblank
      cases hblank
    have hnotless : ¬ (pos.column : Int) < indent := by omega
    simp [plainEndsAfterGap, hnotless, hline, hc]

/-- The scalar does not end at a colon inside a word. -/
theorem not_ends (h : PlainRest previous blanks (c :: rest)) (tail : List Char) :
    plainEnds false c (rest ++ tail) = false := by
  by_cases hc : c = ':'
  · simp [plainEnds, endsWord_append (h.inside_cons.1 hc)]
  · simp [plainEnds, hc]

end PlainRest

theorem scanPlain_rest {previous : Char} {blanks cs : List Char} (h : PlainRest previous blanks cs)
    (text : List Char) {pos : Position} (hcolumn : indent ≤ pos.column) (hline : pos.column ≠ 0) :
    scanPlain false indent text { blanks } pos (cs ++ tail) =
      scanPlain false indent (text ++ blanks ++ cs) .none (pos.along cs) tail := by
  -- A space joins the blanks, and any other character ends the gap that they make.
  induction cs generalizing previous blanks text pos with
  | nil =>
    rw [h.word rfl]
    simp [Gap.none]
  | cons c rest ih =>
    obtain ⟨hshown, hbreak⟩ := h.shown c List.mem_cons_self
    have hcolumn' : indent ≤ (pos.after c).column := by
      simp only [Position.after]
      omega
    rw [List.cons_append]
    by_cases hspace : isSpace c = true
    · have hstep := ih (h.after_space hspace) text hcolumn' (Nat.succ_ne_zero _)
      rw [eq_space hspace] at hstep ⊢
      rw [scanPlain_space rfl, Gap.addBlank, if_neg Bool.false_ne_true, hstep]
      simp
    · rw [Bool.not_eq_true] at hspace
      have hstep := ih h.after_char (text ++ blanks ++ [c]) hcolumn' (Nat.succ_ne_zero _)
      rw [scanPlain_char hshown hbreak hspace (h.continues hcolumn hline tail) (h.not_ends tail)]
      refine Eq.trans hstep ?_
      simp

/-- What has to hold of a text that is written without quotes. -/
structure PlainText (c : Char) (rest : List Char) : Prop where
  shown : ∀ d ∈ c :: rest, isPrintable d = true ∧ isBreak d = false
  start : startIndicators.contains c = false
  indicator : c = '?' ∨ c = ':' ∨ c = '-' → endsWord rest = false
  inside : insideMeansMore c rest = false
  first : isSpace c = false
  last : ∀ d, (c :: rest).getLast? = some d → isSpace d = false

theorem plainText_of_canBePlain {c : Char} {rest : List Char} (h : canBePlain (c :: rest) = true) :
    PlainText c rest := by
  simp only [canBePlain, Bool.and_eq_true, Bool.not_eq_true'] at h
  obtain ⟨⟨⟨hescapes, hbreaks⟩, hends⟩, hmore⟩ := h
  simp only [hasBlankEnds, Bool.or_eq_false_iff] at hends
  obtain ⟨hfirst, hlast⟩ := hends
  simp only [meansMore, startMeansMore, Bool.or_eq_false_iff, decide_eq_false_iff_not] at hmore
  obtain ⟨⟨⟨⟨hstart, hindicator⟩, -⟩, -⟩, hinside⟩ := hmore
  have hprintable := (needsEscapes_eq_false hescapes).1
  rw [List.any_eq_false] at hbreaks
  refine ⟨fun d hd => ⟨hprintable d hd, Bool.eq_false_iff.mpr (hbreaks d hd)⟩, hstart, ?_, hinside,
    ?_, ?_⟩
  · intro hc
    have hmark : (c = '?' || c = ':' || c = '-') = true := by
      simpa [or_assoc] using hc
    rwa [hmark, Bool.true_and] at hindicator
  · simp only [List.head?_cons, Option.any_some, Bool.or_eq_false_iff] at hfirst
    exact hfirst.1
  · intro d hd
    rw [hd] at hlast
    simp only [Option.any_some, Bool.or_eq_false_iff] at hlast
    exact hlast.1

/-- The characters of a plain scalar are read one by one. -/
theorem scanPlain_text {c : Char} {rest : List Char} (h : PlainText c rest) {pos : Position}
    (hcolumn : indent ≤ pos.column + 1) :
    scanPlain false indent [] .none pos (c :: rest ++ tail) =
      scanPlain false indent (c :: rest) .none (pos.along (c :: rest)) tail := by
  obtain ⟨hshown, hbreak⟩ := h.shown c List.mem_cons_self
  have hends : plainEnds false c (rest ++ tail) = false := by
    by_cases hc : c = ':'
    · have hword := endsWord_append (h.indicator (Or.inr (Or.inl hc))) tail
      simp [plainEnds, hword]
    · simp [plainEnds, hc]
  have hrest : PlainRest c [] rest := by
    refine ⟨fun d hd => h.shown d (List.mem_cons_of_mem _ hd), h.inside, fun h => absurd rfl h,
      fun _ => rfl, fun d hd => h.last d ?_⟩
    rw [List.getLast?_cons, hd]
    rfl
  have hcolumn' : indent ≤ (pos.after c).column := by
    simp only [Position.after]
    omega
  rw [List.cons_append, scanPlain_char hshown hbreak h.first rfl hends]
  exact scanPlain_rest hrest [c] hcolumn' (Nat.succ_ne_zero _)

/-- A plain scalar ends with its line, if the next line is not indented. -/
theorem scanPlain_line {cs : List Char} (h : canBePlain cs = true) (hne : cs ≠ [])
    (hnext : StartsWithLetter tail) {pos : Position} (hindent : 0 < indent)
    (hcolumn : indent ≤ pos.column + 1) :
    scanPlain false indent [] .none pos (cs ++ '\n' :: tail) =
      .ok ⟨cs, true, ⟨(pos.along cs).newLine 1, tail⟩⟩ := by
  cases cs with
  | nil => exact absurd rfl hne
  | cons c rest =>
    rw [scanPlain_text (plainText_of_canBePlain h) hcolumn, scanPlain_cons (by decide)]
    simp only [show isBlank '\n' = false from rfl, show isBreak '\n' = true from rfl,
      Bool.false_eq_true, if_false, if_true]
    cases tail with
    | nil => rw [scanPlain]; rfl
    | cons d tail =>
      -- The next line begins in the first column, which is not deep enough.
      have hreturn := letter_ne hnext (d := '\r') (by decide)
      have hends : plainEndsAfterGap false indent 0 (d :: tail) = true := by
        simp [plainEndsAfterGap, hindent]
      have hcolumn : ((pos.along (c :: rest)).newLine 1).column = 0 := rfl
      rw [scanPlain_cons hreturn, isBlank_letter hnext, isBreak_letter hnext, hcolumn, hends]
      rfl

/-- A plain key ends before its colon. -/
theorem scanPlain_key {cs : List Char} (h : canBePlain cs = true) (hne : cs ≠ [])
    (hword : endsWord tail = true) {pos : Position} (hcolumn : indent ≤ pos.column + 1) :
    scanPlain false indent [] .none pos (cs ++ ':' :: tail) =
      .ok ⟨cs, false, ⟨pos.along cs, ':' :: tail⟩⟩ := by
  cases cs with
  | nil => exact absurd rfl hne
  | cons c rest =>
    rw [scanPlain_text (plainText_of_canBePlain h) hcolumn, scanPlain_cons (by decide)]
    simp [isBlank, isBreak, Gap.none, Gap.isNone, plainEnds, hword]

end Plain

end EnvRegistry.Yaml
