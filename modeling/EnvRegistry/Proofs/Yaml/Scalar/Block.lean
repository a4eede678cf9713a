import EnvRegistry.Proofs.Store.Run
import EnvRegistry.Proofs.Yaml.Scalar.Plain
import EnvRegistry.Yaml.Scalar.Block

/-! # Literal blocks come back

    A literal block shows the lines of a text one below the other, each indented
    by the same number of spaces.  Its header says how deep, unless the first
    line shows it, and what to do with the breaks at the end, of which the block
    may have one more than the text.

    The reader keeps the lines it is done with apart from the breaks after them,
    since a break that turns out to be the last may be dropped.  `kept` puts them
    together, and is the text read so far (`readText_kept`). -/

namespace EnvRegistry.Yaml

/-! ## Section 1: What has been read -/

namespace BlockState

variable {s : BlockState} {c : Char}

/-- All that has been read. -/
def kept (s : BlockState) : List Char := s.text ++ s.leading ++ s.trailing

/-- One more character of the text. -/
def readChar (s : BlockState) (c : Char) : BlockState :=
  if isBreak c then s.endLine c
  else if s.inLine then { s with text := s.text ++ [c] }
  else s.startLine true c

/-- More of the text. -/
def readText (s : BlockState) (cs : List Char) : BlockState := cs.foldl readChar s

/-- Inside a line there are no breaks that could be dropped. -/
def Settled (s : BlockState) : Prop := s.inLine = true → s.leading = [] ∧ s.trailing = []

theorem readChar_break (hbreak : isBreak c = true) : s.readChar c = s.endLine c := by
  rw [readChar, if_pos hbreak]

theorem readChar_inLine (hbreak : isBreak c = false) (hline : s.inLine = true) :
    s.readChar c = { s with text := s.text ++ [c] } := by
  rw [readChar, hbreak, if_neg Bool.false_ne_true, if_pos hline]

theorem readChar_start (hbreak : isBreak c = false) (hline : s.inLine = false) :
    s.readChar c = s.startLine true c := by
  rw [readChar, hbreak, if_neg Bool.false_ne_true, hline, if_neg Bool.false_ne_true]

theorem endLine_inLine : (s.endLine c).inLine = false := by
  rw [endLine]
  split
  next => rfl
  next hline => exact Bool.eq_false_iff.mpr hline

theorem readChar_settled (h : s.Settled) : (s.readChar c).Settled := by
  intro hinLine
  cases hbreak : isBreak c with
  | true =>
    rw [readChar_break hbreak, endLine_inLine] at hinLine
    cases hinLine
  | false =>
    cases hline : s.inLine with
    | true =>
      rw [readChar_inLine hbreak hline]
      exact h hline
    | false =>
      rw [readChar_start hbreak hline]
      exact ⟨rfl, rfl⟩

theorem endLine_kept (h : s.Settled) (hvalue : breakValue c = c) :
    (s.endLine c).kept = s.kept ++ [c] := by
  cases hline : s.inLine with
  | true =>
    obtain ⟨hleading, htrailing⟩ := h hline
    simp [endLine, hline, kept, hleading, htrailing, hvalue]
  | false => simp [endLine, hline, kept, hvalue]

theorem readChar_kept (h : s.Settled) (hshown : isPrintable c = true) :
    (s.readChar c).kept = s.kept ++ [c] := by
  cases hbreak : isBreak c with
  | true => rw [readChar_break hbreak, endLine_kept h (breakValue_self hbreak hshown)]
  | false =>
    cases hline : s.inLine with
    | true =>
      obtain ⟨hleading, htrailing⟩ := h hline
      simp [readChar_inLine hbreak hline, kept, hleading, htrailing]
    | false => simp [readChar_start hbreak hline, startLine, kept]

theorem readText_settled (h : s.Settled) (cs : List Char) : (s.readText cs).Settled := by
  induction cs generalizing s with
  | nil => exact h
  | cons c rest ih => exact ih (readChar_settled h)

/-- What has been read is the text. -/
theorem readText_kept (h : s.Settled) {cs : List Char} (hshown : ∀ c ∈ cs, isPrintable c = true) :
    (s.readText cs).kept = s.kept ++ cs := by
  induction cs generalizing s with
  | nil => exact (List.append_nil _).symm
  | cons c rest ih =>
    have hsettled : (s.readChar c).Settled := readChar_settled h
    have hrest := ih hsettled (fun d hd => hshown d (List.mem_cons_of_mem _ hd))
    rw [readText, List.foldl_cons, ← readText, hrest, readChar_kept h (hshown c List.mem_cons_self),
      List.append_assoc, List.singleton_append]

theorem readText_concat (cs : List Char) : s.readText (cs ++ [c]) = (s.readText cs).readChar c := by
  rw [readText, List.foldl_append]
  rfl

/-- Whether the reader is inside a line after some text. -/
theorem readText_inLine (cs : List Char) :
    (s.readText (cs ++ [c])).inLine = !isBreak c := by
  rw [readText_concat]
  cases hbreak : isBreak c with
  | true => rw [readChar_break hbreak, endLine_inLine, Bool.not_true]
  | false =>
    cases hline : (s.readText cs).inLine with
    | true =>
      rw [readChar_inLine hbreak hline]
      exact hline
    | false =>
      rw [readChar_start hbreak hline]
      rfl

end BlockState

/-! ## Section 2: The lines -/

section Lines

variable {indent : Nat} {s : BlockState} {tail : List Char}

theorem scanBlockLines_cons {c : Char} (hreturn : c ≠ '\r') (s : BlockState) (pos : Position)
    (rest : List Char) :
    scanBlockLines true indent s pos (c :: rest) =
      if isBreak c then scanBlockLines true indent (s.endLine c) (pos.newLine 1) rest
      else if s.inLine then
        scanBlockLines true indent { s with text := s.text ++ [c] } (pos.forward 1) rest
      else if pos.column < indent then
        if c = ' ' then scanBlockLines true indent s (pos.forward 1) rest
        else if c = '\t' then .error .tabInIndentation
        else .ok (s, ⟨pos, c :: rest⟩)
      else if pos.column = indent then
        scanBlockLines true indent (s.startLine true c) (pos.forward 1) rest
      else .ok (s, ⟨pos, c :: rest⟩) := by
  rw [scanBlockLines]
  intro rest' hc
  exact absurd hc hreturn

/-- The indentation of a line is passed over. -/
theorem scanBlockLines_spaces (hline : s.inLine = false) (n : Nat) {pos : Position}
    (hcolumn : pos.column + n ≤ indent) (rest : List Char) :
    scanBlockLines true indent s pos (spaces n ++ rest) =
      scanBlockLines true indent s (pos.forward n) rest := by
  induction n generalizing pos with
  | zero => rfl
  | succ n ih =>
    have hless : pos.column < indent := by omega
    have hnext : (pos.forward 1).column + n ≤ indent := by
      simp only [Position.forward]
      omega
    rw [spaces, List.replicate_succ, List.cons_append, ← spaces, scanBlockLines_cons (by decide),
      hline, show isBreak ' ' = false from rfl]
    simp only [Bool.false_eq_true, if_false, hless, if_true]
    rw [ih hnext, Position.forward_forward, Nat.add_comm]

/-- The lines of a text are read one after the other. -/
theorem scanBlockLines_text {cs : List Char} (hshown : ∀ c ∈ cs, isPrintable c = true)
    (s : BlockState) (pos : Position) (hcolumn : s.inLine = false → pos.column = 0) :
    ∃ pos' : Position, ((s.readText cs).inLine = false → pos'.column = 0) ∧
      scanBlockLines true indent s pos (literalFrom indent (!s.inLine) cs ++ tail) =
        scanBlockLines true indent (s.readText cs) pos' tail := by
  -- The state says whether the reader is inside a line; between lines it stands at column zero.
  induction cs generalizing s pos with
  | nil => exact ⟨pos, hcolumn, rfl⟩
  | cons c rest ih =>
    have hc := hshown c List.mem_cons_self
    have hrest : ∀ d ∈ rest, isPrintable d = true :=
      fun d hd => hshown d (List.mem_cons_of_mem _ hd)
    cases hbreak : isBreak c with
    | true =>
      obtain ⟨pos', hcolumn', hscan⟩ := ih hrest (s.endLine c) (pos.newLine 1) (fun _ => rfl)
      rw [BlockState.endLine_inLine] at hscan
      refine ⟨pos', ?_, ?_⟩
      · rwa [BlockState.readText, List.foldl_cons, BlockState.readChar_break hbreak]
      · rw [literalFrom, if_pos hbreak, List.cons_append, scanBlockLines_cons (ne_return hc),
          if_pos hbreak, BlockState.readText, List.foldl_cons, BlockState.readChar_break hbreak]
        exact hscan
    | false =>
      cases hline : s.inLine with
      | true =>
        obtain ⟨pos', hcolumn', hscan⟩ := ih hrest { s with text := s.text ++ [c] }
          (pos.forward 1) (fun h => by rw [hline] at h; cases h)
        refine ⟨pos', ?_, ?_⟩
        · rwa [BlockState.readText, List.foldl_cons, BlockState.readChar_inLine hbreak hline]
        · rw [literalFrom, hbreak, if_neg Bool.false_ne_true, Bool.not_true,
            if_neg Bool.false_ne_true, List.nil_append, List.cons_append,
            scanBlockLines_cons (ne_return hc), hbreak, if_neg Bool.false_ne_true, if_pos hline,
            BlockState.readText, List.foldl_cons, BlockState.readChar_inLine hbreak hline]
          simp only [hline, Bool.not_true] at hscan ⊢
          exact hscan
      | false =>
        have hzero := hcolumn hline
        have hindent : (pos.forward indent).column = indent := by
          simp only [Position.forward]
          omega
        obtain ⟨pos', hcolumn', hscan⟩ := ih hrest (s.startLine true c)
          ((pos.forward indent).forward 1) (fun h => by cases h)
        refine ⟨pos', ?_, ?_⟩
        · rwa [BlockState.readText, List.foldl_cons, BlockState.readChar_start hbreak hline]
        · rw [literalFrom, hbreak, if_neg Bool.false_ne_true, Bool.not_false, if_pos rfl,
            List.append_assoc, scanBlockLines_spaces hline _ (by omega), List.cons_append,
            scanBlockLines_cons (ne_return hc), hbreak, if_neg Bool.false_ne_true, hline,
            if_neg Bool.false_ne_true, hindent, if_neg (Nat.lt_irrefl _), if_pos rfl,
            BlockState.readText, List.foldl_cons, BlockState.readChar_start hbreak hline]
          exact hscan

/-- The block ends before a line that is not indented. -/
theorem scanBlockLines_end (hline : s.inLine = false) (hindent : 0 < indent)
    (hnext : StartsWithLetter tail) {pos : Position} (hcolumn : pos.column = 0) :
    scanBlockLines true indent s pos tail = .ok (s, ⟨pos, tail⟩) := by
  cases tail with
  | nil => rfl
  | cons c rest =>
    rw [scanBlockLines_cons (letter_ne hnext (d := '\r') (by decide)), isBreak_letter hnext, hline,
      hcolumn]
    simp [hindent, letter_ne hnext (d := ' ') (by decide), letter_ne hnext (d := '\t') (by decide)]

end Lines

/-! ## Section 3: The header and the end -/

section Ends

variable {cs tail : List Char}

/-- The sign of what happens to the breaks at the end. -/
def Chomping.mark : Chomping → List Char
  | .strip => ['-']
  | .clip => []
  | .keep => ['+']

/-- What has to happen to the breaks at the end of a text. -/
def chompingOf (cs : List Char) : Chomping :=
  match cs.reverse with
  | [] => .strip
  | [c] => if isBreak c then .keep else .strip
  | c :: d :: _ => if isBreak c then (if isBreak d then .keep else .clip) else .strip

theorem chompingMark_eq (cs : List Char) : chompingMark cs = (chompingOf cs).mark := by
  rw [chompingMark, chompingOf]
  obtain _ | ⟨c, _ | ⟨d, rest⟩⟩ := cs.reverse
  · rfl
  · cases hc : isBreak c <;> simp [hc, Chomping.mark]
  · cases hc : isBreak c <;> cases hd : isBreak d <;> simp [hc, hd, Chomping.mark]

/-- What stands between the bar that a block begins with and the end of its header. -/
def literalMarks (cs : List Char) : List Char :=
  (if !(cs.head?.any fun c => isSpace c || isBreak c) then [] else ['2']) ++ chompingMark cs

theorem literalHeader_eq (cs : List Char) : literalHeader cs = '|' :: literalMarks cs := rfl

/-- The header is read as it was meant. -/
theorem scanIndicators_marks (cs rest : List Char) :
    ∃ n, scanIndicators (literalMarks cs ++ '\n' :: rest) =
      .ok (⟨chompingOf cs,
        if !(cs.head?.any fun c => isSpace c || isBreak c) then none else some 2⟩,
        n, '\n' :: rest) := by
  rw [literalMarks, chompingMark_eq]
  split_ifs <;> cases chompingOf cs <;> exact ⟨_, rfl⟩

/-- The break that a block ends with, unless its text does. -/
def lastBreak (cs : List Char) : List Char := if cs.getLast?.any isBreak then [] else ['\n']

/-- Chomping leaves nothing but the text. -/
theorem result_chomping (hshown : ∀ c ∈ cs, isPrintable c = true) (hne : cs ≠ []) :
    (({} : BlockState).readText (cs ++ lastBreak cs)).result (chompingOf cs) = cs := by
  have hfresh : ({} : BlockState).Settled := fun _ => ⟨rfl, rfl⟩
  have hkept : (({} : BlockState).readText cs).kept = cs := BlockState.readText_kept hfresh hshown
  obtain rfl | ⟨ds, c, rfl⟩ := List.eq_nil_or_concat' cs
  · exact absurd rfl hne
  have hsettled := BlockState.readText_settled hfresh (ds ++ [c])
  have hline : (({} : BlockState).readText (ds ++ [c])).inLine = !isBreak c :=
    BlockState.readText_inLine ds
  cases hbreak : isBreak c with
  | false =>
    -- The break that is added is the only one that strip drops.
    rw [hbreak, Bool.not_false] at hline
    have hlast : lastBreak (ds ++ [c]) = ['\n'] := by simp [lastBreak, hbreak]
    have hchomping : chompingOf (ds ++ [c]) = .strip := by
      rw [chompingOf, List.reverse_concat]
      split <;> simp_all
    obtain ⟨hleading, htrailing⟩ := hsettled hline
    rw [hlast, hchomping, BlockState.readText_concat, BlockState.readChar_break rfl,
      BlockState.endLine, if_pos hline]
    simpa [BlockState.kept, BlockState.result, hleading, htrailing] using hkept
  | true =>
    have hlast : lastBreak (ds ++ [c]) = [] := by simp [lastBreak, hbreak]
    rw [hlast, List.append_nil]
    obtain rfl | ⟨es, d, rfl⟩ := List.eq_nil_or_concat' ds
    · have hchomping : chompingOf ([] ++ [c]) = .keep := by simp [chompingOf, hbreak]
      rw [hchomping]
      exact hkept
    · cases hbreak' : isBreak d with
      | true =>
        have hchomping : chompingOf (es ++ [d] ++ [c]) = .keep := by
          simp [chompingOf, hbreak, hbreak']
        rw [hchomping]
        exact hkept
      | false =>
        have hchomping : chompingOf (es ++ [d] ++ [c]) = .clip := by
          simp [chompingOf, hbreak, hbreak']
        have hinside : (({} : BlockState).readText (es ++ [d])).inLine = true := by
          rw [BlockState.readText_inLine, hbreak']
          rfl
        obtain ⟨-, htrailing⟩ := BlockState.readText_settled hfresh (es ++ [d]) hinside
        rw [BlockState.readText_concat, BlockState.readChar_break hbreak, BlockState.endLine,
          if_pos hinside] at hkept ⊢
        rw [hchomping]
        simpa [BlockState.kept, BlockState.result, htrailing] using hkept

/-- The first line shows how deep a block is indented. -/
theorem scanIndentation_spaces {c : Char} (hshown : isPrintable c = true)
    (hbreak : isBreak c = false) (hspace : isSpace c = false) {least n : Nat} {pos : Position}
    (hleast : least ≤ pos.column + n) (rest : List Char) :
    scanIndentation least 0 [] pos (spaces n ++ c :: rest) =
      .ok (pos.column + n, [], ⟨pos.forward n, c :: rest⟩) := by
  -- With a blank less to read the reader is a column further, so the text begins where it did.
  induction n generalizing pos with
  | zero =>
    have hblank := isBlank_eq_isSpace hshown
    rw [hspace, isBlank, Bool.or_eq_false_iff, decide_eq_false_iff_not, decide_eq_false_iff_not]
      at hblank
    rw [spaces, List.replicate_zero, List.nil_append, scanIndentation]
    · rw [if_neg hblank.1, if_neg hblank.2, hbreak, if_neg Bool.false_ne_true]
      have hmax : max (max 0 pos.column) least = pos.column := by omega
      rw [hmax]
      rfl
    · intro rest' hc
      exact absurd hc (ne_return hshown)
  | succ n ih =>
    have hleast' : least ≤ (pos.forward 1).column + n := by
      simp only [Position.forward]
      omega
    have hcolumn : (pos.forward 1).column + n = pos.column + (n + 1) := by
      simp only [Position.forward]
      omega
    rw [spaces, List.replicate_succ, List.cons_append, ← spaces, scanIndentation]
    · rw [if_pos rfl, ih hleast', hcolumn, Position.forward_forward, Nat.add_comm 1 n]
    · intro rest' hc
      exact absurd hc (by decide)

theorem literalFrom_lastBreak (indent : Nat) (afterBreak : Bool) (cs : List Char) :
    literalFrom indent afterBreak cs ++ ['\n'] = literalFrom indent afterBreak (cs ++ ['\n']) := by
  induction cs generalizing afterBreak with
  | nil => rfl
  | cons c rest ih =>
    rw [List.cons_append, literalFrom, literalFrom, ← ih, ← ih]
    split <;> simp

/-- The lines of a block are read with the break they end with, and the reader comes to the next
line. -/
theorem scanBlockLines_written {indent : Nat} (hindent : 0 < indent)
    (hshown : ∀ c ∈ cs, isPrintable c = true) (hne : cs ≠ []) (hnext : StartsWithLetter tail)
    (pos : Position) (hcolumn : pos.column = 0) :
    ∃ pos' : Position, pos'.column = 0 ∧
      scanBlockLines true indent {} pos (literalFrom indent true cs ++ (lastBreak cs ++ tail)) =
        .ok (({} : BlockState).readText (cs ++ lastBreak cs), ⟨pos', tail⟩) := by
  -- With the last break, whether written or added, the text ends with a line that is complete.
  have hlast : ∃ ds c, isBreak c = true ∧ cs ++ lastBreak cs = ds ++ [c] := by
    cases hend : cs.getLast?.any isBreak with
    | true =>
      obtain rfl | ⟨ds, c, rfl⟩ := List.eq_nil_or_concat' cs
      · exact absurd rfl hne
      · rw [List.getLast?_concat, Option.any_some] at hend
        exact ⟨ds, c, hend, by simp [lastBreak, hend]⟩
    | false => exact ⟨cs, '\n', rfl, by simp [lastBreak, hend]⟩
  have hwritten : literalFrom indent true cs ++ lastBreak cs =
      literalFrom indent true (cs ++ lastBreak cs) := by
    rw [lastBreak]
    split
    · rw [List.append_nil, List.append_nil]
    · exact literalFrom_lastBreak indent true cs
  have hshown' : ∀ c ∈ cs ++ lastBreak cs, isPrintable c = true := by
    intro c hc
    obtain hc | hc := List.mem_append.mp hc
    · exact hshown c hc
    · rw [lastBreak] at hc
      split at hc
      · cases hc
      · rw [List.mem_singleton.mp hc]
        decide
  obtain ⟨pos', hcolumn', hscan⟩ := scanBlockLines_text hshown' {} pos (fun _ => hcolumn)
  obtain ⟨ds, c, hbreak, heq⟩ := hlast
  have hline : (({} : BlockState).readText (cs ++ lastBreak cs)).inLine = false := by
    rw [heq, BlockState.readText_inLine, hbreak]
    rfl
  refine ⟨pos', hcolumn' hline, ?_⟩
  rw [← List.append_assoc, hwritten]
  exact Eq.trans hscan (scanBlockLines_end hline hindent hnext (hcolumn' hline))

/-- A scalar whose header says how far it is indented. -/
theorem scanBlock_said {parent : Int} {c : Cursor} {chomping : Chomping} {deeper n : Nat}
    {lines : List Char} {s : BlockState} {cursor : Cursor}
    (hheader : scanIndicators c.rest = .ok (⟨chomping, some deeper⟩, n, '\n' :: lines))
    (hlines : scanBlockLines true (parent.toNat + deeper) {} ((c.pos.forward n).newLine 1) lines =
      .ok (s, cursor)) :
    scanBlock true parent c = .ok ⟨s.result chomping, true, cursor⟩ := by
  have hstart : skipRestOfLine .badBlockHeader false (c.pos.forward n) ('\n' :: lines) =
      .ok ⟨(c.pos.forward n).newLine 1, lines⟩ := rfl
  rw [scanBlock, hheader, ok_bind]
  dsimp only
  rw [hstart, ok_bind]
  dsimp only
  rw [hlines]
  rfl

/-- A scalar whose first line shows how far it is indented. -/
theorem scanBlock_shown {parent : Int} {c : Cursor} {chomping : Chomping} {indent n : Nat}
    {lines : List Char} {first : Cursor} {s : BlockState} {cursor : Cursor}
    (hheader : scanIndicators c.rest = .ok (⟨chomping, none⟩, n, '\n' :: lines))
    (hindentation : scanIndentation (max (parent + 1).toNat 1) 0 []
      ((c.pos.forward n).newLine 1) lines = .ok (indent, [], first))
    (hlines : scanBlockLines true indent {} first.pos first.rest = .ok (s, cursor)) :
    scanBlock true parent c = .ok ⟨s.result chomping, true, cursor⟩ := by
  have hstart : skipRestOfLine .badBlockHeader false (c.pos.forward n) ('\n' :: lines) =
      .ok ⟨(c.pos.forward n).newLine 1, lines⟩ := rfl
  rw [scanBlock, hheader, ok_bind]
  dsimp only
  rw [hstart, ok_bind]
  dsimp only
  rw [hindentation, ok_bind]
  dsimp only
  rw [hlines]
  rfl

/-- A literal block comes back; what surrounds it is indented by two less. -/
theorem scanBlock_written (parent : Nat) (h : canBeLiteral cs = true) (hne : cs ≠ [])
    (hnext : StartsWithLetter tail) (pos : Position) :
    ∃ pos' : Position, pos'.column = 0 ∧
      scanBlock true parent ⟨pos, literalMarks cs ++ '\n' ::
          (literalFrom (parent + 2) true cs ++ (lastBreak cs ++ tail))⟩ =
        .ok ⟨cs, true, ⟨pos', tail⟩⟩ := by
  simp only [canBeLiteral, Bool.and_eq_true, Bool.not_eq_true'] at h
  have hshown := (needsEscapes_eq_false h.1).1
  have hresult := result_chomping hshown hne
  obtain ⟨n, hheader⟩ := scanIndicators_marks cs
    (literalFrom (parent + 2) true cs ++ (lastBreak cs ++ tail))
  let start := (pos.forward n).newLine 1
  have hindent : 0 < parent + 2 := Nat.succ_pos _
  obtain ⟨pos', hcolumn, hlines⟩ := scanBlockLines_written hindent hshown hne hnext start rfl
  refine ⟨pos', hcolumn, ?_⟩
  split_ifs at hheader with hfirst
  · -- The first line shows the indentation.
    obtain _ | ⟨c, rest⟩ := cs
    · exact absurd rfl hne
    simp only [List.head?_cons, Option.any_some, Bool.not_eq_true', Bool.or_eq_false_iff] at hfirst
    have hc := hshown c List.mem_cons_self
    have hwritten : literalFrom (parent + 2) true (c :: rest) ++ (lastBreak (c :: rest) ++ tail) =
        spaces (parent + 2) ++ c ::
          (literalFrom (parent + 2) false rest ++ (lastBreak (c :: rest) ++ tail)) := by
      rw [literalFrom, hfirst.2, if_neg Bool.false_ne_true, if_pos rfl, List.append_assoc]
      rfl
    have hleast : max ((parent : Int) + 1).toNat 1 ≤ start.column + (parent + 2) := by
      omega
    have hindentation := scanIndentation_spaces hc hfirst.2 hfirst.1 hleast
      (literalFrom (parent + 2) false rest ++ (lastBreak (c :: rest) ++ tail))
    have hzero : start.column + (parent + 2) = parent + 2 := Nat.zero_add _
    rw [hzero, ← hwritten] at hindentation
    rw [hwritten, scanBlockLines_spaces rfl _ (Nat.le_of_eq hzero)] at hlines
    rw [scanBlock_shown hheader hindentation hlines, hresult]
  · rw [scanBlock_said hheader hlines, hresult]

end Ends

end EnvRegistry.Yaml
