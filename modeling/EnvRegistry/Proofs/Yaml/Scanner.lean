import EnvRegistry.Proofs.Store.Run
import EnvRegistry.Proofs.Yaml.Scalar.Quoted
import EnvRegistry.Proofs.Yaml.Writer
import EnvRegistry.Yaml.Scanner

/-! # Tokens of what was written

    Between the tokens of a block the scanner is outside all brackets and no key
    is half read, so its state is given by its tokens, the blocks it is in and
    the place it has come to.  From one such state to the next it takes a key
    with its colon (`run_key`) or a value; a line that is indented less closes
    blocks (`run_close`), and so does the end (`run_end`).  What a value may be is
    said by `ReadsAs`, and any text that has been written is one
    (`readsAs_scalar`). -/

namespace EnvRegistry.Yaml

/-! ## Section 1: Between tokens -/

section Between

variable {c : Char} {rest : List Char}

/-- A character that a token may start with. -/
structure StartsToken (c : Char) : Prop where
  noBreak : isBreak c = false
  noSpace : c ≠ ' '
  noTab : c ≠ '\t'
  noMark : c ≠ byteOrderMark
  noComment : c ≠ '#'

theorem StartsToken.of_printable (hshown : isPrintable c = true) (hbreak : isBreak c = false)
    (hspace : isSpace c = false) (hcomment : c ≠ '#') : StartsToken c := by
  refine ⟨hbreak, ?_, ?_, ?_, hcomment⟩
  · rintro rfl
    cases hspace
  · rintro rfl
    revert hshown
    decide
  · rintro rfl
    revert hshown
    decide

theorem StartsToken.of_letter (hc : 'a' ≤ c ∧ c ≤ 'z') : StartsToken c :=
  ⟨isBreak_letter hc, letter_ne hc (by decide), letter_ne hc (by decide), letter_ne hc (by decide),
    letter_ne hc (by decide)⟩

theorem StartsToken.ne_return (h : StartsToken c) : c ≠ '\r' := by
  rintro rfl
  have hbreak := h.noBreak
  revert hbreak
  decide

/-- Nothing is passed over before a token. -/
theorem skipSpace_token (h : StartsToken c) (inFlow keyAllowed : Bool) (pos : Position)
    (rest : List Char) :
    Scanner.skipSpace inFlow keyAllowed false pos (c :: rest) = (keyAllowed, ⟨pos, c :: rest⟩) := by
  rw [Scanner.skipSpace]
  · simp [h.noBreak, h.noSpace, h.noTab, h.noMark, h.noComment]
  · intro rest' hc
    exact absurd hc h.ne_return

theorem skipSpace_space (inFlow keyAllowed : Bool) (pos : Position) (rest : List Char) :
    Scanner.skipSpace inFlow keyAllowed false pos (' ' :: rest) =
      Scanner.skipSpace inFlow keyAllowed false (pos.forward 1) rest := by
  rw [Scanner.skipSpace]
  · rfl
  · intro rest' hc
    exact absurd hc (by decide)

theorem skipSpace_spaces (inFlow keyAllowed : Bool) (n : Nat) (pos : Position)
    (rest : List Char) :
    Scanner.skipSpace inFlow keyAllowed false pos (spaces n ++ rest) =
      Scanner.skipSpace inFlow keyAllowed false (pos.forward n) rest := by
  induction n generalizing pos with
  | zero => rfl
  | succ n ih =>
    rw [spaces, List.replicate_succ, List.cons_append, ← spaces, skipSpace_space, ih,
      Position.forward_forward, Nat.add_comm]

theorem skipSpace_line (keyAllowed : Bool) (pos : Position) (rest : List Char) :
    Scanner.skipSpace false keyAllowed false pos ('\n' :: rest) =
      Scanner.skipSpace false true false (pos.newLine 1) rest := by
  rw [Scanner.skipSpace]
  · simp [isBreak]
  · intro rest' hc
    exact absurd hc (by decide)

/-- From here the scanner comes to this text, which begins in this column, and a key may start
there. -/
def LeadsTo (keyAllowed : Bool) (cursor : Cursor) (column : Nat) (cs : List Char) : Prop :=
  ∃ pos : Position, pos.column = column ∧
    Scanner.skipSpace false keyAllowed false cursor.pos cursor.rest = (true, ⟨pos, cs⟩)

theorem leadsTo_line {cs : List Char} (h : StartsWithLetter cs) (pos : Position)
    (hcolumn : pos.column = 0) : LeadsTo true ⟨pos, cs⟩ 0 cs := by
  refine ⟨pos, hcolumn, ?_⟩
  cases cs with
  | nil => rfl
  | cons c rest => exact skipSpace_token (StartsToken.of_letter h) false true pos rest

theorem leadsTo_next {cs : List Char} (h : StartsWithLetter cs) (keyAllowed : Bool)
    (pos : Position) : LeadsTo keyAllowed ⟨pos, '\n' :: cs⟩ 0 cs := by
  obtain ⟨pos', hcolumn, hskip⟩ := leadsTo_line h (pos.newLine 1) rfl
  exact ⟨pos', hcolumn, (skipSpace_line keyAllowed pos cs).trans hskip⟩

/-- A line that is indented follows. -/
theorem leadsTo_indented (hc : 'a' ≤ c ∧ c ≤ 'z') (keyAllowed : Bool) (pos : Position)
    (n : Nat) : LeadsTo keyAllowed ⟨pos, '\n' :: (spaces n ++ c :: rest)⟩ n (c :: rest) := by
  refine ⟨(pos.newLine 1).forward n, Nat.zero_add n, ?_⟩
  rw [skipSpace_line, skipSpace_spaces, skipSpace_token (StartsToken.of_letter hc)]

theorem PlainText.ne (h : PlainText c rest) {d : Char}
    (hd : d ∈ startIndicators) : c ≠ d := by
  rintro rfl
  have hstart := h.start
  rw [List.contains_eq_mem, decide_eq_true hd] at hstart
  cases hstart

theorem PlainText.startsToken (h : PlainText c rest) :
    StartsToken c := by
  obtain ⟨hshown, hbreak⟩ := h.shown c List.mem_cons_self
  exact StartsToken.of_printable hshown hbreak h.first (h.ne (by decide))

/-- The marks of lists, keys and values are none before a word. -/
theorem PlainText.not_mark (h : PlainText c rest) {d : Char}
    (hd : d = '?' ∨ d = ':' ∨ d = '-') (more : List Char) :
    (decide (c = d) && endsWord (rest ++ more)) = false := by
  by_cases hc : c = d
  · have hword := h.indicator (hc ▸ hd)
    rw [endsWord_append hword, Bool.and_false]
  · rw [decide_eq_false hc, Bool.false_and]

theorem PlainText.startsPlain (h : PlainText c rest) (more : List Char) :
    Scanner.startsPlain false c (rest ++ more) = true := by
  have htoken := h.startsToken
  have hblank : isBlank c = false := by
    simp [isBlank, htoken.noSpace, htoken.noTab]
  -- A mark may begin a plain text if a word follows it; the other indicators may not.
  by_cases hmark : c = '?' ∨ c = ':' ∨ c = '-'
  · have hword := h.indicator hmark
    have hnext : (rest ++ more).head?.any isBlank = false := by
      cases rest with
      | nil => cases hword
      | cons d rest =>
        rw [endsWord, Bool.or_eq_false_iff] at hword
        exact hword.1
    obtain rfl | rfl | rfl := hmark
    · simp [Scanner.startsPlain, endsWord_append hword]
    · simp [Scanner.startsPlain, endsWord_append hword]
    · simp only [Scanner.startsPlain, hnext]
      rfl
  · have hnone : Scanner.indicators.contains c = false := by
      rw [List.contains_eq_mem, decide_eq_false_iff_not]
      intro hc
      have hsplit : Scanner.indicators.all
          (fun d => d ∈ startIndicators ∨ d = '?' ∨ d = ':' ∨ d = '-') = true := by decide
      obtain hstart | hmark' := of_decide_eq_true (List.all_eq_true.mp hsplit c hc)
      · exact h.ne hstart rfl
      · exact hmark hmark'
    simp only [Scanner.startsPlain, hblank, htoken.noBreak, hnone]
    rfl

end Between

namespace Scanner

/-! ## Section 2: One token -/

section Steps

variable {tokens : List Token} {indent : Int} {outer : List Int} {keyAllowed : Bool}
  {cursor : Cursor} {column : Nat} {tail : List Char}

theorem closeBlocks_self {s : Scanner} (h : s.indent ≤ column) : s.closeBlocks column = s := by
  have hopen : ¬ (column : Int) < s.indent := by omega
  rw [closeBlocks]
  split
  · rfl
  · cases s.outer with
    | nil => rfl
    | cons i rest => rw [closeBlocksFrom, if_neg hopen]

theorem dropStaleKeys_none {s : Scanner} (hkey : s.possibleKey = none)
    (houtside : s.inBrackets = []) : s.dropStaleKeys = .ok s := by
  obtain ⟨cursor, tokens, indent, outer, keyAllowed, possibleKey, inBrackets⟩ := s
  subst hkey houtside
  rfl

/-- What a step does after it has passed over blanks, comments and breaks. -/
def afterSpace (s : Scanner) : Except Fault (Scanner × Bool) := do
  let s ← s.dropStaleKeys
  let s := s.closeBlocks s.column
  match s.cursor.rest with
  | [] => do
    let s ← (s.closeBlocks (-1)).removeKey
    return (s, true)
  | c :: rest => return (← s.token c rest, false)

theorem step_eq {s : Scanner} (inFlow : Bool) {allowed : Bool} (hflow : s.inFlow = inFlow)
    (hskip : skipSpace inFlow s.keyAllowed false s.cursor.pos s.cursor.rest = (allowed, cursor)) :
    s.step = afterSpace { s with keyAllowed := allowed, cursor } := by
  rw [step, hflow, hskip]
  rfl

theorem afterSpace_token {s s' : Scanner} {c : Char} {rest : List Char}
    (hdrop : s.dropStaleKeys = .ok s) (hopen : s.indent ≤ s.column)
    (hrest : s.cursor.rest = c :: rest) (htoken : s.token c rest = .ok s') :
    afterSpace s = .ok (s', false) := by
  rw [afterSpace, hdrop, ok_bind, closeBlocks_self hopen]
  dsimp only
  rw [hrest]
  exact congrArg (fun r => r >>= fun s => Except.ok (s, false)) htoken

/-- Outside brackets the next token is that of the first character that is not passed over. -/
theorem step_token {s s' : Scanner} {allowed : Bool} {pos : Position} {c : Char}
    {rest : List Char} (houtside : s.inBrackets = [])
    (hskip : skipSpace false s.keyAllowed false s.cursor.pos s.cursor.rest =
      (allowed, ⟨pos, c :: rest⟩))
    (hfresh : dropStale pos s.possibleKey = .ok s.possibleKey) (hopen : s.indent ≤ pos.column)
    (htoken : token { s with keyAllowed := allowed, cursor := ⟨pos, c :: rest⟩ } c rest = .ok s') :
    s.step = .ok (s', false) := by
  have hflow : s.inFlow = false := by
    rw [inFlow, houtside]
    rfl
  have hdrop : dropStaleKeys { s with keyAllowed := allowed, cursor := ⟨pos, c :: rest⟩ } =
      .ok { s with keyAllowed := allowed, cursor := ⟨pos, c :: rest⟩ } := by
    simp only [dropStaleKeys, hfresh, houtside]
    rfl
  rw [step_eq false hflow hskip]
  exact afterSpace_token hdrop hopen rfl htoken

/-- A line that is indented less than a block closes it. -/
theorem run_close (tokens : List Token) (indent i : Int) (outer : List Int)
    (hlead : LeadsTo keyAllowed cursor column tail) (hless : (column : Int) < indent)
    (fuel : Nat) :
    run (fuel + 1) { cursor, tokens, indent, outer := i :: outer, keyAllowed } =
      run (fuel + 1)
        { cursor, tokens := tokens ++ [.blockEnd], indent := i, outer, keyAllowed } := by
  obtain ⟨pos, rfl, hskip⟩ := hlead
  have hclose : closeBlocks { cursor := ⟨pos, tail⟩, tokens, indent, outer := i :: outer }
        pos.column =
      closeBlocks { cursor := ⟨pos, tail⟩, tokens := tokens ++ [.blockEnd], indent := i, outer }
        pos.column := by
    simp only [closeBlocks, inFlow, List.isEmpty_nil, Bool.not_true, Bool.false_eq_true, if_false,
      closeBlocksFrom, if_pos hless]
    rfl
  have hstep : step { cursor, tokens, indent, outer := i :: outer, keyAllowed } =
      step { cursor, tokens := tokens ++ [.blockEnd], indent := i, outer, keyAllowed } := by
    rw [step_eq false rfl hskip, step_eq false rfl hskip, afterSpace, afterSpace,
      dropStaleKeys_none rfl rfl, dropStaleKeys_none rfl rfl, ok_bind, ok_bind]
    simp only [column]
    rw [hclose]
  rw [run, run, hstep]

/-- At the end the last block is closed. -/
theorem run_end (tokens : List Token) (hlead : LeadsTo keyAllowed cursor 0 []) (fuel : Nat) :
    run (fuel + 1) { cursor, tokens, indent := 0, outer := [-1], keyAllowed } =
      .ok (tokens ++ [.blockEnd]) := by
  obtain ⟨pos, hzero, hskip⟩ := hlead
  have hopen : (0 : Int) ≤ pos.column := Int.natCast_nonneg _
  rw [run, step_eq false rfl hskip, afterSpace, dropStaleKeys_none rfl rfl, ok_bind,
    closeBlocks_self hopen]
  rfl

theorem run_step {s s' : Scanner} (h : s.step = .ok (s', false)) (fuel : Nat) :
    run (fuel + 1) s = run fuel s' := by
  rw [run, h]
  rfl

/-- A text without quotes is read as a plain scalar. -/
theorem token_plain {s : Scanner} {c : Char} {rest : List Char} (h : PlainText c rest)
    (hmarker : s.column = 0 → c ≠ '-' ∧ c ≠ '.') (houtside : s.inBrackets = []) :
    s.token c (rest ++ tail) = s.plain := by
  have hflow : s.inFlow = false := by
    rw [inFlow, houtside]
    rfl
  have hstart : (decide (s.column = 0) && decide (c = '-')) = false ∧
      (decide (s.column = 0) && decide (c = '.')) = false := by
    by_cases hcolumn : s.column = 0
    · rw [decide_eq_false (hmarker hcolumn).1, decide_eq_false (hmarker hcolumn).2, Bool.and_false]
      exact ⟨rfl, rfl⟩
    · rw [decide_eq_false hcolumn, Bool.false_and, Bool.false_and]
      exact ⟨rfl, rfl⟩
  have hdash := h.not_mark (.inr (.inr rfl)) tail
  have hquestion := h.not_mark (.inl rfl) tail
  have hcolon := h.not_mark (.inr (.inl rfl)) tail
  have hother : c ≠ '%' ∧ c ≠ '[' ∧ c ≠ '\x7b' ∧ c ≠ ']' ∧ c ≠ '\x7d' ∧ c ≠ ',' ∧ c ≠ '*' ∧
      c ≠ '&' ∧ c ≠ '!' ∧ c ≠ '|' ∧ c ≠ '>' ∧ c ≠ '\'' ∧ c ≠ '"' := by
    refine ⟨?_, ?_, ?_, ?_, ?_, ?_, ?_, ?_, ?_, ?_, ?_, ?_, ?_⟩ <;> exact h.ne (by decide)
  rw [token]
  simp only [hflow, hstart, hdash, hquestion, hcolon, h.startsPlain tail, hother, decide_false,
    Bool.false_or, Bool.false_and, Bool.and_false, Bool.false_eq_true, if_false, if_true]

/-- Where no key may start, none is remembered. -/
theorem saveKey_not {s : Scanner} (hkey : s.keyAllowed = false) : s.saveKey = .ok s := by
  rw [saveKey, hkey]
  rfl

theorem plain_read {s s' : Scanner} {r : Scanned} (hsave : s.saveKey = .ok s')
    (hscan : scanPlain s'.inFlow (s'.indent + 1) [] .none s'.cursor.pos s'.cursor.rest = .ok r) :
    s.plain = .ok { s'.pushScalar r .plain with keyAllowed := r.afterBreak } := by
  rw [plain, hsave, ok_bind, hscan]
  rfl

/-- Where a key may start, a plain scalar may be the key. -/
theorem plain_key {key : List Char} (hkey : canBePlain key = true) (hne : key ≠ [])
    (hword : endsWord tail = true) {pos : Position} (hopen : indent ≤ pos.column) :
    plain { cursor := ⟨pos, key ++ ':' :: tail⟩, tokens, indent, outer, keyAllowed := true } =
      .ok {
        cursor := ⟨pos.along key, ':' :: tail⟩
        tokens := tokens ++ [.scalar (String.ofList key) .plain]
        indent
        outer
        keyAllowed := false
        possibleKey := some ⟨tokens.length, pos, indent = pos.column⟩ } := by
  have hcolumn : indent + 1 ≤ pos.column + 1 := by omega
  have hsave : saveKey
      { cursor := ⟨pos, key ++ ':' :: tail⟩, tokens, indent, outer, keyAllowed := true } = .ok _ :=
    rfl
  exact plain_read hsave (scanPlain_key hkey hne hword hcolumn)

/-- The colon marks the key before it, and opens the block that the key begins. -/
theorem colon_key {k : PossibleKey} (hcount : k.tokenCount = tokens.length) (t : Token) :
    colon { cursor, tokens := tokens ++ [t], indent, outer, keyAllowed, possibleKey := some k } =
      .ok {
        cursor := cursor.forward 1
        tokens := tokens ++ (if indent < k.pos.column then [.blockMappingStart] else []) ++
          [.key, t, .value]
        indent := if indent < k.pos.column then k.pos.column else indent
        outer := if indent < k.pos.column then indent :: outer else outer
        keyAllowed := false } := by
  by_cases hless : indent < k.pos.column
  · simp [colon, currentKey, insert, openBlock, inFlow, hless, hcount, setKey, pushSkip, push]
    rfl
  · simp [colon, currentKey, insert, openBlock, inFlow, hless, hcount, setKey, pushSkip, push]
    rfl

theorem token_colon {s : Scanner} (hword : endsWord tail = true) (houtside : s.inBrackets = []) :
    s.token ':' tail = s.colon := by
  have hflow : s.inFlow = false := by
    rw [inFlow, houtside]
    rfl
  simp [token, hflow, hword]

/-- A colon ends a key as long as the key is not too far back. -/
theorem step_colon {k : PossibleKey} {pos : Position} (hcount : k.tokenCount = tokens.length)
    (hfresh : PossibleKey.isStale k pos = false) (hword : endsWord tail = true)
    (hopen : indent ≤ pos.column) (t : Token) :
    step {
        cursor := ⟨pos, ':' :: tail⟩
        tokens := tokens ++ [t]
        indent
        outer
        keyAllowed
        possibleKey := some k } =
      .ok ({
        cursor := ⟨pos.forward 1, tail⟩
        tokens := tokens ++ (if indent < k.pos.column then [.blockMappingStart] else []) ++
          [.key, t, .value]
        indent := if indent < k.pos.column then k.pos.column else indent
        outer := if indent < k.pos.column then indent :: outer else outer
        keyAllowed := false }, false) := by
  have hstart : StartsToken ':' := ⟨rfl, by decide, by decide, by decide, by decide⟩
  refine step_token rfl (skipSpace_token hstart false keyAllowed pos tail) ?_ hopen
    ((token_colon hword rfl).trans (colon_key hcount t))
  simp only [dropStale, hfresh]
  rfl

/-- A key is read together with the colon after it.  It opens a block if it is indented deeper than
the block before. -/
theorem run_key (tokens : List Token) (indent : Int) (outer : List Int) {key : List Char}
    (hlead : LeadsTo keyAllowed cursor column (key ++ ':' :: tail))
    (hkey : canBePlain key = true) (hletter : ∃ c rest, key = c :: rest ∧ 'a' ≤ c ∧ c ≤ 'z')
    (hlength : key.length ≤ 256) (hword : endsWord tail = true) (hopen : indent ≤ column)
    (fuel : Nat) :
    ∃ pos : Position, column < pos.column ∧
      run (fuel + 2) { cursor, tokens, indent, outer, keyAllowed } =
        run fuel {
          cursor := ⟨pos, tail⟩
          tokens := tokens ++ (if indent < column then [.blockMappingStart] else []) ++
            [.key, .scalar (String.ofList key) .plain, .value]
          indent := column
          outer := if indent < column then indent :: outer else outer
          keyAllowed := false } := by
  obtain ⟨pos, rfl, hskip⟩ := hlead
  obtain ⟨c, rest, rfl, hc⟩ := hletter
  have hscalar : token
      { cursor := ⟨pos, c :: rest ++ ':' :: tail⟩, tokens, indent, outer, keyAllowed := true }
      c (rest ++ ':' :: tail) = .ok _ :=
    (token_plain (plainText_of_canBePlain hkey)
      (fun _ => ⟨letter_ne hc (by decide), letter_ne hc (by decide)⟩) rfl).trans
      (plain_key hkey (List.cons_ne_nil _ _) hword hopen)
  have hcolumn : (pos.along (c :: rest)).column = pos.column + (c :: rest).length :=
    Position.along_column _ _
  -- A character takes up to four bytes, and a key may have 1024 of them.
  have hfresh : PossibleKey.isStale ⟨tokens.length, pos, indent = pos.column⟩
      (pos.along (c :: rest)) = false := by
    have hindex := Position.along_index_le pos (c :: rest)
    simp only [PossibleKey.isStale, Position.along_line, Nat.lt_irrefl, decide_false, Bool.false_or,
      decide_eq_false_iff_not]
    omega
  have hindent : (if indent < (pos.column : Int) then (pos.column : Int) else indent) =
      pos.column := by
    split <;> omega
  have hwithin : indent ≤ (pos.along (c :: rest)).column := by omega
  refine ⟨(pos.along (c :: rest)).forward 1, ?_, ?_⟩
  · simp only [Position.forward, hcolumn]
    omega
  · -- One step reads the key, and one the colon that makes it a key.
    rw [run_step (step_token rfl hskip rfl hopen hscalar)]
    refine (run_step (step_colon rfl hfresh hword hwithin _) fuel).trans ?_
    simp only [hindent]

end Steps

/-! ## Section 3: Values -/

section Values

variable {tokens : List Token} {n : Nat} {outer : List Int} {pos : Position} {tail : List Char}

/-- What is written after the colon and the space of a key is read in so many steps as these tokens,
and the scanner comes to the next line.  The key is in column `n`. -/
def ReadsAs (n steps : Nat) (written : List Char) (value : List Token) : Prop :=
  ∀ (tail : List Char) (pos : Position) (tokens : List Token) (outer : List Int) (fuel : Nat),
    StartsWithLetter tail → n ≤ pos.column →
      ∃ (keyAllowed : Bool) (cursor : Cursor), LeadsTo keyAllowed cursor 0 tail ∧
        run (fuel + steps) {
            cursor := ⟨pos, ' ' :: (written ++ tail)⟩
            tokens
            indent := n
            outer
            keyAllowed := false } =
          run fuel { cursor, tokens := tokens ++ value, indent := n, outer, keyAllowed }

/-- After a colon and a space comes a value, which is no key. -/
theorem step_value {s' : Scanner} {c : Char} {rest : List Char} (hstart : StartsToken c)
    (hcolumn : n ≤ pos.column)
    (htoken : token
      { cursor := ⟨pos.forward 1, c :: rest⟩, tokens, indent := n, outer, keyAllowed := false }
      c rest = .ok s') :
    step { cursor := ⟨pos, ' ' :: c :: rest⟩, tokens, indent := n, outer, keyAllowed := false } =
      .ok (s', false) := by
  have hskip : skipSpace false false false pos (' ' :: c :: rest) =
      (false, ⟨pos.forward 1, c :: rest⟩) := by
    rw [skipSpace_space, skipSpace_token hstart]
  have hopen : (n : Int) ≤ (pos.forward 1).column := by
    simp only [Position.forward]
    omega
  exact step_token rfl hskip rfl hopen htoken

/-- A value that is one token is read in one step. -/
theorem ReadsAs.of_token {c : Char} {rest : List Char} {t : Token} (hstart : StartsToken c)
    (htoken : ∀ (tail : List Char) (pos : Position) (tokens : List Token) (outer : List Int),
      StartsWithLetter tail → n < pos.column →
        ∃ (keyAllowed : Bool) (cursor : Cursor), LeadsTo keyAllowed cursor 0 tail ∧
          token {
              cursor := ⟨pos, c :: (rest ++ tail)⟩
              tokens
              indent := n
              outer
              keyAllowed := false } c (rest ++ tail) =
          .ok { cursor, tokens := tokens ++ [t], indent := n, outer, keyAllowed }) :
    ReadsAs n 1 (c :: rest) [t] := by
  intro tail pos tokens outer fuel hnext hcolumn
  obtain ⟨keyAllowed, cursor, hlead, htoken⟩ := htoken tail (pos.forward 1) tokens outer hnext
    (Nat.lt_succ_of_le hcolumn)
  exact ⟨keyAllowed, cursor, hlead, run_step (step_value hstart hcolumn htoken) fuel⟩

/-- A value without quotes takes the rest of its line. -/
theorem readsAs_plain {cs : List Char} (h : canBePlain cs = true) (hne : cs ≠ []) :
    ReadsAs n 1 (cs ++ ['\n']) [.scalar (String.ofList cs) .plain] := by
  obtain _ | ⟨c, rest⟩ := cs
  · exact absurd rfl hne
  have hplain := plainText_of_canBePlain h
  rw [List.cons_append]
  refine .of_token hplain.startsToken fun tail pos tokens outer hnext hcolumn => ?_
  have hzero : pos.column = 0 → c ≠ '-' ∧ c ≠ '.' := fun hzero => by omega
  have hdeep : (n : Int) + 1 ≤ pos.column + 1 := by omega
  refine ⟨true, ⟨(pos.along (c :: rest)).newLine 1, tail⟩, leadsTo_line hnext _ rfl, ?_⟩
  have hscan := scanPlain_line h hne hnext (Int.succ_ofNat_pos n) hdeep
  rw [List.append_assoc]
  exact Eq.trans (token_plain hplain hzero rfl) (Eq.trans (plain_read (saveKey_not rfl) hscan) rfl)

theorem singleQuoted_read {s : Scanner} {r : Scanned} (hkey : s.keyAllowed = false)
    (hscan : scanSingleQuoted [] .none (s.cursor.pos.forward 1) (s.cursor.rest.drop 1) = .ok r) :
    s.singleQuoted = .ok { s.pushScalar r .singleQuoted with keyAllowed := false } := by
  rw [singleQuoted, saveKey_not hkey, ok_bind]
  exact congrArg (fun x => x >>= fun r =>
    Except.ok { s.pushScalar r .singleQuoted with keyAllowed := false }) hscan

theorem doubleQuoted_read {s : Scanner} {r : Scanned} (hkey : s.keyAllowed = false)
    (hscan : scanDoubleQuoted [] .none (s.cursor.pos.forward 1) .plain (s.cursor.rest.drop 1) =
      .ok r) :
    s.doubleQuoted = .ok { s.pushScalar r .doubleQuoted with keyAllowed := false } := by
  rw [doubleQuoted, saveKey_not hkey, ok_bind]
  exact congrArg (fun x => x >>= fun r =>
    Except.ok { s.pushScalar r .doubleQuoted with keyAllowed := false }) hscan

theorem literal_read {s : Scanner} {r : Scanned} (hkey : s.currentKey = none)
    (hscan : scanBlock true s.indent ⟨s.cursor.pos.forward 1, s.cursor.rest.drop 1⟩ = .ok r) :
    s.block .literal = .ok { s.pushScalar r .literal with keyAllowed := true } := by
  rw [block, removeKey, hkey, ok_bind]
  exact congrArg (fun x => x >>= fun r =>
    Except.ok { s.pushScalar r .literal with keyAllowed := true }) hscan

theorem startsToken_quote : StartsToken '\'' := ⟨rfl, by decide, by decide, by decide, by decide⟩

theorem startsToken_doubleQuote : StartsToken '"' :=
  ⟨rfl, by decide, by decide, by decide, by decide⟩

theorem startsToken_bar : StartsToken '|' := ⟨rfl, by decide, by decide, by decide, by decide⟩

/-- A value between single quotes. -/
theorem readsAs_singleQuoted {cs : List Char} (h : canBeSingleQuoted cs = true)
    (hsingle : ∀ c ∈ cs, c ≠ '\n') :
    ReadsAs n 1 ('\'' :: (singleQuotedFrom (n + 2) false cs ++ ['\'', '\n']))
      [.scalar (String.ofList cs) .singleQuoted] := by
  refine .of_token startsToken_quote fun tail pos tokens outer hnext _ => ?_
  have htoken (s : Scanner) (rest : List Char) : s.token '\'' rest = s.singleQuoted := by
    simp [token]
  have hquote : ('\n' :: tail).head? ≠ some '\'' := by simp
  have hinside : (pos.forward 1).column ≠ 0 := Nat.succ_ne_zero _
  obtain ⟨pos', hscan⟩ := scanSingleQuoted_written (Nat.succ_pos (n + 1)) hquote h hsingle hinside
  refine ⟨false, ⟨pos', '\n' :: tail⟩, leadsTo_next hnext false pos', ?_⟩
  rw [htoken, List.append_assoc]
  exact Eq.trans (singleQuoted_read rfl hscan) rfl

/-- A value between double quotes. -/
theorem readsAs_doubleQuoted (cs : List Char) :
    ReadsAs n 1 ('"' :: (cs.flatMap doubleQuotedChar ++ ['"', '\n']))
      [.scalar (String.ofList cs) .doubleQuoted] := by
  refine .of_token startsToken_doubleQuote fun tail pos tokens outer hnext _ => ?_
  have htoken (s : Scanner) (rest : List Char) : s.token '"' rest = s.doubleQuoted := by
    simp [token]
  have hinside : (pos.forward 1).column ≠ 0 := Nat.succ_ne_zero _
  obtain ⟨pos', hscan⟩ := scanDoubleQuoted_written cs ('\n' :: tail) hinside
  refine ⟨false, ⟨pos', '\n' :: tail⟩, leadsTo_next hnext false pos', ?_⟩
  rw [htoken, List.append_assoc]
  exact Eq.trans (doubleQuoted_read rfl hscan) rfl

/-- A value that is a literal block. -/
theorem readsAs_literal {cs : List Char} (h : canBeLiteral cs = true) (hne : cs ≠ []) :
    ReadsAs n 1
      ('|' :: (literalMarks cs ++ '\n' :: (literalFrom (n + 2) true cs ++ lastBreak cs)))
      [.scalar (String.ofList cs) .literal] := by
  refine .of_token startsToken_bar fun tail pos tokens outer hnext _ => ?_
  have htoken {s : Scanner} (hflow : s.inFlow = false) (rest : List Char) :
      s.token '|' rest = s.block .literal := by
    simp [token, hflow]
  obtain ⟨pos', hzero, hscan⟩ := scanBlock_written n h hne hnext (pos.forward 1)
  refine ⟨true, ⟨pos', tail⟩, leadsTo_line hnext pos' hzero, ?_⟩
  rw [htoken rfl, List.append_assoc, List.cons_append, List.append_assoc]
  exact Eq.trans (literal_read rfl hscan) rfl

/-- Any text comes back from the style that was chosen for it. -/
theorem readsAs_scalar (text : String) :
    ReadsAs n 1 (scalarChars (n + 2) text ++ lineEnd (scalarChars (n + 2) text))
      [.scalar text (styleOf text)] := by
  have htext : String.ofList text.toList = text := String.ofList_toList
  obtain ⟨hstyle, hliteral, hne⟩ | ⟨hstyle, hplain, hother⟩ | ⟨hstyle, hquoted, hsingle⟩ | hstyle :=
    styleOf_cases text
  · have hwritten : scalarChars (n + 2) text =
        (literalHeader text.toList ++ ['\n']) ++ literalFrom (n + 2) true text.toList := by
      rw [scalarChars, hstyle, List.append_assoc, List.singleton_append]
    have hread := readsAs_literal (n := n) hliteral hne
    rw [htext] at hread
    rw [hwritten, lineEnd_literal hne, hstyle, List.append_assoc, List.append_assoc]
    exact hread
  · have hwritten : scalarChars (n + 2) text = text.toList := by rw [scalarChars, hstyle]
    have hread := readsAs_plain (n := n) hplain (ne_nil_of_plain hother)
    rw [htext] at hread
    rw [hwritten, lineEnd_plain hplain, hstyle]
    exact hread
  · have hwritten : scalarChars (n + 2) text =
        ('\'' :: singleQuotedFrom (n + 2) false text.toList) ++ ['\''] := by
      rw [scalarChars, hstyle]
      rfl
    have hread := readsAs_singleQuoted (n := n) hquoted hsingle
    rw [htext] at hread
    rw [hwritten, lineEnd_concat _ rfl, hstyle, List.append_assoc]
    exact hread
  · have hwritten : scalarChars (n + 2) text =
        ('"' :: text.toList.flatMap doubleQuotedChar) ++ ['"'] := by
      rw [scalarChars, hstyle]
      rfl
    have hread := readsAs_doubleQuoted (n := n) text.toList
    rw [htext] at hread
    rw [hwritten, lineEnd_concat _ rfl, hstyle, List.append_assoc]
    exact hread

theorem startsToken_openBrace : StartsToken '\x7b' :=
  ⟨rfl, by decide, by decide, by decide, by decide⟩

theorem startsToken_closeBrace : StartsToken '\x7d' :=
  ⟨rfl, by decide, by decide, by decide, by decide⟩

theorem openBracket_value {s : Scanner} (hkey : s.keyAllowed = false) (t : Token) :
    s.openBracket t =
      .ok { s.pushSkip t 1 with keyAllowed := true, inBrackets := none :: s.inBrackets } := by
  rw [openBracket, saveKey_not hkey]
  rfl

theorem step_openBrace (hcolumn : n ≤ pos.column) (rest : List Char) :
    step {
        cursor := ⟨pos, ' ' :: '\x7b' :: rest⟩
        tokens
        indent := n
        outer
        keyAllowed := false } =
      .ok ({
        cursor := ⟨(pos.forward 1).forward 1, rest⟩
        tokens := tokens ++ [.flowMappingStart]
        indent := n
        outer
        keyAllowed := true
        inBrackets := [none] }, false) := by
  have htoken (s : Scanner) : s.token '\x7b' rest = s.openBracket .flowMappingStart := by
    simp [token]
  exact step_value startsToken_openBrace hcolumn
    ((htoken _).trans (openBracket_value rfl .flowMappingStart))

theorem step_closeBrace (hcolumn : n ≤ pos.column) (rest : List Char) :
    step {
        cursor := ⟨pos, '\x7d' :: rest⟩
        tokens
        indent := n
        outer
        keyAllowed := true
        inBrackets := [none] } =
      .ok ({
        cursor := ⟨pos.forward 1, rest⟩
        tokens := tokens ++ [.flowMappingEnd]
        indent := n
        outer
        keyAllowed := false }, false) := by
  have htoken (s : Scanner) : s.token '\x7d' rest = s.closeBracket .flowMappingEnd := by
    simp [token]
  have hopen : (n : Int) ≤ pos.column := by omega
  rw [step_eq true rfl (skipSpace_token startsToken_closeBrace true true pos rest)]
  exact afterSpace_token rfl hopen rfl (htoken _)

/-- Braces with nothing between them. -/
theorem readsAs_braces :
    ReadsAs n 2 ['\x7b', '\x7d', '\n'] [.flowMappingStart, .flowMappingEnd] := by
  intro tail pos tokens outer fuel hnext hcolumn
  have hinside : n ≤ ((pos.forward 1).forward 1).column := by
    simp only [Position.forward]
    omega
  refine ⟨false, ⟨((pos.forward 1).forward 1).forward 1, '\n' :: tail⟩,
    leadsTo_next hnext false _, ?_⟩
  refine (run_step (step_openBrace hcolumn _) (fuel + 1)).trans
    ((run_step (step_closeBrace hinside _) fuel).trans ?_)
  rw [List.append_assoc]
  rfl

end Values

end Scanner

end EnvRegistry.Yaml
