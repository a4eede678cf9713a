import EnvRegistry.Json.Reader

/-! # The texts of a JSON value

    A JSON value can be written in many ways: blanks may stand between the
    tokens, a character may be written as an escape, and a number may carry its
    sign and exponent in several forms.  `Writes` is the grammar of these texts,
    and `Spells` allows for the blanks around a whole value.

    The reader reads every text that spells a value as that value
    (`Spells.read`).  The proof goes along the grammar: digits and quoted texts
    first, then values, elements and members together.

    A value that is only passed over may hold a half of a surrogate pair that
    stands alone.  Such a text is written like any other, though nobody can have
    it; only the fault that whoever wants it would meet is taken from the
    reader. -/

namespace EnvRegistry.Json

/-! ## Section 1: The grammar -/

/-- Blanks only. -/
def Blanks (cs : List Char) : Prop := ∀ c ∈ cs, isBlank c = true

/-- Decimal digits, at least one of them. -/
structure Digits (cs : List Char) : Prop where
  ne_nil : cs ≠ []
  isDigit : ∀ c ∈ cs, c.isDigit = true

/-- The sign of a number. -/
def signOf (negative : Bool) : List Char := if negative then ['-'] else []

/-- The texts of the digits after a point, which are left out together with the point. -/
inductive WritesFraction : List Nat → List Char → Prop
  | none : WritesFraction [] []
  | digits {ds : List Char} : Digits ds → WritesFraction (ds.map digitValue) ('.' :: ds)

/-- The texts of an exponent. -/
inductive WritesExponent : Option Int → List Char → Prop
  | none : WritesExponent none []
  | bare {e : Char} {ds : List Char} : e = 'e' ∨ e = 'E' → Digits ds →
      WritesExponent (some (digitsValue ds)) (e :: ds)
  | plus {e : Char} {ds : List Char} : e = 'e' ∨ e = 'E' → Digits ds →
      WritesExponent (some (digitsValue ds)) (e :: '+' :: ds)
  | minus {e : Char} {ds : List Char} : e = 'e' ∨ e = 'E' → Digits ds →
      WritesExponent (some (-digitsValue ds)) (e :: '-' :: ds)

/-- The texts of a number; a zero in front of other digits is not allowed. -/
inductive WritesNumber : Number → List Char → Prop
  | mk {negative : Bool} {ds fs es : List Char} {fraction : List Nat} {exponent : Option Int} :
      Digits ds → (∀ d r, ds ≠ '0' :: d :: r) →
      WritesFraction fraction fs → WritesExponent exponent es →
      WritesNumber ⟨negative, digitsValue ds, fraction, exponent⟩
        (signOf negative ++ (ds ++ (fs ++ es)))

/-- The texts of one element of a quoted text: a character as it is or after a backslash, or the
UTF-16 unit of an escape with digits. -/
inductive WritesPiece : Piece → List Char → Prop
  | plain {c : Char} : 0x20 ≤ c.toNat → c ≠ '"' → c ≠ '\\' → WritesPiece (.char c) [c]
  | escape {e c : Char} : escape? e = some c → WritesPiece (.char c) ['\\', e]
  | unit {a b c d : Char} {u : Nat} : unit? a b c d = some u →
      WritesPiece (.unit u) ['\\', 'u', a, b, c, d]

/-- The texts of the elements of a quoted text. -/
inductive WritesPieces : List Piece → List Char → Prop
  | nil : WritesPieces [] []
  | cons {p : Piece} {ps : List Piece} {w cs : List Char} :
      WritesPiece p w → WritesPieces ps cs → WritesPieces (p :: ps) (w ++ cs)

/-- The characters that elements of a quoted text stand for: a unit stands for its own character,
and the two halves of a pair stand for one character together. -/
inductive StandsFor : List Piece → List Char → Prop
  | nil : StandsFor [] []
  | char {c : Char} {ps : List Piece} {cs : List Char} :
      StandsFor ps cs → StandsFor (.char c :: ps) (c :: cs)
  | unit {u : Nat} {ps : List Piece} {cs : List Char} :
      isHighUnit u = false → isLowUnit u = false → StandsFor ps cs →
      StandsFor (.unit u :: ps) (Char.ofNat u :: cs)
  | pair {u v : Nat} {ps : List Piece} {cs : List Char} :
      isHighUnit u = true → isLowUnit v = true → StandsFor ps cs →
      StandsFor (.unit u :: .unit v :: ps)
        (Char.ofNat (0x10000 + 0x400 * (u - 0xD800) + (v - 0xDC00)) :: cs)

/-- The texts between quotes of a text, or of halves of pairs that stand for none. -/
inductive WritesQuoted : Except Fault String → List Char → Prop
  | text {s : String} {ps : List Piece} {cs : List Char} :
      WritesPieces ps cs → StandsFor ps s.toList → WritesQuoted (.ok s) ('"' :: (cs ++ ['"']))
  | halves {f : Fault} {ps : List Piece} {cs : List Char} :
      WritesPieces ps cs → joinUnits .unexpectedEndOfEscape [] ps = .error f →
      WritesQuoted (.error f) ('"' :: (cs ++ ['"']))

mutual

/-- The texts of a value. -/
inductive Writes : Json → List Char → Prop
  | null : Writes .null ['n', 'u', 'l', 'l']
  | true : Writes (.bool true) ['t', 'r', 'u', 'e']
  | false : Writes (.bool false) ['f', 'a', 'l', 's', 'e']
  | number {n : Number} {cs : List Char} : WritesNumber n cs → Writes (.number n) cs
  | string {s : String} {cs : List Char} : WritesQuoted (.ok s) cs → Writes (.string s) cs
  | halves {f : Fault} {cs : List Char} :
      WritesQuoted (.error f) cs → Writes (.unreadable f none) cs
  | emptyArray {b : List Char} : Blanks b → Writes (.array [] .closed) ('[' :: (b ++ [']']))
  | array {items : List Json} {cs : List Char} :
      WritesItems items cs → Writes (.array items .closed) ('[' :: (cs ++ [']']))
  | emptyObject {b : List Char} :
      Blanks b → Writes (.object [] .closed) ('\x7b' :: (b ++ ['\x7d']))
  | object {members : List (Except Fault String × Json)} {cs : List Char} :
      WritesMembers members cs → Writes (.object members .closed) ('\x7b' :: (cs ++ ['\x7d']))

/-- The texts of the elements of a list, at least one of them. -/
inductive WritesItems : List Json → List Char → Prop
  | last {j : Json} {b w b' : List Char} : Blanks b → Writes j w → Blanks b' →
      WritesItems [j] (b ++ (w ++ b'))
  | next {j : Json} {items : List Json} {b w b' cs : List Char} : Blanks b → Writes j w →
      Blanks b' → WritesItems items cs → WritesItems (j :: items) (b ++ (w ++ (b' ++ ',' :: cs)))

/-- The texts of the members of an object, at least one of them. -/
inductive WritesMembers : List (Except Fault String × Json) → List Char → Prop
  | last {name : Except Fault String} {j : Json} {b n b₁ b₂ w b' : List Char} :
      Blanks b → WritesQuoted name n → Blanks b₁ → Blanks b₂ → Writes j w → Blanks b' →
      WritesMembers [(name, j)] (b ++ (n ++ (b₁ ++ ':' :: (b₂ ++ (w ++ b')))))
  | next {name : Except Fault String} {j : Json} {members : List (Except Fault String × Json)}
      {b n b₁ b₂ w b' cs : List Char} :
      Blanks b → WritesQuoted name n → Blanks b₁ → Blanks b₂ → Writes j w → Blanks b' →
      WritesMembers members cs →
      WritesMembers ((name, j) :: members)
        (b ++ (n ++ (b₁ ++ ':' :: (b₂ ++ (w ++ (b' ++ ',' :: cs))))))

end

/-- A text spells a value if it is one of its texts with blanks around it. -/
def Spells (text : String) (j : Json) : Prop :=
  ∃ b w b', text.toList = b ++ (w ++ b') ∧ Blanks b ∧ Writes j w ∧ Blanks b'

/-! ## Section 2: What ends a token -/

/-- What may stand after a number without becoming a part of it. -/
def EndsNumber (rest : List Char) : Prop :=
  ∀ c r, rest = c :: r → c.isDigit = false ∧ c ≠ '.' ∧ c ≠ 'e' ∧ c ≠ 'E'

theorem endsNumber_nil : EndsNumber [] := by
  intro c r h
  cases h

theorem endsNumber_cons {c : Char} (r : List Char)
    (h : c.isDigit = false ∧ c ≠ '.' ∧ c ≠ 'e' ∧ c ≠ 'E') : EndsNumber (c :: r) := by
  intro d s heq
  cases heq
  exact h

theorem takeWhile_digits {ds rest : List Char} (hds : ∀ c ∈ ds, c.isDigit = true)
    (hrest : ∀ c r, rest = c :: r → c.isDigit = false) :
    (ds ++ rest).takeWhile Char.isDigit = ds ∧ (ds ++ rest).dropWhile Char.isDigit = rest := by
  have hend : rest.takeWhile Char.isDigit = [] ∧ rest.dropWhile Char.isDigit = rest := by
    cases rest with
    | nil => simp
    | cons c r => simp [hrest c r rfl]
  rw [List.takeWhile_append_of_pos hds, List.dropWhile_append_of_pos hds, hend.1, hend.2]
  simp

theorem skipBlanks_cons {c : Char} (cs : List Char) (h : isBlank c = false) :
    skipBlanks (c :: cs) = c :: cs := by
  simp [skipBlanks, h]

theorem blanks_nil : Blanks [] := fun _ hc => absurd hc List.not_mem_nil

theorem skipBlanks_blanks {b : List Char} (hb : Blanks b) (cs : List Char) :
    skipBlanks (b ++ cs) = skipBlanks cs := by
  unfold skipBlanks
  rw [List.dropWhile_append_of_pos hb]

theorem skipBlanks_append {b : List Char} (hb : Blanks b) {c : Char} (cs : List Char)
    (hc : isBlank c = false) : skipBlanks (b ++ c :: cs) = c :: cs := by
  rw [skipBlanks_blanks hb, skipBlanks_cons cs hc]

theorem skipBlanks_all {b : List Char} (hb : Blanks b) : skipBlanks b = [] := by
  have hnone := skipBlanks_blanks hb []
  rwa [List.append_nil] at hnone

theorem exists_blanks (cs : List Char) : ∃ b, Blanks b ∧ cs = b ++ skipBlanks cs :=
  ⟨cs.takeWhile isBlank, List.all_eq_true.mp List.all_takeWhile,
    List.takeWhile_append_dropWhile.symm⟩

/-- A blank ends a number. -/
theorem ends_of_isBlank {c : Char} (h : isBlank c = true) :
    c.isDigit = false ∧ c ≠ '.' ∧ c ≠ 'e' ∧ c ≠ 'E' := by
  simp only [isBlank, Bool.or_eq_true, decide_eq_true_eq] at h
  rcases h with ((rfl | rfl) | rfl) | rfl <;> decide

/-- Blanks do not continue a number that what follows them would not continue. -/
theorem endsNumber_blanks {b rest : List Char} (hb : Blanks b) (hrest : EndsNumber rest) :
    EndsNumber (b ++ rest) := by
  cases b with
  | nil => exact hrest
  | cons c b => exact endsNumber_cons _ (ends_of_isBlank (hb c List.mem_cons_self))

theorem Digits.exists_cons {ds : List Char} (h : Digits ds) :
    ∃ d r, ds = d :: r ∧ d.isDigit = true := by
  obtain ⟨d, r, rfl⟩ := List.exists_cons_of_ne_nil h.ne_nil
  exact ⟨d, r, rfl, h.isDigit d List.mem_cons_self⟩

/-- A character that a value may start with, and that ends no list and no object. -/
def StartsValue (c : Char) : Prop := isBlank c = false ∧ c ≠ ']' ∧ c ≠ '\x7d'

theorem startsValue_digit {c : Char} (h : c.isDigit = true) : StartsValue c := by
  refine ⟨?_, ?_, ?_⟩
  · cases hb : isBlank c with
    | false => rfl
    | true => exact absurd h (by rw [(ends_of_isBlank hb).1]; exact Bool.false_ne_true)
  · rintro rfl
    simp at h
  · rintro rfl
    simp at h

/-! ## Section 3: Reading what spells a number or a quoted text -/

theorem WritesExponent.read {exponent : Option Int} {es rest : List Char}
    (h : WritesExponent exponent es) (negative : Bool) (whole : Nat) (fraction : List Nat)
    (hrest : EndsNumber rest) :
    readExponent ⟨negative, whole, fraction, Option.none⟩ (es ++ rest) =
      (.number ⟨negative, whole, fraction, exponent⟩, some rest) := by
  -- Nothing that may follow a number goes on with its digits.
  have hdigits : ∀ {ds : List Char}, Digits ds →
      (ds ++ rest).takeWhile Char.isDigit = ds ∧ (ds ++ rest).dropWhile Char.isDigit = rest :=
    fun hds => takeWhile_digits hds.isDigit fun c r hr => (hrest c r hr).1
  cases h with
  | none =>
    cases rest with
    | nil => rfl
    | cons c r =>
      obtain ⟨-, -, he, hE⟩ := hrest c r rfl
      simp [readExponent, he, hE]
  | @bare e ds he hds =>
    obtain ⟨htake, hdrop⟩ := hdigits hds
    obtain ⟨d, r, rfl, hd⟩ := hds.exists_cons
    have hminus : d ≠ '-' := by
      rintro rfl
      simp at hd
    have hplus : d ≠ '+' := by
      rintro rfl
      simp at hd
    simp_all [readExponent]
  | plus he hds =>
    obtain ⟨htake, hdrop⟩ := hdigits hds
    simp [readExponent, he, htake, hdrop, hds.ne_nil]
  | minus he hds =>
    obtain ⟨htake, hdrop⟩ := hdigits hds
    simp [readExponent, he, htake, hdrop, hds.ne_nil]

/-- An exponent continues no digits and starts with no point. -/
theorem WritesExponent.ends {exponent : Option Int} {es rest : List Char}
    (h : WritesExponent exponent es) (hrest : EndsNumber rest) :
    ∀ c r, es ++ rest = c :: r → c.isDigit = false ∧ c ≠ '.' := by
  intro c r heq
  have hletter : ∀ {e : Char}, e = 'e' ∨ e = 'E' → e.isDigit = false ∧ e ≠ '.' := by
    rintro e (rfl | rfl) <;> decide
  cases h with
  | none => exact ⟨(hrest c r heq).1, (hrest c r heq).2.1⟩
  | bare he hds => exact (List.cons.inj heq).1 ▸ hletter he
  | plus he hds => exact (List.cons.inj heq).1 ▸ hletter he
  | minus he hds => exact (List.cons.inj heq).1 ▸ hletter he

theorem WritesFraction.read {fraction : List Nat} {exponent : Option Int} {fs es rest : List Char}
    (h : WritesFraction fraction fs) (he : WritesExponent exponent es) (negative : Bool)
    (whole : Nat) (hrest : EndsNumber rest) :
    readFraction ⟨negative, whole, [], Option.none⟩ (fs ++ (es ++ rest)) =
      (.number ⟨negative, whole, fraction, exponent⟩, some rest) := by
  cases h with
  | none =>
    rw [List.nil_append]
    unfold readFraction
    split
    · next heq => exact absurd rfl (he.ends hrest _ _ heq).2
    · exact he.read negative whole [] hrest
  | @digits ds hds =>
    obtain ⟨htake, hdrop⟩ := takeWhile_digits hds.isDigit fun c r hr => (he.ends hrest c r hr).1
    have hread := he.read negative whole (ds.map digitValue) hrest
    rw [List.cons_append, readFraction]
    simp only [htake, hdrop, List.isEmpty_iff, hds.ne_nil, if_false]
    exact hread

/-- What follows the digits in front of a point is no digit. -/
theorem WritesFraction.ends {fraction : List Nat} {exponent : Option Int} {fs es rest : List Char}
    (h : WritesFraction fraction fs) (he : WritesExponent exponent es) (hrest : EndsNumber rest) :
    ∀ c r, fs ++ (es ++ rest) = c :: r → c.isDigit = false := by
  intro c r heq
  cases h with
  | none => exact (he.ends hrest c r heq).1
  | digits hds => exact (List.cons.inj heq).1 ▸ by decide

theorem readNumber_written (negative : Bool) {ds fs es rest : List Char} {fraction : List Nat}
    {exponent : Option Int} (hds : Digits ds) (hzero : ∀ d r, ds ≠ '0' :: d :: r)
    (hfs : WritesFraction fraction fs) (hes : WritesExponent exponent es)
    (hrest : EndsNumber rest) :
    readNumber negative (ds ++ (fs ++ (es ++ rest))) =
      (.number ⟨negative, digitsValue ds, fraction, exponent⟩, some rest) := by
  obtain ⟨htake, hdrop⟩ := takeWhile_digits hds.isDigit (hfs.ends hes hrest)
  unfold readNumber
  rw [htake, hdrop]
  split
  · exact absurd rfl hds.ne_nil
  · next d r => exact absurd rfl (hzero d r)
  · exact hfs.read hes negative (digitsValue ds) hrest

/-- A character that is neither a quote nor a backslash stands for itself. -/
theorem scanQuoted_plain (acc : List Piece) {c : Char} (hquote : c ≠ '"') (hback : c ≠ '\\')
    (rest : List Char) : scanQuoted acc (c :: rest) =
      if c.toNat < 0x20 then (acc, .error (.controlCharacter, c :: rest))
      else scanQuoted (.char c :: acc) rest := by
  rw [scanQuoted.eq_def]
  split
  · next heq => cases heq
  · next heq => exact absurd (List.cons.inj heq).1 hquote
  · next heq => exact absurd (List.cons.inj heq).1 hback
  · next heq => exact absurd (List.cons.inj heq).1 hback
  · next heq => exact absurd (List.cons.inj heq).1 hback
  · next heq => exact absurd (List.cons.inj heq).1 hback
  · next heq =>
    obtain ⟨rfl, rfl⟩ := List.cons.inj heq
    rfl

theorem WritesPiece.scan {p : Piece} {w : List Char} (h : WritesPiece p w) (acc : List Piece)
    (rest : List Char) : scanQuoted acc (w ++ rest) = scanQuoted (p :: acc) rest := by
  cases h with
  | @plain c hlow hquote hback =>
    rw [List.singleton_append, scanQuoted_plain acc hquote hback, if_neg (by omega)]
  | @escape e c he =>
    -- No letter that escapes a character is the one that introduces digits.
    have hu : e ≠ 'u' := by
      rintro rfl
      cases he
    show scanQuoted acc ('\\' :: e :: rest) = _
    rw [scanQuoted.eq_def]
    simp_all
  | unit hu =>
    simp only [List.cons_append, List.nil_append, scanQuoted, hu]

theorem WritesPieces.scan {ps : List Piece} {cs : List Char} (h : WritesPieces ps cs)
    (acc : List Piece) (rest : List Char) :
    scanQuoted acc (cs ++ '"' :: rest) = (ps.reverse ++ acc, .ok rest) := by
  induction h generalizing acc with
  | nil => simp [scanQuoted]
  | cons hp _ ih => rw [List.append_assoc, hp.scan, ih, List.reverse_cons, List.append_assoc,
      List.singleton_append]

theorem StandsFor.join {ps : List Piece} {cs : List Char} (h : StandsFor ps cs) (cut : Fault)
    (acc : List Char) : joinUnits cut acc ps = .ok (acc.reverse ++ cs) := by
  induction h generalizing acc with
  | nil => simp [joinUnits]
  | char _ ih => rw [joinUnits, ih, List.reverse_cons, List.append_assoc, List.singleton_append]
  | @unit u ps cs hhigh hlow _ ih =>
    have hstep : joinUnits cut acc (.unit u :: ps) = joinUnits cut (Char.ofNat u :: acc) ps := by
      cases ps with
      | nil => simp [joinUnits, hlow, hhigh]
      | cons p ps => cases p <;> simp [joinUnits, hlow, hhigh]
    rw [hstep, ih, List.reverse_cons, List.append_assoc, List.singleton_append]
  | @pair u v ps cs hhigh hlow _ ih =>
    have hnot : isLowUnit u = false := by
      simp only [isHighUnit, isLowUnit, Bool.and_eq_true, decide_eq_true_eq] at hhigh ⊢
      simp
      omega
    rw [joinUnits]
    simp only [hnot, hhigh, hlow, Bool.false_eq_true, if_false, if_true]
    rw [ih, List.reverse_cons, List.append_assoc, List.singleton_append]

theorem WritesQuoted.read {wanted : Except Fault String} {cs : List Char}
    (h : WritesQuoted wanted cs) : ∃ body, cs = '"' :: body ∧
      ∀ rest, readQuoted (body ++ rest) = ⟨wanted, none, some rest⟩ := by
  cases h with
  | @text s ps cs hps hs =>
    refine ⟨_, rfl, fun rest => ?_⟩
    unfold readQuoted
    rw [List.append_assoc, List.singleton_append, hps.scan]
    simp [hs.join, Except.map]
  | @halves f ps cs hps hf =>
    refine ⟨_, rfl, fun rest => ?_⟩
    unfold readQuoted
    rw [List.append_assoc, List.singleton_append, hps.scan]
    simp [hf, Except.map]

/-! ## Section 4: Reading what spells a value

    Fuel goes down by one for each bracket, element and member, and each of these
    has a character of its own in the text.  So the three statements about the
    three readers are proved together, by induction on the fuel. -/

theorem readValue_blanks {b : List Char} (hb : Blanks b) (fuel : Nat) (cs : List Char) :
    readValue fuel (b ++ cs) = readValue fuel cs := by
  cases fuel with
  | zero => rfl
  | succ fuel => rw [readValue, readValue, skipBlanks_blanks hb]

theorem WritesNumber.read {n : Number} {w rest : List Char} (h : WritesNumber n w)
    (hrest : EndsNumber rest) (fuel : Nat) :
    readValue (fuel + 1) (w ++ rest) = (.number n, some rest) := by
  obtain @⟨negative, ds, fs, es, fraction, exponent, hds, hzero, hfs, hes⟩ := h
  have hread := readNumber_written negative hds hzero hfs hes hrest
  cases negative with
  | true =>
    simp only [signOf, if_true, List.cons_append, List.nil_append, List.append_assoc]
    rw [readValue, skipBlanks_cons _ (by decide)]
    exact hread
  | false =>
    obtain ⟨d, r, rfl, hd⟩ := hds.exists_cons
    simp only [signOf, Bool.false_eq_true, if_false, List.nil_append, List.append_assoc,
      List.cons_append] at hread ⊢
    rw [readValue, skipBlanks_cons _ (startsValue_digit hd).1]
    -- No other kind of value starts with a digit.
    split
    all_goals simp_all

/-- The text of a value starts like a value. -/
theorem Writes.head {j : Json} {w : List Char} (h : Writes j w) :
    ∃ c cs, w = c :: cs ∧ StartsValue c := by
  cases h with
  | null => exact ⟨_, _, rfl, by decide, by decide, by decide⟩
  | true => exact ⟨_, _, rfl, by decide, by decide, by decide⟩
  | false => exact ⟨_, _, rfl, by decide, by decide, by decide⟩
  | number hn =>
    obtain @⟨negative, ds, fs, es, fraction, exponent, hds, -, -, -⟩ := hn
    cases negative with
    | true => exact ⟨_, _, rfl, by decide, by decide, by decide⟩
    | false =>
      obtain ⟨d, r, rfl, hd⟩ := hds.exists_cons
      exact ⟨d, _, rfl, startsValue_digit hd⟩
  | string hs =>
    obtain ⟨body, rfl, -⟩ := hs.read
    exact ⟨_, _, rfl, by decide, by decide, by decide⟩
  | halves hs =>
    obtain ⟨body, rfl, -⟩ := hs.read
    exact ⟨_, _, rfl, by decide, by decide, by decide⟩
  | emptyArray _ => exact ⟨_, _, rfl, by decide, by decide, by decide⟩
  | array _ => exact ⟨_, _, rfl, by decide, by decide, by decide⟩
  | emptyObject _ => exact ⟨_, _, rfl, by decide, by decide, by decide⟩
  | object _ => exact ⟨_, _, rfl, by decide, by decide, by decide⟩

/-- The elements of a list start like a value, after some blanks. -/
theorem WritesItems.head {items : List Json} {cs : List Char} (h : WritesItems items cs) :
    ∃ b c r, cs = b ++ c :: r ∧ Blanks b ∧ StartsValue c := by
  cases h with
  | last hb hw _ =>
    obtain ⟨c, r, rfl, hc⟩ := hw.head
    exact ⟨_, c, _, rfl, hb, hc⟩
  | next hb hw _ _ =>
    obtain ⟨c, r, rfl, hc⟩ := hw.head
    exact ⟨_, c, _, rfl, hb, hc⟩

/-- The members of an object start with a quote, after some blanks. -/
theorem WritesMembers.head {members : List (Except Fault String × Json)} {cs : List Char}
    (h : WritesMembers members cs) : ∃ b r, cs = b ++ '"' :: r ∧ Blanks b := by
  cases h with
  | last hb hn _ _ _ _ =>
    obtain ⟨body, rfl, -⟩ := hn.read
    exact ⟨_, _, rfl, hb⟩
  | next hb hn _ _ _ _ _ =>
    obtain ⟨body, rfl, -⟩ := hn.read
    exact ⟨_, _, rfl, hb⟩

/-! ### One step of reading a list or an object -/

theorem readItems_last {fuel : Nat} {acc : List Json} {cs b rest : List Char} {j : Json}
    (hb : Blanks b) (h : readValue fuel cs = (j, some (b ++ ']' :: rest))) :
    readItems (fuel + 1) acc cs = (.array (acc.reverse ++ [j]) .closed, some rest) := by
  simp only [readItems, h, skipBlanks_append (c := ']') hb _ (by decide)]
  simp

theorem readItems_next {fuel : Nat} {acc : List Json} {cs b b' rest : List Char} {j : Json}
    {c : Char} (hb : Blanks b) (hb' : Blanks b') (hc : StartsValue c)
    (h : readValue fuel cs = (j, some (b ++ ',' :: (b' ++ c :: rest)))) :
    readItems (fuel + 1) acc cs = readItems fuel (j :: acc) (c :: rest) := by
  simp only [readItems, h, skipBlanks_append (c := ',') hb _ (by decide),
    skipBlanks_append hb' _ hc.1]
  split
  · next heq => cases heq
  · next heq => exact absurd (List.cons.inj heq).1 hc.2.1
  · rfl

theorem readMembers_last {fuel : Nat} {acc : List (Except Fault String × Json)}
    {name : Except Fault String} {body b₁ cs b rest : List Char} {j : Json}
    (hn : ∀ rest, readQuoted (body ++ rest) = ⟨name, none, some rest⟩) (hb₁ : Blanks b₁)
    (hb : Blanks b) (h : readValue fuel cs = (j, some (b ++ '\x7d' :: rest))) :
    readMembers (fuel + 1) acc ('"' :: (body ++ (b₁ ++ ':' :: cs))) =
      (.object (acc.reverse ++ [(name, j)]) .closed, some rest) := by
  simp only [readMembers, hn, skipBlanks_append (c := ':') hb₁ _ (by decide), h,
    skipBlanks_append (c := '\x7d') hb _ (by decide)]
  simp

theorem readMembers_next {fuel : Nat} {acc : List (Except Fault String × Json)}
    {name : Except Fault String} {body b₁ cs b b' rest : List Char} {j : Json}
    (hn : ∀ rest, readQuoted (body ++ rest) = ⟨name, none, some rest⟩) (hb₁ : Blanks b₁)
    (hb : Blanks b) (hb' : Blanks b')
    (h : readValue fuel cs = (j, some (b ++ ',' :: (b' ++ '"' :: rest)))) :
    readMembers (fuel + 1) acc ('"' :: (body ++ (b₁ ++ ':' :: cs))) =
      readMembers fuel ((name, j) :: acc) ('"' :: rest) := by
  simp only [readMembers, hn, skipBlanks_append (c := ':') hb₁ _ (by decide), h,
    skipBlanks_append (c := ',') hb _ (by decide), skipBlanks_append (c := '"') hb' _ (by decide)]
  rfl

/-! ### Whole values -/

/-- With so much fuel, the texts of values are read as these values if they are short enough. -/
def ReadsValues (fuel : Nat) : Prop :=
  ∀ (j : Json) (w rest : List Char), Writes j w → EndsNumber rest → 2 * w.length + 2 ≤ fuel →
    readValue fuel (w ++ rest) = (j, some rest)

/-- The same for the elements of a list. -/
def ReadsItems (fuel : Nat) : Prop :=
  ∀ (items : List Json) (cs : List Char) (acc : List Json) (rest : List Char),
    WritesItems items cs → 2 * cs.length + 3 ≤ fuel →
    readItems fuel acc (skipBlanks (cs ++ ']' :: rest)) =
      (.array (acc.reverse ++ items) .closed, some rest)

/-- The same for the members of an object. -/
def ReadsMembers (fuel : Nat) : Prop :=
  ∀ (members : List (Except Fault String × Json)) (cs : List Char)
    (acc : List (Except Fault String × Json)) (rest : List Char),
    WritesMembers members cs → 2 * cs.length + 3 ≤ fuel →
    readMembers fuel acc (skipBlanks (cs ++ '\x7d' :: rest)) =
      (.object (acc.reverse ++ members) .closed, some rest)

theorem ReadsValues.succ {fuel : Nat} (hI : ReadsItems fuel) (hM : ReadsMembers fuel) :
    ReadsValues (fuel + 1) := by
  intro j w rest hw hrest hfuel
  cases hw with
  | null =>
    show readValue (fuel + 1) ('n' :: 'u' :: 'l' :: 'l' :: rest) = _
    simp [readValue, skipBlanks, isBlank, readLiteral]
  | true =>
    show readValue (fuel + 1) ('t' :: 'r' :: 'u' :: 'e' :: rest) = _
    simp [readValue, skipBlanks, isBlank, readLiteral]
  | false =>
    show readValue (fuel + 1) ('f' :: 'a' :: 'l' :: 's' :: 'e' :: rest) = _
    simp [readValue, skipBlanks, isBlank, readLiteral]
  | number hn => exact hn.read hrest fuel
  | string hs =>
    obtain ⟨body, rfl, hread⟩ := hs.read
    rw [List.cons_append, readValue, skipBlanks_cons _ (by decide)]
    simp only [hread, Quoted.value]
  | halves hs =>
    obtain ⟨body, rfl, hread⟩ := hs.read
    rw [List.cons_append, readValue, skipBlanks_cons _ (by decide)]
    simp only [hread, Quoted.value]
  | @emptyArray b hb =>
    rw [List.cons_append, List.append_assoc, List.singleton_append, readValue,
      skipBlanks_cons _ (by decide)]
    simp only [skipBlanks_append (c := ']') hb rest (by decide)]
  | @array items cs hitems =>
    rw [List.length_cons, List.length_append] at hfuel
    have hread := hI items cs [] rest hitems (by omega)
    obtain ⟨b, c, r, rfl, hb, hc⟩ := hitems.head
    rw [List.cons_append, List.append_assoc, List.singleton_append, readValue,
      skipBlanks_cons _ (by decide)]
    rw [List.append_assoc, List.cons_append, skipBlanks_append hb _ hc.1] at hread
    simp only [List.append_assoc, List.cons_append, skipBlanks_append hb _ hc.1]
    -- The first element starts like a value, so the list is not closed yet.
    split
    · next heq => cases heq
    · next heq => exact absurd (List.cons.inj heq).1 hc.2.1
    · exact hread
  | @emptyObject b hb =>
    rw [List.cons_append, List.append_assoc, List.singleton_append, readValue,
      skipBlanks_cons _ (by decide)]
    simp only [skipBlanks_append (c := '\x7d') hb rest (by decide)]
  | @object members cs hmembers =>
    rw [List.length_cons, List.length_append] at hfuel
    have hread := hM members cs [] rest hmembers (by omega)
    obtain ⟨b, r, rfl, hb⟩ := hmembers.head
    rw [List.cons_append, List.append_assoc, List.singleton_append, readValue,
      skipBlanks_cons _ (by decide)]
    rw [List.append_assoc, List.cons_append, skipBlanks_append hb _ (by decide)] at hread
    simp only [List.append_assoc, List.cons_append, skipBlanks_append (c := '"') hb _ (by decide)]
    exact hread

theorem ReadsItems.succ {fuel : Nat} (hV : ReadsValues fuel) (hI : ReadsItems fuel) :
    ReadsItems (fuel + 1) := by
  intro items cs acc rest hitems hfuel
  cases hitems with
  | @last j b w b' hb hw hb' =>
    rw [List.length_append, List.length_append] at hfuel
    have hend : EndsNumber (b' ++ ']' :: rest) :=
      endsNumber_blanks hb' (endsNumber_cons _ (by decide))
    have hread := hV j w _ hw hend (by omega)
    obtain ⟨c, r, rfl, hc⟩ := hw.head
    simp only [List.append_assoc, List.cons_append, skipBlanks_append hb _ hc.1]
    exact readItems_last hb' hread
  | @next j items b w b' cs hb hw hb' hitems =>
    simp only [List.length_append, List.length_cons] at hfuel
    -- The comma ends a number, and the rest of the list is read with what is left of the fuel.
    have hend : EndsNumber (b' ++ ',' :: (cs ++ ']' :: rest)) :=
      endsNumber_blanks hb' (endsNumber_cons _ (by decide))
    have hread := hV j w _ hw hend (by omega)
    have hrest := hI items cs (j :: acc) rest hitems (by omega)
    obtain ⟨c, r, rfl, hc⟩ := hw.head
    obtain ⟨b₂, d, s, rfl, hb₂, hd⟩ := hitems.head
    simp only [List.append_assoc, List.cons_append] at hread hrest ⊢
    rw [skipBlanks_append hb₂ _ hd.1] at hrest
    rw [skipBlanks_append hb _ hc.1, readItems_next hb' hb₂ hd hread, hrest, List.reverse_cons,
      List.append_assoc, List.singleton_append]

theorem ReadsMembers.succ {fuel : Nat} (hV : ReadsValues fuel) (hM : ReadsMembers fuel) :
    ReadsMembers (fuel + 1) := by
  intro members cs acc rest hmembers hfuel
  cases hmembers with
  | @last name j b n b₁ b₂ w b' hb hn hb₁ hb₂ hw hb' =>
    simp only [List.length_append, List.length_cons] at hfuel
    have hend : EndsNumber (b' ++ '\x7d' :: rest) :=
      endsNumber_blanks hb' (endsNumber_cons _ (by decide))
    have hread := hV j w _ hw hend (by omega)
    rw [← readValue_blanks hb₂] at hread
    obtain ⟨body, rfl, hname⟩ := hn.read
    simp only [List.append_assoc, List.cons_append, skipBlanks_append (c := '"') hb _ (by decide)]
    exact readMembers_last hname hb₁ hb' hread
  | @next name j members b n b₁ b₂ w b' cs hb hn hb₁ hb₂ hw hb' hmembers =>
    simp only [List.length_append, List.length_cons] at hfuel
    have hend : EndsNumber (b' ++ ',' :: (cs ++ '\x7d' :: rest)) :=
      endsNumber_blanks hb' (endsNumber_cons _ (by decide))
    have hread := hV j w _ hw hend (by omega)
    have hrest := hM members cs ((name, j) :: acc) rest hmembers (by omega)
    rw [← readValue_blanks hb₂] at hread
    obtain ⟨body, rfl, hname⟩ := hn.read
    obtain ⟨b₃, s, rfl, hb₃⟩ := hmembers.head
    simp only [List.append_assoc, List.cons_append] at hread hrest ⊢
    rw [skipBlanks_append hb₃ _ (by decide)] at hrest
    rw [skipBlanks_append hb _ (by decide), readMembers_next hname hb₁ hb' hb₃ hread, hrest,
      List.reverse_cons, List.append_assoc, List.singleton_append]

theorem reads_all (fuel : Nat) : ReadsValues fuel ∧ ReadsItems fuel ∧ ReadsMembers fuel := by
  induction fuel with
  | zero =>
    refine ⟨?_, ?_, ?_⟩
    · intro j w rest _ _ h
      omega
    · intro items cs acc rest _ h
      omega
    · intro members cs acc rest _ h
      omega
  | succ fuel ih =>
    obtain ⟨hV, hI, hM⟩ := ih
    exact ⟨.succ hI hM, .succ hV hI, .succ hV hM⟩

/-- A text that spells a value is read as this value. -/
theorem Spells.read {text : String} {j : Json} (h : Spells text j) : read text = ⟨j, none⟩ := by
  obtain ⟨b, w, b', htext, hb, hw, hb'⟩ := h
  have hend : EndsNumber b' := by
    have hblanks := endsNumber_blanks hb' endsNumber_nil
    rwa [List.append_nil] at hblanks
  have hlength : text.toList.length = b.length + (w.length + b'.length) := by
    rw [htext, List.length_append, List.length_append]
  have hread : readValue (2 * text.toList.length + 2) text.toList = (j, some b') := by
    conv => lhs; arg 2; rw [htext]
    rw [readValue_blanks hb]
    exact (reads_all _).1 j w b' hw hend (by omega)
  simp only [Json.read, hread, skipBlanks_all hb']

end EnvRegistry.Json
