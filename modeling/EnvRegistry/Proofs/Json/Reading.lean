import EnvRegistry.Proofs.Json.Grammar

/-! # What the JSON reader takes

    Whatever the reader makes of a text, it accounts for the text: what it took
    of it is one of the texts of the value it gives, unless a fault of this
    value made it stop.  So a text that is read without a fault spells the value
    that was read, and the grammar leaves out no text that the reader takes.

    The statements follow the reader function by function, and those about
    values, elements and members are proved together by induction on the fuel. -/

namespace EnvRegistry.Json

/-! ## Section 1: Values without a fault -/

theorem skipFaultItems_eq_none {items : List Json} :
    skipFaultItems items = none ↔ ∀ j ∈ items, skipFault j = none := by
  induction items with
  | nil => simp [skipFaultItems]
  | cons j items ih => simp [skipFaultItems, Option.or_eq_none_iff, ih]

theorem skipFaultMembers_eq_none {members : List (Except Fault String × Json)} :
    skipFaultMembers members = none ↔ ∀ m ∈ members, skipFault m.2 = none := by
  induction members with
  | nil => simp [skipFaultMembers]
  | cons m members ih => simp [skipFaultMembers, Option.or_eq_none_iff, ih]

theorem skipFault_array {items : List Json} {tail : Tail} : skipFault (.array items tail) = none ↔
    (∀ j ∈ items, skipFault j = none) ∧ tailFault tail = none := by
  rw [skipFault, Option.or_eq_none_iff, skipFaultItems_eq_none]

theorem skipFault_object {members : List (Except Fault String × Json)} {tail : Tail} :
    skipFault (.object members tail) = none ↔
      (∀ m ∈ members, skipFault m.2 = none) ∧ tailFault tail = none := by
  rw [skipFault, Option.or_eq_none_iff, skipFaultMembers_eq_none]

/-- A list that does not end properly has a fault. -/
theorem skipFault_array_cut {items : List Json} {tail : Tail} (h : tailFault tail ≠ none) :
    skipFault (.array items tail) ≠ none := fun hnone => h (skipFault_array.mp hnone).2

/-- An object that does not end properly has a fault. -/
theorem skipFault_object_cut {members : List (Except Fault String × Json)} {tail : Tail}
    (h : tailFault tail ≠ none) : skipFault (.object members tail) ≠ none :=
  fun hnone => h (skipFault_object.mp hnone).2

mutual

/-- A value that has a text holds no fault. -/
theorem Writes.noFault {j : Json} {w : List Char} : Writes j w → skipFault j = none
  | .null => rfl
  | .true => rfl
  | .false => rfl
  | .number _ => rfl
  | .string _ => rfl
  | .halves _ => rfl
  | .emptyArray _ => rfl
  | .array h => Option.or_eq_none_iff.mpr ⟨h.noFault, rfl⟩
  | .emptyObject _ => rfl
  | .object h => Option.or_eq_none_iff.mpr ⟨h.noFault, rfl⟩

theorem WritesItems.noFault {items : List Json} {cs : List Char} :
    WritesItems items cs → skipFaultItems items = none
  | .last _ hw _ => Option.or_eq_none_iff.mpr ⟨hw.noFault, rfl⟩
  | .next _ hw _ h => Option.or_eq_none_iff.mpr ⟨hw.noFault, h.noFault⟩

theorem WritesMembers.noFault {members : List (Except Fault String × Json)} {cs : List Char} :
    WritesMembers members cs → skipFaultMembers members = none
  | .last _ _ _ _ hw _ => Option.or_eq_none_iff.mpr ⟨hw.noFault, rfl⟩
  | .next _ _ _ _ hw _ h => Option.or_eq_none_iff.mpr ⟨hw.noFault, h.noFault⟩

end

/-! ## Section 2: Numbers and literals -/

/-- What a reader gives accounts for a text: what it took of the text is related to the value, or
nothing follows and the value has a fault for whoever passes over it. -/
def Accounts (P : Json → List Char → Prop) (cs : List Char) : Reading → Prop
  | (j, some rest) => ∃ w, cs = w ++ rest ∧ P j w
  | (j, none) => skipFault j ≠ none

section Accounts

variable {P Q : Json → List Char → Prop} {cs : List Char} {r : Reading}

/-- What was taken before the reader started is taken as well. -/
theorem Accounts.prepend (h : Accounts P cs r) (p : List Char)
    (hPQ : ∀ j w, P j w → Q j (p ++ w)) : Accounts Q (p ++ cs) r := by
  obtain ⟨j, rest | rest⟩ := r
  · exact h
  · obtain ⟨w, rfl, hw⟩ := h
    exact ⟨p ++ w, (List.append_assoc _ _ _).symm, hPQ j w hw⟩

theorem Accounts.mono (h : Accounts P cs r) (hPQ : ∀ j w, P j w → Q j w) : Accounts Q cs r :=
  h.prepend [] hPQ

theorem numberCut_accounts (cs' : List Char) : Accounts P cs (numberCut cs') := by
  cases cs' <;> exact Option.some_ne_none _

end Accounts

/-- A list of digits is told apart from what follows it. -/
theorem exists_digits (cs : List Char) (h : (cs.takeWhile Char.isDigit).isEmpty = false) :
    Digits (cs.takeWhile Char.isDigit) ∧
      cs = cs.takeWhile Char.isDigit ++ cs.dropWhile Char.isDigit := by
  refine ⟨⟨?_, List.all_eq_true.mp List.all_takeWhile⟩, List.takeWhile_append_dropWhile.symm⟩
  intro hnil
  rw [hnil] at h
  cases h

theorem readLiteral_accounts (value : Json) (expected cs : List Char) :
    Accounts (fun j w => j = value ∧ w = expected) cs (readLiteral value expected cs) := by
  induction expected generalizing cs with
  | nil => exact ⟨[], rfl, rfl, rfl⟩
  | cons e expected ih =>
    cases cs with
    | nil => exact Option.some_ne_none _
    | cons c cs =>
      rw [readLiteral]
      split
      · next heq =>
        subst heq
        refine (ih cs).prepend [c] ?_
        rintro j w ⟨hj, rfl⟩
        exact ⟨hj, rfl⟩
      · exact Option.some_ne_none _

/-- The digits of an exponent stand after its letter and perhaps a sign, and must not be missing. -/
theorem exponentDigits_accounts {negative : Bool} {whole : Nat} {fraction : List Nat}
    (p cs : List Char) (value : List Char → Int)
    (h : ∀ ds, Digits ds → WritesExponent (some (value ds)) (p ++ ds)) : Accounts
      (fun j es => ∃ exponent, j = .number ⟨negative, whole, fraction, exponent⟩ ∧
        WritesExponent exponent es)
      (p ++ cs)
      (if (cs.takeWhile Char.isDigit).isEmpty then numberCut cs
        else (.number ⟨negative, whole, fraction, some (value (cs.takeWhile Char.isDigit))⟩,
          some (cs.dropWhile Char.isDigit))) := by
  split
  · exact numberCut_accounts cs
  · next hds =>
    obtain ⟨hdigits, hsplit⟩ := exists_digits cs (Bool.eq_false_iff.mpr hds)
    refine ⟨p ++ cs.takeWhile Char.isDigit, ?_, _, rfl, h _ hdigits⟩
    rw [List.append_assoc, ← hsplit]

theorem readExponent_accounts (negative : Bool) (whole : Nat) (fraction : List Nat)
    (cs : List Char) : Accounts
      (fun j es => ∃ exponent, j = .number ⟨negative, whole, fraction, exponent⟩ ∧
        WritesExponent exponent es)
      cs (readExponent ⟨negative, whole, fraction, Option.none⟩ cs) := by
  cases cs with
  | nil => exact ⟨[], rfl, Option.none, rfl, .none⟩
  | cons e cs =>
    by_cases he : e = 'e' ∨ e = 'E'
    · simp only [readExponent, Bool.or_eq_true, decide_eq_true_eq, he, if_true]
      split
      · next r =>
        exact exponentDigits_accounts [e, '-'] r (fun ds => -digitsValue ds) fun ds hds =>
          .minus he hds
      · next r =>
        exact exponentDigits_accounts [e, '+'] r (fun ds => digitsValue ds) fun ds hds =>
          .plus he hds
      · exact exponentDigits_accounts [e] cs (fun ds => digitsValue ds) fun ds hds => .bare he hds
    · simp only [readExponent, Bool.or_eq_true, decide_eq_true_eq, he, if_false]
      exact ⟨[], rfl, Option.none, rfl, .none⟩

theorem readFraction_accounts (negative : Bool) (whole : Nat) (cs : List Char) : Accounts
    (fun j w => ∃ fraction exponent fs es, j = .number ⟨negative, whole, fraction, exponent⟩ ∧
      w = fs ++ es ∧ WritesFraction fraction fs ∧ WritesExponent exponent es)
    cs (readFraction ⟨negative, whole, [], Option.none⟩ cs) := by
  unfold readFraction
  split
  · next r =>
    simp only
    split
    · exact numberCut_accounts _
    · next hds =>
      obtain ⟨hdigits, hsplit⟩ := exists_digits _ (Bool.eq_false_iff.mpr hds)
      have hread := readExponent_accounts negative whole
        ((r.takeWhile Char.isDigit).map digitValue) (r.dropWhile Char.isDigit)
      have hpoint : '.' :: r = ('.' :: r.takeWhile Char.isDigit) ++ r.dropWhile Char.isDigit :=
        congrArg ('.' :: ·) hsplit
      rw [hpoint]
      refine hread.prepend _ ?_
      rintro j es ⟨exponent, rfl, hes⟩
      exact ⟨_, exponent, _, es, rfl, rfl, .digits hdigits, hes⟩
  · refine (readExponent_accounts negative whole [] _).mono ?_
    rintro j es ⟨exponent, rfl, hes⟩
    exact ⟨[], exponent, [], es, rfl, rfl, .none, hes⟩

theorem readNumber_accounts (negative : Bool) (cs : List Char) : Accounts
    (fun j w => ∃ n, j = .number n ∧ WritesNumber n (signOf negative ++ w))
    cs (readNumber negative cs) := by
  unfold readNumber
  split
  · exact numberCut_accounts _
  · exact Option.some_ne_none _
  · next ds hnil hzero =>
    have hne : (cs.takeWhile Char.isDigit).isEmpty = false := by
      cases hds : cs.takeWhile Char.isDigit with
      | nil => exact absurd hds hnil
      | cons d r => rfl
    obtain ⟨hdigits, hsplit⟩ := exists_digits cs hne
    have hread := readFraction_accounts negative (digitsValue (cs.takeWhile Char.isDigit))
      (cs.dropWhile Char.isDigit)
    conv => arg 2; rw [hsplit]
    refine hread.prepend _ ?_
    rintro j w ⟨fraction, exponent, fs, es, rfl, rfl, hfs, hes⟩
    exact ⟨_, rfl, .mk hdigits hzero hfs hes⟩

/-! ## Section 3: Quoted texts -/

theorem scanQuoted_accounts {acc pieces : List Piece} {cs rest : List Char}
    (h : scanQuoted acc cs = (pieces, .ok rest)) :
    ∃ ps w, pieces = ps.reverse ++ acc ∧ cs = w ++ '"' :: rest ∧ WritesPieces ps w := by
  have hpiece : ∀ {p w cs' acc}, WritesPiece p w →
      (∃ ps v, pieces = ps.reverse ++ (p :: acc) ∧ cs' = v ++ '"' :: rest ∧ WritesPieces ps v) →
      ∃ ps v, pieces = ps.reverse ++ acc ∧ w ++ cs' = v ++ '"' :: rest ∧ WritesPieces ps v := by
    rintro p w cs' acc hp ⟨ps, v, rfl, rfl, hps⟩
    exact ⟨p :: ps, w ++ v, by simp, by simp, .cons hp hps⟩
  fun_induction scanQuoted acc cs with
  | case1 => cases h
  | case2 acc r =>
    cases h
    exact ⟨[], [], rfl, rfl, .nil⟩
  | case3 acc a b c d r u hu ih => exact hpiece (.unit hu) (ih h)
  | case4 => cases h
  | case5 => cases h
  | case6 acc e r _ _ c hc ih => exact hpiece (.escape hc) (ih h)
  | case7 => cases h
  | case8 => cases h
  | case9 => cases h
  | case10 acc c r hquote _ _ hescape hend hlow ih =>
    have hback : c ≠ '\\' := by
      intro hc
      cases r with
      | nil => exact hend hc rfl
      | cons e r => exact hescape e r hc rfl
    exact hpiece (.plain (Nat.le_of_not_lt hlow) hquote hback) (ih h)

theorem joinUnits_standsFor {cut : Fault} {acc cs : List Char} {ps : List Piece}
    (h : joinUnits cut acc ps = .ok cs) : ∃ r, cs = acc.reverse ++ r ∧ StandsFor ps r := by
  have hstep : ∀ {c : Char} {acc : List Char} {qs : List Piece},
      (∃ r, cs = (c :: acc).reverse ++ r ∧ StandsFor qs r) →
      ∃ r, cs = acc.reverse ++ c :: r ∧ StandsFor qs r := by
    rintro c acc qs ⟨r, rfl, hr⟩
    exact ⟨r, by simp, hr⟩
  -- The cases are those of the reader: a unit is followed by nothing, by a character or a unit.
  fun_induction joinUnits cut acc ps with
  | case1 acc =>
    cases h
    exact ⟨[], (List.append_nil _).symm, .nil⟩
  | case2 acc c ps ih =>
    obtain ⟨r, hcs, hr⟩ := hstep (ih h)
    exact ⟨_, hcs, .char hr⟩
  | case3 => cases h
  | case4 => cases h
  | case5 acc u hlow hhigh =>
    cases h
    exact ⟨[Char.ofNat u], by simp,
      .unit (eq_false_of_ne_true hhigh) (eq_false_of_ne_true hlow) .nil⟩
  | case6 => cases h
  | case7 => cases h
  | case8 acc u c ps hlow hhigh ih =>
    obtain ⟨r, hcs, hr⟩ := hstep (ih h)
    obtain ⟨r, hcs, hr⟩ := hstep ⟨_, hcs, .char hr⟩
    exact ⟨_, hcs, .unit (eq_false_of_ne_true hhigh) (eq_false_of_ne_true hlow) hr⟩
  | case9 => cases h
  | case10 acc u v ps _ hhigh hlow ih =>
    obtain ⟨r, hcs, hr⟩ := hstep (ih h)
    exact ⟨_, hcs, .pair hhigh hlow hr⟩
  | case11 => cases h
  | case12 acc u v ps hlow hhigh ih =>
    obtain ⟨r, hcs, hr⟩ := hstep (ih h)
    exact ⟨_, hcs, .unit (eq_false_of_ne_true hhigh) (eq_false_of_ne_true hlow) hr⟩

/-- Reading a quoted text after its opening quote. -/
theorem readQuoted_cases (cs : List Char) :
    (∃ name w rest, readQuoted cs = ⟨name, none, some rest⟩ ∧ cs = w ++ rest ∧
      WritesQuoted name ('"' :: w)) ∨
    ∃ f g, readQuoted cs = ⟨.error f, some g, none⟩ := by
  unfold readQuoted
  cases hscan : scanQuoted [] cs with
  | mk pieces stop =>
    cases stop with
    | error fault => exact .inr ⟨_, fault.1, rfl⟩
    | ok rest =>
      obtain ⟨ps, w, rfl, rfl, hps⟩ := scanQuoted_accounts hscan
      refine .inl ⟨_, w ++ ['"'], rest, rfl, by simp, ?_⟩
      rw [List.append_nil, List.reverse_reverse]
      cases hjoin : joinUnits .unexpectedEndOfEscape [] ps with
      | error f => exact .halves hps hjoin
      | ok text =>
        obtain ⟨r, rfl, hr⟩ := joinUnits_standsFor hjoin
        refine .text hps ?_
        rwa [String.toList_ofList]

/-! ## Section 4: Values -/

/-- Blanks and what spells a value. -/
def Led (j : Json) (w : List Char) : Prop := ∃ b v, w = b ++ v ∧ Blanks b ∧ Writes j v

theorem WritesItems.led {items : List Json} {b cs : List Char} (hb : Blanks b)
    (h : WritesItems items cs) : WritesItems items (b ++ cs) := by
  have happend : ∀ {b' : List Char}, Blanks b' → Blanks (b ++ b') := fun hb' c hc =>
    (List.mem_append.mp hc).elim (hb c) (hb' c)
  cases h with
  | last hb₁ hw hb₂ =>
    rw [← List.append_assoc]
    exact .last (happend hb₁) hw hb₂
  | next hb₁ hw hb₂ hitems =>
    rw [← List.append_assoc]
    exact .next (happend hb₁) hw hb₂ hitems

theorem WritesMembers.led {members : List (Except Fault String × Json)} {b cs : List Char}
    (hb : Blanks b) (h : WritesMembers members cs) : WritesMembers members (b ++ cs) := by
  have happend : ∀ {b' : List Char}, Blanks b' → Blanks (b ++ b') := fun hb' c hc =>
    (List.mem_append.mp hc).elim (hb c) (hb' c)
  cases h with
  | last hb₀ hn hb₁ hb₂ hw hb' =>
    rw [← List.append_assoc]
    exact .last (happend hb₀) hn hb₁ hb₂ hw hb'
  | next hb₀ hn hb₁ hb₂ hw hb' hmembers =>
    rw [← List.append_assoc]
    exact .next (happend hb₀) hn hb₁ hb₂ hw hb' hmembers

/-- What follows the opening bracket of a list of which some elements were read before. -/
def ListRest (acc : List Json) (j : Json) (w : List Char) : Prop :=
  ∃ items v, j = .array (acc.reverse ++ items) .closed ∧ w = v ++ [']'] ∧ WritesItems items v

/-- What follows the opening bracket of an object of which some members were read before. -/
def ObjectRest (acc : List (Except Fault String × Json)) (j : Json) (w : List Char) : Prop :=
  ∃ members v, j = .object (acc.reverse ++ members) .closed ∧ w = v ++ ['\x7d'] ∧
    WritesMembers members v

/-- With any fuel, what is read as a value is accounted for. -/
def AccountsValues (fuel : Nat) : Prop :=
  ∀ cs : List Char, Accounts Led cs (readValue fuel cs)

/-- The same for the elements of a list, up to its bracket. -/
def AccountsItems (fuel : Nat) : Prop :=
  ∀ (acc : List Json) (cs : List Char), Accounts (ListRest acc) cs (readItems fuel acc cs)

/-- The same for the members of an object. -/
def AccountsMembers (fuel : Nat) : Prop :=
  ∀ (acc : List (Except Fault String × Json)) (cs : List Char),
    Accounts (ObjectRest acc) cs (readMembers fuel acc cs)

/-! ### Values that are no lists and no objects -/

theorem literal_accounts {value : Json} {c : Char} {expected : List Char}
    (hw : Writes value (c :: expected)) (r : List Char) :
    Accounts Writes (c :: r) (readLiteral value expected r) := by
  refine (readLiteral_accounts value expected r).prepend [c] ?_
  rintro j w ⟨rfl, rfl⟩
  exact hw

theorem negative_accounts (r : List Char) : Accounts Writes ('-' :: r) (readNumber true r) := by
  refine (readNumber_accounts true r).prepend ['-'] ?_
  rintro j w ⟨n, rfl, hn⟩
  exact .number hn

theorem positive_accounts (cs : List Char) : Accounts Writes cs (readNumber false cs) := by
  refine (readNumber_accounts false cs).mono ?_
  rintro j w ⟨n, rfl, hn⟩
  exact .number hn

theorem quoted_accounts (r : List Char) :
    Accounts Writes ('"' :: r) ((readQuoted r).value, (readQuoted r).rest) := by
  rcases readQuoted_cases r with ⟨name, w, rest, hread, rfl, hname⟩ | ⟨f, g, hread⟩
  · simp only [hread, Quoted.value]
    cases name with
    | ok s => exact ⟨'"' :: w, rfl, .string hname⟩
    | error f => exact ⟨'"' :: w, rfl, .halves hname⟩
  · simp only [hread, Quoted.value]
    exact Option.some_ne_none _

/-! ### Lists and objects -/

/-- A list that is not empty, after its opening bracket. -/
theorem AccountsItems.array {fuel : Nat} (hI : AccountsItems fuel) (r : List Char) :
    Accounts Writes ('[' :: r) (readItems fuel [] (skipBlanks r)) := by
  obtain ⟨b, hb, hr⟩ := exists_blanks r
  have hread : Accounts Writes ('[' :: b ++ skipBlanks r) (readItems fuel [] (skipBlanks r)) := by
    refine (hI [] (skipBlanks r)).prepend ('[' :: b) ?_
    rintro j w ⟨items, v, rfl, rfl, hitems⟩
    have hw := Writes.array (hitems.led hb)
    rwa [List.append_assoc] at hw
  rwa [List.cons_append, ← hr] at hread

/-- An object that is not empty, after its opening bracket. -/
theorem AccountsMembers.object {fuel : Nat} (hM : AccountsMembers fuel) (r : List Char) :
    Accounts Writes ('\x7b' :: r) (readMembers fuel [] (skipBlanks r)) := by
  obtain ⟨b, hb, hr⟩ := exists_blanks r
  have hread : Accounts Writes ('\x7b' :: b ++ skipBlanks r)
      (readMembers fuel [] (skipBlanks r)) := by
    refine (hM [] (skipBlanks r)).prepend ('\x7b' :: b) ?_
    rintro j w ⟨members, v, rfl, rfl, hmembers⟩
    have hw := Writes.object (hmembers.led hb)
    rwa [List.append_assoc] at hw
  rwa [List.cons_append, ← hr] at hread

/-- An element and a comma in front of the rest of a list. -/
theorem AccountsItems.next {fuel : Nat} (hI : AccountsItems fuel) (acc : List Json) {j : Json}
    {b w b' : List Char} (hb : Blanks b) (hw : Writes j w) (hb' : Blanks b') (r : List Char) :
    Accounts (ListRest acc) (b ++ (w ++ (b' ++ ',' :: r)))
      (readItems fuel (j :: acc) (skipBlanks r)) := by
  obtain ⟨b'', hb'', hr⟩ := exists_blanks r
  have hrest : Accounts (ListRest acc) (b ++ (w ++ (b' ++ ',' :: b'')) ++ skipBlanks r)
      (readItems fuel (j :: acc) (skipBlanks r)) := by
    refine (hI (j :: acc) (skipBlanks r)).prepend _ ?_
    rintro k w' ⟨items, v, rfl, rfl, hitems⟩
    refine ⟨j :: items, _, by simp, ?_, .next hb hw hb' (hitems.led hb'')⟩
    simp
  simpa only [List.append_assoc, List.cons_append, ← hr] using hrest

/-- A member and a comma in front of the rest of an object. -/
theorem AccountsMembers.next {fuel : Nat} (hM : AccountsMembers fuel)
    (acc : List (Except Fault String × Json)) {name : Except Fault String} {j : Json}
    {n b₁ b₂ w b' : List Char} (hn : WritesQuoted name ('"' :: n)) (hb₁ : Blanks b₁)
    (hb₂ : Blanks b₂) (hw : Writes j w) (hb' : Blanks b') (r : List Char) :
    Accounts (ObjectRest acc) ('"' :: (n ++ (b₁ ++ ':' :: (b₂ ++ (w ++ (b' ++ ',' :: r))))))
      (readMembers fuel ((name, j) :: acc) (skipBlanks r)) := by
  obtain ⟨b'', hb'', hr⟩ := exists_blanks r
  have hrest : Accounts (ObjectRest acc)
      ('"' :: (n ++ (b₁ ++ ':' :: (b₂ ++ (w ++ (b' ++ ',' :: b''))))) ++ skipBlanks r)
      (readMembers fuel ((name, j) :: acc) (skipBlanks r)) := by
    refine (hM ((name, j) :: acc) (skipBlanks r)).prepend _ ?_
    rintro k w' ⟨members, v, rfl, rfl, hmembers⟩
    refine ⟨(name, j) :: members, _, by simp, ?_,
      .next blanks_nil hn hb₁ hb₂ hw hb' (hmembers.led hb'')⟩
    simp
  simpa only [List.append_assoc, List.cons_append, ← hr] using hrest

/-! ### All of them -/

theorem AccountsValues.succ {fuel : Nat} (hI : AccountsItems fuel) (hM : AccountsMembers fuel) :
    AccountsValues (fuel + 1) := by
  intro cs
  obtain ⟨b, hb, hcs⟩ := exists_blanks cs
  have hread : readValue (fuel + 1) cs = readValue (fuel + 1) (skipBlanks cs) := by
    conv => lhs; rw [hcs]
    exact readValue_blanks hb _ _
  have hstable : skipBlanks (skipBlanks cs) = skipBlanks cs := by
    conv => rhs; rw [hcs]
    exact (skipBlanks_blanks hb _).symm
  -- The first character says what kind of value it is.
  suffices h : Accounts Writes (skipBlanks cs) (readValue (fuel + 1) (skipBlanks cs)) by
    rw [hread]
    conv => arg 2; rw [hcs]
    exact h.prepend b fun j v hv => ⟨b, v, rfl, hb, hv⟩
  rw [readValue, hstable]
  split
  · exact Option.some_ne_none _
  · next r heq => exact heq ▸ literal_accounts .null r
  · next r heq => exact heq ▸ literal_accounts .true r
  · next r heq => exact heq ▸ literal_accounts .false r
  · next r heq => exact heq ▸ negative_accounts r
  · next r heq => exact heq ▸ quoted_accounts r
  · next r heq =>
    rw [heq]
    split
    · exact Option.some_ne_none _
    · next r' hclosed =>
      obtain ⟨b', hb', hr⟩ := exists_blanks r
      rw [hclosed] at hr
      subst hr
      exact ⟨'[' :: (b' ++ [']']), by simp, .emptyArray hb'⟩
    · exact hI.array r
  · next r heq =>
    rw [heq]
    split
    · exact Option.some_ne_none _
    · next r' hclosed =>
      obtain ⟨b', hb', hr⟩ := exists_blanks r
      rw [hclosed] at hr
      subst hr
      exact ⟨'\x7b' :: (b' ++ ['\x7d']), by simp, .emptyObject hb'⟩
    · exact hM.object r
  · next c r _ _ _ _ _ _ _ heq =>
    rw [heq]
    split
    · exact positive_accounts (c :: r)
    · exact Option.some_ne_none _

theorem AccountsItems.succ {fuel : Nat} (hV : AccountsValues fuel) (hI : AccountsItems fuel) :
    AccountsItems (fuel + 1) := by
  intro acc cs
  have hvalue := hV cs
  rw [readItems]
  rcases hread : readValue fuel cs with ⟨j, r | r⟩
  · -- The fault is inside the element.
    rw [hread] at hvalue
    intro hnone
    exact hvalue ((skipFault_array.mp hnone).1 j (by simp))
  · rw [hread] at hvalue
    obtain ⟨_, rfl, b, w, rfl, hb, hw⟩ := hvalue
    obtain ⟨b', hb', hr⟩ := exists_blanks r
    simp only
    split
    · exact skipFault_array_cut (Option.some_ne_none _)
    · next rest hclosed =>
      rw [hclosed] at hr
      subst hr
      exact ⟨b ++ (w ++ b') ++ [']'], by simp, [j], _, by simp, rfl, .last hb hw hb'⟩
    · next r' hcomma =>
      rw [hcomma] at hr
      subst hr
      split
      · exact skipFault_array_cut (Option.some_ne_none _)
      · exact skipFault_array_cut (Option.some_ne_none _)
      · rw [List.append_assoc]
        exact hI.next acc hb hw hb' r'
    · exact skipFault_array_cut (Option.some_ne_none _)

theorem AccountsMembers.succ {fuel : Nat} (hV : AccountsValues fuel) (hM : AccountsMembers fuel) :
    AccountsMembers (fuel + 1) := by
  intro acc cs
  -- A fault inside a member is a fault of the object.
  have hinside : ∀ {name : Except Fault String} {j : Json}, skipFault j ≠ none →
      skipFault (.object ((name, j) :: acc).reverse .closed) ≠ none := by
    intro name j hj hnone
    exact hj ((skipFault_object.mp hnone).1 (name, j) (by simp))
  unfold readMembers
  split
  · next r =>
    rcases readQuoted_cases r with ⟨name, n, r₁, hname, rfl, hn⟩ | ⟨f, g, hname⟩
    · simp only [hname]
      obtain ⟨b₁, hb₁, hr₁⟩ := exists_blanks r₁
      split
      · exact hinside (Option.some_ne_none _)
      · next r₂ hcolon =>
        rw [hcolon] at hr₁
        subst hr₁
        have hvalue := hV r₂
        rcases hread : readValue fuel r₂ with ⟨j, r | r⟩
        · rw [hread] at hvalue
          exact hinside hvalue
        · rw [hread] at hvalue
          obtain ⟨_, rfl, b₂, w, rfl, hb₂, hw⟩ := hvalue
          obtain ⟨b', hb', hr⟩ := exists_blanks r
          simp only
          split
          · exact skipFault_object_cut (Option.some_ne_none _)
          · next rest hclosed =>
            rw [hclosed] at hr
            subst hr
            exact ⟨'"' :: (n ++ (b₁ ++ ':' :: (b₂ ++ (w ++ b')))) ++ ['\x7d'], by simp,
              [(name, j)], _, by simp, rfl, .last blanks_nil hn hb₁ hb₂ hw hb'⟩
          · next r' hcomma =>
            rw [hcomma] at hr
            subst hr
            split
            · exact skipFault_object_cut (Option.some_ne_none _)
            · exact skipFault_object_cut (Option.some_ne_none _)
            · rw [List.append_assoc]
              exact hM.next acc hn hb₁ hb₂ hw hb' r'
          · exact skipFault_object_cut (Option.some_ne_none _)
      · exact hinside (Option.some_ne_none _)
    · simp only [hname]
      exact hinside (Option.some_ne_none _)
  · exact skipFault_object_cut (Option.some_ne_none _)

theorem accounts_all (fuel : Nat) :
    AccountsValues fuel ∧ AccountsItems fuel ∧ AccountsMembers fuel := by
  induction fuel with
  | zero =>
    refine ⟨?_, ?_, ?_⟩
    · intro cs
      exact Option.some_ne_none _
    · intro acc cs
      exact skipFault_array_cut (Option.some_ne_none _)
    · intro acc cs
      exact skipFault_object_cut (Option.some_ne_none _)
  | succ fuel ih =>
    obtain ⟨hV, hI, hM⟩ := ih
    exact ⟨.succ hI hM, .succ hV hI, .succ hV hM⟩

theorem spells_of_read {text : String} {j : Json} (h : read text = ⟨j, none⟩)
    (hj : skipFault j = none) : Spells text j := by
  have hvalue := (accounts_all (2 * text.toList.length + 2)).1 text.toList
  unfold Json.read at h
  rcases hread : readValue (2 * text.toList.length + 2) text.toList with ⟨k, rest | rest⟩
  · rw [hread] at hvalue
    simp only [hread] at h
    cases h
    exact absurd hj hvalue
  · rw [hread] at hvalue
    obtain ⟨w, htext, b, v, rfl, hb, hv⟩ := hvalue
    obtain ⟨b', hb', hrest⟩ := exists_blanks rest
    simp only [hread] at h
    split at h
    · next hend =>
      cases h
      rw [hend, List.append_nil] at hrest
      subst hrest
      exact ⟨b, v, rest, by rw [htext, List.append_assoc], hb, hv, hb'⟩
    · cases h

/-- The texts that spell a value are those that are read as this value, without a fault. -/
theorem spells_iff_read {text : String} {j : Json} :
    Spells text j ↔ read text = ⟨j, none⟩ ∧ skipFault j = none := by
  constructor
  · intro h
    obtain ⟨b, w, b', htext, hb, hw, hb'⟩ := h
    exact ⟨Spells.read ⟨b, w, b', htext, hb, hw, hb'⟩, hw.noFault⟩
  · rintro ⟨hread, hj⟩
    exact spells_of_read hread hj

end EnvRegistry.Json
