import EnvRegistry.Json.Printer
import EnvRegistry.Proofs.Json.Grammar

/-! # Reading what was written on one line

    `Json.read` gives back every value that `Json.compact` wrote, as long as the
    value is `Plain`: natural numbers, texts that can be had, and lists and
    objects that are closed.  These are the values that records are written as.

    What is written is one of the texts that the grammar has for the value.  The
    proof of this goes along the value, like the writer, and the reader takes
    every text of the grammar. -/

namespace EnvRegistry.Json

/-! ## Section 1: Numbers -/

/-- Only zero is written with a zero in front. -/
theorem eq_zero_of_toDigits {n : Nat} {cs : List Char} (h : Nat.toDigits 10 n = '0' :: cs) :
    n = 0 := by
  induction n using Nat.strongRecOn generalizing cs with
  | ind n ih =>
    rw [Nat.toDigits_eq_if (by decide)] at h
    split at h
    · next hlt =>
      have hd : n.digitChar = '0' := by simpa using (List.cons.inj h).1
      exact Nat.digitChar_eq_zero.mp hd
    · next hge =>
      -- The digits of a tenth of the number come first.
      cases hds : Nat.toDigits 10 (n / 10) with
      | nil => exact absurd hds Nat.toDigits_ne_nil
      | cons d ds =>
        rw [hds] at h
        have hd : d = '0' := (List.cons.inj h).1
        have := ih (n / 10) (by omega) (hd ▸ hds)
        omega

theorem digitsValue_toDigits (n : Nat) : digitsValue (Nat.toDigits 10 n) = n :=
  Nat.ofDigitChars_ten_toDigits

/-- A natural number is written without sign, point and exponent. -/
theorem writes_nat (n : Nat) : Writes (nat n) (Nat.toDigits 10 n) := by
  have hdigits : Digits (Nat.toDigits 10 n) :=
    ⟨Nat.toDigits_ne_nil, fun _ hc => Nat.isDigit_of_mem_toDigits (by decide) (by decide) hc⟩
  have hzero : ∀ d r, Nat.toDigits 10 n ≠ '0' :: d :: r := by
    intro d r h
    -- A zero in front of other digits is never written.
    have hn := eq_zero_of_toDigits h
    subst hn
    simp at h
  have hwrites : WritesNumber ⟨false, digitsValue (Nat.toDigits 10 n), [], none⟩
      ([] ++ (Nat.toDigits 10 n ++ ([] ++ []))) := .mk hdigits hzero .none .none
  rw [digitsValue_toDigits, List.nil_append, List.append_nil, List.append_nil] at hwrites
  exact .number hwrites

/-! ## Section 2: Quoted texts -/

/-- What the scanner makes of an escaped character. -/
def pieceOf (c : Char) : Piece :=
  match c with
  | '\x08' | '\x0c' | '\n' | '\r' | '\t' => .char c
  | c => if c.toNat < 0x20 then .unit c.toNat else .char c

theorem hexValue?_hexDigit : ∀ d, d < 16 → hexValue? (hexDigit d) = some d := by decide

theorem writesPiece_escapeChar (c : Char) : WritesPiece (pieceOf c) (escapeChar c) := by
  unfold escapeChar
  split
  · exact .escape rfl
  · exact .escape rfl
  · exact .escape rfl
  · exact .escape rfl
  · exact .escape rfl
  · exact .escape rfl
  · exact .escape rfl
  · next hquote hback _ _ _ _ _ =>
    have hpiece : pieceOf c = if c.toNat < 0x20 then .unit c.toNat else .char c := by
      unfold pieceOf
      split <;> simp_all
    rw [hpiece]
    by_cases hlow : c.toNat < 0x20
    · rw [if_pos hlow, if_pos hlow]
      refine .unit ?_
      have hzero : hexValue? '0' = some 0 := by decide
      simp only [unit?, hzero, hexValue?_hexDigit (c.toNat / 16) (by omega),
        hexValue?_hexDigit (c.toNat % 16) (by omega)]
      show some (4096 * 0 + 256 * 0 + 16 * (c.toNat / 16) + c.toNat % 16) = some c.toNat
      congr 1
      omega
    · rw [if_neg hlow, if_neg hlow]
      exact .plain (Nat.le_of_not_lt hlow) hquote hback

/-- Escapes are needed only below the space, where no half of a pair is. -/
theorem standsFor_pieceOf {c : Char} {ps : List Piece} {cs : List Char} (h : StandsFor ps cs) :
    StandsFor (pieceOf c :: ps) (c :: cs) := by
  unfold pieceOf
  split
  all_goals try exact .char h
  split
  · next hlow =>
    have hunit := StandsFor.unit (u := c.toNat) (by simp [isHighUnit]; omega)
      (by simp [isLowUnit]; omega) h
    rwa [Char.ofNat_toNat] at hunit
  · exact .char h

theorem writesPieces_escaped (cs : List Char) :
    WritesPieces (cs.map pieceOf) (cs.flatMap escapeChar) ∧ StandsFor (cs.map pieceOf) cs := by
  induction cs with
  | nil => exact ⟨.nil, .nil⟩
  | cons c cs ih =>
    rw [List.map_cons, List.flatMap_cons]
    exact ⟨.cons (writesPiece_escapeChar c) ih.1, standsFor_pieceOf ih.2⟩

/-- A text is written with its escapes. -/
theorem writesQuoted_quote (s : String) : WritesQuoted (.ok s) (quote s).toList := by
  obtain ⟨hpieces, hstands⟩ := writesPieces_escaped s.toList
  rw [quote, String.toList_ofList]
  exact .text hpieces hstands

/-! ## Section 3: Values

    A plain value is what `Json.nat`, `Json.string`, `Json.list`, `Json.record`
    and their like build. -/

mutual

/-- Whether nothing in a value is broken, signed or cut off. -/
def Plain : Json → Prop
  | .null | .bool _ | .string _ => True
  | .number n => n = { whole := n.whole }
  | .array items tail => PlainItems items ∧ tail = .closed
  | .object members tail => PlainMembers members ∧ tail = .closed
  | .unreadable _ _ | .broken _ => False

def PlainItems : List Json → Prop
  | [] => True
  | j :: rest => j.Plain ∧ PlainItems rest

def PlainMembers : List (Except Fault String × Json) → Prop
  | [] => True
  | (name, j) :: rest => name = .ok (memberName name) ∧ j.Plain ∧ PlainMembers rest

end

theorem plain_list {items : List Json} (h : ∀ j ∈ items, j.Plain) : (list items).Plain := by
  refine ⟨?_, rfl⟩
  induction items with
  | nil => trivial
  | cons j items ih =>
    exact ⟨h j List.mem_cons_self, ih fun k hk => h k (List.mem_cons_of_mem _ hk)⟩

theorem plain_record {members : List (String × Json)} (h : ∀ m ∈ members, m.2.Plain) :
    (record members).Plain := by
  refine ⟨?_, rfl⟩
  induction members with
  | nil => trivial
  | cons m members ih =>
    exact ⟨rfl, h m List.mem_cons_self, ih fun k hk => h k (List.mem_cons_of_mem _ hk)⟩

theorem plain_ids (l : List UInt32) : (ids l).Plain := by
  apply plain_list
  intro j hj
  obtain ⟨id, -, rfl⟩ := List.mem_map.mp hj
  rfl

theorem compact_nat (n : Nat) : (compact (nat n)).toList = Nat.toDigits 10 n := by
  simp [compact, nat, Number.text]

/-- The text of a member: its name, a colon and its value. -/
theorem toList_compactMember (name : Except Fault String) (j : Json) :
    (compactMembers [(name, j)]).toList =
      [] ++ ((quote (memberName name)).toList ++
        ([] ++ ':' :: ([] ++ ((compact j).toList ++ [])))) := by
  simp [compactMembers]

theorem toList_compactMembers (name : Except Fault String) (j : Json)
    (m : Except Fault String × Json) (members : List (Except Fault String × Json)) :
    (compactMembers ((name, j) :: m :: members)).toList =
      [] ++ ((quote (memberName name)).toList ++ ([] ++ ':' :: ([] ++ ((compact j).toList ++
        ([] ++ ',' :: (compactMembers (m :: members)).toList))))) := by
  simp [compactMembers]

/-- A name that can be had is written like a text. -/
theorem writesQuoted_name {name : Except Fault String} (h : name = .ok (memberName name)) :
    WritesQuoted name (quote (memberName name)).toList := by
  conv => arg 1; rw [h]
  exact writesQuoted_quote _

mutual

/-- A plain value is written as one of its texts. -/
theorem writes_compact : ∀ {j : Json}, j.Plain → Writes j (compact j).toList
  | .null, _ => .null
  | .bool true, _ => .true
  | .bool false, _ => .false
  | .number n, hn => by
    have hnat : Json.number n = nat n.whole := congrArg Json.number hn
    rw [hnat, compact_nat]
    exact writes_nat n.whole
  | .string s, _ => .string (writesQuoted_quote s)
  | .array items tail, ⟨hitems, htail⟩ => by
    have htext : (compact (.array items tail)).toList =
        '[' :: ((compactItems items).toList ++ [']']) := by
      simp [compact]
    rw [htext, htail]
    by_cases hnil : items = []
    · rw [hnil]
      exact .emptyArray blanks_nil
    · exact .array (writesItems_compact hitems hnil)
  | .object members tail, ⟨hmembers, htail⟩ => by
    have htext : (compact (.object members tail)).toList =
        '\x7b' :: ((compactMembers members).toList ++ ['\x7d']) := by
      simp [compact]
    rw [htext, htail]
    by_cases hnil : members = []
    · rw [hnil]
      exact .emptyObject blanks_nil
    · exact .object (writesMembers_compact hmembers hnil)

theorem writesItems_compact : ∀ {items : List Json}, PlainItems items → items ≠ [] →
    WritesItems items (compactItems items).toList
  | [j], ⟨hj, _⟩, _ => by
    have hlast := WritesItems.last blanks_nil (writes_compact hj) blanks_nil
    rwa [List.nil_append, List.append_nil] at hlast
  | j :: k :: items, ⟨hj, hitems⟩, _ => by
    have hrest := writesItems_compact hitems (List.cons_ne_nil k items)
    have htext : (compactItems (j :: k :: items)).toList =
        [] ++ ((compact j).toList ++ ([] ++ ',' :: (compactItems (k :: items)).toList)) := by
      simp [compactItems]
    rw [htext]
    exact .next blanks_nil (writes_compact hj) blanks_nil hrest

theorem writesMembers_compact : ∀ {members : List (Except Fault String × Json)},
    PlainMembers members → members ≠ [] → WritesMembers members (compactMembers members).toList
  | [(name, j)], ⟨hname, hj, _⟩, _ => by
    have hquote := writesQuoted_name hname
    rw [toList_compactMember]
    exact .last blanks_nil hquote blanks_nil blanks_nil (writes_compact hj) blanks_nil
  | (name, j) :: m :: members, ⟨hname, hj, hmembers⟩, _ => by
    have hrest := writesMembers_compact hmembers (List.cons_ne_nil m members)
    have hquote := writesQuoted_name hname
    rw [toList_compactMembers]
    exact .next blanks_nil hquote blanks_nil blanks_nil (writes_compact hj) blanks_nil hrest

end

/-- A plain value reads as itself from its text. -/
theorem read_compact {j : Json} (hj : j.Plain) : read (compact j) = ⟨j, none⟩ :=
  Spells.read ⟨[], (compact j).toList, [], (List.append_nil _).symm, blanks_nil, writes_compact hj,
    blanks_nil⟩

end EnvRegistry.Json
