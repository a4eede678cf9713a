import EnvRegistry.Shell.Pattern

/-! # What patterns stand for

    `Matches` says of a pattern and a text what shells say of them: `*` stands for any
    text, and every other place for one character.  A pattern is tried against all ends
    of a text at once, and this finds those that it stands for and no others
    (`accepts_iff`, `getElem?_acceptedEnds`).

    What is left of a text is right, too.  `cutEnd` takes the longest or the shortest
    end off for which the pattern stands (`cutEnd_matches`), and `cutStart` does so at the
    start, where it reads text and pattern backwards (`cutStart_matches`).  Both leave a
    text alone that has no such part. -/

namespace EnvRegistry.Shell.Pattern

variable {p q : Pattern} {i : PatternItem} {c : Char} {cs ds : List Char}

/-! ## Section 1: The meaning of a pattern -/

/-- A pattern stands for a text. -/
inductive Matches : Pattern → List Char → Prop where
  | nil : Matches [] []
  | char {i : PatternItem} {c : Char} {p : Pattern} {cs : List Char} (hone : i ≠ .anyText)
      (hadmits : i.admits c = true) : Matches p cs → Matches (i :: p) (c :: cs)
  | text {p : Pattern} {cs : List Char} (ds : List Char) :
      Matches p cs → Matches (.anyText :: p) (ds ++ cs)

theorem Matches.append (hp : Matches p cs) (hq : Matches q ds) : Matches (p ++ q) (cs ++ ds) := by
  induction hp with
  | nil => exact hq
  | char hone hadmits _ ih => exact .char hone hadmits ih
  | text es _ ih =>
    rw [List.append_assoc]
    exact .text es ih

/-- Pattern and text may both be read backwards. -/
theorem Matches.reverse (h : Matches p cs) : Matches p.reverse cs.reverse := by
  induction h with
  | nil => exact .nil
  | char hone hadmits _ ih =>
    rw [List.reverse_cons, List.reverse_cons]
    exact ih.append (.char hone hadmits .nil)
  | text ds _ ih =>
    rw [List.reverse_cons, List.reverse_append]
    have hany : Matches [.anyText] (ds.reverse ++ []) := .text _ .nil
    rw [List.append_nil] at hany
    exact ih.append hany

theorem matches_reverse : Matches p.reverse cs.reverse ↔ Matches p cs := by
  constructor
  · intro h
    have hback := h.reverse
    rwa [List.reverse_reverse, List.reverse_reverse] at hback
  · exact Matches.reverse

/-! ## Section 2: All ends at once -/

/-- A place for one character. -/
theorem acceptedEnds_char (hone : i ≠ .anyText) (p : Pattern) (cs : List Char) :
    acceptedEnds (i :: p) cs =
      List.zipWith (fun c b => i.admits c && b) cs (p.acceptedEnds cs).tail ++ [false] := by
  cases i with
  | anyText => exact absurd rfl hone
  | char d => rfl
  | anyChar => rfl
  | oneOf negated items => rfl

theorem length_acceptedEnds (p : Pattern) (cs : List Char) :
    (p.acceptedEnds cs).length = cs.length + 1 := by
  have hfold : ∀ l : List Bool,
      (l.foldr (fun b later => (b || later.headD false) :: later) []).length = l.length := by
    intro l
    induction l with
    | nil => rfl
    | cons b l ih => rw [List.foldr_cons, List.length_cons, ih, List.length_cons]
  induction p with
  | nil => simp [acceptedEnds]
  | cons i p ih =>
    by_cases hany : i = .anyText
    · subst hany
      rw [acceptedEnds, hfold, ih]
    · rw [acceptedEnds_char hany]
      simp [ih]

/-- The first of all ends is the whole text. -/
theorem acceptedEnds_eq (p : Pattern) (cs : List Char) :
    p.acceptedEnds cs = p.accepts cs :: (p.acceptedEnds cs).tail := by
  have hlength := length_acceptedEnds p cs
  unfold accepts
  cases hends : p.acceptedEnds cs with
  | nil =>
    rw [hends] at hlength
    cases hlength
  | cons b later => rfl

/-- The other ends of a text are the ends of what follows its first character. -/
theorem tail_acceptedEnds (p : Pattern) (c : Char) (cs : List Char) :
    (p.acceptedEnds (c :: cs)).tail = p.acceptedEnds cs := by
  induction p with
  | nil => rfl
  | cons i p ih =>
    by_cases hany : i = .anyText
    · subst hany
      rw [acceptedEnds, acceptedEnds, acceptedEnds_eq p (c :: cs), ih, List.foldr_cons,
        List.tail_cons]
    · rw [acceptedEnds_char hany, acceptedEnds_char hany, ih, acceptedEnds_eq p cs]
      rfl

/-- Each end is tried on its own, as it were. -/
theorem getElem?_acceptedEnds (p : Pattern) (cs : List Char) (n : Nat) :
    (p.acceptedEnds cs)[n]? = if n ≤ cs.length then some (p.accepts (cs.drop n)) else none := by
  induction n generalizing cs with
  | zero =>
    rw [if_pos (Nat.zero_le _), acceptedEnds_eq]
    rfl
  | succ n ih =>
    rw [acceptedEnds_eq, List.getElem?_cons_succ]
    cases cs with
    | nil =>
      have hlength := length_acceptedEnds p []
      have hover : ¬ n + 1 ≤ ([] : List Char).length := Nat.not_succ_le_zero n
      rw [if_neg hover, List.getElem?_eq_none_iff, List.length_tail, hlength]
      exact Nat.zero_le n
    | cons c cs =>
      rw [tail_acceptedEnds, ih]
      simp only [List.length_cons, Nat.succ_le_succ_iff, List.drop_succ_cons]

/-! ## Section 3: What is accepted -/

theorem accepts_nil (cs : List Char) : accepts [] cs = cs.isEmpty := by
  cases cs with
  | nil => rfl
  | cons c cs => rfl

theorem accepts_char (hone : i ≠ .anyText) (p : Pattern) (c : Char) (cs : List Char) :
    accepts (i :: p) (c :: cs) = (i.admits c && p.accepts cs) := by
  rw [accepts, acceptedEnds_char hone, tail_acceptedEnds, acceptedEnds_eq p cs]
  rfl

theorem accepts_char_nil (hone : i ≠ .anyText) (p : Pattern) : accepts (i :: p) [] = false := by
  rw [accepts, acceptedEnds_char hone]
  rfl

theorem accepts_text_nil (p : Pattern) : accepts (.anyText :: p) [] = p.accepts [] := by
  have hnone : (p.acceptedEnds []).tail = [] := by
    rw [← List.length_eq_zero_iff, List.length_tail, length_acceptedEnds]
    rfl
  rw [accepts, acceptedEnds, acceptedEnds_eq p [], hnone]
  exact Bool.or_false _

theorem accepts_text_cons (p : Pattern) (c : Char) (cs : List Char) :
    accepts (.anyText :: p) (c :: cs) =
      (p.accepts (c :: cs) || accepts (.anyText :: p) cs) := by
  rw [accepts, acceptedEnds, acceptedEnds_eq p (c :: cs), tail_acceptedEnds]
  rfl

/-- `*` takes some characters, and the rest of the pattern stands for what they leave. -/
theorem accepts_text_iff :
    accepts (.anyText :: p) cs = true ↔ ∃ es ds, cs = es ++ ds ∧ p.accepts ds = true := by
  induction cs with
  | nil =>
    rw [accepts_text_nil]
    constructor
    · intro h
      exact ⟨[], [], rfl, h⟩
    · rintro ⟨es, ds, hnil, h⟩
      obtain ⟨rfl, rfl⟩ := List.append_eq_nil_iff.mp hnil.symm
      exact h
  | cons c cs ih =>
    rw [accepts_text_cons, Bool.or_eq_true, ih]
    constructor
    · rintro (h | ⟨es, ds, rfl, h⟩)
      · exact ⟨[], c :: cs, rfl, h⟩
      · exact ⟨c :: es, ds, rfl, h⟩
    · rintro ⟨es, ds, hcs, h⟩
      cases es with
      | nil =>
        rw [hcs]
        exact .inl h
      | cons e es =>
        obtain ⟨-, rfl⟩ := List.cons.inj hcs
        exact .inr ⟨es, ds, rfl, h⟩

/-- A text is accepted if and only if the pattern stands for it. -/
theorem accepts_iff : p.accepts cs = true ↔ p.Matches cs := by
  induction p generalizing cs with
  | nil =>
    rw [accepts_nil, List.isEmpty_iff]
    constructor
    · rintro rfl
      exact .nil
    · intro h
      cases h
      rfl
  | cons i p ih =>
    by_cases hany : i = .anyText
    · subst hany
      rw [accepts_text_iff]
      constructor
      · rintro ⟨es, ds, rfl, h⟩
        exact .text es (ih.mp h)
      · intro h
        cases h with
        | char hone => exact absurd rfl hone
        | text es h => exact ⟨es, _, rfl, ih.mpr h⟩
    · constructor
      · intro h
        cases cs with
        | nil =>
          rw [accepts_char_nil hany] at h
          cases h
        | cons c cs =>
          rw [accepts_char hany, Bool.and_eq_true] at h
          exact .char hany h.1 (ih.mp h.2)
      · intro h
        cases h with
        | char hone hadmits h =>
          rw [accepts_char hany, hadmits, ih.mpr h]
          rfl
        | text es h => exact absurd rfl hany

/-! ## Section 4: What is left of a text -/

/-- A part of some length is no worse than one of another length, if the longest or the shortest
part is wanted. -/
def NoWorse (longest : Bool) (m n : Nat) : Prop := if longest then n ≤ m else m ≤ n

theorem matches_drop_iff {n : Nat} :
    (p.acceptedEnds cs)[n]? = some true ↔ n ≤ cs.length ∧ p.Matches (cs.drop n) := by
  rw [getElem?_acceptedEnds]
  by_cases hn : n ≤ cs.length
  · rw [if_pos hn, Option.some_inj, accepts_iff, and_iff_right hn]
  · rw [if_neg hn]
    exact iff_of_false nofun fun h => hn h.1

theorem beforeEnd?_eq_none {longest : Bool} (h : p.beforeEnd? longest cs = none) {n : Nat}
    (hn : n ≤ cs.length) : ¬ p.Matches (cs.drop n) := by
  intro hmatches
  have hin : true ∈ p.acceptedEnds cs := List.mem_of_getElem? (matches_drop_iff.mpr ⟨hn, hmatches⟩)
  cases longest with
  | true =>
    have hall := List.findIdx?_eq_none_iff.mp h
    exact absurd (hall true hin) nofun
  | false =>
    have hall := List.findIdx?_eq_none_iff.mp (Option.map_eq_none_iff.mp h)
    exact absurd (hall true (List.mem_reverse.mpr hin)) nofun

/-- From behind, an end is found at the number of its characters. -/
theorem matches_drop_sub_iff {k : Nat} : (p.acceptedEnds cs).reverse[k]? = some true ↔
    k ≤ cs.length ∧ p.Matches (cs.drop (cs.length - k)) := by
  have hlength := length_acceptedEnds p cs
  by_cases hk : k ≤ cs.length
  · have hlt : k < (p.acceptedEnds cs).length := by omega
    have hplace : (p.acceptedEnds cs).length - 1 - k = cs.length - k := by omega
    rw [List.getElem?_reverse hlt, hplace, matches_drop_iff, and_iff_right (Nat.sub_le _ _),
      and_iff_right hk]
  · have hover : (p.acceptedEnds cs).reverse.length ≤ k := by
      rw [List.length_reverse]
      omega
    rw [List.getElem?_eq_none hover]
    exact iff_of_false nofun fun h => hk h.1

/-- The first `true` of a list. -/
theorem findIdx?_id_eq_some {l : List Bool} {n : Nat} (h : l.findIdx? id = some n) :
    l[n]? = some true ∧ ∀ m, m < n → l[m]? ≠ some true := by
  obtain ⟨hn, hfound, hbefore⟩ := List.findIdx?_eq_some_iff_getElem.mp h
  constructor
  · rw [List.getElem?_eq_getElem hn]
    exact congrArg some hfound
  · intro m hm hget
    rw [List.getElem?_eq_getElem (Nat.lt_trans hm hn)] at hget
    exact hbefore m hm (Option.some.inj hget)

/-- The end that is found is one for which the pattern stands, and no other is better. -/
theorem beforeEnd?_eq_some {longest : Bool} {n : Nat} (h : p.beforeEnd? longest cs = some n) :
    n ≤ cs.length ∧ p.Matches (cs.drop n) ∧
      ∀ m, m ≤ cs.length → p.Matches (cs.drop m) →
        NoWorse longest (cs.length - n) (cs.length - m) := by
  cases longest with
  | true =>
    obtain ⟨hget, hbefore⟩ := findIdx?_id_eq_some h
    obtain ⟨hn, hmatches⟩ := matches_drop_iff.mp hget
    refine ⟨hn, hmatches, fun m hm hother => ?_⟩
    have hnot : ¬ m < n := fun hmn => hbefore m hmn (matches_drop_iff.mpr ⟨hm, hother⟩)
    show cs.length - m ≤ cs.length - n
    omega
  | false =>
    -- The ends are gone through from the last one, so an index counts what the end has.
    obtain ⟨k, hk, rfl⟩ := Option.map_eq_some_iff.mp h
    obtain ⟨hget, hbefore⟩ := findIdx?_id_eq_some hk
    obtain ⟨hle, hmatches⟩ := matches_drop_sub_iff.mp hget
    refine ⟨Nat.sub_le _ _, hmatches, fun m hm hother => ?_⟩
    have hnot : ¬ cs.length - m < k := by
      intro hmk
      refine hbefore _ hmk (matches_drop_sub_iff.mpr ⟨Nat.sub_le _ _, ?_⟩)
      rwa [Nat.sub_sub_self hm]
    show cs.length - (cs.length - k) ≤ cs.length - m
    omega

variable {longest : Bool} {s : String}

/-- Without an end for which the pattern stands, nothing is taken off. -/
theorem cutEnd_eq_self (h : ∀ start ending, s.toList = start ++ ending → ¬ p.Matches ending) :
    p.cutEnd longest s = s := by
  cases hfound : p.beforeEnd? longest s.toList with
  | none => simp only [cutEnd, hfound]
  | some n =>
    obtain ⟨-, hmatches, -⟩ := beforeEnd?_eq_some hfound
    exact absurd hmatches (h _ _ (List.take_append_drop n s.toList).symm)

/-- The longest or the shortest end for which the pattern stands is taken off. -/
theorem cutEnd_matches (longest : Bool) {start ending : List Char}
    (hs : s.toList = start ++ ending) (hmatches : p.Matches ending) :
    ∃ cut, s.toList = (p.cutEnd longest s).toList ++ cut ∧ p.Matches cut ∧
      ∀ start' ending', s.toList = start' ++ ending' → p.Matches ending' →
        NoWorse longest cut.length ending'.length := by
  have hsplit : ∀ {start ending : List Char}, s.toList = start ++ ending →
      start.length ≤ s.toList.length ∧ s.toList.drop start.length = ending := by
    intro start ending hs
    rw [hs, List.length_append, List.drop_left]
    exact ⟨Nat.le_add_right _ _, rfl⟩
  cases hfound : p.beforeEnd? longest s.toList with
  | none =>
    obtain ⟨hle, hdrop⟩ := hsplit hs
    exact absurd (hdrop ▸ hmatches) (beforeEnd?_eq_none hfound hle)
  | some n =>
    obtain ⟨hle, hcut, hbest⟩ := beforeEnd?_eq_some hfound
    refine ⟨s.toList.drop n, ?_, hcut, ?_⟩
    · simp only [cutEnd, hfound, String.toList_ofList, List.take_append_drop]
    · intro start' ending' hs' hmatches'
      obtain ⟨hle', hdrop'⟩ := hsplit hs'
      have hnoWorse := hbest start'.length hle' (hdrop'.symm ▸ hmatches')
      rwa [← List.length_drop, ← List.length_drop, hdrop'] at hnoWorse

/-- Taking the start off is taking the end off, with text and pattern read backwards. -/
theorem toList_cutStart (p : Pattern) (longest : Bool) (s : String) :
    (p.cutStart longest s).toList =
      (cutEnd p.reverse longest (String.ofList s.toList.reverse)).toList.reverse := by
  cases hfound : beforeEnd? p.reverse longest s.toList.reverse with
  | none =>
    simp only [cutStart, cutEnd, String.toList_ofList, hfound, List.reverse_reverse]
  | some n =>
    simp only [cutStart, cutEnd, String.toList_ofList, hfound, List.reverse_take,
      List.length_reverse, List.reverse_reverse]

/-- Without a start for which the pattern stands, nothing is taken off. -/
theorem cutStart_eq_self (h : ∀ start rest, s.toList = start ++ rest → ¬ p.Matches start) :
    p.cutStart longest s = s := by
  have hback : cutEnd p.reverse longest (String.ofList s.toList.reverse) =
      String.ofList s.toList.reverse := by
    refine cutEnd_eq_self fun rest start hs hmatches => ?_
    rw [String.toList_ofList, List.reverse_eq_append_iff] at hs
    exact h _ _ hs (matches_reverse.mp (by rwa [List.reverse_reverse]))
  rw [← String.toList_inj, toList_cutStart, hback, String.toList_ofList, List.reverse_reverse]

/-- The longest or the shortest start for which the pattern stands is taken off. -/
theorem cutStart_matches (longest : Bool) {start rest : List Char}
    (hs : s.toList = start ++ rest) (hmatches : p.Matches start) :
    ∃ cut, s.toList = cut ++ (p.cutStart longest s).toList ∧ p.Matches cut ∧
      ∀ start' rest', s.toList = start' ++ rest' → p.Matches start' →
        NoWorse longest cut.length start'.length := by
  have hback : ∀ {start rest : List Char}, s.toList = start ++ rest →
      (String.ofList s.toList.reverse).toList = rest.reverse ++ start.reverse := by
    intro start rest hs
    rw [String.toList_ofList, hs, List.reverse_append]
  obtain ⟨cut, hcut, hcutMatches, hbest⟩ := cutEnd_matches longest (hback hs) hmatches.reverse
  refine ⟨cut.reverse, ?_, ?_, ?_⟩
  · rw [toList_cutStart, ← List.reverse_append, ← hcut, String.toList_ofList,
      List.reverse_reverse]
  · exact matches_reverse.mp (by rwa [List.reverse_reverse])
  · intro start' rest' hs' hmatches'
    have hnoWorse := hbest _ _ (hback hs') hmatches'.reverse
    rwa [List.length_reverse] at hnoWorse ⊢

end EnvRegistry.Shell.Pattern
