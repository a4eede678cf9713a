import EnvRegistry.Config.Yaml
import EnvRegistry.Proofs.Json.RoundTrip
import EnvRegistry.Proofs.Yaml.Scanner

/-! # Configuration files come back

    The text of a configuration is read again as the same configuration, whatever
    its path and its command are (`ofYaml_toYaml`).  The tokens of the text are
    those of a mapping with a number and two sections (`tokens_toYaml`), and each
    section has at most one entry (`run_section`). -/

namespace EnvRegistry

open Yaml (Document Node Scanner Token styleOf scalarChars lineEnd spaces LeadsTo)

namespace Config

/-! ## Section 1: The text -/

/-- A section with one entry, after the colon of its name. -/
def sectionChars (key : List Char) (text : String) (tail : List Char) : List Char :=
  '\n' :: (spaces 2 ++ (key ++ ':' :: ' ' ::
    (scalarChars 4 text ++ (lineEnd (scalarChars 4 text) ++ tail))))

/-- The refresh section, after the colon of its name. -/
def refreshChars : Option String → List Char
  | none => [' ', '\x7b', '\x7d', '\n']
  | some command => sectionChars "command".toList command []

/-- The database section and what follows it, after the colon of its name. -/
def databaseChars (c : Config) : List Char :=
  sectionChars "path".toList c.databasePath
    ("refresh".toList ++ ':' :: refreshChars c.refreshCommand)

/-- The digits of the version. -/
def versionDigits (c : Config) : List Char := Nat.toDigits 10 c.version.toNat

/-- The version and what follows it, after the colon of its name. -/
def versionChars (c : Config) : List Char :=
  ' ' :: (c.versionDigits ++ '\n' :: ("database".toList ++ ':' :: c.databaseChars))

theorem versionDigits_eq (c : Config) : (toString c.version.toNat).toList = c.versionDigits := by
  simp [versionDigits]

theorem scalarLine_toList (key s : String) (tail : List Char) :
    '\n' :: ((Yaml.scalarLine 2 key s).toList ++ tail) = sectionChars key.toList s tail := by
  simp [Yaml.scalarLine, sectionChars, lineEnd]

theorem toYaml_toList (c : Config) :
    c.toYaml.toList = "version".toList ++ ':' :: c.versionChars := by
  rw [versionChars, databaseChars, ← versionDigits_eq, ← scalarLine_toList]
  cases h : c.refreshCommand with
  | none => simp [toYaml, h, refreshChars]
  | some command =>
    rw [refreshChars, ← scalarLine_toList]
    simp [toYaml, h]

/-! ## Section 2: Its tokens -/

/-- The tokens of a section with one entry. -/
def sectionTokens (key text : String) : List Token :=
  [.blockMappingStart, .key, .scalar key .plain, .value, .scalar text (styleOf text), .blockEnd]

/-- The tokens of the refresh section. -/
def refreshTokens : Option String → List Token
  | none => [.flowMappingStart, .flowMappingEnd]
  | some command => sectionTokens "command" command

/-- The tokens of a configuration file. -/
def fileTokens (c : Config) : List Token :=
  [.blockMappingStart, .key, .scalar "version" .plain, .value,
    .scalar (String.ofList c.versionDigits) .plain, .key, .scalar "database" .plain, .value] ++
  sectionTokens "path" c.databasePath ++ [.key, .scalar "refresh" .plain, .value] ++
  refreshTokens c.refreshCommand ++ [.blockEnd]

/-- A key of a configuration file. -/
structure IsName (key : String) : Prop where
  plain : Yaml.canBePlain key.toList = true
  letter : ∃ c rest, key.toList = c :: rest ∧ 'a' ≤ c ∧ c ≤ 'z'
  short : key.toList.length ≤ 256

theorem IsName.startsWithLetter {key : String} (h : IsName key) (rest : List Char) :
    Yaml.StartsWithLetter (key.toList ++ rest) := by
  obtain ⟨c, more, hfirst, hletter⟩ := h.letter
  rw [hfirst]
  exact hletter

/-- A section with one entry is read from the colon of its name to the next line. -/
theorem run_section {key : String} (hkey : IsName key) (text : String) {tail : List Char}
    (hnext : Yaml.StartsWithLetter tail) (pos : Yaml.Position) (tokens : List Token) (fuel : Nat) :
    ∃ (keyAllowed : Bool) (cursor : Yaml.Cursor), LeadsTo keyAllowed cursor 0 tail ∧
      Scanner.run (fuel + 4) {
          cursor := ⟨pos, sectionChars key.toList text tail⟩
          tokens
          indent := 0
          outer := [-1]
          keyAllowed := false } =
        Scanner.run (fuel + 1) {
          cursor
          tokens := tokens ++ sectionTokens key text
          indent := 0
          outer := [-1]
          keyAllowed } := by
  obtain ⟨c, rest, hfirst, hletter⟩ := hkey.letter
  have hlead : LeadsTo false ⟨pos, sectionChars key.toList text tail⟩ 2
      (key.toList ++
        ':' :: ' ' :: (scalarChars 4 text ++ lineEnd (scalarChars 4 text) ++ tail)) := by
    rw [sectionChars, hfirst, List.append_assoc]
    exact Yaml.leadsTo_indented hletter false pos 2
  -- The name with its colon, then the text; the section closes at the next line, further left.
  obtain ⟨pos₁, hcolumn, hname⟩ := Scanner.run_key tokens 0 [-1] hlead hkey.plain hkey.letter
    hkey.short rfl (by decide) (fuel + 2)
  obtain ⟨allowed, cursor, hline, hvalue⟩ := Scanner.readsAs_scalar (n := 2) text tail pos₁
    (tokens ++ [.blockMappingStart] ++ [.key, .scalar key .plain, .value]) [0, -1] (fuel + 1) hnext
    (Nat.le_of_lt hcolumn)
  have hclose := Scanner.run_close
    (tokens ++ [.blockMappingStart] ++ [.key, .scalar key .plain, .value] ++
      [.scalar text (styleOf text)]) 2 0 [-1] hline (by decide) fuel
  refine ⟨allowed, cursor, hline, ?_⟩
  rw [String.ofList_toList] at hname
  refine hname.trans (hvalue.trans (hclose.trans ?_))
  simp [sectionTokens]

theorem isName_version : IsName "version" := ⟨by decide, ⟨'v', _, rfl, by decide⟩, by decide⟩

theorem isName_database : IsName "database" := ⟨by decide, ⟨'d', _, rfl, by decide⟩, by decide⟩

theorem isName_path : IsName "path" := ⟨by decide, ⟨'p', _, rfl, by decide⟩, by decide⟩

theorem isName_refresh : IsName "refresh" := ⟨by decide, ⟨'r', _, rfl, by decide⟩, by decide⟩

theorem isName_command : IsName "command" := ⟨by decide, ⟨'c', _, rfl, by decide⟩, by decide⟩

/-- The refresh section is the last one. -/
theorem run_refresh (command : Option String) (pos : Yaml.Position) (tokens : List Token)
    (fuel : Nat) :
    Scanner.run (fuel + 4) {
        cursor := ⟨pos, refreshChars command⟩
        tokens
        indent := 0
        outer := [-1]
        keyAllowed := false } =
      .ok (tokens ++ refreshTokens command ++ [.blockEnd]) := by
  cases command with
  | none =>
    obtain ⟨allowed, cursor, hline, hbraces⟩ := Scanner.readsAs_braces (n := 0) [] pos tokens [-1]
      (fuel + 2) Yaml.startsWithLetter_nil (Nat.zero_le pos.column)
    exact hbraces.trans (Scanner.run_end _ hline (fuel + 1))
  | some command =>
    obtain ⟨allowed, cursor, hline, hsection⟩ :=
      run_section isName_command command Yaml.startsWithLetter_nil pos tokens fuel
    exact hsection.trans (Scanner.run_end _ hline fuel)

/-- A version needs no quotes. -/
theorem canBePlain_versionDigits (c : Config) : Yaml.canBePlain c.versionDigits = true :=
  Yaml.canBePlain_digits fun _ hc => Nat.isDigit_of_mem_toDigits (by decide) (by decide) hc

theorem endsWord_refreshChars (command : Option String) :
    Yaml.endsWord (refreshChars command) = true := by
  cases command <;> rfl

/-- The scanner goes through a file line by line. -/
theorem run_file (c : Config) (fuel : Nat) :
    Scanner.run (fuel + 14) { cursor := { rest := c.toYaml.toList } } = .ok (fileTokens c) := by
  -- A key takes two steps, a value one, and so does the end of a section.
  let opening : List Token := [.blockMappingStart, .key, .scalar "version" .plain, .value]
  let number : List Token := opening ++ [.scalar (String.ofList c.versionDigits) .plain]
  let database : List Token := number ++ [.key, .scalar "database" .plain, .value]
  let path : List Token := database ++ sectionTokens "path" c.databasePath
  have hstart : LeadsTo true ⟨{}, "version".toList ++ ':' :: c.versionChars⟩ 0
      ("version".toList ++ ':' :: c.versionChars) :=
    Yaml.leadsTo_line (isName_version.startsWithLetter _) {} rfl
  have hdatabaseLine := isName_database.startsWithLetter (':' :: c.databaseChars)
  have hrefreshLine := isName_refresh.startsWithLetter (':' :: refreshChars c.refreshCommand)
  obtain ⟨pos₁, hcolumn₁, hversion⟩ := Scanner.run_key [] (-1) [] hstart isName_version.plain
    isName_version.letter isName_version.short rfl (by decide) (fuel + 12)
  obtain ⟨allowed₂, cursor₂, hline₂, hnumber⟩ := Scanner.readsAs_plain (n := 0)
    (canBePlain_versionDigits c) Nat.toDigits_ne_nil _ pos₁ opening [-1] (fuel + 11) hdatabaseLine
    (Nat.zero_le pos₁.column)
  rw [List.append_assoc] at hnumber
  obtain ⟨pos₃, hcolumn₃, hdatabase⟩ := Scanner.run_key number 0 [-1] hline₂ isName_database.plain
    isName_database.letter isName_database.short rfl (by decide) (fuel + 9)
  obtain ⟨allowed, cursor, hline, hpath⟩ := run_section isName_path c.databasePath hrefreshLine
    pos₃ database (fuel + 5)
  obtain ⟨pos₄, hcolumn₄, hrefresh⟩ := Scanner.run_key path 0 [-1] hline isName_refresh.plain
    isName_refresh.letter isName_refresh.short (endsWord_refreshChars _) (by decide) (fuel + 4)
  have hend := run_refresh c.refreshCommand pos₄
    (path ++ [.key, .scalar "refresh" .plain, .value]) fuel
  rw [toYaml_toList]
  refine hversion.trans (hnumber.trans (hdatabase.trans (hpath.trans (hrefresh.trans
    (hend.trans ?_)))))
  simp [fileTokens, path, database, number, opening]

theorem isAllowed_sectionChars (key : List Char) (text : String) (tail : List Char) :
    (sectionChars key text tail).all Yaml.isAllowed =
      (key.all Yaml.isAllowed && tail.all Yaml.isAllowed) := by
  have hvalue : (scalarChars 4 text).all Yaml.isAllowed = true :=
    List.all_eq_true.mpr (Yaml.isAllowed_scalarChars 4 text)
  have hend : (lineEnd (scalarChars 4 text)).all Yaml.isAllowed = true := by
    rw [lineEnd]
    split <;> decide
  have hspaces : (spaces 2).all Yaml.isAllowed = true := by decide
  have hmarks : Yaml.isAllowed '\n' = true ∧ Yaml.isAllowed ':' = true ∧
      Yaml.isAllowed ' ' = true := by decide
  simp only [sectionChars, List.all_cons, List.all_append, hvalue, hend, hspaces, hmarks,
    Bool.true_and]

theorem isAllowed_toYaml (c : Config) : c.toYaml.toList.all Yaml.isAllowed = true := by
  have hrefresh : (refreshChars c.refreshCommand).all Yaml.isAllowed = true := by
    cases c.refreshCommand with
    | none => decide
    | some command =>
      rw [refreshChars, isAllowed_sectionChars]
      decide
  have hdigits : c.versionDigits.all Yaml.isAllowed = true :=
    List.all_eq_true.mpr fun d hd => Yaml.isAllowed_of_isPrintable
      (Yaml.isPrintable_digit (Nat.isDigit_of_mem_toDigits (by decide) (by decide) hd))
  have hnames : ("version".toList ++ "database".toList ++ "path".toList ++ "refresh".toList).all
      Yaml.isAllowed = true := by decide
  have hmarks : Yaml.isAllowed '\n' = true ∧ Yaml.isAllowed ':' = true ∧
      Yaml.isAllowed ' ' = true := by decide
  simp only [List.all_append, Bool.and_eq_true] at hnames
  simp only [toYaml_toList, versionChars, databaseChars, List.all_cons, List.all_append,
    isAllowed_sectionChars, hdigits, hrefresh, hnames, hmarks, Bool.and_true]

/-- The tokens of a configuration file are those that were meant. -/
theorem tokens_toYaml (c : Config) : Yaml.tokens c.toYaml = .ok (fileTokens c) := by
  have hlength : 13 ≤ c.toYaml.toList.length := by
    rw [toYaml_toList, versionChars]
    simp
    omega
  obtain ⟨fuel, hfuel⟩ := Nat.exists_eq_add_of_le hlength
  have hrun := run_file c fuel
  rw [Yaml.tokens, if_pos (isAllowed_toYaml c), hfuel, Nat.add_comm 13 fuel]
  exact hrun

/-! ## Section 3: Its nodes -/

/-- A mapping with one entry. -/
def sectionNode (key text : String) : Node :=
  .mapping [(.scalar key .plain none, .scalar text (styleOf text) none)]

/-- The node of the refresh section. -/
def refreshNode : Option String → Node
  | none => .mapping []
  | some command => sectionNode "command" command

/-- The node of a configuration file. -/
def fileNode (c : Config) : Node :=
  .mapping [
    (.scalar "version" .plain none, .scalar (String.ofList c.versionDigits) .plain none),
    (.scalar "database" .plain none, sectionNode "path" c.databasePath),
    (.scalar "refresh" .plain none, refreshNode c.refreshCommand)]

theorem document_toYaml (c : Config) :
    Yaml.document c.toYaml = .ok (some ⟨c.fileNode, []⟩) := by
  rw [Yaml.document, tokens_toYaml]
  obtain ⟨version, path, command⟩ := c
  cases command with
  | none =>
    rfl
  | some command =>
    rfl

/-! ## Section 4: What the nodes say -/

theorem digitsFrom?_digits {cs : List Char} (h : ∀ c ∈ cs, c.isDigit = true) (n : Nat) :
    Yaml.digitsFrom? 10 n cs = some (Nat.ofDigitChars 10 cs n) := by
  induction cs generalizing n with
  | nil => rfl
  | cons c rest ih =>
    obtain ⟨hc, hrest⟩ := List.forall_mem_cons.mp h
    have hvalue : Yaml.digitValue? 10 c = some (c.toNat - '0'.toNat) := by
      simp only [Char.isDigit, Bool.and_eq_true, decide_eq_true_eq, ge_iff_le] at hc
      have hhigh : c.toNat ≤ 0x39 := hc.2
      have hless : c.toNat - '0'.toNat < 10 := Nat.lt_succ_of_le (Nat.sub_le_sub_right hhigh 0x30)
      have hrange : '0' ≤ c ∧ c ≤ '9' := hc
      rw [Yaml.digitValue?, if_pos hrange, Option.filter_some, if_pos (decide_eq_true hless)]
    rw [Yaml.digitsFrom?, hvalue, Nat.ofDigitChars_cons]
    exact ih hrest _

/-- The digits of a number stand for it. -/
theorem unsigned?_toDigits (n : Nat) : Yaml.unsigned? (Nat.toDigits 10 n) = some n := by
  have hdigits : ∀ c ∈ Nat.toDigits 10 n, c.isDigit = true := fun _ hc =>
    Nat.isDigit_of_mem_toDigits (by decide) (by decide) hc
  -- Zero has one digit; any other number begins with a digit that is not zero, so nothing pads it.
  by_cases hn : n = 0
  · rw [hn]
    rfl
  · have hread := digitsFrom?_digits hdigits 0
    rw [Nat.ofDigitChars_ten_toDigits] at hread
    cases hcs : Nat.toDigits 10 n with
    | nil => exact absurd hcs Nat.toDigits_ne_nil
    | cons c rest =>
      rw [hcs] at hdigits hread
      have hsign : c ≠ '+' := Yaml.digit_ne (hdigits c List.mem_cons_self) rfl
      have hzero : c ≠ '0' := by
        rintro rfl
        exact hn (Json.eq_zero_of_toDigits hcs)
      have hpadded : Yaml.isZeroPadded (c :: rest) = false := by
        rw [Yaml.isZeroPadded]
        rintro d more hc
        exact hzero (List.cons.inj hc).1
      have hmagnitude : Yaml.magnitude? (c :: rest) = Yaml.digits? 10 (c :: rest) := by
        rw [Yaml.magnitude?, hpadded, if_neg Bool.false_ne_true]
        all_goals
          rintro more hc
          exact hzero (List.cons.inj hc).1
      rw [Yaml.unsigned?, hmagnitude]
      · exact hread
      · intro more hc
        exact hsign (List.cons.inj hc).1

theorem wordOf_digits (d : Document) (place : String) (c : Config) :
    wordOf d place (.scalar (String.ofList c.versionDigits) .plain none) = .ok c.version := by
  have hsize : c.version.toNat < UInt32.size := c.version.toNat_lt
  simp only [wordOf, Document.resolve, String.toList_ofList, versionDigits, unsigned?_toDigits,
    hsize, if_true, UInt32.ofNat_toNat]

/-- A text is not nothing, whatever it looks like. -/
theorem optionalTextOf_written (d : Document) (place text : String) :
    optionalTextOf d place (.scalar text (styleOf text) none) = .ok (some text) := by
  obtain ⟨hstyle, -⟩ | ⟨hstyle, -, hother⟩ | ⟨hstyle, -⟩ | hstyle := Yaml.styleOf_cases text
  · rw [hstyle]
    rfl
  · -- A text that looks like nothing is not written without quotes.
    simp only [Yaml.standsForOther, Bool.or_eq_false_iff] at hother
    obtain ⟨⟨⟨⟨hempty, hnull⟩, -⟩, -⟩, -⟩ := hother
    simp only [hstyle, optionalTextOf, Document.resolve, hempty, hnull, Bool.or_false,
      Bool.false_eq_true, if_false]
  · rw [hstyle]
    rfl
  · rw [hstyle]
    rfl

/-- An entry whose value can be read is kept. -/
theorem selectEntries_found {d : Document} {place name : String}
    {known : List (String × (Node → Except ConfigFault Unit))} {found : List (String × Node)}
    {value : Node} {check : Node → Except ConfigFault Unit} (rest : List (Node × Node))
    (hknown : known.lookup name = some check) (hnew : found.lookup name = none)
    (hcheck : check value = .ok ()) :
    selectEntries d place known found ((.scalar name .plain none, value) :: rest) =
      selectEntries d place known ((name, value) :: found) rest := by
  have htext : textOf d place (.scalar name .plain none) = .ok name := rfl
  rw [selectEntries, htext, ok_bind, hknown, hnew]
  dsimp only
  rw [if_neg (by decide), hcheck]
  rfl

theorem checkOf_ok {α : Type} {read : Node → Except ConfigFault α} {value : Node} {a : α}
    (hread : read value = .ok a) : checkOf read value = .ok () := by
  rw [checkOf, hread]
  rfl

theorem entryOr_found {α : Type} {found : List (String × Node)} {name : String} {default a : α}
    {value : Node} {read : Node → Except ConfigFault α} (hfound : found.lookup name = some value)
    (hread : read value = .ok a) : entryOr found name default read = .ok a := by
  rw [entryOr, hfound]
  exact hread

theorem databaseOf_section (d : Document) (path : String) :
    databaseOf d (sectionNode "path" path) = .ok path := rfl

theorem refreshOf_section (d : Document) (command : Option String) :
    refreshOf d (refreshNode command) = .ok command := by
  cases command with
  | none => rfl
  | some command =>
    have hread := optionalTextOf_written d "refresh.command: " command
    have hentries : entriesOf d "refresh: " "struct RefreshConfig"
        (refreshNode (some command)) =
      .ok [(.scalar "command" .plain none, .scalar command (styleOf command) none)] := rfl
    rw [refreshOf, hentries, ok_bind,
      selectEntries_found [] List.lookup_cons_self rfl (checkOf_ok hread)]
    exact hread

theorem ofDocument_fileNode (c : Config) : ofDocument ⟨c.fileNode, []⟩ = .ok c := by
  have hversion := wordOf_digits ⟨c.fileNode, []⟩ "version: " c
  have hpath := databaseOf_section ⟨c.fileNode, []⟩ c.databasePath
  have hcommand := refreshOf_section ⟨c.fileNode, []⟩ c.refreshCommand
  have hentries : entriesOf ⟨c.fileNode, []⟩ "" "struct Config" c.fileNode = .ok [
      (.scalar "version" .plain none, .scalar (String.ofList c.versionDigits) .plain none),
      (.scalar "database" .plain none, sectionNode "path" c.databasePath),
      (.scalar "refresh" .plain none, refreshNode c.refreshCommand)] := rfl
  rw [ofDocument, hentries, ok_bind, selectEntries_found _ rfl rfl (checkOf_ok hversion),
    selectEntries_found _ rfl rfl (checkOf_ok hpath),
    selectEntries_found _ rfl rfl (checkOf_ok hcommand), selectEntries, ok_bind,
    entryOr_found rfl hversion, ok_bind, entryOr_found rfl hpath, ok_bind,
    entryOr_found rfl hcommand]
  rfl

/-- A configuration comes back from its file. -/
theorem ofYaml_toYaml (c : Config) : ofYaml c.toYaml = .ok c := by
  rw [ofYaml, document_toYaml]
  dsimp only
  rw [ofDocument_fileNode]
  rfl

end Config

end EnvRegistry
