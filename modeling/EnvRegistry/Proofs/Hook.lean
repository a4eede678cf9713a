import EnvRegistry.Hook
import EnvRegistry.Proofs.Record.RoundTrip
import EnvRegistry.Proofs.Refresh
import EnvRegistry.Proofs.Text.Utf8

/-! # What a hook means for a refresh

    The laws of the hook, for every `Runner`.

    - The process is told of the whole environment: its input reads back as the
      environment (`decodeText_input`), and its variables alone determine the id, the
      group and the tags (`bindings_injective`).
    - The refresh succeeds if and only if the process is started, nothing goes wrong
      with its input, and it exits with zero (`refresher_ok_iff`).  A process need not
      read its input.
    - The refresh fails with an error of its own kind (`refresher_error`).  So a queue
      that is passed on ends with the first error as the hook gave it
      (`flush_refresher`).
    - An error tells what the process has said (`verdict_encode`), but never more than
      `hintLength` characters of it (`length_hint`). -/

namespace EnvRegistry.Hook

variable (run : Runner) (cwd : Place) (directory command : String)

/-! ## Section 1: What the process is told -/

/-- The input of the process is the environment. -/
theorem decodeText_input (e : Environment) :
    Json.decodeText (Environment.decoder .text) (launch command cwd directory e).input = .ok e :=
  e.decodeText_toJson

/-- Numbers are told apart by their digits. -/
theorem toString_injective {m n : Nat} (h : toString m = toString n) : m = n := by
  have hdigits : Nat.toDigits 10 m = Nat.toDigits 10 n := by
    rw [← Nat.toList_repr, ← Nat.toList_repr]
    exact congrArg String.toList h
  calc m = Json.digitsValue (Nat.toDigits 10 m) := (Json.digitsValue_toDigits m).symm
    _ = Json.digitsValue (Nat.toDigits 10 n) := by rw [hdigits]
    _ = n := Json.digitsValue_toDigits n

/-- Lists of words that hold no comma and are not empty are told apart when they are joined by
commas. -/
theorem intercalate_injective {l l' : List (List Char)} (h : ∀ w ∈ l, ',' ∉ w ∧ w ≠ [])
    (h' : ∀ w ∈ l', ',' ∉ w ∧ w ≠ []) (heq : [','].intercalate l = [','].intercalate l') :
    l = l' := by
  -- The empty list and the list of one empty word are joined to the same text.
  have hsplit : ∀ {l : List (List Char)}, (∀ w ∈ l, ',' ∉ w ∧ w ≠ []) → l ≠ [] →
      ([','].intercalate l).splitOn ',' = l :=
    fun h hne => List.splitOn_intercalate ',' (fun w hw => (h w hw).1) hne
  have hempty : ∀ {l : List (List Char)}, (∀ w ∈ l, ',' ∉ w ∧ w ≠ []) →
      [','].intercalate l = [] → l = [] := by
    intro l h hnil
    by_contra hne
    have hone : l = [[]] := by
      have hl := hsplit h hne
      rwa [hnil, List.splitOn_nil, eq_comm] at hl
    exact (h [] (by simp [hone])).2 rfl
  by_cases hl : l = []
  · subst hl
    exact (hempty h' heq.symm).symm
  · by_cases hl' : l' = []
    · subst hl'
      exact hempty h heq
    · rw [← hsplit h hl, heq, hsplit h' hl']

/-- The variables of the process determine all of an environment but its name. -/
theorem bindings_injective {e e' : Environment} (h : bindings e = bindings e') :
    e.id = e'.id ∧ e.groupId = e'.groupId ∧ e.tagIds = e'.tagIds := by
  simp only [bindings, List.cons.injEq, Prod.mk.injEq, true_and, and_true] at h
  obtain ⟨hid, hgroup, htags⟩ := h
  refine ⟨UInt32.toNat_inj.mp (toString_injective hid),
    UInt32.toNat_inj.mp (toString_injective hgroup), ?_⟩
  have hwords : ∀ ids : List UInt32, ∀ w ∈ (ids.map fun id => toString id.toNat).map String.toList,
      ',' ∉ w ∧ w ≠ [] := by
    intro ids w hw
    obtain ⟨s, hs, rfl⟩ := List.mem_map.mp hw
    obtain ⟨id, -, rfl⟩ := List.mem_map.mp hs
    have hdigits : (toString id.toNat).toList = Nat.toDigits 10 id.toNat := Nat.toList_repr
    rw [hdigits]
    refine ⟨fun hcomma => ?_, Nat.toDigits_ne_nil⟩
    have hdigit : (',' : Char).isDigit = true :=
      Nat.isDigit_of_mem_toDigits (by decide) (by decide) hcomma
    exact absurd hdigit (by decide)
  have hchars := congrArg String.toList htags
  rw [String.toList_intercalate, String.toList_intercalate] at hchars
  have hlists := intercalate_injective (hwords _) (hwords _) hchars
  rw [List.map_map, List.map_map] at hlists
  refine List.map_injective_iff.mpr ?_ hlists
  intro a b hab
  exact UInt32.toNat_inj.mp (toString_injective (String.toList_inj.mp hab))

/-! ## Section 2: Success -/

/-- Nothing goes wrong with the input if the process takes it, or if it does not care for it. -/
theorem Feed.fault?_eq_none {f : Feed} : f.fault? = none ↔ f = .taken ∨ f = .refused := by
  cases f with
  | taken => simp [Feed.fault?]
  | refused => simp [Feed.fault?]
  | failed text => simp [Feed.fault?]
  | crashed => simp [Feed.fault?]

theorem Remains.verdict_eq_ok {m : Remains} : m.verdict = .ok () ↔ m.ending = .exited 0 := by
  unfold Remains.verdict
  by_cases h : m.ending = .exited 0
  · simp [h]
  · simp [h]

theorem Report.verdict_eq_ok {feed : Feed} {remains : Except String Remains} :
    Report.verdict ⟨feed, remains⟩ = .ok () ↔
      (feed = .taken ∨ feed = .refused) ∧ ∃ m, remains = .ok m ∧ m.ending = .exited 0 := by
  rw [← Feed.fault?_eq_none, Report.verdict]
  cases hfault : feed.fault? with
  | some text => simp
  | none =>
    cases remains with
    | error text => simp [bind, Except.bind]
    | ok m => simp [bind, Except.bind, Remains.verdict_eq_ok]

theorem refresher_apply (e : Environment) (files : FileTree) :
    refresher run cwd directory command e files =
      ((verdict (run (launch command cwd directory e) files).1).mapError .refresh,
        (run (launch command cwd directory e) files).2) := rfl

/-- A refresh succeeds if and only if the process is started, nothing goes wrong with its input and
it exits with zero.  What it says does not matter then. -/
theorem refresher_ok_iff (e : Environment) (files : FileTree) :
    (refresher run cwd directory command e files).1 = .ok () ↔
      ∃ feed said, (feed = .taken ∨ feed = .refused) ∧
        (run (launch command cwd directory e) files).1 =
          .ok ⟨feed, .ok ⟨.exited 0, said⟩⟩ := by
  rw [refresher_apply]
  generalize (run (launch command cwd directory e) files).1 = r
  have hmap : ∀ v : Except String Unit, v.mapError RegistryError.refresh = .ok () ↔ v = .ok () := by
    intro v
    cases v with
    | error text => simp [Except.mapError]
    | ok _ => simp [Except.mapError]
  show (verdict r).mapError _ = _ ↔ _
  rw [hmap]
  constructor
  · intro h
    cases r with
    | error n => cases h
    | ok report =>
      obtain ⟨feed, remains⟩ := report
      obtain ⟨hfeed, ⟨ending, said⟩, rfl, hending⟩ := Report.verdict_eq_ok.mp h
      cases hending
      exact ⟨feed, said, hfeed, rfl⟩
  · rintro ⟨feed, said, hfeed, rfl⟩
    exact Report.verdict_eq_ok.mpr ⟨hfeed, _, rfl, rfl⟩

/-! ## Section 3: Failure -/

/-- Whatever goes wrong, the error is one of refreshes. -/
theorem refresher_error {e : Environment} {files : FileTree} {err : RegistryError}
    (h : (refresher run cwd directory command e files).1 = .error err) :
    ∃ text, verdict (run (launch command cwd directory e) files).1 = .error text ∧
      err = .refresh text := by
  rw [refresher_apply] at h
  cases hv : verdict (run (launch command cwd directory e) files).1 with
  | ok _ =>
    rw [hv] at h
    cases h
  | error text =>
    rw [hv] at h
    cases h
    exact ⟨text, rfl, rfl⟩

/-- The answers of hooks are reported as they are. -/
theorem firstFailure_callsOf (files : FileTree) (queue : List Environment) :
    Refresher.firstFailure ((refresher run cwd directory command).callsOf files queue) =
      Refresher.failure? ((refresher run cwd directory command).callsOf files queue) := by
  induction queue generalizing files with
  | nil => rfl
  | cons e rest ih =>
    rw [Refresher.callsOf]
    cases hcall : (refresher run cwd directory command e files).1 with
    | ok _ => exact ih _
    | error err =>
      obtain ⟨text, -, rfl⟩ := refresher_error run cwd directory command hcall
      rfl

/-- A queue that is passed on to a hook has a process for each of its environments, in order, and
ends with the first error just as the hook gave it. -/
theorem flush_refresher (files : FileTree) (queue : List Environment) :
    (refresher run cwd directory command).flush queue files =
      (match Refresher.failure? ((refresher run cwd directory command).callsOf files queue) with
        | some e => .error e
        | none => .ok (), (refresher run cwd directory command).after files queue) := by
  have hflush := Refresher.flush_apply (refresher run cwd directory command) queue files
  rw [firstFailure_callsOf] at hflush
  exact hflush

/-! ## Section 4: What an error tells -/

/-- No error tells more than so much of what a process says. -/
theorem length_hint (said : List UInt8) : (hint said).length ≤ hintLength := by
  rw [hint, String.length_ofList]
  exact List.length_take_le _ _

/-- A short text without white space around it is told in full. -/
theorem hint_encode {s : String} (htrim : Text.trim s = s) (hlength : s.length ≤ hintLength) :
    hint (Text.encode s) = s := by
  rw [hint, Text.decodeLossy_encode, htrim, List.take_of_length_le, String.ofList_toList]
  rwa [String.length_toList]

/-- What a process that fails says is in the error. -/
theorem verdict_encode {feed : Feed} (hfeed : feed = .taken ∨ feed = .refused) {ending : Ending}
    (hending : ending ≠ .exited 0) {s : String} (htrim : Text.trim s = s)
    (hlength : s.length ≤ hintLength) :
    verdict (.ok ⟨feed, .ok ⟨ending, Text.encode s⟩⟩) =
      .error ("hook exited with " ++ ending.text ++ ": " ++ s) := by
  have hfault := Feed.fault?_eq_none.mpr hfeed
  show Report.verdict _ = _
  rw [Report.verdict, hfault]
  show Remains.verdict _ = _
  rw [Remains.verdict, if_neg hending, hint_encode htrim hlength]

end EnvRegistry.Hook
