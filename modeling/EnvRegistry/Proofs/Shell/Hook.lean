import EnvRegistry.Proofs.Hook
import EnvRegistry.Shell.Hook

/-! # What a shell is given of a hook

    A shell knows bytes and no other characters.  A raw text holds the bytes of the
    text that it is made of (`toBytes_ofText`), so nothing of the text is lost
    (`toText_ofText`).

    The shell of a hook is therefore told of the environment as every runner is: it
    can read the environment from its input (`startOf_input`) and finds each variable
    with its value (`startOf_bindings`).  A shell that cannot be started leaves the
    files alone, and the refresh fails (`refresher_unstarted`). -/

namespace EnvRegistry.Shell

/-! ## Section 1: Raw texts -/

namespace Raw

theorem toNat_ofByte (b : UInt8) : (Char.ofNat b.toNat).toNat = b.toNat := by
  have hb : b.toNat < 0xD800 := Nat.lt_trans (UInt8.toNat_lt b) (by decide)
  rw [Char.ofNat, dif_pos (.inl hb)]
  rfl

theorem toBytes_ofBytes (bytes : List UInt8) : toBytes (ofBytes bytes) = bytes := by
  induction bytes with
  | nil => rfl
  | cons b bytes ih =>
    simp only [toBytes, ofBytes, String.toList_ofList, List.map_cons] at ih ⊢
    rw [ih, toNat_ofByte, UInt8.ofNat_toNat]

theorem isPlain_iff {s : String} : isPlain s = true ↔ ∀ c ∈ s.toList, c.toNat < 0x80 := by
  rw [isPlain, String.all_prop_eq]
  simp

/-- A text of single bytes is its own raw text. -/
theorem toBytes_of_isPlain {s : String} (h : isPlain s = true) : toBytes s = Text.encode s := by
  rw [isPlain_iff] at h
  rw [toBytes, Text.encode_eq]
  generalize s.toList = cs at h ⊢
  induction cs with
  | nil => rfl
  | cons c cs ih =>
    have hc : c.val.toNat ≤ 127 := Nat.le_of_lt_succ (h c List.mem_cons_self)
    rw [List.map_cons, List.flatMap_cons, ih fun d hd => h d (List.mem_cons_of_mem c hd),
      String.utf8EncodeChar, if_pos hc]
    rfl

/-- A raw text holds the bytes of the text that it is made of. -/
theorem toBytes_ofText (s : String) : toBytes (ofText s) = Text.encode s := by
  unfold ofText
  by_cases h : isPlain s = true
  · rw [if_pos h, toBytes_of_isPlain h]
  · rw [if_neg h, toBytes_ofBytes]

/-- What a raw text says is what its bytes say, whether they are told apart or not. -/
theorem toText_eq (s : String) : toText s = Text.decodeLossy (toBytes s) := by
  unfold toText
  by_cases h : isPlain s = true
  · rw [if_pos h, toBytes_of_isPlain h, Text.decodeLossy_encode]
  · rw [if_neg h]

/-- A text comes back from its raw text. -/
theorem toText_ofText (s : String) : toText (ofText s) = s := by
  rw [toText_eq, toBytes_ofText, Text.decodeLossy_encode]

end Raw

/-! ## Section 2: The start of a hook -/

variable (command : String) (cwd : Place) (directory : String) (e : Environment) (place : Place)
  (files : FileTree)

/-- What the shell of a hook can read from its input is the environment. -/
theorem startOf_input : ∃ raw text,
    (startOf (Hook.launch command cwd directory e) place files).pipes[0]? = some raw ∧
      Text.decode? (Raw.toBytes raw) = some text ∧
      Json.decodeText (Environment.decoder .text) text = .ok e := by
  refine ⟨_, _, rfl, ?_, e.decodeText_toJson⟩
  show Text.decode? (Raw.toBytes (Raw.ofText e.toJson.compact)) = _
  rw [Raw.toBytes_ofText, Text.decode?_encode]

/-- The shell of a hook finds the variables that tell of the environment. -/
theorem startOf_bindings : ∀ v ∈ Hook.bindings e, ∃ value,
    (startOf (Hook.launch command cwd directory e) place files).bindings.lookup v.1 =
        some { value := some value, exported := true } ∧
      Raw.toText value = v.2 := by
  intro v hv
  refine ⟨Raw.ofText v.2, ?_, Raw.toText_ofText v.2⟩
  simp only [Hook.bindings, List.mem_cons, List.not_mem_nil, or_false] at hv
  rcases hv with rfl | rfl | rfl
  · rfl
  · rfl
  · rfl

/-- A hook whose shell cannot be started fails the refresh and changes no file. -/
theorem refresher_unstarted {text : String}
    (h : start files (Hook.launch command cwd directory e) = .error text) :
    Hook.refresher runner cwd directory command e files =
      (.error (.refresh ("failed to spawn hook: " ++ text)), files) := by
  rw [Hook.refresher_apply, runner, h]
  rfl

end EnvRegistry.Shell
