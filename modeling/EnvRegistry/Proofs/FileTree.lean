import EnvRegistry.FileTree.Change
import EnvRegistry.Proofs.Path
import EnvRegistry.Proofs.Store.Run
import Mathlib.Data.List.Basic

/-! # Places and the ways to them

    A `Way` is what a path comes to, step by step: a step stays in a directory,
    leaves it for the one above, goes along a link, or goes on to a name.  A path
    can be followed just if there is a way (`follow_eq_ok`).  The rest of a path is
    followed from where the way so far leads (`Way.follow_append`), and a way to a
    directory stays one as long as directories and links do (`Way.keeps`). -/

namespace EnvRegistry

namespace FileTree

/-! ## Section 1: What lies at a place -/

section Places

variable {t : FileTree} {p q : Place}

theorem lookup_filter_ne {κ α : Type} [BEq κ] [LawfulBEq κ] [DecidableEq κ] (l : List (κ × α))
    {a b : κ} (h : a ≠ b) : (l.filter (·.1 ≠ b)).lookup a = l.lookup a := by
  induction l with
  | nil => rfl
  | cons e rest ih =>
    obtain ⟨key, value⟩ := e
    by_cases hkey : key = b
    · have hne : (a == key) = false := by
        rw [hkey]
        exact beq_false_of_ne h
      rw [List.filter_cons_of_neg (by simp [hkey]), ih, List.lookup_cons, hne]
    · rw [List.filter_cons_of_pos (by simp [hkey]), List.lookup_cons, List.lookup_cons, ih]

theorem get?_of_ne (hp : p ≠ []) : t.get? p = t.entries.lookup p := by
  rw [get?, if_neg (by simpa using hp)]

theorem get?_set_self (hp : p ≠ []) (e : FileEntry) : (t.set p e).get? p = some e := by
  rw [get?_of_ne hp, set]
  exact List.lookup_cons_self

theorem get?_set_other (h : q ≠ p) (e : FileEntry) : (t.set p e).get? q = t.get? q := by
  by_cases hq : q = []
  · rw [hq]
    rfl
  · have hne : (q == p) = false := beq_false_of_ne h
    rw [get?_of_ne hq, get?_of_ne hq, set]
    dsimp only
    rw [List.lookup_cons, hne, lookup_filter_ne _ h]

/-- A new file lies at its place. -/
theorem addFile_self (hp : p ≠ []) (f : File) : (t.addFile p f).get? p = some (.file t.next) :=
  get?_set_self hp _

theorem addFile_other (h : q ≠ p) (f : File) : (t.addFile p f).get? q = t.get? q :=
  get?_set_other h _

theorem addFile_file (f : File) : (t.addFile p f).files.lookup t.next = some f :=
  List.lookup_cons_self

end Places

/-! ## Section 2: Ways -/

/-- Directories and links of one tree are there in the other. -/
structure Keeps (t t' : FileTree) : Prop where
  directory : ∀ p, t.get? p = some .directory → t'.get? p = some .directory
  link : ∀ p path, t.get? p = some (.link path) → t'.get? p = some (.link path)

section Ways

variable {t t' : FileTree} {p q : Place} {links : Nat}

/-- What lies at one place may change if it is no directory and no link. -/
theorem Keeps.of_other (hother : ∀ q, q ≠ p → t'.get? q = t.get? q)
    (hp : t.get? p = none ∨ ∃ n, t.get? p = some (.file n)) : Keeps t t' := by
  have hne {q : Place} {e : FileEntry} (hq : t.get? q = some e) (he : ∀ n, e ≠ .file n) :
      q ≠ p := by
    rintro rfl
    obtain hnone | ⟨n, hfile⟩ := hp
    · rw [hnone] at hq
      cases hq
    · rw [hfile] at hq
      exact he n (Option.some.inj hq).symm
  refine ⟨fun q hq => ?_, fun q path hq => ?_⟩
  · rw [hother q (hne hq fun n h => by cases h), hq]
  · rw [hother q (hne hq fun n h => by cases h), hq]

theorem Keeps.set (hp : t.get? p = none) (e : FileEntry) : Keeps t (t.set p e) :=
  .of_other (fun _ hq => get?_set_other hq e) (.inl hp)

/-- A new file takes no directory and no link away, unless it takes its place. -/
theorem Keeps.addFile (hp : t.get? p = none ∨ ∃ n, t.get? p = some (.file n)) (f : File) :
    Keeps t (t.addFile p f) :=
  .of_other (fun _ hq => addFile_other hq f) hp

/-- A step that is the name of something. -/
structure IsName (step : String) : Prop where
  notHere : step ≠ "."
  notAbove : step ≠ ".."
  short : step.utf8ByteSize ≤ longestName

/-- The steps that lead from one place to another, and how many links may be followed before and
after them. -/
inductive Way (t : FileTree) : Nat → Place → List String → Nat → Place → Prop
  | arrived {links : Nat} {p : Place} : Way t links p [] links p
  | here {links links' : Nat} {p q : Place} {rest : List String} :
      t.get? p = some .directory → Way t links p rest links' q →
        Way t links p ("." :: rest) links' q
  | above {links links' : Nat} {p q : Place} {rest : List String} :
      t.get? p = some .directory → Way t links p.dropLast rest links' q →
        Way t links p (".." :: rest) links' q
  | along {links links' : Nat} {p q : Place} {step path : String} {rest : List String} :
      t.get? p = some .directory → IsName step → t.get? (p ++ [step]) = some (.link path) →
        Way t links (startOf p path) (steps path ++ rest) links' q →
          Way t (links + 1) p (step :: rest) links' q
  | into {links links' : Nat} {p q : Place} {step : String} {rest : List String} :
      t.get? p = some .directory → IsName step →
        (∀ path, t.get? (p ++ [step]) ≠ some (.link path)) →
          Way t links (p ++ [step]) rest links' q → Way t links p (step :: rest) links' q

variable {links' : Nat} {as : List String}

theorem follow_here (hp : t.get? p = some .directory) (rest : List String) :
    t.follow true links p ("." :: rest) = t.follow true links p rest := by
  rw [follow, hp]
  rfl

theorem follow_above (hp : t.get? p = some .directory) (rest : List String) :
    t.follow true links p (".." :: rest) = t.follow true links p.dropLast rest := by
  rw [follow, hp]
  rfl

theorem follow_along {step path : String} (hp : t.get? p = some .directory) (hname : IsName step)
    (hlink : t.get? (p ++ [step]) = some (.link path)) (rest : List String) :
    t.follow true (links + 1) p (step :: rest) =
      t.follow true links (startOf p path) (steps path ++ rest) := by
  rw [follow, hp]
  dsimp only
  rw [if_neg hname.notHere, if_neg hname.notAbove, if_neg (Nat.not_lt.mpr hname.short), hlink]
  dsimp only
  rw [Bool.not_true, Bool.and_false, if_neg Bool.false_ne_true]

theorem follow_into {step : String} (hp : t.get? p = some .directory) (hname : IsName step)
    (hlink : ∀ path, t.get? (p ++ [step]) ≠ some (.link path)) (rest : List String) :
    t.follow true links p (step :: rest) = t.follow true links (p ++ [step]) rest := by
  rw [follow, hp]
  dsimp only
  rw [if_neg hname.notHere, if_neg hname.notAbove, if_neg (Nat.not_lt.mpr hname.short)]
  split
  next path heq => exact absurd heq (hlink path)
  next => rfl

/-- The rest of a path is followed from where the way so far leads. -/
theorem Way.follow_append (h : Way t links p as links' q) (bs : List String) :
    t.follow true links p (as ++ bs) = t.follow true links' q bs := by
  induction h with
  | arrived => rfl
  | here hp _ ih => rw [List.cons_append, follow_here hp, ih]
  | above hp _ ih => rw [List.cons_append, follow_above hp, ih]
  | along hp hname hlink _ ih =>
    rw [List.cons_append, follow_along hp hname hlink, ← List.append_assoc, ih]
  | into hp hname hlink _ ih => rw [List.cons_append, follow_into hp hname hlink, ih]

theorem Way.of_follow (h : t.follow true links p as = .ok q) :
    ∃ links', Way t links p as links' q := by
  -- The cases are those in which a step is taken or refused.
  induction links, p, as using follow.induct t true with
  | case1 links p =>
    rw [follow] at h
    cases h
    exact ⟨links, .arrived⟩
  | case2 links p step rest hp =>
    rw [follow, hp] at h
    cases h
  | case3 links p rest hp ih =>
    rw [follow_here hp] at h
    obtain ⟨links', hway⟩ := ih h
    exact ⟨links', .here hp hway⟩
  | case4 links p rest hp _ ih =>
    rw [follow_above hp] at h
    obtain ⟨links', hway⟩ := ih h
    exact ⟨links', .above hp hway⟩
  | case5 links p step rest hp hhere habove hlong =>
    rw [follow, hp] at h
    dsimp only at h
    rw [if_neg hhere, if_neg habove, if_pos hlong] at h
    cases h
  | case6 links p step rest hp hhere habove hshort path hlink hlast =>
    rw [Bool.not_true, Bool.and_false] at hlast
    cases hlast
  | case7 p step rest hp hhere habove hshort path hlink hlast =>
    rw [follow, hp] at h
    dsimp only at h
    rw [if_neg hhere, if_neg habove, if_neg hshort, hlink] at h
    dsimp only at h
    rw [if_neg hlast] at h
    cases h
  | case8 p step rest hp hhere habove hshort path hlink hlast links ih =>
    have hname : IsName step := ⟨hhere, habove, Nat.not_lt.mp hshort⟩
    rw [Nat.succ_eq_add_one, follow_along hp hname hlink] at h
    obtain ⟨links', hway⟩ := ih h
    exact ⟨links', .along hp hname hlink hway⟩
  | case9 links p step rest hp hhere habove hshort hlink ih =>
    have hname : IsName step := ⟨hhere, habove, Nat.not_lt.mp hshort⟩
    rw [follow_into hp hname hlink] at h
    obtain ⟨links', hway⟩ := ih h
    exact ⟨links', .into hp hname hlink hway⟩
  | case10 links p step rest e hother hp =>
    rw [follow, hp] at h
    cases e with
    | directory => exact absurd rfl hother
    | file n => cases h
    | link path => cases h

/-- A path can be followed just if there is a way. -/
theorem follow_eq_ok : t.follow true links p as = .ok q ↔ ∃ links', Way t links p as links' q := by
  constructor
  · exact Way.of_follow
  · rintro ⟨links', hway⟩
    have hfollow := hway.follow_append []
    rwa [List.append_nil, follow] at hfollow

/-- A way to a directory starts in one. -/
theorem Way.start (h : Way t links p as links' q) (hq : t.get? q = some .directory) :
    t.get? p = some .directory := by
  cases h with
  | arrived => exact hq
  | here hp _ => exact hp
  | above hp _ => exact hp
  | along hp _ _ _ => exact hp
  | into hp _ _ _ => exact hp

/-- A way to a directory stays one as long as directories and links do. -/
theorem Way.keeps (h : Way t links p as links' q) (hkeeps : Keeps t t')
    (hq : t.get? q = some .directory) : Way t' links p as links' q := by
  induction h with
  | arrived => exact .arrived
  | here hp _ ih => exact .here (hkeeps.directory _ hp) (ih hq)
  | above hp _ ih => exact .above (hkeeps.directory _ hp) (ih hq)
  | along hp hname hlink _ ih =>
    exact .along (hkeeps.directory _ hp) hname (hkeeps.link _ _ hlink) (ih hq)
  | into hp hname _ hway ih =>
    refine .into (hkeeps.directory _ hp) hname ?_ (ih hq)
    -- What the way goes into is a directory, and so no link.
    intro path hlink
    rw [hkeeps.directory _ (hway.start hq)] at hlink
    cases hlink

/-- A step to the directory itself leads nowhere else. -/
theorem Way.drop_here (h : Way t links p (as ++ ["."]) links' q) : Way t links p as links' q := by
  -- The last step stays last along the way: the induction is on the way, for any steps before it.
  generalize hbs : as ++ ["."] = bs at h
  induction h generalizing as with
  | arrived => simp at hbs
  | here hp hway ih =>
    obtain _ | ⟨a, as⟩ := as
    · obtain ⟨-, rfl⟩ := List.cons.inj hbs
      cases hway
      exact .arrived
    · obtain ⟨rfl, hrest⟩ := List.cons.inj hbs
      exact .here hp (ih hrest)
  | above hp _ ih =>
    obtain _ | ⟨a, as⟩ := as
    · exact absurd (List.cons.inj hbs).1 (by decide)
    · obtain ⟨rfl, hrest⟩ := List.cons.inj hbs
      exact .above hp (ih hrest)
  | along hp hname hlink _ ih =>
    obtain _ | ⟨a, as⟩ := as
    · exact absurd (List.cons.inj hbs).1.symm hname.notHere
    · obtain ⟨rfl, hrest⟩ := List.cons.inj hbs
      refine .along hp hname hlink (ih ?_)
      rw [List.append_assoc]
      exact congrArg (steps _ ++ ·) hrest
  | into hp hname hlink _ ih =>
    obtain _ | ⟨a, as⟩ := as
    · exact absurd (List.cons.inj hbs).1.symm hname.notHere
    · obtain ⟨rfl, hrest⟩ := List.cons.inj hbs
      exact .into hp hname hlink (ih hrest)

/-- The names of a path lead where the path does. -/
theorem Way.of_steps {path : String} (h : Way t links p (steps path) links' q) :
    Way t links p (Path.names path) links' q := by
  rw [steps] at h
  split at h
  · exact h.drop_here
  · exact h

end Ways

/-! ## Section 3: The last step of a path -/

/-- The last step of a path is taken in the directory that the other names lead to. -/
theorem target_name {t : FileTree} {cwd p : Place} {path last : String} {front : List String}
    (haccepted : checkPath path = .ok ()) (hnames : Path.names path = front ++ [last])
    (hname : IsName last)
    (hfollow : t.follow true mostLinks (startOf cwd path) (front ++ ["."]) = .ok p) :
    t.target cwd path = .ok ⟨p, .name last, path.toList.getLast? = some '/'⟩ := by
  rw [target, haccepted, ok_bind]
  simp only [hnames, List.getLast?_concat, List.dropLast_concat]
  rw [hfollow, ok_bind, if_neg hname.notHere, if_neg hname.notAbove,
    if_neg (Nat.not_lt.mpr hname.short)]
  rfl

/-! ## Section 4: Reading -/

section Reading

variable {t : FileTree} {cwd p : Place} {path : String} {n : Nat} {f : File}

theorem open?_file (hlocate : t.locate cwd path = .ok p) (hp : t.get? p = some (.file n))
    (hfile : t.files.lookup n = some f) : t.open? cwd path = .ok (n, f.content) := by
  rw [open?, hlocate, ok_bind, hp]
  dsimp only
  rw [hfile]
  rfl

/-- A file that holds a text is read as that text. -/
theorem readText_file {s : String} (hlocate : t.locate cwd path = .ok p)
    (hp : t.get? p = some (.file n)) (hfile : t.files.lookup n = some f)
    (hcontent : f.content = .text s) : t.readText cwd path = .ok s := by
  rw [readText, open?_file hlocate hp hfile, hcontent]
  rfl

end Reading

end FileTree

end EnvRegistry
