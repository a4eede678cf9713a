import EnvRegistry.CommandLine.Run
import EnvRegistry.Proofs.Config.Yaml
import EnvRegistry.Proofs.FileTree
import EnvRegistry.Proofs.Store.Run

/-! # The configuration of a project over whole runs

    Seen from outside, a project has a configuration or has none yet
    (`Operation.after`).  The tree holds it as a file (`Stored`), and every
    operation on the tree does what it does to the configuration
    (`perform_agrees`), so a run from an empty root ends with the file that the
    configuration at the end is read from (`run_persists`).

    What the file system may refuse is said by `EmptyRoot`: the path of the file
    is accepted, and the root is a directory. -/

namespace EnvRegistry

open FileTree (Way Keeps checkPath mostLinks startOf steps)
open StoreM (bind_ok bind_error get_apply)

namespace Config

/-! ## Section 1: Where the file lies -/

section Places

variable {t : FileTree} {cwd : Place} {root : String} {p : Place}

/-- The directory of a project's files, whose root is at a place. -/
def home (p : Place) : Place := p ++ [".envrel"]

/-- The configuration file of a project, whose root is at a place. -/
def file (p : Place) : Place := home p ++ ["config.yaml"]

theorem home_ne : home p ≠ [] := by simp [home]

theorem file_ne : file p ≠ [] := by simp [file]

theorem file_ne_home : file p ≠ home p := by simp [file]

theorem isName_home : FileTree.IsName ".envrel" := ⟨by decide, by decide, by decide⟩

theorem isName_file : FileTree.IsName "config.yaml" := ⟨by decide, by decide, by decide⟩

theorem startOf_directory : startOf cwd (Path.directory root) = startOf cwd root := by
  rw [startOf, Path.directory, Path.isAbsolute_join Path.isAbsolute_directoryName]
  rfl

theorem startOf_config : startOf cwd (Path.config root) = startOf cwd root := by
  rw [startOf, Path.config, Path.isAbsolute_join Path.isAbsolute_configName]
  rfl

theorem slash_directory (root : String) : (Path.directory root).toList.getLast? ≠ some '/' := by
  rw [List.getLast?_eq_head?_reverse, Path.directory_reverse]
  simp

theorem slash_config (root : String) : (Path.config root).toList.getLast? ≠ some '/' := by
  rw [List.getLast?_eq_head?_reverse, Path.config_reverse]
  simp

theorem steps_directory (root : String) :
    steps (Path.directory root) = Path.names root ++ [".envrel"] := by
  rw [steps, if_neg (slash_directory root), Path.names_directory]

theorem steps_config (root : String) :
    steps (Path.config root) = Path.names root ++ [".envrel", "config.yaml"] := by
  rw [steps, if_neg (slash_config root), Path.names_config]

/-- A path to the file is accepted only if one to the directory is. -/
theorem checkPath_directory (h : checkPath (Path.config root) = .ok ()) :
    checkPath (Path.directory root) = .ok () := by
  rw [Path.config_eq, checkPath] at h
  split_ifs at h with hnull hempty hlong
  rw [checkPath, if_neg, if_neg, if_neg]
  · rw [String.utf8ByteSize_append] at hlong
    omega
  · rw [Path.isEmpty_directory]
    exact Bool.false_ne_true
  · rw [String.contains_char_eq, decide_eq_true_eq] at hnull ⊢
    rw [String.toList_append, List.mem_append] at hnull
    exact fun hmem => hnull (.inl hmem)

end Places

/-! ## Section 2: The project in the tree -/

/-- The root of a project is a directory, and its configuration file is one that can be. -/
structure RootAt (t : FileTree) (cwd : Place) (root : String) (p : Place) : Prop where
  accepted : checkPath (Path.config root) = .ok ()
  directory : t.get? p = some .directory
  way : ∃ links, Way t mostLinks (startOf cwd root) (Path.names root) links p

/-- The file that holds a configuration, if there is one. -/
inductive Stored (t : FileTree) (p : Place) : Option Config → Prop
  | nothing : t.get? (home p) = none ∨ t.get? (home p) = some .directory →
      t.get? (file p) = none → Stored t p none
  | text {c : Config} {n : Nat} {f : File} : t.get? (home p) = some .directory →
      t.get? (file p) = some (.file n) → t.files.lookup n = some f → f.content = .text c.toYaml →
        Stored t p (some c)

section Tree

variable {t t' : FileTree} {cwd : Place} {root : String} {p : Place}

theorem RootAt.keeps (h : RootAt t cwd root p) (hkeeps : Keeps t t') : RootAt t' cwd root p := by
  obtain ⟨links, hway⟩ := h.way
  exact ⟨h.accepted, hkeeps.directory p h.directory, links, hway.keeps hkeeps h.directory⟩

/-- Names below the root are followed from there. -/
theorem RootAt.follow (h : RootAt t cwd root p) (bs : List String) :
    ∃ links, t.follow true mostLinks (startOf cwd root) (Path.names root ++ bs) =
      t.follow true links p bs := by
  obtain ⟨links, hway⟩ := h.way
  exact ⟨links, hway.follow_append bs⟩

theorem RootAt.follow_home (h : RootAt t cwd root p)
    (hhome : t.get? (home p) = some .directory) (bs : List String) :
    ∃ links, t.follow true mostLinks (startOf cwd root) (Path.names root ++ ".envrel" :: bs) =
      t.follow true links (home p) bs := by
  obtain ⟨links, hfollow⟩ := h.follow (".envrel" :: bs)
  refine ⟨links, hfollow.trans (FileTree.follow_into h.directory isName_home ?_ bs)⟩
  intro path hlink
  rw [home] at hhome
  rw [hhome] at hlink
  cases hlink

theorem RootAt.isDirectoryAt (h : RootAt t cwd root p)
    (hhome : t.get? (home p) = some .directory) :
    t.isDirectoryAt cwd (Path.directory root) = true := by
  obtain ⟨links, hfollow⟩ := h.follow_home hhome []
  have hlocate : t.locate cwd (Path.directory root) = .ok (home p) := by
    rw [FileTree.locate, checkPath_directory h.accepted, startOf_directory, steps_directory]
    exact hfollow.trans (by rw [FileTree.follow])
  rw [FileTree.isDirectoryAt, FileTree.find?, hlocate]
  exact decide_eq_true hhome

theorem RootAt.locate_config (h : RootAt t cwd root p)
    (hhome : t.get? (home p) = some .directory)
    (hfile : ∀ path, t.get? (file p) ≠ some (.link path)) :
    t.locate cwd (Path.config root) = .ok (file p) := by
  obtain ⟨links, hfollow⟩ := h.follow_home hhome ["config.yaml"]
  rw [FileTree.locate, h.accepted, startOf_config, steps_config]
  refine hfollow.trans ((FileTree.follow_into hhome isName_file hfile []).trans ?_)
  rw [FileTree.follow]
  rfl

/-- Without the directory there is no way to the file. -/
theorem RootAt.locate_config_none (h : RootAt t cwd root p) (hhome : t.get? (home p) = none) :
    t.locate cwd (Path.config root) = .error .notFound := by
  obtain ⟨links, hfollow⟩ := h.follow [".envrel", "config.yaml"]
  rw [FileTree.locate, h.accepted, startOf_config, steps_config]
  refine hfollow.trans ((FileTree.follow_into h.directory isName_home ?_ _).trans ?_)
  · intro path hlink
    rw [home] at hhome
    rw [hhome] at hlink
    cases hlink
  · rw [FileTree.follow, ← home, hhome]

/-- The directory of the files is made in the root. -/
theorem RootAt.target_directory (h : RootAt t cwd root p) :
    t.target cwd (Path.directory root) = .ok ⟨p, .name ".envrel", false⟩ := by
  obtain ⟨links, hfollow⟩ := h.follow ["."]
  have htop : t.follow true mostLinks (startOf cwd (Path.directory root))
      (Path.names root ++ ["."]) = .ok p := by
    rw [startOf_directory, hfollow, FileTree.follow_here h.directory, FileTree.follow]
  rw [FileTree.target_name (checkPath_directory h.accepted) (Path.names_directory root) isName_home
    htop, decide_eq_false (slash_directory root)]

/-- The file is put into that directory. -/
theorem RootAt.target_config (h : RootAt t cwd root p)
    (hhome : t.get? (home p) = some .directory) :
    t.target cwd (Path.config root) = .ok ⟨home p, .name "config.yaml", false⟩ := by
  obtain ⟨links, hfollow⟩ := h.follow_home hhome ["."]
  have htop : t.follow true mostLinks (startOf cwd (Path.config root))
      (Path.names root ++ [".envrel"] ++ ["."]) = .ok (home p) := by
    rw [startOf_config, List.append_assoc]
    exact hfollow.trans (by rw [FileTree.follow_here hhome, FileTree.follow])
  have hnames : Path.names (Path.config root) =
      Path.names root ++ [".envrel"] ++ ["config.yaml"] := by
    rw [Path.names_config, List.append_assoc]
    rfl
  rw [FileTree.target_name h.accepted hnames isName_file htop, decide_eq_false (slash_config root)]

end Tree

/-! ## Section 3: Writing the file -/

section Writing

variable {t : FileTree} {cwd : Place} {root : String} {p : Place}

/-- The tree with the directory of a project's files. -/
def withHome (t : FileTree) (p : Place) : FileTree :=
  if (t.get? (home p)).isSome then t else t.set (home p) .directory

theorem withHome_home (h : t.get? (home p) = none ∨ t.get? (home p) = some .directory) :
    (withHome t p).get? (home p) = some .directory := by
  rw [withHome]
  obtain hnone | hhome := h
  · rw [hnone]
    exact FileTree.get?_set_self home_ne _
  · rw [hhome]
    exact hhome

theorem withHome_other {q : Place} (hq : q ≠ home p) : (withHome t p).get? q = t.get? q := by
  rw [withHome]
  split
  · rfl
  · exact FileTree.get?_set_other hq _

theorem withHome_keeps : Keeps t (withHome t p) := by
  rw [withHome]
  split
  next => exact ⟨fun _ h => h, fun _ _ h => h⟩
  next hnone => exact Keeps.set (by simpa using hnone) _

theorem makeDirectory_home (h : RootAt t cwd root p) :
    FileTree.makeDirectory cwd (Path.directory root) t =
      (if (t.get? (home p)).isSome then .error .exists else .ok (), withHome t p) := by
  have htarget : FileTree.query (·.target cwd (Path.directory root)) t =
      (.ok ⟨p, .name ".envrel", false⟩, t) := by
    rw [FileTree.query, h.target_directory]
  have hplace : (⟨p, .name ".envrel", false⟩ : FileTree.Target).place = home p := rfl
  rw [FileTree.makeDirectory, bind_ok htarget]
  dsimp only
  rw [bind_ok (get_apply t), hplace, withHome]
  by_cases hsome : (t.get? (home p)).isSome = true
  · rw [if_pos hsome, if_pos hsome, if_pos hsome]
    rfl
  · rw [if_neg hsome, if_neg hsome, if_neg hsome]
    rfl

/-- The directory of the files is there after it has been asked for. -/
theorem makeDirectories_home (h : RootAt t cwd root p)
    (hhome : t.get? (home p) = none ∨ t.get? (home p) = some .directory) :
    FileTree.makeDirectories cwd (Path.directory root) t = (.ok (), withHome t p) := by
  obtain ⟨above, habove⟩ := Path.ancestors_directory root
  have hmake := makeDirectory_home h
  have hparent : ¬ ((Path.directory root).isEmpty ||
      (Path.parent? (Path.directory root)).isNone) = true := by
    rw [Path.isEmpty_directory, Path.parent?_directory]
    exact Bool.false_ne_true
  -- The root is there, so nothing above the directory has to be made.
  rw [FileTree.makeDirectories, habove, FileTree.makeChain, if_neg hparent]
  dsimp only
  rw [hmake]
  obtain hnone | hhome := hhome
  · rw [hnone]
    rfl
  · rw [hhome, h.isDirectoryAt hhome]
    rfl

/-- The file is written. -/
theorem replaceFile_config (h : RootAt t cwd root p)
    (hhome : t.get? (home p) = none ∨ t.get? (home p) = some .directory)
    (hfile : t.get? (file p) = none ∨ ∃ n, t.get? (file p) = some (.file n)) (c : FileContent) :
    FileTree.replaceFile cwd (Path.config root) c t =
      (.ok (), (withHome t p).addFile (file p) { content := c }) := by
  have hroot := h.keeps (withHome_keeps (t := t) (p := p))
  have hdirectory := withHome_home hhome
  have htarget : FileTree.query (·.target cwd (Path.config root)) (withHome t p) =
      (.ok ⟨home p, .name "config.yaml", false⟩, withHome t p) := by
    rw [FileTree.query, hroot.target_config hdirectory]
  have hcheck : FileTree.query (·.checkReplace ⟨home p, .name "config.yaml", false⟩ false)
      (withHome t p) = (.ok (), withHome t p) := by
    have hplace : (⟨home p, .name "config.yaml", false⟩ : FileTree.Target).place = file p := rfl
    rw [FileTree.query, FileTree.checkReplace, hplace, withHome_other file_ne_home]
    obtain hnone | ⟨n, hsome⟩ := hfile
    · rw [hnone]
      rfl
    · rw [hsome]
      rfl
  rw [FileTree.replaceFile, Path.parent?_config]
  dsimp only
  rw [bind_ok (makeDirectories_home h hhome), bind_ok htarget, bind_ok hcheck]
  rfl

/-- A project that has the file of a configuration, or none yet. -/
theorem Stored.home_cases {o : Option Config} (h : Stored t p o) :
    t.get? (home p) = none ∨ t.get? (home p) = some .directory := by
  cases h with
  | nothing hhome _ => exact hhome
  | text hhome _ _ _ => exact .inr hhome

theorem Stored.file_cases {o : Option Config} (h : Stored t p o) :
    t.get? (file p) = none ∨ ∃ n, t.get? (file p) = some (.file n) := by
  cases h with
  | nothing _ hfile => exact .inl hfile
  | text _ hfile _ _ => exact .inr ⟨_, hfile⟩

end Writing

/-! ## Section 4: One operation -/

/-- An operation on the configuration of a project. -/
inductive Operation where
  | init
  | save (c : Config)
  | setHook (command : Option String)

/-- What an operation does to the files of a project, and whether it writes. -/
def Operation.perform (cwd : Place) (root : String) : Operation → FileM Bool
  | .init => Config.init cwd root
  | .save c => do
    Config.save cwd root c
    return true
  | .setHook command => do
    Config.setHook cwd root command
    return true

/-- What an operation does to a configuration that a project has, or has not yet. -/
def Operation.after : Operation → Option Config → Except RegistryError Bool × Option Config
  | .init, none => (.ok true, some {})
  | .init, some c => (.ok false, some c)
  | .save c, _ => (.ok true, some c)
  | .setHook _, none => (.error .notInitialized, none)
  | .setHook command, some c => (.ok true, some { c with refreshCommand := command })

/-- The configuration that a project has. -/
def current : Option Config → Except RegistryError Config
  | none => .error .notInitialized
  | some c => .ok c

section Operations

variable {t : FileTree} {cwd : Place} {root : String} {p : Place} {o : Option Config}

/-- The project has a configuration just if the tree has its file. -/
theorem exists_config (h : RootAt t cwd root p) (hs : Stored t p o) :
    t.exists? cwd (Path.config root) = o.isSome := by
  cases hs with
  | nothing hhome hfile =>
    obtain hnone | hhome := hhome
    · rw [FileTree.exists?, FileTree.find?, h.locate_config_none hnone]
      rfl
    · rw [FileTree.exists?, FileTree.find?, h.locate_config hhome (by simp [hfile])]
      dsimp only
      rw [hfile]
      rfl
  | text hhome hfile _ _ =>
    rw [FileTree.exists?, FileTree.find?, h.locate_config hhome (by simp [hfile])]
    dsimp only
    rw [hfile]
    rfl

/-- Loading gives the configuration that is stored, and changes nothing. -/
theorem load_apply (h : RootAt t cwd root p) (hs : Stored t p o) :
    load cwd root t = (current o, t) := by
  have hexists := exists_config h hs
  rw [load, FileM.query, hexists]
  cases hs with
  | nothing _ _ => rfl
  | @text c n f hhome hfile hlookup hcontent =>
    have hread : t.readText cwd (Path.config root) = .ok c.toYaml :=
      FileTree.readText_file (h.locate_config hhome (by simp [hfile])) hfile hlookup hcontent
    rw [hread]
    exact congrArg (·, t) (ofYaml_toYaml c)

/-- The tree with the file of a configuration. -/
theorem stored_replaced (h : RootAt t cwd root p) (hs : Stored t p o) (c : Config) :
    RootAt ((withHome t p).addFile (file p) { content := .text c.toYaml }) cwd root p ∧
      Stored ((withHome t p).addFile (file p) { content := .text c.toYaml }) p (some c) := by
  have hfile := hs.file_cases
  rw [← withHome_other file_ne_home] at hfile
  constructor
  · -- Neither the directory nor the file takes anything away that the way to the root goes through.
    exact (h.keeps withHome_keeps).keeps (Keeps.addFile hfile _)
  · refine .text ?_ (FileTree.addFile_self file_ne _) (FileTree.addFile_file _) rfl
    rw [FileTree.addFile_other file_ne_home.symm]
    exact withHome_home hs.home_cases

/-- Saving stores the configuration. -/
theorem save_apply (h : RootAt t cwd root p) (hs : Stored t p o) (c : Config) :
    ∃ t', save cwd root c t = (.ok (), t') ∧ RootAt t' cwd root p ∧ Stored t' p (some c) := by
  refine ⟨_, ?_, stored_replaced h hs c⟩
  rw [save, FileM.change, replaceFile_config h hs.home_cases hs.file_cases]
  rfl

/-- The default configuration is stored unless there is one. -/
theorem init_apply (h : RootAt t cwd root p) (hs : Stored t p o) :
    ∃ t', init cwd root t = (.ok o.isNone, t') ∧ RootAt t' cwd root p ∧
      Stored t' p (some (o.getD {})) ∧ (o.isSome = true → t' = t) := by
  have hexists := exists_config h hs
  cases o with
  | none =>
    obtain ⟨hroot, hstored⟩ := stored_replaced h hs {}
    refine ⟨_, ?_, hroot, hstored, fun hsome => by cases hsome⟩
    have hreplace := replaceFile_config h hs.home_cases hs.file_cases (.text ({} : Config).toYaml)
    rw [init, FileM.change, FileTree.writeMissing, bind_ok (get_apply t), hexists,
      if_neg (by decide), bind_ok hreplace]
    rfl
  | some c =>
    refine ⟨t, ?_, h, hs, fun _ => rfl⟩
    rw [init, FileM.change, FileTree.writeMissing, bind_ok (get_apply t), hexists]
    rfl

/-- Without a configuration there is no command to set. -/
theorem setHook_none (h : RootAt t cwd root p) (hs : Stored t p none) (command : Option String) :
    setHook cwd root command t = (.error .notInitialized, t) := by
  rw [setHook, bind_error (load_apply h hs)]

/-- Setting the command keeps all else. -/
theorem setHook_some {c : Config} (h : RootAt t cwd root p) (hs : Stored t p (some c))
    (command : Option String) :
    setHook cwd root command t = save cwd root { c with refreshCommand := command } t := by
  rw [setHook, bind_ok (load_apply h hs)]

/-- An operation does to the files what it does to the configuration, and changes them only if it
says so. -/
theorem perform_agrees (h : RootAt t cwd root p) (hs : Stored t p o) (op : Operation) :
    ∃ t', op.perform cwd root t = ((op.after o).1, t') ∧ RootAt t' cwd root p ∧
      Stored t' p (op.after o).2 ∧ ((op.after o).1 ≠ .ok true → t' = t) := by
  cases op with
  | init =>
    obtain ⟨t', hinit, hroot, hstored, hsame⟩ := init_apply h hs
    cases o with
    | none => exact ⟨t', hinit, hroot, hstored, fun hne => absurd rfl hne⟩
    | some c => exact ⟨t', hinit, hroot, hstored, fun _ => hsame rfl⟩
  | save c =>
    obtain ⟨t', hsave, hroot, hstored⟩ := save_apply h hs c
    refine ⟨t', ?_, hroot, hstored, fun hne => absurd rfl hne⟩
    rw [Operation.perform, bind_ok hsave]
    rfl
  | setHook command =>
    cases o with
    | none =>
      refine ⟨t, ?_, h, hs, fun _ => rfl⟩
      rw [Operation.perform, bind_error (setHook_none h hs command)]
      rfl
    | some c =>
      obtain ⟨t', hsave, hroot, hstored⟩ := save_apply h hs { c with refreshCommand := command }
      refine ⟨t', ?_, hroot, hstored, fun hne => absurd rfl hne⟩
      rw [Operation.perform, bind_ok ((setHook_some h hs command).trans hsave)]
      rfl

/-- What the command line answers when it has been asked to set a command, given what became of
that. -/
def hookAnswer (command : Option String) (output : String) :
    Except RegistryError Bool × FileTree → Except String Unit × CommandLine.Session
  | (.ok _, t) => (.ok (), ⟨t, output ++ CommandLine.hookLine command ++ "\n"⟩)
  | (.error e, t) => (.error ("failed to load config" ++ ": " ++ e.message), ⟨t, output⟩)

/-- The command line sets the command in this way. -/
theorem setHook_answered (h : RootAt t cwd root p) (hs : Stored t p o) (runner : Hook.Runner)
    (command : Option String) (json : Bool) (output : String) :
    (CommandLine.Action.setHook command).perform ⟨cwd, root, runner⟩ json ⟨t, output⟩ =
      hookAnswer command output ((Operation.setHook command).perform cwd root t) := by
  have hload : CommandLine.Site.config ⟨cwd, root, runner⟩ ⟨t, output⟩ =
      ((current o).mapError fun e => "failed to load config" ++ ": " ++ e.message,
        ⟨t, output⟩) := by
    rw [CommandLine.Site.config, CommandLine.SessionM.attempt, load_apply h hs]
  -- The command line loads and saves on its own, to say which of the two has failed.
  cases o with
  | none =>
    have hperform : (Operation.setHook command).perform cwd root t =
        (.error .notInitialized, t) := by
      rw [Operation.perform, bind_error (setHook_none h hs command)]
    rw [CommandLine.Action.perform, bind_error hload, hperform]
    rfl
  | some c =>
    obtain ⟨t', hsave, -⟩ := save_apply h hs { c with refreshCommand := command }
    have hperform : (Operation.setHook command).perform cwd root t = (.ok true, t') := by
      rw [Operation.perform, bind_ok ((setHook_some h hs command).trans hsave)]
      rfl
    have hattempt : CommandLine.SessionM.attempt "failed to save config"
        (save cwd root { c with refreshCommand := command }) ⟨t, output⟩ =
          (.ok (), ⟨t', output⟩) := by
      rw [CommandLine.SessionM.attempt, hsave]
      rfl
    rw [CommandLine.Action.perform, bind_ok hload, bind_ok hattempt, hperform]
    rfl

end Operations

/-! ## Section 5: Whole runs -/

/-- The answers of steps that are taken one after the other, and the state at the end. -/
def runEach {ι σ α : Type} (step : ι → σ → α × σ) : List ι → σ → List α × σ
  | [], s => ([], s)
  | i :: rest, s =>
    let (a, s) := step i s
    let (as, s) := runEach step rest s
    (a :: as, s)

/-- A root that a project can be made in: the path of its configuration file is accepted, and the
root is a directory with nothing in it. -/
structure EmptyRoot (t : FileTree) (cwd : Place) (root : String) : Prop where
  accepted : checkPath (Path.config root) = .ok ()
  empty : ∃ p, t.follow true mostLinks (startOf cwd root) (steps root) = .ok p ∧
    t.get? p = some .directory ∧ ∀ q, q ≠ [] → t.get? (p ++ q) = none

section Runs

variable {t : FileTree} {cwd : Place} {root : String} {p : Place} {o : Option Config}

theorem EmptyRoot.rootAt (h : EmptyRoot t cwd root) :
    ∃ p, RootAt t cwd root p ∧ Stored t p none := by
  obtain ⟨p, hfollow, hdirectory, hbelow⟩ := h.empty
  obtain ⟨links, hway⟩ := FileTree.follow_eq_ok.mp hfollow
  refine ⟨p, ⟨h.accepted, hdirectory, links, hway.of_steps⟩, .nothing (.inl ?_) ?_⟩
  · exact hbelow [".envrel"] (List.cons_ne_nil _ _)
  · have hfile := hbelow [".envrel", "config.yaml"] (List.cons_ne_nil _ _)
    rwa [file, home, List.append_assoc]

/-- A run on the files does what it does to the configuration. -/
theorem runEach_agrees (h : RootAt t cwd root p) (hs : Stored t p o) (ops : List Operation) :
    ∃ t', runEach (Operation.perform cwd root) ops t = ((runEach Operation.after ops o).1, t') ∧
      RootAt t' cwd root p ∧ Stored t' p (runEach Operation.after ops o).2 := by
  -- A step leaves the root where it is and the configuration stored.
  induction ops generalizing t o with
  | nil => exact ⟨t, rfl, h, hs⟩
  | cons op rest ih =>
    obtain ⟨t₁, hstep, hroot₁, hstored₁, -⟩ := perform_agrees h hs op
    obtain ⟨t', hrun, hroot, hstored⟩ := ih hroot₁ hstored₁
    refine ⟨t', ?_, hroot, hstored⟩
    rw [runEach, hstep]
    dsimp only
    rw [hrun]
    rfl

/-- A project keeps its configuration.  After any operations on an empty root each has answered as
the configuration says, loading gives the configuration that was saved last with the command that
was set last, an operation that does not write leaves every file as it is, and the command line
sets a command in the same way. -/
theorem run_persists (h : EmptyRoot t cwd root) (ops : List Operation) :
    ∃ t', runEach (Operation.perform cwd root) ops t = ((runEach Operation.after ops none).1, t') ∧
      load cwd root t' = (current (runEach Operation.after ops none).2, t') ∧
      (∀ op : Operation, (op.after (runEach Operation.after ops none).2).1 ≠ .ok true →
        op.perform cwd root t' = ((op.after (runEach Operation.after ops none).2).1, t')) ∧
      ∀ (runner : Hook.Runner) (command : Option String) (json : Bool) (output : String),
        (CommandLine.Action.setHook command).perform ⟨cwd, root, runner⟩ json ⟨t', output⟩ =
          hookAnswer command output ((Operation.setHook command).perform cwd root t') := by
  obtain ⟨p, hroot, hstored⟩ := h.rootAt
  obtain ⟨t', hrun, hroot', hstored'⟩ := runEach_agrees hroot hstored ops
  refine ⟨t', hrun, load_apply hroot' hstored', fun op hnot => ?_,
    setHook_answered hroot' hstored'⟩
  obtain ⟨t'', hperform, -, -, hsame⟩ := perform_agrees hroot' hstored' op
  rw [hperform, hsame hnot]

/-- A tree with a directory at the top and nothing in it. -/
def sampleTree : FileTree := { entries := [(["project"], .directory)] }

theorem sampleTree_empty : EmptyRoot sampleTree [] "/project" where
  accepted := by
    have hconfig : Path.config "/project" = "/project/.envrel/config.yaml" := by decide
    rw [checkPath, hconfig, if_neg, if_neg, if_neg]
    · decide
    · decide
    · rw [String.contains_char_eq]
      decide
  empty := by
    have hway : Way sampleTree mostLinks [] ["project"] mostLinks ["project"] :=
      .into rfl ⟨by decide, by decide, by decide⟩ (fun _ h => by cases h) .arrived
    have hsteps : steps "/project" = ["project"] := by decide
    refine ⟨["project"], ?_, by decide, fun q hq => ?_⟩
    · rw [hsteps]
      exact FileTree.follow_eq_ok.mpr ⟨_, hway⟩
    · have hne : (["project"] ++ q == ["project"]) = false := beq_false_of_ne (by simpa using hq)
      rw [FileTree.get?_of_ne (by simp), sampleTree, List.lookup_cons, hne]
      rfl

/-- A path that looks like a comment and a command that looks like nothing come back. -/
theorem run_persists_sample :
    EmptyRoot sampleTree [] "/project" ∧
    ∃ t', load [] "/project" t' = (.ok ⟨7, "a: #b\n", some "null"⟩, t') := by
  obtain ⟨t', -, hload, -, -⟩ := run_persists sampleTree_empty
    [.init, .save ⟨7, "a: #b\n", some ""⟩, .init, .setHook (some "null")]
  exact ⟨sampleTree_empty, t', hload⟩

end Runs

end Config

end EnvRegistry
