import EnvRegistry.Path

/-! # The files of a project on paths

    The names of a path that is joined to another come after the names of that
    one (`names_join`), and the directory of a project's files lies one step
    above its configuration file (`parent?_config`). -/

namespace EnvRegistry.Path

/-! ## Section 1: Names -/

section Names

/-- A root together with the slash that comes before the names below it. -/
def stem (base : String) : String :=
  if base.isEmpty || base.toList.getLast? = some '/' then base else base ++ "/"

variable {base p : String}

theorem join_eq (hp : isAbsolute p = false) : join base p = stem base ++ p := by
  rw [join, hp, if_neg Bool.false_ne_true, stem]
  split
  · rfl
  · rfl

theorem names_empty : names "" = [] := by decide

theorem names_slash (p q : String) : names (p ++ "/" ++ q) = names p ++ names q := by
  have hcons : (p ++ "/" ++ q).toList = p.toList ++ '/' :: q.toList := by simp
  rw [names, hcons, List.splitOn_append_cons_self, List.filter_append, List.map_append]
  rfl

/-- What ends with a slash has the names before that slash. -/
theorem eq_slash_of_getLast? (h : base.toList.getLast? = some '/') :
    ∃ p, base = p ++ "/" := by
  obtain hnil | ⟨cs, c, hcs⟩ := List.eq_nil_or_concat base.toList
  · rw [hnil] at h
    cases h
  · rw [List.concat_eq_append] at hcs
    rw [hcs, List.getLast?_concat] at h
    refine ⟨String.ofList cs, ?_⟩
    rw [← String.toList_inj]
    simp [hcs, Option.some.inj h]

theorem names_stem (base q : String) : names (stem base ++ q) = names base ++ names q := by
  rw [stem]
  split
  next h =>
    rw [Bool.or_eq_true, decide_eq_true_eq] at h
    obtain hempty | hslash := h
    · rw [String.isEmpty_iff] at hempty
      rw [hempty, names_empty]
      simp
    · obtain ⟨p, rfl⟩ := eq_slash_of_getLast? hslash
      have hp := names_slash p ""
      rw [names_empty, List.append_nil, String.append_empty] at hp
      rw [names_slash, hp]
  next => exact names_slash base q

/-- The names of a joined path come after those of the other one. -/
theorem names_join (hp : isAbsolute p = false) : names (join base p) = names base ++ names p := by
  rw [join_eq hp, names_stem]

/-- What a path is joined to says where it starts. -/
theorem isAbsolute_join (hp : isAbsolute p = false) :
    isAbsolute (join base p) = isAbsolute base := by
  cases hbase : base.toList with
  | nil =>
    have hempty : base = "" := String.toList_eq_nil_iff.mp hbase
    subst hempty
    have hstem : stem "" = "" := rfl
    rw [join_eq hp, hstem, String.empty_append, hp]
    rfl
  | cons c cs =>
    rw [join_eq hp, stem]
    split <;> simp [isAbsolute, hbase]

end Names

/-! ## Section 2: The directory above -/

section Above

theorem isAbsolute_directoryName : isAbsolute directoryName = false := by decide

theorem isAbsolute_configName : isAbsolute configName = false := by decide

/-- The configuration file lies in the directory of the project's files. -/
theorem config_eq (root : String) : config root = directory root ++ "/config.yaml" := by
  rw [config, directory, join_eq isAbsolute_configName, join_eq isAbsolute_directoryName,
    String.append_assoc]
  rfl

theorem names_directory (root : String) : names (directory root) = names root ++ [".envrel"] := by
  rw [directory, names_join isAbsolute_directoryName]
  rfl

theorem names_config (root : String) :
    names (config root) = names root ++ [".envrel", "config.yaml"] := by
  rw [config, names_join isAbsolute_configName]
  rfl

theorem directory_reverse (root : String) :
    (directory root).toList.reverse = "lervne.".toList ++ (stem root).toList.reverse := by
  rw [directory, join_eq isAbsolute_directoryName]
  simp [directoryName]

theorem config_reverse (root : String) :
    (config root).toList.reverse =
      "lmay.gifnoc/".toList ++ (directory root).toList.reverse := by
  rw [config_eq]
  simp

theorem isEmpty_directory (root : String) : (directory root).isEmpty = false := by
  refine Bool.eq_false_iff.mpr fun hempty => ?_
  have hreverse := directory_reverse root
  rw [String.isEmpty_iff.mp hempty] at hreverse
  simp at hreverse

/-- The directory above the configuration file is that of the project's files. -/
theorem parent?_config (root : String) : parent? (config root) = some (directory root) := by
  rw [parent?, config_reverse, directory_reverse]
  change some (String.ofList ("lervne.".toList ++ (stem root).toList.reverse).reverse) = _
  rw [← directory_reverse, List.reverse_reverse, String.ofList_toList]

/-- There is a directory above that of the project's files. -/
theorem parent?_directory (root : String) : (parent? (directory root)).isNone = false := by
  rw [parent?, directory_reverse]
  rfl

theorem ancestors_directory (root : String) :
    ∃ above, ancestors (directory root) = directory root :: above := by
  rw [ancestors]
  cases (directory root).length with
  | zero => exact ⟨[], rfl⟩
  | succ n => exact ⟨_, rfl⟩

end Above

end EnvRegistry.Path
