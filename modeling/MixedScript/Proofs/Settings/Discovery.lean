import MixedScript.Proofs.Path
import MixedScript.Proofs.Settings.ConfigFile
import MixedScript.Settings.Discovery

/-! The search for a configuration. Going upwards it passes over directories without one, and over
project files that cannot be used for a reason that the checks foresee. Nothing stops it but a project
file that lets a mishap escape, if none of the directories before has a configuration. -/

namespace MixedScript.Settings

variable {s : Surroundings} {directory place start : Path} {directories rest : List Path}
  {bs : Encoding.Bytes} {table : Mapping} {e : Error} {m : Mishap} {p : Problem}

-----------------------------------------------------------------------------------------
-- The project file of a directory
-----------------------------------------------------------------------------------------

/-- The place of the project file in a directory. -/
def projectPlace (directory : Path) : Path :=
  directory ++ [projectFileName]

/-- What the project file of a directory gives, if there is one. -/
def projectMapping? (s : Surroundings) (directory : Path) : Option (Except Problem Mapping) :=
  let place := projectPlace directory
  if s.files.isFile place then some (ConfigFormat.project.load place.shown (s.files.read place)) else none

theorem projectMapping?_of_isFile (file : s.files.isFile (projectPlace directory) = true)
    : projectMapping? s directory
      = some (ConfigFormat.project.load (projectPlace directory).shown
          (s.files.read (projectPlace directory))) :=
  if_pos file

theorem projectMapping?_of_noFile (noFile : s.files.isFile (projectPlace directory) = false)
    : projectMapping? s directory = none :=
  if_neg (Bool.eq_false_iff.mp noFile)

/-- What is told of a project file that is passed over. -/
def skipped (directory : Path) (e : Error) : Entry :=
  .debug .settings ("Skipping unreadable " ++ (projectPlace directory).shown ++ ": " ++ e.message)

/-- A search reads the project file of the directory that it has come to. -/
theorem projectConfigIn_eq (s : Surroundings) (proper : Path.Proper directory)
    : projectConfigIn s directory
      = match projectMapping? s directory with
        | none => pure none
        | some (.ok table) => pure (if table.isEmpty then none else some (projectPlace directory))
        | some (.error (.own e)) => .of [skipped directory e] (.ok none)
        | some (.error (.outside m)) => .of [] (.error (.outside m)) := by
  have placed : Path.Proper (projectPlace directory) := proper.concat (by decide)
  cases file : s.files.isFile (projectPlace directory) with
  | false =>
      rw [projectMapping?_of_noFile file]
      unfold projectPlace at file
      simp only [projectConfigIn, file]
      rfl
  | true =>
      have loaded : loadConfigFile s (projectPlace directory).shown
          = ConfigFormat.project.load (projectPlace directory).shown
              (s.files.read (projectPlace directory)) := by
        have found : s.files.isFile (Path.resolve s.current (projectPlace directory).shown) = true := by
          rw [Path.resolve_shown placed, file]
        have named : ConfigFormat.ofName (Path.name (projectPlace directory).shown)
            = .ok .project := by
          rw [projectPlace, Path.name_shown placed]
          rfl
        rw [loadConfigFile_of_isFile found named, Path.plain_shown placed, Path.resolve_shown placed]
      rw [projectMapping?_of_isFile file]
      unfold projectPlace at file loaded ⊢
      simp only [projectConfigIn, file, loaded, if_true]
      rcases ConfigFormat.project.load _ (s.files.read (directory ++ [projectFileName])) with
        (e | m) | table <;> rfl

/-- The project file of a directory stops a search with a mishap that its checks do not foresee. -/
theorem projectMapping?_outside_iff
    : projectMapping? s directory = some (.error (.outside m))
      ↔ ∃ bs,
        s.files.read (projectPlace directory) = .ok bs ∧ ConfigFormat.project.Escape bs m := by
  cases file : s.files.isFile (projectPlace directory) with
  | false =>
      rw [projectMapping?_of_noFile file]
      refine iff_of_false (by simp) ?_
      rintro ⟨bs, read, -⟩
      exact Bool.false_ne_true (file.symm.trans (Files.isFile_of_read read))
  | true =>
      rw [projectMapping?_of_isFile file]
      cases s.files.read (projectPlace directory) <;> simp [ConfigFormat.load, mapping_outside_iff]

-----------------------------------------------------------------------------------------
-- The way up
-----------------------------------------------------------------------------------------

/-- A directory that a search leaves behind: it has no configuration of its own, and no project file, or
one without a table for the program, or one that cannot be used for a reason that the checks foresee. -/
structure PassedOver (s : Surroundings) (directory : Path) : Prop where
  noOwn : ownConfigIn? s directory = none
  noTable : ∀ x, projectMapping? s directory = some x → x = .ok [] ∨ ∃ e, x = .error (.own e)

/-- How a search through directories comes to be stopped: it passes over some, and in the next one it
reads a project file that lets a mishap escape. -/
inductive Stumbles (s : Surroundings) : List Path → Mishap → Prop
  | here {directory : Path} {rest : List Path} {bs : Encoding.Bytes} {m : Mishap}
    (noOwn : ownConfigIn? s directory = none)
    (read : s.files.read (projectPlace directory) = .ok bs)
    (escape : ConfigFormat.project.Escape bs m)
    : Stumbles s (directory :: rest) m
  | above {directory : Path} {rest : List Path} {m : Mishap} (passed : PassedOver s directory)
    (later : Stumbles s rest m)
    : Stumbles s (directory :: rest) m

theorem findConfigIn_of_own (found : ownConfigIn? s directory = some place)
    : findConfigIn s (directory :: rest) = pure (some place) := by
  rw [findConfigIn, found]

theorem findConfigIn_of_project (noOwn : ownConfigIn? s directory = none)
    (found : (projectConfigIn s directory).result = .ok (some place))
    : (findConfigIn s (directory :: rest)).result = .ok (some place) := by
  simp only [findConfigIn, noOwn]
  exact Work.bind_of_ok found _

theorem findConfigIn_of_none (noOwn : ownConfigIn? s directory = none)
    (none : (projectConfigIn s directory).result = .ok none)
    : (findConfigIn s (directory :: rest)).result = (findConfigIn s rest).result := by
  simp only [findConfigIn, noOwn]
  exact Work.bind_of_ok none _

theorem findConfigIn_of_error (noOwn : ownConfigIn? s directory = none)
    (failed : (projectConfigIn s directory).result = .error p)
    : (findConfigIn s (directory :: rest)).result = .error p := by
  simp only [findConfigIn, noOwn]
  exact Work.bind_of_error failed _

theorem PassedOver.project (passed : PassedOver s directory) (proper : Path.Proper directory)
    : (projectConfigIn s directory).result = .ok none := by
  rw [projectConfigIn_eq s proper]
  cases given : projectMapping? s directory with
  | none => rfl
  | some x => rcases passed.noTable x given with rfl | ⟨e, rfl⟩ <;> rfl

/-- A directory without a configuration of its own is passed over, or its project file is found, or
that file stops the search. -/
theorem directory_cases (proper : Path.Proper directory) (noOwn : ownConfigIn? s directory = none)
    : PassedOver s directory
      ∨ (projectConfigIn s directory).result = .ok (some (projectPlace directory))
      ∨ ∃ m, projectMapping? s directory = some (.error (.outside m)) := by
  rw [projectConfigIn_eq s proper]
  rcases given : projectMapping? s directory with _ | (e | m) | _ | ⟨entry, table⟩
  · exact .inl ⟨noOwn, by simp [given]⟩
  · exact .inl ⟨noOwn, by simp [given]⟩
  · exact .inr (.inr ⟨m, rfl⟩)
  · exact .inl ⟨noOwn, by simp [given]⟩
  · exact .inr (.inl rfl)

theorem stumbles_of_error (proper : ∀ directory ∈ directories, Path.Proper directory)
    (failed : (findConfigIn s directories).result = .error p)
    : ∃ m, p = .outside m ∧ Stumbles s directories m := by
  induction directories with
  | nil => cases failed
  | cons directory rest ih =>
      have here := proper directory List.mem_cons_self
      -- Only a project file that stops the search can make it fail here; all else is found or passed over.
      cases own : ownConfigIn? s directory with
      | some place =>
          rw [findConfigIn_of_own own] at failed
          cases failed
      | none =>
          rcases directory_cases here own with passed | found | ⟨m, escaped⟩
          · rw [findConfigIn_of_none own (passed.project here)] at failed
            have rest := fun d member => proper d (List.mem_cons_of_mem directory member)
            obtain ⟨m, rfl, later⟩ := ih rest failed
            exact ⟨m, rfl, .above passed later⟩
          · rw [findConfigIn_of_project own found] at failed
            cases failed
          · have stopped : (projectConfigIn s directory).result = .error (.outside m) := by
              rw [projectConfigIn_eq s here, escaped]
              rfl
            obtain ⟨bs, read, escape⟩ := projectMapping?_outside_iff.mp escaped
            rw [findConfigIn_of_error own stopped] at failed
            cases failed
            exact ⟨m, rfl, .here own read escape⟩

theorem Stumbles.error (stumbles : Stumbles s directories m)
    (proper : ∀ directory ∈ directories, Path.Proper directory)
    : (findConfigIn s directories).result = .error (.outside m) := by
  induction stumbles with
  | @here directory rest bs m noOwn read escape =>
      have escaped := projectMapping?_outside_iff.mpr ⟨bs, read, escape⟩
      refine findConfigIn_of_error noOwn ?_
      rw [projectConfigIn_eq s (proper directory List.mem_cons_self), escaped]
      rfl
  | @above directory rest m passed later ih =>
      have none := passed.project (proper directory List.mem_cons_self)
      rw [findConfigIn_of_none passed.noOwn none]
      exact ih fun d member => proper d (List.mem_cons_of_mem _ member)

/-- A search fails exactly if it is stopped. -/
theorem findConfigIn_error_iff (proper : ∀ directory ∈ directories, Path.Proper directory)
    : (findConfigIn s directories).result = .error p
      ↔ ∃ m, p = .outside m ∧ Stumbles s directories m := by
  constructor
  · exact stumbles_of_error proper
  · rintro ⟨m, rfl, stumbles⟩
    exact stumbles.error proper

-----------------------------------------------------------------------------------------
-- The configuration of a run
-----------------------------------------------------------------------------------------

theorem directoriesFrom_proper (proper : Path.Proper start)
    : ∀ directory ∈ directoriesFrom start, Path.Proper directory := by
  intro directory member
  obtain ⟨n, -, rfl⟩ := List.mem_map.mp member
  exact proper.take n

/-- The home directory is looked at without reading any file. -/
theorem discoverConfig_error_iff
    : (discoverConfig s start).result = .error p
      ↔ (findConfigIn s (directoriesFrom start)).result = .error p := by
  unfold discoverConfig
  cases searched : (findConfigIn s (directoriesFrom start)).result with
  | error p' => rw [Work.bind_of_error searched]
  | ok found =>
      rw [Work.bind_of_ok searched]
      cases found <;> exact iff_of_false nofun nofun

/-- A project file that cannot be used for a reason that the checks foresee is told of and passed
over. -/
theorem findConfigIn_of_unusable (proper : Path.Proper directory)
    (noOwn : ownConfigIn? s directory = none)
    (unusable : projectMapping? s directory = some (.error (.own e)))
    : findConfigIn s (directory :: rest)
      = (Work.tell (skipped directory e) >>= fun _ => findConfigIn s rest) := by
  simp only [findConfigIn, noOwn, projectConfigIn_eq s proper, unusable]
  rfl

/-- Reading a configuration file, and searching for one, fail outside the checks exactly where a
mishap escapes them; every other failure of reading is an error of validation, and a search has no
other. Project files that fail in a way that the checks foresee are passed over. -/
theorem config_fails_outside_iff (s : Surroundings)
    : (∀ path,
        (∀ m, loadConfigFile s path = .error (.outside m) ↔ FileEscape s path m)
        ∧ (Foreseen (loadConfigFile s path) ↔ ∀ m, ¬ FileEscape s path m))
      ∧ (∀ start,
          Path.Proper start →
          (∀ p,
            (findConfigIn s (directoriesFrom start)).result = .error p
            ↔ ∃ m, p = .outside m ∧ Stumbles s (directoriesFrom start) m)
          ∧ ∀ p,
            (discoverConfig s start).result = .error p
            ↔ ∃ m, p = .outside m ∧ Stumbles s (directoriesFrom start) m)
      ∧ ∀ directory rest e,
          Path.Proper directory →
          ownConfigIn? s directory = none →
          projectMapping? s directory = some (.error (.own e)) →
          findConfigIn s (directory :: rest)
            = (Work.tell (skipped directory e) >>= fun _ => findConfigIn s rest) := by
  refine ⟨?_, ?_, ?_⟩
  · intro path
    exact ⟨fun m => loadConfigFile_outside_iff, loadConfigFile_foreseen_iff⟩
  · intro start proper
    have search (p : Problem) : (findConfigIn s (directoriesFrom start)).result = .error p ↔ _ :=
      findConfigIn_error_iff (directoriesFrom_proper proper)
    exact ⟨search, fun p => discoverConfig_error_iff.trans (search p)⟩
  · intro directory rest e proper noOwn unusable
    exact findConfigIn_of_unusable proper noOwn unusable

/-- A project whose table for the program is a number, inside a project whose tools are a number. -/
def nestedProjects : Surroundings where
  files := {
    entries := [
      (["a", projectFileName], some "[tool]\ncjkfmt = 1\n".toUTF8.toList),
      ([projectFileName], some "tool = 1\n".toUTF8.toList)] }
  current := ["a"]
  home := []
  detector _ := none
  codecs _ := none

theorem nestedProjects_outer
    : ConfigFormat.project.Escape "tool = 1\n".toUTF8.toList .missingMember := by
  have failed : failure? (ConfigFormat.project.mapping "" "tool = 1\n".toUTF8.toList)
      = some (.outside .missingMember) := by
    decide +kernel
  exact mapping_outside_iff.mp (error_of_failure? failed)

theorem nestedProjects_inner
    : projectMapping? nestedProjects ["a"]
      = some (.error (.own (.invalid
          "[tool.cjkfmt] section in /a/pyproject.toml must be a table, got int"))) := by
  have file : nestedProjects.files.isFile (projectPlace ["a"]) = true := rfl
  have read : nestedProjects.files.read (projectPlace ["a"])
      = .ok "[tool]\ncjkfmt = 1\n".toUTF8.toList :=
    rfl
  have refused : failure? (ConfigFormat.project.mapping (projectPlace ["a"]).shown
        "[tool]\ncjkfmt = 1\n".toUTF8.toList)
      = some (.own (.invalid
          "[tool.cjkfmt] section in /a/pyproject.toml must be a table, got int")) := by
    decide +kernel
  rw [projectMapping?_of_isFile file, read, ConfigFormat.load, error_of_failure? refused]

theorem nestedProjects_noOwn (directory : Path) (member : directory ∈ [["a"], []])
    : ownConfigIn? nestedProjects directory = none := by
  revert directory
  decide

theorem nestedProjects_stumble
    : Stumbles nestedProjects (directoriesFrom ["a"]) .missingMember := by
  have passed : PassedOver nestedProjects ["a"] := by
    refine ⟨nestedProjects_noOwn _ (by simp), ?_⟩
    intro x given
    obtain rfl := Option.some.inj (nestedProjects_inner.symm.trans given)
    exact .inr ⟨_, rfl⟩
  exact .above passed (.here (nestedProjects_noOwn _ (by simp)) rfl nestedProjects_outer)

/-- From the inner project on, the search passes over its file and is stopped by the one of the
outer project. -/
theorem nestedProjects_search
    : Path.Proper ["a"]
      ∧ (discoverConfig nestedProjects ["a"]).result = .error (.outside .missingMember)
      ∧ ∃ e,
        projectMapping? nestedProjects ["a"] = some (.error (.own e))
        ∧ findConfigIn nestedProjects [["a"], []]
          = (Work.tell (skipped ["a"] e) >>= fun _ => findConfigIn nestedProjects [[]]) := by
  have proper : Path.Proper ["a"] := by decide
  obtain ⟨-, search, skip⟩ := config_fails_outside_iff nestedProjects
  have failed := ((search ["a"] proper).2 _).mpr ⟨_, rfl, nestedProjects_stumble⟩
  have skipped := skip ["a"] [[]] _ proper (nestedProjects_noOwn _ (by simp)) nestedProjects_inner
  exact ⟨proper, failed, _, nestedProjects_inner, skipped⟩

/-- Not every file is read with a result that is foreseen, and not every search comes to an end. -/
theorem scalar_tools_fail_outside
    : (¬ ∀ (s : Surroundings) (path : String), Foreseen (loadConfigFile s path))
      ∧ (¬ ∀ (s : Surroundings) (start : Path),
          ∃ found, (findConfigIn s (directoriesFrom start)).result = .ok found)
      ∧ ¬ ∀ (s : Surroundings) (start : Path),
          ∃ found, (discoverConfig s start).result = .ok found := by
  have stopped : (findConfigIn nestedProjects (directoriesFrom ["a"])).result
      = .error (.outside .missingMember) :=
    nestedProjects_stumble.error (directoriesFrom_proper (by decide))
  refine ⟨?_, ?_, ?_⟩
  · intro claim
    exact loadConfigFile_foreseen_iff.mp (claim nestedProjects "/pyproject.toml") .missingMember
      ⟨_, .project, rfl, rfl, nestedProjects_outer⟩
  · intro claim
    obtain ⟨found, result⟩ := claim nestedProjects ["a"]
    cases stopped.symm.trans result
  · intro claim
    obtain ⟨found, result⟩ := claim nestedProjects ["a"]
    cases (discoverConfig_error_iff.mpr stopped).symm.trans result

end MixedScript.Settings
