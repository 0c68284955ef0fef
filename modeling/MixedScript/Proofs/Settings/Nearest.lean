import MixedScript.Proofs.Settings.Discovery
import Mathlib.Data.List.Induction

/-! The configuration that a search finds. It is the one of the nearest directory, upwards from the
start, that has one: a file of its own before the file of a project, and files of its own in the order
of their names. Only where no directory on the way has one does a file of its own in the home directory
count. -/

namespace MixedScript.Settings

variable {s : Surroundings} {directory place start : Path} {rest visited : List Path}
  {found : Option Path} {document table : Mapping} {bs : Encoding.Bytes} {shown : String}

-----------------------------------------------------------------------------------------
-- What configures a directory
-----------------------------------------------------------------------------------------

/-- The first file in a directory, in the order of the names, that holds nothing but a configuration. -/
def OwnConfig (s : Surroundings) (directory place : Path) : Prop :=
  ∃ before name after,
    configFileNames = before ++ name :: after
    ∧ place = directory ++ [name]
    ∧ s.files.isFile place = true
    ∧ ∀ other ∈ before, s.files.isFile (directory ++ [other]) = false

/-- A directory without a file that holds nothing but a configuration. -/
def NoOwnConfig (s : Surroundings) (directory : Path) : Prop :=
  ∀ name ∈ configFileNames, s.files.isFile (directory ++ [name]) = false

/-- The table of the program in the bytes of a project file. -/
def ProgramTable (bs : Encoding.Bytes) (table : Mapping) : Prop :=
  ∃ cs document tools,
    textOf bs = some cs
    ∧ Toml.load cs = .ok document
    ∧ document.at? "tool" = some (.map tools)
    ∧ Mapping.at? tools "cjkfmt" = some (.map table)

/-- The file that configures the program in a directory. -/
inductive Configures (s : Surroundings) (directory : Path) : Path → Prop
  | own {place : Path} (own : OwnConfig s directory place)
    : Configures s directory place
  /-- A project file that can be read and in which the table of the program is not empty. -/
  | project {bs : Encoding.Bytes} {table : Mapping} (noOwn : NoOwnConfig s directory)
    (read : s.files.read (projectPlace directory) = .ok bs) (holds : ProgramTable bs table)
    (filled : table ≠ [])
    : Configures s directory (projectPlace directory)

theorem ownConfigIn?_eq_some
    : ownConfigIn? s directory = some place ↔ OwnConfig s directory place := by
  rw [ownConfigIn?, List.find?_eq_some_iff_append]
  constructor
  · rintro ⟨file, before, after, split, none⟩
    obtain ⟨names, rest, named, rfl, onward⟩ := List.map_eq_append_iff.mp split
    obtain ⟨name, later, rfl, rfl, rfl⟩ := List.map_eq_cons_iff.mp onward
    refine ⟨names, name, later, named, rfl, file, fun other held => ?_⟩
    simpa using none _ (List.mem_map_of_mem held)
  · rintro ⟨before, name, after, named, rfl, file, none⟩
    refine ⟨file, before.map (fun name => directory ++ [name]), after.map (fun name => directory ++ [name]),
      by simp [named], fun other held => ?_⟩
    obtain ⟨earlier, inside, rfl⟩ := List.mem_map.mp held
    simpa using none earlier inside

theorem ownConfigIn?_eq_none
    : ownConfigIn? s directory = none ↔ NoOwnConfig s directory := by
  simp [ownConfigIn?, NoOwnConfig, List.find?_eq_none]

/-- A project whose document has a table of the program with something in it, and no other, gives that
table. -/
theorem projectTable_filled_iff (filled : table ≠ [])
    : projectTable shown document = .ok table
      ↔ ∃ tools,
          document.at? "tool" = some (.map tools)
          ∧ Mapping.at? tools "cjkfmt" = some (.map table) := by
  unfold projectTable
  constructor
  · intro given
    split at given
    · next tools present =>
        split at given
        · exact absurd (Except.ok.inj given).symm filled
        · next held =>
            obtain rfl := Except.ok.inj given
            have within : Mapping.at? tools "cjkfmt" = some (.map _) :=
              (Option.getD_eq_iff.mp held).resolve_right nofun
            -- Tools that are not written down are an empty table, which holds none of the program.
            rcases Option.getD_eq_iff.mp present with there | ⟨-, empty⟩
            · exact ⟨tools, there, within⟩
            · obtain rfl := Value.map.inj empty
              cases within
        · cases given
    · cases given
  · rintro ⟨tools, present, held⟩
    simp only [present, Option.getD_some, held]

theorem mapping_filled_iff (filled : table ≠ [])
    : ConfigFormat.project.mapping shown bs = .ok table ↔ ProgramTable bs table := by
  simp only [ConfigFormat.mapping, bind_eq_ok, projectTable_filled_iff filled]
  constructor
  · rintro ⟨document, read, tools, present, held⟩
    obtain ⟨cs, text, loaded⟩ := tomlDocument_ok read
    exact ⟨cs, document, tools, text, loaded, present, held⟩
  · rintro ⟨cs, document, tools, text, loaded, present, held⟩
    exact ⟨document, by simp only [tomlDocument, text, loaded], tools, present, held⟩

-----------------------------------------------------------------------------------------
-- One directory
-----------------------------------------------------------------------------------------

/-- What a search finds in the directory that it has come to. -/
def configIn (s : Surroundings) (directory : Path) : Work (Option Path) :=
  match ownConfigIn? s directory with
  | some place => return some place
  | none => projectConfigIn s directory

theorem projectMapping?_filled_iff (filled : table ≠ [])
    : projectMapping? s directory = some (.ok table)
      ↔ ∃ bs, s.files.read (projectPlace directory) = .ok bs ∧ ProgramTable bs table := by
  cases read : s.files.read (projectPlace directory) with
  | ok bs =>
      rw [projectMapping?_of_isFile (Files.isFile_of_read read), read, ConfigFormat.load,
        Option.some_inj, mapping_filled_iff filled]
      simp
  | error =>
      refine iff_of_false (fun given => ?_) (by simp)
      cases file : s.files.isFile (projectPlace directory) with
      | false => cases (projectMapping?_of_noFile file).symm.trans given
      | true =>
          rw [projectMapping?_of_isFile file, read] at given
          cases given

/-- Where looking at the project file of a directory ends well, it is found if its table of the program
is not empty. -/
theorem projectConfigIn_eq_some (proper : Path.Proper directory)
    (returned : (projectConfigIn s directory).result = .ok found)
    : found = some place
      ↔ place = projectPlace directory
        ∧ ∃ bs table,
          s.files.read (projectPlace directory) = .ok bs ∧ ProgramTable bs table ∧ table ≠ [] := by
  have filled
      : (∃ bs table, s.files.read (projectPlace directory) = .ok bs ∧ ProgramTable bs table ∧ table ≠ [])
        ↔ ∃ table, table ≠ [] ∧ projectMapping? s directory = some (.ok table) := by
    constructor
    · rintro ⟨bs, table, read, holds, filled⟩
      exact ⟨table, filled, (projectMapping?_filled_iff filled).mpr ⟨bs, read, holds⟩⟩
    · rintro ⟨table, filled, given⟩
      obtain ⟨bs, read, holds⟩ := (projectMapping?_filled_iff filled).mp given
      exact ⟨bs, table, read, holds, filled⟩
  rw [filled]
  rw [projectConfigIn_eq s proper] at returned
  rcases given : projectMapping? s directory with _ | (e | m) | _ | ⟨entry, table⟩ <;>
    rw [given] at returned
  · obtain rfl := Except.ok.inj returned
    simp
  · obtain rfl := Except.ok.inj returned
    simp
  · cases returned
  · obtain rfl := Except.ok.inj returned
    simp
  · obtain rfl := Except.ok.inj returned
    simp [eq_comm]

/-- Where looking into a directory ends well, it finds the file that configures it. -/
theorem configIn_eq_some (proper : Path.Proper directory)
    (returned : (configIn s directory).result = .ok found)
    : found = some place ↔ Configures s directory place := by
  unfold configIn at returned
  cases own : ownConfigIn? s directory with
  | some here =>
      rw [own] at returned
      obtain rfl := Except.ok.inj returned
      constructor
      · intro same
        obtain rfl := Option.some.inj same
        exact .own (ownConfigIn?_eq_some.mp own)
      · intro configures
        cases configures with
        | own other => exact own.symm.trans (ownConfigIn?_eq_some.mpr other)
        | project noOwn => cases own.symm.trans (ownConfigIn?_eq_none.mpr noOwn)
  | none =>
      rw [own] at returned
      rw [projectConfigIn_eq_some proper returned]
      constructor
      · rintro ⟨rfl, bs, table, read, holds, filled⟩
        exact .project (ownConfigIn?_eq_none.mp own) read holds filled
      · intro configures
        cases configures with
        | own other => cases own.symm.trans (ownConfigIn?_eq_some.mpr other)
        | project _ read holds filled => exact ⟨rfl, _, _, read, holds, filled⟩

/-- A search that ends well has found the file that configures the first directory, or there is none and
it has gone on. -/
theorem findConfigIn_step (proper : Path.Proper directory)
    (returned : (findConfigIn s (directory :: rest)).result = .ok found)
    : (∃ place, found = some place ∧ Configures s directory place)
      ∨ (∀ place, ¬ Configures s directory place) ∧ (findConfigIn s rest).result = .ok found := by
  have step : findConfigIn s (directory :: rest)
      = configIn s directory >>= fun here =>
          here.elim (findConfigIn s rest) (fun place => pure (some place)) := by
    rw [findConfigIn, configIn]
    cases ownConfigIn? s directory with
    | some place => rfl
    | none =>
        refine congrArg (projectConfigIn s directory >>= ·) (funext fun here => ?_)
        cases here <;> rfl
  rw [step] at returned
  obtain ⟨here, looked, returned⟩ := Work.bind_eq_ok.mp returned
  cases here with
  | some place =>
      obtain rfl := Except.ok.inj returned
      exact .inl ⟨place, rfl, (configIn_eq_some proper looked).mp rfl⟩
  | none => exact .inr ⟨fun place => (configIn_eq_some proper looked).not.mp (by simp), returned⟩

theorem Configures.unique {other : Path} (h : Configures s directory place)
    (h' : Configures s directory other)
    : place = other := by
  cases h with
  | own own =>
      cases h' with
      | own own' =>
          have found := ownConfigIn?_eq_some.mpr own
          exact Option.some.inj (found.symm.trans (ownConfigIn?_eq_some.mpr own'))
      | project noOwn =>
          cases (ownConfigIn?_eq_none.mpr noOwn).symm.trans (ownConfigIn?_eq_some.mpr own)
  | project noOwn =>
      cases h' with
      | own own' =>
          cases (ownConfigIn?_eq_none.mpr noOwn).symm.trans (ownConfigIn?_eq_some.mpr own')
      | project => rfl

-----------------------------------------------------------------------------------------
-- The way up
-----------------------------------------------------------------------------------------

/-- A way up from a directory, with the directories that are looked at and what is found in the end: the
first one with a configuration ends it, and so does the root. -/
inductive Climbs (s : Surroundings) : Path → List Path → Option Path → Prop
  | found {directory place : Path} (configures : Configures s directory place)
    : Climbs s directory [directory] (some place)
  | root (bare : ∀ place, ¬ Configures s [] place)
    : Climbs s [] [[]] none
  | up {directory : Path} {name : String} {visited : List Path} {found : Option Path}
    (bare : ∀ place, ¬ Configures s (directory ++ [name]) place)
    (onward : Climbs s directory visited found)
    : Climbs s (directory ++ [name]) ((directory ++ [name]) :: visited) found

theorem directoriesFrom_concat (directory : Path) (name : String)
    : directoriesFrom (directory ++ [name]) = (directory ++ [name]) :: directoriesFrom directory := by
  have shorter : (List.range (directory.length + 1)).map (fun n => (directory ++ [name]).take n)
      = (List.range (directory.length + 1)).map directory.take := by
    refine List.map_congr_left fun n held => ?_
    exact List.take_append_of_le_length (by have := List.mem_range.mp held; omega)
  rw [directoriesFrom, List.length_append, List.length_singleton, List.range_succ, List.reverse_concat,
    List.map_cons, List.map_reverse, shorter, ← List.map_reverse, directoriesFrom,
    List.take_of_length_le (by simp)]

/-- A search that ends well goes up from its start. -/
theorem climbs_of_findConfigIn (proper : Path.Proper start)
    (returned : (findConfigIn s (directoriesFrom start)).result = .ok found)
    : ∃ visited, Climbs s start visited found := by
  induction start using List.reverseRecOn with
  | nil =>
      rcases findConfigIn_step proper returned with ⟨place, rfl, here⟩ | ⟨bare, ended⟩
      · exact ⟨_, .found here⟩
      · obtain rfl := Except.ok.inj ended
        exact ⟨_, .root bare⟩
  | append_singleton directory name ih =>
      rw [directoriesFrom_concat] at returned
      rcases findConfigIn_step proper returned with ⟨place, rfl, here⟩ | ⟨bare, onward⟩
      · exact ⟨_, .found here⟩
      · have above : Path.Proper directory := fun other held => proper other (List.mem_append_left _ held)
        obtain ⟨visited, climbs⟩ := ih above onward
        exact ⟨_, .up bare climbs⟩

theorem Climbs.above (climbs : Climbs s start visited found)
    : ∀ directory ∈ visited, directory <+: start := by
  induction climbs with
  | found | root => simp
  | @up directory name visited found bare onward ih =>
      intro other held
      rcases List.mem_cons.mp held with rfl | held
      · exact List.prefix_rfl
      · exact (ih other held).trans (List.prefix_append directory [name])

/-- A way up that finds nothing has visited every directory up to the root. -/
theorem Climbs.complete (climbs : Climbs s start visited none)
    : ∀ directory, directory <+: start → directory ∈ visited := by
  generalize outcome : none = found at climbs
  induction climbs with
  | found => cases outcome
  | root =>
      intro directory above
      exact List.mem_singleton.mpr (List.prefix_nil.mp above)
  | up bare onward ih =>
      intro directory above
      rcases List.prefix_concat_iff.mp above with rfl | above
      · exact List.mem_cons_self
      · exact List.mem_cons_of_mem _ (ih outcome directory above)

/-- No directory is visited twice. -/
theorem Climbs.nodup (climbs : Climbs s start visited found)
    : visited.Nodup := by
  induction climbs with
  | found | root => exact List.pairwise_singleton _ _
  | up bare onward ih =>
      refine List.nodup_cons.mpr ⟨fun held => ?_, ih⟩
      have longer := (onward.above _ held).length_le
      rw [List.length_append, List.length_singleton] at longer
      omega

/-- The file that configures the nearest directory, upwards from the start, that has such a file. -/
def Nearest (s : Surroundings) (start place : Path) : Prop :=
  ∃ directory, directory <+: start
    ∧ Configures s directory place
    ∧ ∀ nearer, nearer <+: start → directory.length < nearer.length →
        ∀ other, ¬ Configures s nearer other

/-- No directory on the way up has a file that configures it. -/
def Unconfigured (s : Surroundings) (start : Path) : Prop :=
  ∀ directory, directory <+: start → ∀ place, ¬ Configures s directory place

theorem Climbs.nearest (climbs : Climbs s start visited (some place))
    : Nearest s start place := by
  generalize outcome : some place = found at climbs
  induction climbs with
  | found configures =>
      obtain rfl := Option.some.inj outcome
      refine ⟨_, List.prefix_rfl, configures, fun nearer above longer => ?_⟩
      exact absurd above.length_le (by omega)
  | root => cases outcome
  | @up directory name visited found bare onward ih =>
      obtain ⟨nearest, above, configures, first⟩ := ih outcome
      refine ⟨nearest, above.trans (List.prefix_append _ _), configures, fun nearer inside longer => ?_⟩
      rcases List.prefix_concat_iff.mp inside with rfl | inside
      · exact bare
      · exact first nearer inside longer

theorem Climbs.unconfigured (climbs : Climbs s start visited none)
    : Unconfigured s start := by
  generalize outcome : none = found at climbs
  induction climbs with
  | found => cases outcome
  | root bare =>
      intro directory above
      obtain rfl := List.prefix_nil.mp above
      exact bare
  | up bare onward ih =>
      intro directory above
      rcases List.prefix_concat_iff.mp above with rfl | above
      · exact bare
      · exact ih outcome directory above

theorem Nearest.unique {other : Path} (h : Nearest s start place) (h' : Nearest s start other)
    : place = other := by
  obtain ⟨directory, above, configures, first⟩ := h
  obtain ⟨directory', above', configures', first'⟩ := h'
  have same : directory.length = directory'.length := by
    refine Nat.le_antisymm (Nat.le_of_not_lt fun longer => ?_) (Nat.le_of_not_lt fun longer => ?_)
    · exact first' directory above longer place configures
    · exact first directory' above' longer other configures'
  obtain rfl : directory = directory' := by
    rw [List.prefix_iff_eq_take.mp above, List.prefix_iff_eq_take.mp above', same]
  exact configures.unique configures'

-----------------------------------------------------------------------------------------
-- The configuration of a run
-----------------------------------------------------------------------------------------

/-- Where a search for the configuration of a run ends well, it has found the file of the nearest
directory with one, or, if no directory on the way up has any, the first file of its own in the home
directory; it comes back with nothing exactly if there is neither. On its way it goes from each
directory to its parent, visits none twice and gets no farther than the root, which it comes to unless
it finds something before. -/
theorem discoverConfig_finds (proper : Path.Proper start)
    (returned : (discoverConfig s start).result = .ok found)
    : (∀ place,
          found = some place
            ↔ Nearest s start place ∨ Unconfigured s start ∧ OwnConfig s s.home place)
      ∧ (found = none ↔ Unconfigured s start ∧ NoOwnConfig s s.home)
      ∧ ∃ visited searched,
          Climbs s start visited searched
          ∧ found = searched.or (ownConfigIn? s s.home)
          ∧ visited.Nodup
          ∧ (∀ directory ∈ visited, directory <+: start)
          ∧ (searched = none → ∀ directory, directory <+: start → directory ∈ visited) := by
  obtain ⟨searched, climbed, returned⟩ := Work.bind_eq_ok.mp returned
  obtain ⟨visited, climbs⟩ := climbs_of_findConfigIn proper climbed
  cases searched with
  | some place =>
      obtain rfl := Except.ok.inj returned
      have nearest := climbs.nearest
      obtain ⟨directory, above, configures, -⟩ := nearest
      have configured : ¬ Unconfigured s start := fun none => none directory above place configures
      refine ⟨fun other => ?_, ?_, visited, _, climbs, rfl, climbs.nodup, climbs.above, nofun⟩
      · constructor
        · intro same
          exact .inl (Option.some.inj same ▸ climbs.nearest)
        · rintro (other | ⟨none, -⟩)
          · exact congrArg some (climbs.nearest.unique other)
          · exact absurd none configured
      · exact iff_of_false nofun fun none => configured none.1
  | none =>
      obtain rfl := Except.ok.inj returned
      have unconfigured := climbs.unconfigured
      refine ⟨fun place => ?_, ?_, visited, none, climbs, rfl, climbs.nodup, climbs.above,
        fun _ => climbs.complete⟩
      · rw [ownConfigIn?_eq_some]
        constructor
        · intro own
          exact .inr ⟨unconfigured, own⟩
        · rintro (⟨directory, above, configures, -⟩ | ⟨-, own⟩)
          · exact absurd configures (unconfigured directory above place)
          · exact own
      · rw [ownConfigIn?_eq_none]
        exact (and_iff_right unconfigured).symm

/-- A project without a table of the program inside a project that has one, and a file of its own
beside it. -/
def enclosedProject : Surroundings where
  files := {
    entries := [
      (["a", "b", projectFileName], some "[tool.other]\nx = 1\n".toUTF8.toList),
      (["a", projectFileName], some "[tool.cjkfmt]\nnormalize_text = false\n".toUTF8.toList),
      (["a", ".cjkfmt.json"], some "{}".toUTF8.toList),
      (["a", ".cjkfmt.yml"], some []),
      (["h", ".cjkfmt.toml"], some [])] }
  current := ["a", "b"]
  home := ["h"]
  detector _ := none
  codecs _ := none

/-- The search passes over the inner project, and of the files of the outer one it takes the first of
its own. -/
theorem enclosedProject_nearest
    : Path.Proper ["a", "b"]
      ∧ (discoverConfig enclosedProject ["a", "b"]).result = .ok (some ["a", ".cjkfmt.yml"])
      ∧ Nearest enclosedProject ["a", "b"] ["a", ".cjkfmt.yml"] := by
  have proper : Path.Proper ["a", "b"] := by decide
  have returned : (discoverConfig enclosedProject ["a", "b"]).result
      = .ok (some ["a", ".cjkfmt.yml"]) :=
    ok_of_toOption (by decide +kernel)
  refine ⟨proper, returned, ?_⟩
  rcases ((discoverConfig_finds proper returned).1 _).mp rfl with nearest | ⟨-, own⟩
  · exact nearest
  · obtain ⟨_, _, _, -, other, -⟩ := own
    exact absurd (List.cons.inj other).1 (by decide)

end MixedScript.Settings
