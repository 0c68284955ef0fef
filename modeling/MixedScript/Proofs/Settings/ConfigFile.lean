import MixedScript.Proofs.Files
import MixedScript.Proofs.Result
import MixedScript.Settings.ConfigFile

/-! What can come of reading a configuration file: a mapping, or an error of validation, unless a
mishap of a reader gets past the checks. Bytes that are no text get past those of TOML, though not past
those of the other formats; values that a reader cannot hold get past all of them; and so do the tools
of a project where they are no table. -/

namespace MixedScript.Settings

variable {s : Surroundings} {path shown complaint : String} {bs : Encoding.Bytes} {cs : Chars}
  {format : ConfigFormat} {document : Mapping} {e : Error} {m : Mishap}

-----------------------------------------------------------------------------------------
-- What the checks of a format do not foresee
-----------------------------------------------------------------------------------------

/-- Why the reader of a format refuses a text. -/
def ConfigFormat.refusal? (format : ConfigFormat) (cs : Chars) : Option Refusal :=
  match format with
  | project | toml => failure? (Toml.load cs)
  | yaml => failure? (Yaml.load (Chars.unifyLineEnds cs))
  | json => failure? (Json.load cs)

/-- The mishaps in the bytes of a file that the checks of its format do not foresee. -/
inductive ConfigFormat.Escape (bs : Encoding.Bytes) : ConfigFormat → Mishap → Prop
  /-- The reader of TOML decodes the bytes itself, and what it says of others is not expected. -/
  | noText {format : ConfigFormat} (toml : format = .project ∨ format = .toml)
    (undecodable : textOf bs = none)
    : Escape bs format .undecodable
  /-- Something has the form of a value, and the reader cannot hold it. -/
  | value {format : ConfigFormat} {cs : Chars} {m : Mishap} (text : textOf bs = some cs)
    (refused : format.refusal? cs = some (.value m))
    : Escape bs format m
  /-- The table of the program is looked up in something that is no table. -/
  | tools {cs : Chars} {document : Mapping} {found : Value} (text : textOf bs = some cs)
    (loaded : Toml.load cs = .ok document) (present : document.at? "tool" = some found)
    (noTable : ∀ tools, found ≠ .map tools)
    : Escape bs .project .missingMember

-----------------------------------------------------------------------------------------
-- TOML
-----------------------------------------------------------------------------------------

theorem tomlDocument_outside (toml : format = .project ∨ format = .toml)
    (h : tomlDocument complaint bs = .error (.outside m))
    : format.Escape bs m := by
  unfold tomlDocument at h
  split at h
  · next undecodable =>
      cases h
      exact .noText toml undecodable
  · next text =>
      split at h
      · cases h
      · cases h
      · next refused =>
          cases h
          refine .value text ?_
          rcases toml with rfl | rfl <;> simp only [ConfigFormat.refusal?, refused, failure?]

theorem tomlDocument_own (h : tomlDocument complaint bs = .error (.own e))
    : e.category = .validation := by
  unfold tomlDocument at h
  split at h
  · cases h
  · split at h <;> cases h
    rfl

theorem tomlDocument_ok (h : tomlDocument complaint bs = .ok document)
    : ∃ cs, textOf bs = some cs ∧ Toml.load cs = .ok document := by
  unfold tomlDocument at h
  split at h
  · cases h
  · next cs text =>
      split at h
      · next loaded =>
          cases h
          exact ⟨cs, text, loaded⟩
      · cases h
      · cases h

theorem tomlDocument_of_refused (text : textOf bs = some cs)
    (refused : failure? (Toml.load cs) = some (.value m))
    : tomlDocument complaint bs = .error (.outside m) := by
  simp only [tomlDocument, text, error_of_failure? refused]

-----------------------------------------------------------------------------------------
-- The file of a project
-----------------------------------------------------------------------------------------

/-- The table of the program is looked up in vain only where the tools are no table. -/
theorem projectTable_outside (h : projectTable shown document = .error (.outside m))
    : m = .missingMember
      ∧ ∃ found, document.at? "tool" = some found ∧ ∀ tools, found ≠ .map tools := by
  unfold projectTable at h
  split at h
  · split at h <;> cases h
  · next noTable =>
      cases h
      refine ⟨rfl, ?_⟩
      cases present : document.at? "tool" with
      | none => exact absurd (congrArg (Option.getD · (.map [])) present) (noTable [])
      | some found =>
          refine ⟨found, rfl, ?_⟩
          rintro tools rfl
          exact noTable tools (congrArg (Option.getD · (.map [])) present)

theorem projectTable_own (h : projectTable shown document = .error (.own e))
    : e.category = .validation := by
  unfold projectTable at h
  split at h
  · split at h <;> cases h
    rfl
  · cases h

theorem projectTable_of_noTable {found : Value} (present : document.at? "tool" = some found)
    (noTable : ∀ tools, found ≠ .map tools)
    : projectTable shown document = .error (.outside .missingMember) := by
  unfold projectTable
  rw [present]
  cases found with
  | map tools => exact absurd rfl (noTable tools)
  | scalar | list | set => rfl

-----------------------------------------------------------------------------------------
-- JSON and YAML
-----------------------------------------------------------------------------------------

theorem jsonMapping_outside (h : jsonMapping shown bs = .error (.outside m))
    : ConfigFormat.json.Escape bs m := by
  unfold jsonMapping at h
  split at h
  · cases h
  · next text =>
      split at h
      · cases h
      · cases h
      · cases h
      · next refused =>
          cases h
          exact .value text (by simp only [ConfigFormat.refusal?, refused, failure?])

theorem yamlMapping_outside (h : yamlMapping shown bs = .error (.outside m))
    : ConfigFormat.yaml.Escape bs m := by
  unfold yamlMapping at h
  split at h
  · cases h
  · next text =>
      split at h
      · cases h
      · cases h
      · cases h
      · cases h
      · next refused =>
          cases h
          exact .value text (by simp only [ConfigFormat.refusal?, refused, failure?])

theorem jsonMapping_own (h : jsonMapping shown bs = .error (.own e))
    : e.category = .validation := by
  unfold jsonMapping at h
  split at h
  · cases h
    rfl
  · split at h <;> cases h <;> rfl

theorem yamlMapping_own (h : yamlMapping shown bs = .error (.own e))
    : e.category = .validation := by
  unfold yamlMapping at h
  split at h
  · cases h
    rfl
  · split at h <;> cases h <;> rfl

-----------------------------------------------------------------------------------------
-- Any format
-----------------------------------------------------------------------------------------

/-- The error of a format that is the library's own is one of validation. -/
theorem mapping_own (h : format.mapping shown bs = .error (.own e))
    : e.category = .validation := by
  cases format with
  | project =>
      rcases bind_eq_error.mp h with unread | ⟨document, -, failed⟩
      · exact tomlDocument_own unread
      · exact projectTable_own failed
  | toml => exact tomlDocument_own h
  | yaml => exact yamlMapping_own h
  | json => exact jsonMapping_own h

/-- Reading the bytes of a file fails outside the checks exactly with the mishaps that these do not
foresee. -/
theorem mapping_outside_iff
    : format.mapping shown bs = .error (.outside m) ↔ format.Escape bs m := by
  constructor
  · intro h
    cases format with
    | project =>
        rcases bind_eq_error.mp h with unread | ⟨document, read, failed⟩
        · exact tomlDocument_outside (.inl rfl) unread
        · obtain ⟨cs, text, loaded⟩ := tomlDocument_ok read
          obtain ⟨rfl, found, present, noTable⟩ := projectTable_outside failed
          exact .tools text loaded present noTable
    | toml => exact tomlDocument_outside (.inr rfl) h
    | yaml => exact yamlMapping_outside h
    | json => exact jsonMapping_outside h
  · intro escape
    cases escape with
    | noText toml undecodable =>
        rcases toml with rfl | rfl
        · simp only [ConfigFormat.mapping, tomlDocument, undecodable]
          rfl
        · simp only [ConfigFormat.mapping, tomlDocument, undecodable]
    | value text refused =>
        cases format with
        | project =>
            simp only [ConfigFormat.mapping, tomlDocument_of_refused text refused]
            rfl
        | toml => exact tomlDocument_of_refused text refused
        | yaml => simp only [ConfigFormat.mapping, yamlMapping, text, error_of_failure? refused]
        | json => simp only [ConfigFormat.mapping, jsonMapping, text, error_of_failure? refused]
    | tools text loaded present noTable =>
        simp only [ConfigFormat.mapping, tomlDocument, text, loaded]
        exact projectTable_of_noTable present noTable

-----------------------------------------------------------------------------------------
-- Reading a file by its path
-----------------------------------------------------------------------------------------

/-- A result that is a value or an error of validation. -/
def Foreseen {α : Type} (x : Except Problem α) : Prop :=
  ∀ p, x = .error p → ∃ e, p = .own e ∧ e.category = .validation

/-- The mishaps that reading a file by its path does not foresee: there is such a file, its name tells
of a format, and its bytes let them through. -/
def FileEscape (s : Surroundings) (path : String) (m : Mishap) : Prop :=
  ∃ bs format,
    s.files.read (Path.resolve s.current path) = .ok bs
    ∧ ConfigFormat.ofName (Path.name path) = .ok format
    ∧ format.Escape bs m

theorem loadConfigFile_of_isFile (file : s.files.isFile (Path.resolve s.current path) = true)
    (named : ConfigFormat.ofName (Path.name path) = .ok format)
    : loadConfigFile s path
      = format.load (Path.plain path) (s.files.read (Path.resolve s.current path)) := by
  have held : s.files.holds (Path.resolve s.current path) = true := by
    simp only [Files.holds, file, Bool.true_or]
  simp only [loadConfigFile, held, file, named]
  rfl

theorem loadConfigFile_of_read (read : s.files.read (Path.resolve s.current path) = .ok bs)
    (named : ConfigFormat.ofName (Path.name path) = .ok format)
    : loadConfigFile s path = format.mapping (Path.plain path) bs := by
  rw [loadConfigFile_of_isFile (Files.isFile_of_read read) named, read, ConfigFormat.load]

/-- A configuration file is read by its format, or else it is said what is wrong with its path, or that it
cannot be read. -/
theorem loadConfigFile_cases (s : Surroundings) (path : String)
    : (∃ bs format,
        s.files.read (Path.resolve s.current path) = .ok bs
        ∧ ConfigFormat.ofName (Path.name path) = .ok format
        ∧ loadConfigFile s path = format.mapping (Path.plain path) bs)
      ∨ (∀ m, ¬ FileEscape s path m)
        ∧ ∃ message, loadConfigFile s path = .error (.own (.invalid message)) := by
  cases file : s.files.isFile (Path.resolve s.current path) with
  | false =>
      refine .inr ⟨?_, ?_⟩
      · rintro m ⟨bs, format, read, -⟩
        exact Bool.false_ne_true (file.symm.trans (Files.isFile_of_read read))
      · cases held : s.files.holds (Path.resolve s.current path) <;>
          simp only [loadConfigFile, held, file] <;> exact ⟨_, rfl⟩
  | true =>
      cases named : ConfigFormat.ofName (Path.name path) with
      | error ending =>
          refine .inr ⟨?_, ?_⟩
          · rintro m ⟨bs, format, -, other, -⟩
            cases named.symm.trans other
          · have held : s.files.holds (Path.resolve s.current path) = true := by
              simp only [Files.holds, file, Bool.true_or]
            simp only [loadConfigFile, held, file, named]
            exact ⟨_, rfl⟩
      | ok format =>
          cases read : s.files.read (Path.resolve s.current path) with
          | ok bs => exact .inl ⟨bs, format, rfl, rfl, loadConfigFile_of_read read named⟩
          | error m =>
              refine .inr ⟨?_, ?_⟩
              · rintro m' ⟨bs, -, read', -⟩
                cases read.symm.trans read'
              · rw [loadConfigFile_of_isFile file named, read]
                exact ⟨_, rfl⟩

/-- Reading a file by its path fails outside the checks exactly with the mishaps that these do not
foresee. -/
theorem loadConfigFile_outside_iff
    : loadConfigFile s path = .error (.outside m) ↔ FileEscape s path m := by
  rcases loadConfigFile_cases s path with
    ⟨bs, format, read, named, result⟩ | ⟨calm, message, result⟩
  · rw [result, mapping_outside_iff]
    constructor
    · intro escape
      exact ⟨bs, format, read, named, escape⟩
    · rintro ⟨bs', format', read', named', escape⟩
      obtain rfl : bs = bs' := Except.ok.inj (read.symm.trans read')
      obtain rfl : format = format' := Except.ok.inj (named.symm.trans named')
      exact escape
  · rw [result]
    exact iff_of_false nofun (calm m)

theorem loadConfigFile_own (h : loadConfigFile s path = .error (.own e))
    : e.category = .validation := by
  rcases loadConfigFile_cases s path with ⟨bs, format, -, -, result⟩ | ⟨-, message, result⟩
  · exact mapping_own (result.symm.trans h)
  · cases result.symm.trans h
    rfl

/-- Reading a file by its path gives a mapping or an error of validation exactly if no mishap
escapes. -/
theorem loadConfigFile_foreseen_iff
    : Foreseen (loadConfigFile s path) ↔ ∀ m, ¬ FileEscape s path m := by
  constructor
  · intro foreseen m escape
    obtain ⟨e, other, -⟩ := foreseen _ (loadConfigFile_outside_iff.mpr escape)
    cases other
  · intro calm p failed
    cases p with
    | own e => exact ⟨e, rfl, loadConfigFile_own failed⟩
    | outside m => exact absurd (loadConfigFile_outside_iff.mp failed) (calm m)

end MixedScript.Settings
