import ClusterHealth.Proofs.Session.EnvFiles
import ClusterHealth.Proofs.Settings.Precedence

/-!
# Settings of an env file that is given

An env file takes the place of what the environment says under the same name. The search for
settings minds no case, so the file decides unless a variable of another spelling comes behind,
`Call.env_file_wins_iff`.
-/

namespace ClusterHealth

namespace Call

variable {s : Session} {l : Location} {bytes : Bytes} {values : Entries (Option Text)}

theorem environment_makeSettings (refuse : Rejection → Session.Fault) (given : List (Text × Json))
    (s : Session) : ((makeSettings refuse given).after s).environment = s.environment := by
  rw [makeSettings, after_bind, after_readEnvFiles]
  cases (readEnvFiles (Search.ofGiven given).files).outcome s with
  | error fault => rfl
  | ok file =>
    dsimp only
    rw [after_get]
    cases Settings.read given ⟨Search.ofGiven given, s.environment, file⟩ <;> rfl

theorem loaded_makeSettings {issued : IssuedSettings}
    (returned : (makeSettings .settings []).outcome s = .ok issued) :
    ∃ file, Settings.read [] ⟨.usual, s.environment, file⟩ = .ok issued.settings := by
  rw [outcome_makeSettings] at returned
  split at returned
  · cases returned
  · rename_i file _
    split at returned
    · rename_i settings read
      obtain rfl := Except.ok.inj returned
      exact ⟨file, read⟩
    · cases returned

theorem values_distinct (read : EnvFile.read s.environment bytes = .ok values) :
    Entries.Distinct values := by
  rw [EnvFile.read] at read
  split at read
  · obtain rfl := Except.ok.inj read
    exact Environment.resolve_distinct ..
  · cases read

/-- A variable to which an env file gives a value has it in the environment that the call leaves. -/
theorem get?_applyEnvFile {name v : Text} (found : s.files.find? l = .ok (some (.file bytes)))
    (read : EnvFile.read s.environment bytes = .ok values)
    (given : Entries.get? name values = some (some v))
    (enabled : EnvFile.disabled s.environment = false)
    (applied : (applyEnvFile l).outcome s = .ok ()) :
    Entries.get? name ((applyEnvFile l).after s).environment = some v := by
  have taken : (readEnvFile l).outcome s = .ok values := by
    rw [outcome_readEnvFile, found]
    exact mapError_eq_ok.mpr read
  have assigned := assignments_eq enabled taken
  have fit : ∀ v ∈ assignments l s, Environment.settable v = true := by
    have applies := applies_applyEnvFile l s
    rw [applied] at applies
    cases applies with
    | idle _ disabled => cases enabled.symm.trans disabled
    | applied _ _ _ fit => exact fit
  have distinct := Environment.assigned_distinct (values_distinct read)
  have member : (name, v) ∈ Environment.assigned values :=
    List.mem_filterMap.mpr ⟨_, Entries.mem_of_get? given, rfl⟩
  rw [after_applyEnvFile, changes, List.takeWhile_eq_self_iff.mpr fit, assigned]
  dsimp only
  rw [Environment.get?_putAll distinct, Entries.get?_of_mem distinct member]
  rfl

theorem after_disabled (disabled : EnvFile.disabled s.environment = true) :
    (applyEnvFile l).after s = s := by
  rw [after_applyEnvFile, changes, assignments, disabled]
  rfl

theorem environment_loadSettings (applied : (applyEnvFile l).outcome s = .ok ()) :
    ((loadSettings (some l)).after s).environment = ((applyEnvFile l).after s).environment := by
  rw [loadSettings, after_bind, applied]
  exact environment_makeSettings ..

/-- A call for settings with an env file passes it over if the environment turns env files off.
Otherwise a variable of the file stands in the environment that the call leaves, and the setting is
made of it, or of the last variable behind it that spells its name in letters of any case, if there
is one. So the file decides unless that one is read differently. -/
theorem env_file_wins_iff {setting : Setting} {v : Text} {issued : IssuedSettings}
    (found : s.files.find? l = .ok (some (.file bytes)))
    (read : EnvFile.read s.environment bytes = .ok values)
    (given : Entries.get? setting.key values = some (some v))
    (returned : (loadSettings (some l)).outcome s = .ok issued) :
    if EnvFile.disabled s.environment then (loadSettings none).outcome s = .ok issued
    else ∃ front back,
      ((loadSettings (some l)).after s).environment = front ++ (setting.key, v) :: back ∧
        let last := (Environment.spellings setting.key back).getLast?
        setting.MadeOf (last.getD (setting.key, v)).2 issued.settings ∧
          (setting.MadeOf v issued.settings ↔
            ∀ e, last = some e → setting.read (.text e.2) = setting.read (.text v)) := by
  rw [outcome_loadSettings_some] at returned
  cases applied : (applyEnvFile l).outcome s with
  | error fault =>
    rw [applied] at returned
    cases returned
  | ok =>
    rw [applied] at returned
    dsimp only at returned
    split
    · rename_i disabled
      rwa [after_disabled disabled] at returned
    · rename_i enabled
      have there := get?_applyEnvFile found read given (Bool.not_eq_true _ ▸ enabled) applied
      rw [environment_loadSettings applied]
      obtain ⟨front, back, whole⟩ := List.mem_iff_append.mp (Entries.mem_of_get? there)
      obtain ⟨file, loaded⟩ := loaded_makeSettings returned
      have made := setting.madeOf_last (whole ▸ Environment.last_spelling ..) loaded
      exact ⟨front, back, whole, made, setting.madeOf_iff made⟩

def indentFile : Bytes :=
  Utf8.encode "HEALTHINFO_JSON_INDENT=7\n"

def indentValues : Entries (Option Text) :=
  [("HEALTHINFO_JSON_INDENT", some "7")]

def withIndentFile (environment : Environment) : Session :=
  (writeFile ⟨[], ["h.env"]⟩ indentFile).after (.initial environment .zero)

/-- The file decides over two spellings in the environment, of which its own comes last. -/
theorem env_file_wins_spelled :
    let s := withIndentFile [("healthinfo_json_indent", "2"), ("HEALTHINFO_JSON_INDENT", "1")]
    ∃ issued, (loadSettings (some ⟨[], ["h.env"]⟩)).outcome s = .ok issued ∧
      Setting.jsonIndent.MadeOf "7" issued.settings := by
  intro s
  have found : s.files.find? ⟨[], ["h.env"]⟩ = .ok (some (.file indentFile)) := by decide +kernel
  have read : EnvFile.read s.environment indentFile = .ok indentValues := by decide +kernel
  have enabled : EnvFile.disabled s.environment = false := by decide +kernel
  have loads : ((loadSettings (some ⟨[], ["h.env"]⟩)).outcome s).mapError Session.Fault.message =
      .ok ⟨0, { Settings.default with jsonIndent := 7 }⟩ := by decide +kernel
  have given : Entries.get? Setting.jsonIndent.key indentValues = some (some ("7" : Text)) := rfl
  have returned := mapError_eq_ok.mp loads
  have outcome := env_file_wins_iff found read given returned
  rw [enabled, if_neg Bool.false_ne_true] at outcome
  obtain ⟨front, back, whole, -, decides⟩ := outcome
  refine ⟨_, returned, decides.mpr fun e last => ?_⟩
  let after : Environment := [("healthinfo_json_indent", "2"), ("HEALTHINFO_JSON_INDENT", "7")]
  have left : ((loadSettings (some ⟨[], ["h.env"]⟩)).after s).environment = after := by
    decide +kernel
  rw [left] at whole
  cases front with
  | nil => exact absurd (List.cons.inj whole).1 (by decide)
  | cons first front =>
    cases front with
    | nil =>
      obtain rfl : [] = back := (List.cons.inj (List.cons.inj whole).2).2
      cases last
    | cons second front => cases front <;> cases (List.cons.inj (List.cons.inj whole).2).2

/-- Behind it another spelling decides over the file. -/
theorem not_env_file_wins :
    let s := withIndentFile [("HEALTHINFO_JSON_INDENT", "1"), ("healthinfo_json_indent", "2")]
    let settings : Settings := { Settings.default with jsonIndent := 2 }
    s.files.find? ⟨[], ["h.env"]⟩ = .ok (some (.file indentFile)) ∧
      EnvFile.read s.environment indentFile = .ok indentValues ∧
      EnvFile.disabled s.environment = false ∧
      ((loadSettings (some ⟨[], ["h.env"]⟩)).outcome s).toOption = some ⟨0, settings⟩ ∧
      ¬ Setting.jsonIndent.MadeOf "7" settings := by
  refine ⟨?_, ?_, ?_, ?_, ?_⟩
  · decide +kernel
  · decide +kernel
  · decide +kernel
  · decide +kernel
  · have differs : (Scalar.count (.text "7") : Checked Int) ≠ .ok 2 := by decide +kernel
    exact differs

end Call

end ClusterHealth
