import ClusterHealth.Proofs.Session.EnvFiles
import ClusterHealth.Proofs.Session.Kept

/-!
# Traces of settings that do not load

An env file is put in the environment before the settings are read, and nothing takes it out again.
A call that fails leaves just these variables behind, `Call.after_failed_load`: the settings that
are kept go on to serve, and the session is as before if the variables had their values already.
-/

namespace ClusterHealth

namespace Call

variable {s : Session} {fault : Session.Fault}

theorem after_unmade {refuse : Rejection → Session.Fault} {given : List (Text × Json)}
    (failed : (makeSettings refuse given).outcome s = .error fault) :
    (makeSettings refuse given).after s = s := by
  rw [makeSettings, outcome_bind, after_readEnvFiles] at failed
  rw [makeSettings, after_bind, after_readEnvFiles]
  cases read : (readEnvFiles (Search.ofGiven given).files).outcome s with
  | error fault => rfl
  | ok file =>
    rw [read] at failed
    dsimp only at failed ⊢
    rw [outcome_get] at failed
    rw [after_get]
    cases made : Settings.read given ⟨Search.ofGiven given, s.environment, file⟩ with
    | error rejection => rfl
    | ok settings =>
      rw [made] at failed
      cases failed

/-- The variables that a call for settings sets before it makes them. -/
def traces (l : Option Location) (s : Session) : Entries Text :=
  match l with
  | some l => changes l s
  | none => []

theorem after_refused {l : Option Location} (failed : (loadSettings l).outcome s = .error fault) :
    (loadSettings l).after s =
      { s with environment := Environment.putAll (traces l s) s.environment } := by
  cases l with
  | none => exact after_unmade failed
  | some l =>
    rw [outcome_loadSettings_some] at failed
    rw [traces, ← after_applyEnvFile, loadSettings, after_bind]
    cases applied : (applyEnvFile l).outcome s with
    | error fault => rfl
    | ok =>
      rw [applied] at failed
      exact after_unmade failed

theorem traces_distinct (l : Option Location) (s : Session) : Entries.Distinct (traces l s) := by
  have assigned (l : Location) : Entries.Distinct (assignments l s) := by
    rw [assignments]
    split
    · split
      · rename_i read
        rw [EnvFile.read] at read
        split at read
        · obtain rfl := Except.ok.inj read
          exact Environment.assigned_distinct (Environment.resolve_distinct ..)
        · cases read
      · exact List.nodup_nil
    · exact List.nodup_nil
  cases l with
  | none => exact List.nodup_nil
  | some l => exact (assigned l).sublist ((List.takeWhile_sublist _).map Prod.fst)

/-- A call for settings that fails leaves behind the variables that it has set, and nothing else.
They leave the session as it was exactly if they had their values before. Settings that are kept
serve in both sessions alike up to a reset. -/
theorem after_failed_load {l : Option Location}
    (failed : (loadSettings l).outcome s = .error fault) :
    let t := (loadSettings l).after s
    t = { s with environment := Environment.putAll (traces l s) s.environment } ∧
      (∀ name, Entries.get? name t.environment =
        (Entries.get? name (traces l s)).or (Entries.get? name s.environment)) ∧
      (t = s ↔ ∀ v ∈ traces l s, Entries.get? v.1 s.environment = some v.2) ∧
      ∀ issued, s.kept = some issued → ∀ later : List Operation,
        (∀ op ∈ later, op.resets = false) →
          (s.run later).Serves issued ∧ (t.run later).Serves issued := by
  intro t
  have left : t = { s with environment := Environment.putAll (traces l s) s.environment } :=
    after_refused failed
  have distinct := traces_distinct l s
  refine ⟨left, fun name => ?_, ?_, fun issued kept later lasting => ⟨?_, ?_⟩⟩
  · rw [left, Environment.get?_putAll distinct]
  · rw [← Environment.putAll_eq_self distinct]
    constructor
    · intro same
      exact (congrArg Session.environment left).symm.trans (congrArg Session.environment same)
    · intro same
      rw [left, same]
  · exact Session.serves_of_kept (Session.run_kept later lasting kept)
  · have still : t.kept = some issued := by rw [left, kept]
    exact Session.serves_of_kept (Session.run_kept later lasting still)

/-- The settings that are kept outlast an env file with an indent below zero, which stays set. -/
theorem after_failed_load_kept :
    let l : Location := ⟨[], ["h.env"]⟩
    let written := writeFile l (Utf8.encode "A=1\nHEALTHINFO_JSON_INDENT=-1\n")
    let s := getSettings.after (written.after (.initial [] .zero))
    let t := (loadSettings (some l)).after s
    let changed : Entries Text := [("A", "1"), ("HEALTHINFO_JSON_INDENT", "-1")]
    ((loadSettings (some l)).outcome s).mapError Session.Fault.message =
        .error "Settings validation failed: 1 validation error for Settings" ∧
      traces (some l) s = changed ∧
      t = { s with environment := Environment.putAll changed s.environment } ∧
      (t.run [.loadSettings none]).Serves ⟨0, .default⟩ := by
  intro l written s t changed
  have refused : ((loadSettings (some l)).outcome s).mapError Session.Fault.message =
      .error "Settings validation failed: 1 validation error for Settings" := by decide +kernel
  have set : traces (some l) s = changed := by decide +kernel
  have kept : s.kept = some ⟨0, .default⟩ := by decide +kernel
  obtain ⟨fault, failed, -⟩ := mapError_eq_error.mp refused
  obtain ⟨left, -, -, serves⟩ := after_failed_load failed
  rw [set] at left
  exact ⟨refused, set, left, (serves _ kept [.loadSettings none] (by decide)).2⟩

/-- An env file with an indent below zero leaves it in the environment, where settings that loaded
before load no more. -/
theorem not_traceless :
    let l : Location := ⟨[], ["h.env"]⟩
    let written := writeFile l (Utf8.encode "HEALTHINFO_JSON_INDENT=-1\n")
    let s := written.after (.initial [] .zero)
    let t := (loadSettings (some l)).after s
    let changed : Environment := [("HEALTHINFO_JSON_INDENT", "-1")]
    let message : Text := "Settings validation failed: 1 validation error for Settings"
    ((loadSettings (some l)).outcome s).mapError Session.Fault.message = .error message ∧
      s.environment = [] ∧ t.environment = changed ∧
      (getSettings.outcome s).toOption = some ⟨0, .default⟩ ∧
      (getSettings.outcome t).mapError Session.Fault.message = .error message := by
  refine ⟨?_, ?_, ?_, ?_, ?_⟩
  all_goals decide +kernel

end Call

end ClusterHealth
