import ClusterHealth.Proofs.Session.Loading
import ClusterHealth.Proofs.Settings.Variables

/-!
# Env files of calls

What a call makes of the env file that it is given: how it fails, `Call.applies_applyEnvFile`, and
which variables it sets, `Call.after_applyEnvFile`. Settings that do not load are told of as a
matter of the configuration exactly if the files can be read and their variables can be set,
`Call.configures_iff`.
-/

namespace ClusterHealth

/-- Whether the fault tells of the configuration: the settings are refused, or there is no env file.
-/
def Session.Fault.isConfig : Session.Fault → Bool
  | settings _ | noEnvFile _ => true
  | _ => false

/-- Only a name that is too long keeps a file from being looked for. -/
theorem FileTree.find?_fault {l : Location} {tree : FileTree} {cause : FileFault}
    (failed : tree.find? l = .error cause) : ∃ spelling, cause = .nameTooLong spelling := by
  rw [find?] at failed
  split at failed
  · cases failed
  · exact ⟨_, (Except.error.inj failed).symm⟩
  · cases failed

namespace Call

variable {s : Session} {l : Location}

theorem outcome_findFile (l : Location) (s : Session) :
    (findFile l).outcome s = (s.files.find? l).mapError .files := by
  rw [findFile, outcome_get]
  cases s.files.find? l <;> rfl

theorem outcome_readEnvFile (l : Location) (s : Session) : (readEnvFile l).outcome s =
    match s.files.find? l with
    | .error cause => .error (.files cause)
    | .ok (some (.file bytes)) => (EnvFile.read s.environment bytes).mapError .unreadableFile
    | .ok _ => .ok [] := by
  rw [readEnvFile, outcome_bind, outcome_findFile, after_findFile]
  cases s.files.find? l with
  | error cause => rfl
  | ok node =>
    cases node with
    | none => rfl
    | some node =>
      cases node with
      | file bytes =>
        dsimp only [Except.mapError]
        rw [outcome_get]
        cases EnvFile.read s.environment bytes <;> rfl
      | directory | device => rfl

theorem outcome_applyEnvFile (l : Location) (s : Session) : (applyEnvFile l).outcome s =
    match s.files.find? l with
    | .error cause => .error (.files cause)
    | .ok none => .error (.noEnvFile l)
    | .ok (some _) =>
      if EnvFile.disabled s.environment then .ok ()
      else
        match (readEnvFile l).outcome s with
        | .error fault => .error fault
        | .ok values => (Environment.setAll values s.environment).2.mapError .environment := by
  rw [applyEnvFile, outcome_bind, outcome_findFile, after_findFile]
  cases s.files.find? l with
  | error cause => rfl
  | ok node =>
    cases node with
    | none => rfl
    | some node =>
      dsimp only [Except.mapError]
      rw [outcome_get]
      cases EnvFile.disabled s.environment with
      | true => rfl
      | false =>
        rw [if_neg (by simp), if_neg (by simp), if_neg (by simp), outcome_bind, after_readEnvFile]
        cases (readEnvFile l).outcome s with
        | error fault => rfl
        | ok values =>
          dsimp only
          obtain ⟨environment, fault | _⟩ := Environment.setAll values s.environment <;> rfl

theorem outcome_makeSettings (s : Session) : (makeSettings .settings []).outcome s =
    match (readEnvFile Search.usualFile).outcome s with
    | .error fault => .error fault
    | .ok file =>
      match Settings.read [] ⟨.usual, s.environment, file⟩ with
      | .ok settings => .ok ⟨s.issued, settings⟩
      | .error rejection => .error (.settings rejection) := by
  have search : Search.ofGiven [] = .usual := rfl
  have files : (readEnvFiles Search.usual.files).outcome s =
      (readEnvFile Search.usualFile).outcome s := by
    rw [Search.usual, readEnvFiles, outcome_bind]
    cases (readEnvFile Search.usualFile).outcome s with
    | error fault => rfl
    | ok values =>
      dsimp only
      rw [after_readEnvFile]
      exact congrArg Except.ok (List.append_nil values)
  rw [makeSettings, search, outcome_bind, files, after_readEnvFiles]
  cases (readEnvFile Search.usualFile).outcome s with
  | error fault => rfl
  | ok file =>
    dsimp only
    rw [outcome_get]
    cases Settings.read [] ⟨.usual, s.environment, file⟩ <;> rfl

/-! ### Faults of the configuration -/

/-- The call gives settings or tells of the configuration, and fails in no other way. -/
def Configures (call : Call IssuedSettings) (s : Session) : Prop :=
  (∃ issued, call.outcome s = .ok issued) ∨
    ∃ fault, call.outcome s = .error fault ∧ fault.isConfig = true

/-- The file at a location, if there is one, is a text in UTF-8. -/
def Legible (l : Location) (s : Session) : Prop :=
  ∀ bytes, s.files.find? l = .ok (some (.file bytes)) → ∃ t, Utf8.decode false 0 bytes = .ok t

/-- The variables to which an env file gives values, unless the environment turns env files off. -/
def assignments (l : Location) (s : Session) : Entries Text :=
  match EnvFile.disabled s.environment, s.files.find? l with
  | false, .ok (some (.file bytes)) =>
    match EnvFile.read s.environment bytes with
    | .ok values => Environment.assigned values
    | .error _ => []
  | _, _ => []

/-- The env file that is given can be looked for. If it is there, it can be read and all of its
variables can be set, unless the environment turns env files off. -/
def Applicable (l : Location) (s : Session) : Prop :=
  (∃ node, s.files.find? l = .ok node) ∧ (EnvFile.disabled s.environment = false →
    Legible l s ∧ ∀ v ∈ assignments l s, Environment.settable v = true)

/-- The files that a call for settings reads can be read, and what it sets can be set. -/
def Loadable (l : Option Location) (s : Session) : Prop :=
  match l with
  | none => Legible Search.usualFile s
  | some l => Applicable l s ∧ (s.files.find? l = .ok none ∨ Legible Search.usualFile s)

theorem read_ok_iff {environment : Environment} {bytes : Bytes} :
    (∃ values, EnvFile.read environment bytes = .ok values) ↔
      ∃ t, Utf8.decode false 0 bytes = .ok t := by
  rw [EnvFile.read]
  cases Utf8.decode false 0 bytes <;> simp

theorem readEnvFile_ok_iff {node : Option FileNode} (found : s.files.find? l = .ok node) :
    (∃ values, (readEnvFile l).outcome s = .ok values) ↔ Legible l s := by
  rw [outcome_readEnvFile, Legible, found]
  split
  · rename_i failed
    cases failed
  · rename_i bytes there
    cases there
    simp [mapError_eq_ok, read_ok_iff]
  · rename_i other there
    cases there
    exact iff_of_true ⟨_, rfl⟩ fun bytes file => absurd (Except.ok.inj file) (other bytes)

theorem readEnvFile_fault {fault : Session.Fault}
    (failed : (readEnvFile l).outcome s = .error fault) : fault.isConfig = false := by
  rw [outcome_readEnvFile] at failed
  split at failed
  · cases failed
    rfl
  · obtain ⟨cause, -, rfl⟩ := mapError_eq_error.mp failed
    rfl
  · cases failed

theorem configures_makeSettings (s : Session) :
    Configures (makeSettings .settings []) s ↔ Legible Search.usualFile s := by
  obtain ⟨node, found⟩ := s.files.find?_usualFile
  rw [← readEnvFile_ok_iff found, Configures, outcome_makeSettings]
  cases read : (readEnvFile Search.usualFile).outcome s with
  | error fault =>
    have other := readEnvFile_fault read
    simp [other]
  | ok file =>
    refine iff_of_true ?_ ⟨file, rfl⟩
    dsimp only
    cases Settings.read [] ⟨.usual, s.environment, file⟩ with
    | ok settings => exact .inl ⟨_, rfl⟩
    | error rejection => exact .inr ⟨_, rfl, rfl⟩

theorem assignments_eq {values : Entries (Option Text)}
    (enabled : EnvFile.disabled s.environment = false)
    (read : (readEnvFile l).outcome s = .ok values) :
    assignments l s = Environment.assigned values := by
  rw [outcome_readEnvFile] at read
  rw [assignments, enabled]
  split at read
  · cases read
  · rename_i bytes found
    rw [found]
    dsimp only
    rw [mapError_eq_ok.mp read]
  · rename_i node other found
    obtain rfl := Except.ok.inj read
    rw [found]
    cases node with
    | none => rfl
    | some node =>
      cases node with
      | file bytes => exact absurd rfl (other bytes)
      | directory | device => rfl

/-- What a call does with an env file, from the errors that come first on. -/
inductive Applies (l : Location) (s : Session) : Except Session.Fault Unit → Prop
  | unsought {cause : FileFault} (failed : s.files.find? l = .error cause) :
    Applies l s (.error (.files cause))
  | missing (absent : s.files.find? l = .ok none) : Applies l s (.error (.noEnvFile l))
  | idle {node : FileNode} (present : s.files.find? l = .ok (some node))
    (disabled : EnvFile.disabled s.environment = true) : Applies l s (.ok ())
  | illegible {node : FileNode} {cause : Encoding.Fault}
    (present : s.files.find? l = .ok (some node)) (enabled : EnvFile.disabled s.environment = false)
    (illegible : ¬ Legible l s) : Applies l s (.error (.unreadableFile cause))
  | stopped {node : FileNode} {cause : VariableFault}
    (present : s.files.find? l = .ok (some node)) (enabled : EnvFile.disabled s.environment = false)
    (unfit : ¬ ∀ v ∈ assignments l s, Environment.settable v = true) :
    Applies l s (.error (.environment cause))
  | applied {node : FileNode} (present : s.files.find? l = .ok (some node))
    (enabled : EnvFile.disabled s.environment = false) (legible : Legible l s)
    (fit : ∀ v ∈ assignments l s, Environment.settable v = true) : Applies l s (.ok ())

theorem applies_applyEnvFile (l : Location) (s : Session) :
    Applies l s ((applyEnvFile l).outcome s) := by
  rw [outcome_applyEnvFile]
  cases found : s.files.find? l with
  | error cause => exact .unsought found
  | ok node =>
    cases node with
    | none => exact .missing found
    | some node =>
      dsimp only
      cases switch : EnvFile.disabled s.environment with
      | true => exact .idle found switch
      | false =>
        rw [if_neg Bool.false_ne_true]
        have legible := readEnvFile_ok_iff found
        cases read : (readEnvFile l).outcome s with
        | error fault =>
          rw [read] at legible
          have unread : ¬ Legible l s := fun text => nomatch legible.mpr text
          rcases fault_of_readEnvFile read with ⟨cause, missed⟩ | ⟨cause, rfl⟩
          · cases found.symm.trans missed
          · exact .illegible found switch unread
        | ok values =>
          have fit := (Environment.setAll_eq values s.environment).2
          rw [← assignments_eq switch read] at fit
          dsimp only
          cases outcome : (Environment.setAll values s.environment).2 with
          | ok =>
            exact .applied found switch (legible.mp ⟨values, read⟩) (fit.mp outcome)
          | error cause =>
            rw [outcome] at fit
            exact .stopped found switch fun all => nomatch fit.mpr all

/-- The variables that a call sets from an env file: up to the first that cannot be set. -/
def changes (l : Location) (s : Session) : Entries Text :=
  (assignments l s).takeWhile Environment.settable

theorem assignments_missing (missing : ∀ node, s.files.find? l ≠ .ok (some node)) :
    assignments l s = [] := by
  rw [assignments]
  split
  · rename_i there
    exact absurd there (missing _)
  · rfl

theorem assignments_unread {fault : Session.Fault}
    (failed : (readEnvFile l).outcome s = .error fault) : assignments l s = [] := by
  rw [outcome_readEnvFile] at failed
  split at failed
  · rename_i missed
    exact assignments_missing (by simp [missed])
  · rename_i bytes found
    obtain ⟨cause, unread, -⟩ := mapError_eq_error.mp failed
    rw [assignments, found]
    cases EnvFile.disabled s.environment with
    | true => rfl
    | false =>
      dsimp only
      rw [unread]
  · cases failed

/-- Of a session an env file changes just the variables that it sets. -/
theorem after_applyEnvFile (l : Location) (s : Session) : (applyEnvFile l).after s =
    { s with environment := Environment.putAll (changes l s) s.environment } := by
  have still (idle : assignments l s = []) :
      s = { s with environment := Environment.putAll (changes l s) s.environment } := by
    rw [changes, idle]
    rfl
  rw [applyEnvFile, after_bind, outcome_findFile, after_findFile]
  cases found : s.files.find? l with
  | error cause => exact still (assignments_missing (by simp [found]))
  | ok node =>
    dsimp only [Except.mapError]
    rw [after_get]
    cases node with
    | none => exact still (assignments_missing (by simp [found]))
    | some node =>
      rw [if_neg (by simp)]
      cases switch : EnvFile.disabled s.environment with
      | true =>
        rw [if_pos rfl]
        exact still (by rw [assignments, switch])
      | false =>
        rw [if_neg Bool.false_ne_true, after_bind, after_readEnvFile]
        cases read : (readEnvFile l).outcome s with
        | error fault => exact still (assignments_unread read)
        | ok values =>
          rw [changes, assignments_eq switch read, ← (Environment.setAll_eq values _).1]
          dsimp only
          obtain ⟨environment, fault | _⟩ := Environment.setAll values s.environment <;> rfl

theorem outcome_loadSettings_some (l : Location) (s : Session) :
    (loadSettings (some l)).outcome s =
      match (applyEnvFile l).outcome s with
      | .ok _ => (makeSettings .settings []).outcome ((applyEnvFile l).after s)
      | .error fault => .error fault := by
  rw [loadSettings, outcome_bind]
  cases (applyEnvFile l).outcome s <;> rfl

theorem legible_after {other : Location} :
    Legible other ((applyEnvFile l).after s) ↔ Legible other s := by
  rw [after_applyEnvFile]
  rfl

theorem configures_loadSettings (l : Option Location) (s : Session) :
    Configures (loadSettings l) s ↔ Loadable l s := by
  cases l with
  | none => exact configures_makeSettings s
  | some l =>
    have applies := applies_applyEnvFile l s
    have later := configures_makeSettings ((applyEnvFile l).after s)
    rw [legible_after, Configures] at later
    rw [Configures, outcome_loadSettings_some, Loadable]
    generalize (applyEnvFile l).outcome s = outcome at applies
    cases applies with
    | unsought failed =>
      refine iff_of_false (by simp [Session.Fault.isConfig]) fun loads => ?_
      obtain ⟨⟨⟨node, found⟩, -⟩, -⟩ := loads
      cases failed.symm.trans found
    | missing absent =>
      have empty : assignments l s = [] := assignments_missing (by simp [absent])
      have legible : Legible l s := fun bytes file => nomatch absent.symm.trans file
      refine iff_of_true (.inr ⟨_, rfl, rfl⟩) ⟨⟨⟨_, absent⟩, fun _ => ⟨legible, ?_⟩⟩, .inl absent⟩
      rw [empty]
      nofun
    | idle present disabled =>
      have applicable : Applicable l s :=
        ⟨⟨_, present⟩, fun enabled => nomatch disabled.symm.trans enabled⟩
      simpa [present, applicable] using later
    | illegible present enabled illegible =>
      refine iff_of_false (by simp [Session.Fault.isConfig]) fun loads => illegible ?_
      exact (loads.1.2 enabled).1
    | stopped present enabled unfit =>
      refine iff_of_false (by simp [Session.Fault.isConfig]) fun loads => unfit ?_
      exact (loads.1.2 enabled).2
    | applied present enabled legible fit =>
      have applicable : Applicable l s := ⟨⟨_, present⟩, fun _ => ⟨legible, fit⟩⟩
      simpa [present, applicable] using later

theorem configures_getSettings (s : Session) :
    Configures getSettings s ↔ (s.kept = none → Legible Search.usualFile s) := by
  have loads := configures_loadSettings none s
  rw [Configures] at loads ⊢
  rw [outcome_getSettings]
  cases kept : s.kept with
  | some issued => exact iff_of_true (.inl ⟨issued, rfl⟩) nofun
  | none => exact loads.trans ⟨fun legible _ => legible, fun legible => legible rfl⟩

/-- How settings fail to load without a word on the configuration. -/
inductive Escapes : Session.Fault → Prop
  | name (spelling : Text) : Escapes (.files (.nameTooLong spelling))
  | content (cause : Encoding.Fault) : Escapes (.unreadableFile cause)
  | setting (cause : VariableFault) : Escapes (.environment cause)

theorem escapes_of_loadSettings {l : Option Location} {fault : Session.Fault}
    (failed : (loadSettings l).outcome s = .error fault) (other : fault.isConfig = false) :
    Escapes fault := by
  have usual {t : Session} (failed : (loadSettings none).outcome t = .error fault) :
      Escapes fault := by
    rcases fault_of_loadSettings failed with ⟨rejection, rfl⟩ | ⟨cause, rfl⟩
    · cases other
    · exact .content cause
  cases l with
  | none => exact usual failed
  | some l =>
    have applies := applies_applyEnvFile l s
    rw [outcome_loadSettings_some] at failed
    generalize (applyEnvFile l).outcome s = outcome at applies failed
    cases applies with
    | unsought missed =>
      cases failed
      obtain ⟨spelling, rfl⟩ := FileTree.find?_fault missed
      exact .name spelling
    | missing absent =>
      cases failed
      cases other
    | illegible =>
      cases failed
      exact .content _
    | stopped =>
      cases failed
      exact .setting _
    | idle | applied => exact usual failed

/-- Whatever the environment and the files, calls for settings that fail tell of the configuration
exactly if the files that they read are texts, as far as they are read, and all that they set can
be set. Otherwise the fault of the name, of the file or of the variable escapes as it is. -/
theorem configures_iff (l : Option Location) (s : Session) :
    (Configures (loadSettings l) s ↔ Loadable l s) ∧
      (Configures getSettings s ↔ (s.kept = none → Legible Search.usualFile s)) ∧
      ∀ fault, (loadSettings l).outcome s = .error fault → fault.isConfig = false →
        Escapes fault :=
  ⟨configures_loadSettings l s, configures_getSettings s, fun _ => escapes_of_loadSettings⟩

/-- The usual env file is no text, and both calls fail with what the decoder says of its byte. -/
theorem not_configures_byte :
    let s := (writeFile Search.usualFile [0xFF]).after (.initial [] .zero)
    let fault : Session.Fault := .unreadableFile ⟨.utf8, 0xFF, 0, 1, .invalidStart⟩
    fault.isConfig = false ∧ (loadSettings none).outcome s = .error fault ∧
      getSettings.outcome s = .error fault ∧ ¬ Configures (loadSettings none) s ∧
      ¬ Configures getSettings s := by
  intro s fault
  have loads : (loadSettings none).outcome s = .error fault := rfl
  have gets : getSettings.outcome s = .error fault := rfl
  refine ⟨rfl, loads, gets, ?_, ?_⟩
  · rw [Configures, loads]
    simp [fault, Session.Fault.isConfig]
  · rw [Configures, gets]
    simp [fault, Session.Fault.isConfig]

end Call

end ClusterHealth
