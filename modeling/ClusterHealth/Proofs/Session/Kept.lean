import ClusterHealth.Proofs.Session.Loading

/-!
# The settings that are kept

Three calls ask for the settings of a session: for their own sake, to lay out a document and to set
the logger up. What one of them gets is kept, and all later ones get the same until a reset. What
other calls make is never kept. `Session.keeps_settings` says so of every run.
-/

namespace ClusterHealth

namespace Call

variable {s : Session} {fault : Session.Fault}

/-- The settings that are kept, and how many have been made. -/
def holding (s : Session) : Option IssuedSettings × Nat :=
  (s.kept, s.issued)

/-- The settings that a call makes have the next number. If it fails, it makes none. -/
def Issues (call : Call IssuedSettings) : Prop :=
  ∀ s, match call.outcome s with
    | .ok made => made.serial = s.issued ∧ holding (call.after s) = (s.kept, s.issued + 1)
    | .error _ => holding (call.after s) = holding s

theorem Issues.of_keeps {α : Type} {first : Call α} {next : α → Call IssuedSettings}
    (keeps : Keeps holding first) (issues : ∀ a, Issues (next a)) : Issues (first >>= next) := by
  intro s
  have same := keeps s
  have kept : (first.after s).kept = s.kept := congrArg Prod.fst same
  have issued : (first.after s).issued = s.issued := congrArg Prod.snd same
  rw [outcome_bind, after_bind]
  cases first.outcome s with
  | error fault => exact same
  | ok a =>
    have later := issues a (first.after s)
    dsimp only
    cases made : (next a).outcome (first.after s) with
    | ok settings =>
      rw [made, kept, issued] at later
      exact later
    | error fault =>
      rw [made] at later
      exact later.trans same

theorem issues_makeSettings (refuse : Rejection → Session.Fault) (given : List (Text × Json)) :
    Issues (makeSettings refuse given) := by
  refine .of_keeps (fun s => congrArg holding (after_readEnvFiles _ s)) fun file s => ?_
  rw [outcome_get, after_get]
  cases Settings.read given ⟨Search.ofGiven given, s.environment, file⟩ with
  | ok settings => exact ⟨rfl, rfl⟩
  | error rejection => rfl

theorem issues_loadSettings (l : Option Location) : Issues (loadSettings l) := by
  cases l with
  | none => exact issues_makeSettings .settings []
  | some l =>
    exact .of_keeps (keeps_applyEnvFile (fun _ _ => rfl) l)
      fun _ => issues_makeSettings .settings []

theorem Issues.kept {call : Call IssuedSettings} (issues : Issues call) (s : Session) :
    (call.after s).kept = s.kept := by
  have made := issues s
  split at made
  · exact congrArg Prod.fst made.2
  · exact congrArg Prod.fst made

theorem Issues.grows {call : Call IssuedSettings} (issues : Issues call) (s : Session) :
    s.issued ≤ (call.after s).issued := by
  have made := issues s
  split at made
  · have next : (call.after s).issued = s.issued + 1 := congrArg Prod.snd made.2
    omega
  · have same : (call.after s).issued = s.issued := congrArg Prod.snd made
    omega

/-- Asking for the settings makes them if none are kept, and keeps them if they can be made. -/
theorem after_getSettings (s : Session) : getSettings.after s =
    match s.kept with
    | some _ => s
    | none => { (loadSettings none).after s with
        kept := ((loadSettings none).outcome s).toOption } := by
  rw [getSettings, after_get]
  cases kept : s.kept with
  | some settings => rfl
  | none =>
    dsimp only
    rw [after_bind]
    cases made : (loadSettings none).outcome s with
    | ok settings => rfl
    | error fault =>
      have still : ((loadSettings none).after s).kept = none :=
        ((issues_loadSettings none).kept s).trans kept
      dsimp only [Except.toOption]
      rw [← still]

theorem kept_getSettings (s : Session) :
    (getSettings.after s).kept = (getSettings.outcome s).toOption := by
  rw [after_getSettings, outcome_getSettings]
  cases kept : s.kept with
  | some settings => exact kept
  | none => rfl

theorem setUpLoggingFrom_none : setUpLoggingFrom none =
    getSettings >>= fun issued => setUpLoggingFrom (some issued.settings) := by
  rw [setUpLoggingFrom, map_eq_pure_bind, bind_assoc]
  rfl

end Call

namespace Operation

def asks : Operation → Bool
  | getSettings | writeSpacious _ _ _ | setUpLoggingFrom none => true
  | _ => false

def resets : Operation → Bool
  | resetSettings => true
  | _ => false

open Call (holding)

/-- What an operation does to the settings of the session. -/
inductive Treats (op : Operation) (s : Session) : Prop
  | asks (asking : op.asks = true)
      (same : holding (op.after s) = holding (Call.getSettings.after s))
  | resets (resetting : op.resets = true) (forgets : holding (op.after s) = (none, s.issued))
  | spares (quiet : op.asks = false) (lasting : op.resets = false)
      (kept : (op.after s).kept = s.kept) (grows : s.issued ≤ (op.after s).issued)

theorem treats (op : Operation) (s : Session) : op.Treats s := by
  have unlogged : Call.Unlogged holding := fun _ _ _ _ _ _ => rfl
  -- What keeps its hands off the settings.
  have spares (quiet : op.asks = false) (lasting : op.resets = false)
      (same : holding (op.after s) = holding s) : op.Treats s :=
    .spares quiet lasting (congrArg Prod.fst same) (congrArg Prod.snd same).ge
  have asks {α : Type} {next : IssuedSettings → Call α} (asking : op.asks = true)
      (runs : op.after s = (Call.getSettings >>= next).after s)
      (later : ∀ issued, (next issued).Keeps holding) : op.Treats s := by
    refine .asks asking ?_
    rw [runs, Call.after_bind]
    cases Call.getSettings.outcome s with
    | ok issued => exact later issued _
    | error fault => rfl
  have makes {call : Call IssuedSettings} (issues : call.Issues) (quiet : op.asks = false)
      (lasting : op.resets = false) (runs : op.after s = call.after s) : op.Treats s :=
    .spares quiet lasting (runs ▸ issues.kept s) (runs ▸ issues.grows s)
  have sets (setup : LogSetup) : (Call.setUpLogging setup).Keeps holding := by
    intro s
    rw [Call.after_setUpLogging]
    rfl
  cases op with
  | setUpLogging setup => exact spares rfl rfl (sets setup s)
  | setUpLoggingFrom settings =>
    cases settings with
    | some settings => exact spares rfl rfl (sets _ s)
    | none =>
      exact asks rfl (congrArg (Call.after · s) Call.setUpLoggingFrom_none) fun _ => sets _
  | log name level message arguments exception =>
    exact spares rfl rfl (unlogged name level message arguments exception s)
  | readRecord cls payload => exact spares rfl rfl (unlogged.readRecord cls payload s)
  | makeRecord cls members => exact spares rfl rfl (Call.keeps_makeRecord cls members s)
  | readReport payload => exact spares rfl rfl (unlogged.ofReport _ s)
  | readHeader payload => exact spares rfl rfl (unlogged.ofReport _ s)
  | writeRecord r => exact spares rfl rfl (unlogged.ofWriter _ _ s)
  | writeTree r => exact spares rfl rfl (unlogged.ofWriter _ _ s)
  | writeSpacious linePrefix indent r => exact asks rfl rfl fun _ => unlogged.ofWriter _ _
  | makeSettings given => exact makes (Call.issues_makeSettings .invalid given) rfl rfl rfl
  | loadSettings l => exact makes (Call.issues_loadSettings l) rfl rfl rfl
  | getSettings => exact .asks rfl rfl
  | resetSettings => exact .resets rfl rfl
  | setVariable name value =>
    exact spares rfl rfl (Call.keeps_setVariable (fun _ _ => rfl) name value s)
  | writeFile l content =>
    refine spares rfl rfl ?_
    rw [after, Call.after_writeFile]
    rfl
  | resetLogging | takeConsole | unsetVariable | wait => exact spares rfl rfl rfl

theorem kept_after (op : Operation) (s : Session) : (op.after s).kept =
    if op.asks then (Call.getSettings.outcome s).toOption
    else if op.resets then none
    else s.kept := by
  cases op.treats s with
  | asks asking same =>
    rw [if_pos asking, ← Call.kept_getSettings]
    exact congrArg Prod.fst same
  | resets resetting forgets =>
    have quiet : op.asks = false := by
      cases op with
      | resetSettings => rfl
      | _ => cases resetting
    rw [quiet, if_neg (by decide), if_pos resetting]
    exact congrArg Prod.fst forgets
  | spares quiet lasting kept grows =>
    rw [quiet, lasting]
    exact kept

end Operation

namespace Session

open Call (holding)

variable {s : Session} {issued : IssuedSettings}

/-- The settings that are kept have a number that is no longer free. -/
def Numbered (s : Session) : Prop :=
  ∀ issued, s.kept = some issued → issued.serial < s.issued

theorem numbered_getSettings (numbered : s.Numbered) :
    (Call.getSettings.after s).Numbered ∧ s.issued ≤ (Call.getSettings.after s).issued := by
  rw [Call.after_getSettings]
  cases kept : s.kept with
  | some settings => exact ⟨numbered, le_rfl⟩
  | none =>
    have issues := Call.issues_loadSettings none
    refine ⟨?_, issues.grows s⟩
    intro issued loaded
    have made := issues s
    cases outcome : (Call.loadSettings none).outcome s with
    | error fault =>
      rw [outcome] at loaded
      cases loaded
    | ok settings =>
      rw [outcome] at loaded made
      cases loaded
      have next : ((Call.loadSettings none).after s).issued = s.issued + 1 :=
        congrArg Prod.snd made.2
      have number := made.1
      dsimp only
      omega

theorem numbered_after (op : Operation) (numbered : s.Numbered) :
    (op.after s).Numbered ∧ s.issued ≤ (op.after s).issued := by
  cases op.treats s with
  | asks asking same =>
    obtain ⟨next, grows⟩ := numbered_getSettings numbered
    have kept : (op.after s).kept = (Call.getSettings.after s).kept := congrArg Prod.fst same
    have count : (op.after s).issued = (Call.getSettings.after s).issued := congrArg Prod.snd same
    rw [Numbered, kept, count]
    exact ⟨next, grows⟩
  | resets resetting forgets =>
    have kept : (op.after s).kept = none := congrArg Prod.fst forgets
    have count : (op.after s).issued = s.issued := congrArg Prod.snd forgets
    rw [Numbered, kept, count]
    exact ⟨nofun, le_rfl⟩
  | spares quiet lasting kept grows =>
    rw [Numbered, kept]
    exact ⟨fun issued held => (numbered issued held).trans_le grows, grows⟩

theorem numbered_run (ops : List Operation) (numbered : s.Numbered) :
    (s.run ops).Numbered ∧ s.issued ≤ (s.run ops).issued := by
  induction ops generalizing s with
  | nil => exact ⟨numbered, le_rfl⟩
  | cons op ops ih =>
    obtain ⟨next, grows⟩ := numbered_after op numbered
    obtain ⟨last, later⟩ := ih next
    exact ⟨last, grows.trans later⟩

/-! ### Between two resets -/

theorem run_kept (ops : List Operation) (lasting : ∀ op ∈ ops, op.resets = false)
    (kept : s.kept = some issued) : (s.run ops).kept = some issued := by
  induction ops generalizing s with
  | nil => exact kept
  | cons op ops ih =>
    obtain ⟨here, rest⟩ := List.forall_mem_cons.mp lasting
    refine ih rest ?_
    rw [op.kept_after, here, Call.outcome_getSettings, kept]
    simp [Except.toOption]

theorem run_empty (ops : List Operation) (quiet : ∀ op ∈ ops, op.asks = false)
    (empty : s.kept = none) : (s.run ops).kept = none := by
  induction ops generalizing s with
  | nil => exact empty
  | cons op ops ih =>
    obtain ⟨here, rest⟩ := List.forall_mem_cons.mp quiet
    refine ih rest ?_
    rw [op.kept_after, here, empty]
    simp

/-- All that asks for settings in the session gets these. -/
structure Serves (issued : IssuedSettings) (s : Session) : Prop where
  got : Call.getSettings.outcome s = .ok issued
  laidOut (linePrefix : Option Text) (indent : Option Int) (r : Record) :
    (Call.writeSpacious linePrefix indent r).outcome s =
      (r.writeSpacious (linePrefix.getD issued.settings.jsonPrefix)
        (indent.getD issued.settings.jsonIndent)).mapError .writing
  setUp : (Call.setUpLoggingFrom none).outcome s =
    (Call.setUpLoggingFrom (some issued.settings)).outcome s

/-- All that asks for settings in the session fails in this way. -/
structure Denies (fault : Fault) (s : Session) : Prop where
  got : Call.getSettings.outcome s = .error fault
  laidOut (linePrefix : Option Text) (indent : Option Int) (r : Record) :
    (Call.writeSpacious linePrefix indent r).outcome s = .error fault
  setUp : (Call.setUpLoggingFrom none).outcome s = .error fault

theorem serves_of_kept (kept : s.kept = some issued) : s.Serves issued := by
  have got : Call.getSettings.outcome s = .ok issued := by
    rw [Call.outcome_getSettings, kept]
  have left : Call.getSettings.after s = s := by
    rw [Call.after_getSettings, kept]
  refine ⟨got, Call.outcome_writeSpacious got, ?_⟩
  rw [Call.setUpLoggingFrom_none, Call.outcome_bind, got, left]

theorem denies_of_fault {fault : Fault} (failed : Call.getSettings.outcome s = .error fault) :
    s.Denies fault := by
  refine ⟨failed, fun linePrefix indent r => ?_, ?_⟩
  · rw [Call.writeSpacious, Call.outcome_bind, failed]
  · rw [Call.setUpLoggingFrom_none, Call.outcome_bind, failed]

/-- The settings are not those that are kept, though they may be equal to them. -/
def Apart (issued : IssuedSettings) (s : Session) : Prop :=
  ∀ kept, s.kept = some kept → issued.serial ≠ kept.serial

/-- A call makes settings for its caller alone. -/
structure Spares (call : Call IssuedSettings) (s : Session) : Prop where
  kept : (call.after s).kept = s.kept
  apart : ∀ issued, call.outcome s = .ok issued → s.Apart issued

theorem Numbered.apart (numbered : s.Numbered) (fresh : s.issued ≤ issued.serial) :
    s.Apart issued := by
  intro kept held same
  have used := numbered kept held
  omega

theorem Numbered.spares {call : Call IssuedSettings} (numbered : s.Numbered)
    (issues : call.Issues) : s.Spares call := by
  refine ⟨issues.kept s, fun issued made => ?_⟩
  have number := issues s
  rw [made] at number
  exact numbered.apart number.1.ge

/-- How the settings of a session are kept from here on. -/
structure KeepsSettings (s : Session) : Prop where
  /-- Once settings have been got, all that asks gets the same until a reset. -/
  success (op : Operation) {issued : IssuedSettings} (asks : op.asks = true)
    (got : Call.getSettings.outcome s = .ok issued) (later : List Operation)
    (lasting : ∀ op ∈ later, op.resets = false) : ((op.after s).run later).Serves issued
  /-- Where asking fails, nothing is kept, and whoever asks next has the settings loaded anew. -/
  failure (op : Operation) {fault : Fault} (asks : op.asks = true)
    (failed : Call.getSettings.outcome s = .error fault) :
    s.Denies fault ∧ (op.after s).kept = none ∧
      ∀ later : List Operation, (∀ op ∈ later, op.asks = false) →
        Call.getSettings.outcome ((op.after s).run later) =
          (Call.loadSettings none).outcome ((op.after s).run later)
  made (given : List (Text × Json)) : s.Spares (Call.makeSettings .invalid given)
  loaded (l : Option Location) : s.Spares (Call.loadSettings l)
  /-- After a reset the settings are loaded anew for whoever asks first. -/
  renewed (later : List Operation) (quiet : ∀ op ∈ later, op.asks = false) :
    let t := (Call.resetSettings.after s).run later
    Call.getSettings.outcome t = (Call.loadSettings none).outcome t ∧
      ∀ issued, Call.getSettings.outcome t = .ok issued → s.Apart issued

theorem outcome_run_empty {later : List Operation} (quiet : ∀ op ∈ later, op.asks = false)
    (empty : s.kept = none) : Call.getSettings.outcome (s.run later) =
      (Call.loadSettings none).outcome (s.run later) := by
  rw [Call.outcome_getSettings, run_empty later quiet empty]

theorem Numbered.keepsSettings (numbered : s.Numbered) : s.KeepsSettings where
  success op _ asks got later lasting := by
    refine serves_of_kept (run_kept later lasting ?_)
    rw [Operation.kept_after, if_pos asks, got]
    rfl
  failure op _ asks failed := by
    have empty : (op.after s).kept = none := by
      rw [op.kept_after, if_pos asks, failed]
      rfl
    exact ⟨denies_of_fault failed, empty, fun later quiet => outcome_run_empty quiet empty⟩
  made given := numbered.spares (Call.issues_makeSettings .invalid given)
  loaded l := numbered.spares (Call.issues_loadSettings l)
  renewed later quiet := by
    have forgotten : (Call.resetSettings.after s).Numbered := nofun
    have same := outcome_run_empty quiet (s := Call.resetSettings.after s) rfl
    refine ⟨same, fun issued got => numbered.apart ?_⟩
    rw [same] at got
    have number := Call.issues_loadSettings none ((Call.resetSettings.after s).run later)
    rw [got] at number
    rw [number.1]
    exact (numbered_run later forgotten).2

/-- Throughout every run that starts with no settings kept, the settings that a call gets are kept
until a reset, a call that fails to get them keeps nothing, the settings that other calls make are
never kept, and after a reset they are loaded anew. -/
theorem keeps_settings {start : Session} (empty : start.kept = none) (before : List Operation) :
    (start.run before).KeepsSettings := by
  have numbered : start.Numbered := by
    intro issued kept
    rw [empty] at kept
    cases kept
  exact (numbered_run before numbered).1.keepsSettings

/-- An indent that is set after the settings are kept, and that could not be loaded, changes
nothing. -/
theorem keeps_settings_indent :
    let start := Session.initial [("HEALTHINFO_JSON_INDENT", "2")] .zero
    let later := [.setVariable "HEALTHINFO_JSON_INDENT" "-1", .loadSettings none]
    start.kept = none ∧
      ((Operation.getSettings.after start).run later).Serves
        ⟨0, { Settings.default with jsonIndent := 2 }⟩ ∧
      ((Call.loadSettings none).outcome ((Operation.getSettings.after start).run later)).toOption =
        none := by
  intro start later
  have kept : (start.run []).KeepsSettings := keeps_settings rfl []
  exact ⟨rfl, kept.success .getSettings rfl rfl later (by decide), by decide +kernel⟩

end Session

end ClusterHealth
