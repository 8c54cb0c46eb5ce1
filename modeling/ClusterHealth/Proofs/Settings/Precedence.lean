import ClusterHealth.Proofs.Record.Checked
import ClusterHealth.Proofs.Settings.Variables
import ClusterHealth.Settings.Basic

/-!
# Which variable makes a setting

Without values given directly, a setting is made of the last variable of the environment that spells
its name in letters of any case, `Setting.madeOf_last`. A variable of its usual name is that one if
none of another spelling comes behind it, `Environment.last_spelling`.
-/

namespace ClusterHealth

inductive Setting
  | jsonPrefix
  | jsonIndent
  | logLevel
  | logDirectory
  deriving DecidableEq, Repr

namespace Setting

def name : Setting → Text
  | jsonPrefix => "json_prefix"
  | jsonIndent => "json_indent"
  | logLevel => "log_level"
  | logDirectory => "log_dir"

def key : Setting → Text
  | jsonPrefix => "HEALTHINFO_JSON_PREFIX"
  | jsonIndent => "HEALTHINFO_JSON_INDENT"
  | logLevel => "HEALTHINFO_LOG_LEVEL"
  | logDirectory => "HEALTHINFO_LOG_DIR"

abbrev Value : Setting → Type
  | jsonPrefix => Text
  | jsonIndent => Int
  | logLevel => Threshold
  | logDirectory => Option Location

def read : (setting : Setting) → Json → Checked setting.Value
  | jsonPrefix => Scalar.text
  | jsonIndent => Scalar.count
  | logLevel => Settings.readThreshold
  | logDirectory => Settings.readDirectory

def get : (setting : Setting) → Settings → setting.Value
  | jsonPrefix => Settings.jsonPrefix
  | jsonIndent => Settings.jsonIndent
  | logLevel => Settings.logLevel
  | logDirectory => Settings.logDirectory

variable (setting : Setting) {settings : Settings}

/-- The settings have what is read from a text. -/
def MadeOf (t : Text) (settings : Settings) : Prop :=
  setting.read (.text t) = .ok (setting.get settings)

/-- A setting that is made of the last of two variables is made of the first exactly if both are
read alike. -/
theorem madeOf_iff {first : Text × Text} {last : Option (Text × Text)}
    (made : setting.MadeOf (last.getD first).2 settings) : setting.MadeOf first.2 settings ↔
      ∀ e, last = some e → setting.read (.text e.2) = setting.read (.text first.2) := by
  cases last with
  | none => exact iff_of_true made nofun
  | some e =>
    rw [MadeOf, Option.getD_some] at made
    constructor
    · rintro same _ ⟨⟩
      exact made.trans same.symm
    · intro same
      exact (same e rfl).symm.trans made

/-- Settings that are read have been read one by one. -/
theorem readSetting_of_read {given : List (Text × Json)} {sources : Sources}
    (loaded : Settings.read given sources = .ok settings) :
    Settings.readSetting given sources setting.name setting.read (setting.get .default) =
      .ok (setting.get settings) := by
  rw [Settings.read] at loaded
  split at loaded
  · rename_i found
    obtain rfl := Except.ok.inj loaded
    simp only [Settings.check, Checked.both_eq_ok] at found
    obtain ⟨_, _, ⟨jsonPrefix, jsonIndent, first, second, rfl⟩,
      ⟨logLevel, logDirectory, third, fourth, rfl⟩, rfl⟩ := found
    cases setting with
    | jsonPrefix => exact first
    | jsonIndent => exact second
    | logLevel => exact third
    | logDirectory => exact fourth
  · cases loaded

end Setting

/-! ### The variables of a name -/

namespace Environment

/-- The variables that spell a name in letters of any case. -/
def spellings (name : Text) (environment : Environment) : Environment :=
  environment.filter fun entry => entry.1.lower = name.lower

/-- Behind a variable of the name itself, the last that spells it is that one or comes later. -/
theorem last_spelling (name value : Text) (front back : Environment) :
    (spellings name (front ++ (name, value) :: back)).getLast? =
      some ((spellings name back).getLast?.getD (name, value)) := by
  have here : spellings name ((name, value) :: back) = (name, value) :: spellings name back :=
    List.filter_cons_of_pos (decide_eq_true rfl)
  rw [spellings, List.filter_append, List.getLast?_append]
  rw [← spellings, ← spellings, here, List.getLast?_cons]
  rfl

end Environment

namespace Setting

theorem key_lower (setting : Setting) :
    (Search.usualPrefix ++ setting.name).lower = setting.key.lower := by
  cases setting <;> decide

theorem find?_usual {α : Type} (name : Text) (entries : Entries α) :
    Search.find? name entries .usual =
      ((entries.filter fun entry => entry.1.lower = name.lower).getLast?).map Prod.snd := by
  have usual : (fun entry : Text × α => Search.names name entry.1 .usual) =
      fun entry => decide (entry.1.lower = name.lower) := rfl
  rw [Search.find?, usual, ← List.head?_filter, List.filter_reverse, List.head?_reverse]

theorem get?_usual (setting : Setting) {environment : Environment} (file : Entries (Option Text))
    {last : Text × Text} (found : (environment.spellings setting.key).getLast? = some last) :
    Sources.get? setting.name ⟨.usual, environment, file⟩ = some last.2 := by
  have counted : environment.filter (fun entry => Search.counts entry.2 .usual) = environment :=
    List.filter_eq_self.mpr fun _ _ => rfl
  have here : Search.find? (Search.usual.namePrefix ++ setting.name) environment .usual =
      some last.2 := by
    rw [find?_usual, Search.usual, key_lower]
    exact congrArg (Option.map Prod.snd) found
  rw [Sources.get?]
  dsimp only
  rw [counted, here]

/-- The last variable that spells the name of a setting makes it, whatever the files say. -/
theorem madeOf_last (setting : Setting) {environment : Environment} {file : Entries (Option Text)}
    {last : Text × Text} {settings : Settings}
    (found : (environment.spellings setting.key).getLast? = some last)
    (loaded : Settings.read [] ⟨.usual, environment, file⟩ = .ok settings) :
    setting.MadeOf last.2 settings := by
  have here : Settings.find? [] ⟨.usual, environment, file⟩ setting.name = some (.text last.2) := by
    rw [Settings.find?, get?_usual setting file found]
    rfl
  have read := readSetting_of_read setting loaded
  rw [Settings.readSetting, here] at read
  exact Checked.under_eq_ok.mp read

end Setting

end ClusterHealth
