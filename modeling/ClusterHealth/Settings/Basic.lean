import ClusterHealth.Record.Document
import ClusterHealth.Settings.Search
import ClusterHealth.Text.Upper

/-!
# Settings

How documents for reading are laid out, and where and from which level on the log goes. A setting is
given directly, in the environment or in a file of variables, in this order, or else has a default.
-/

namespace ClusterHealth

inductive Threshold
  | debug
  | info
  | warning
  | error
  | critical
  deriving DecidableEq, Repr

namespace Threshold

def name : Threshold → Text
  | debug => "DEBUG"
  | info => "INFO"
  | warning => "WARNING"
  | error => "ERROR"
  | critical => "CRITICAL"

/-- The threshold of a name in any case, between blanks. -/
def ofText? (t : Text) : Option Threshold :=
  let name := (t.trim CodePoint.isBlank).upper
  [debug, info, warning, error, critical].find? fun threshold => threshold.name = name

end Threshold

structure Settings where
  jsonPrefix : Text
  jsonIndent : Int
  logLevel : Threshold
  logDirectory : Option Location
  deriving DecidableEq, Repr

namespace Settings

def title : Text := "Settings"

def default : Settings :=
  ⟨" ", 4, .info, none⟩

/-- The value of a setting that is given directly: under its name, or else under the last name that
fits as the search has it. -/
def given? (name : Text) (given : List (Text × Json)) (search : Search) : Option Json :=
  (Entries.get? name given).or (search.find? name given)

/-- The value of a setting: given directly, or else a text from the sources. -/
def find? (given : List (Text × Json)) (sources : Sources) (name : Text) : Option Json :=
  (given? name given sources.search).or ((sources.get? name).map .text)

def readThreshold : Json → Checked Threshold
  | .text t =>
    match Threshold.ofText? t with
    | some threshold => .ok threshold
    | none => .refuse .notChoice
  | _ => .refuse .notChoice

def readDirectory : Json → Checked (Option Location)
  | .null => .ok none
  | .text t => .ok (some (.ofText t))
  | _ => .refuse .notPath

def readSetting {α : Type} (given : List (Text × Json)) (sources : Sources) (name : Text)
    (read : Json → Checked α) (fallback : α) : Checked α :=
  match find? given sources name with
  | some value => Checked.under (.key name) (read value)
  | none => .ok fallback

def check (given : List (Text × Json)) (sources : Sources) : Checked Settings :=
  let setting {α : Type} (name : Text) (read : Json → Checked α) (fallback : α) : Checked α :=
    readSetting given sources name read fallback
  let layout := Checked.both Prod.mk (setting "json_prefix" Scalar.text default.jsonPrefix)
    (setting "json_indent" Scalar.count default.jsonIndent)
  let log := Checked.both Prod.mk (setting "log_level" readThreshold default.logLevel)
    (setting "log_dir" readDirectory default.logDirectory)
  Checked.both (fun (jsonPrefix, jsonIndent) (logLevel, logDirectory) =>
    ⟨jsonPrefix, jsonIndent, logLevel, logDirectory⟩) layout log

/-- Reads all settings, or says all that is wrong with them. -/
def read (given : List (Text × Json)) (sources : Sources) : Except Rejection Settings :=
  match check given sources with
  | .ok settings => .ok settings
  | .error issues => .error ⟨title, issues⟩

end Settings

end ClusterHealth
