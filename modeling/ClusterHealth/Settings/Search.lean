import ClusterHealth.Files.Location
import ClusterHealth.Json.Value
import ClusterHealth.Settings.Environment

/-!
# The search for settings

A setting that is not given directly is looked up in the environment and then in files of variables,
under a prefix and its name. Options, which are given beside the settings and whose names start with
an underscore, change how this is done.
-/

namespace ClusterHealth

structure Search where
  /-- What stands before the name of a setting. -/
  namePrefix : Text
  /-- Whether a name counts only in its own case. -/
  exactCase : Bool
  /-- Whether a variable without content counts as missing. -/
  skipsEmpty : Bool
  /-- The files of variables; the later count before the earlier. -/
  files : List Location

namespace Search

def usualPrefix : Text := "HEALTHINFO_"

def usualFile : Location :=
  ⟨[], [".env"]⟩

def usual : Search :=
  ⟨usualPrefix, false, false, [usualFile]⟩

def text? : Option Json → Option Text
  | some (.text t) => some t
  | _ => none

def flag? : Option Json → Option Bool
  | some (.bool b) => some b
  | _ => none

/-- The files that an option gives: none, one or a list. -/
def files? : Option Json → Option (List Location)
  | some .null => some []
  | some (.text t) => some [.ofText t]
  | some (.array items) => some (items.filterMap fun item => (text? (some item)).map .ofText)
  | _ => none

/-- The search with the options among the given values. An option of another kind is passed over. -/
def ofGiven (given : List (Text × Json)) : Search where
  namePrefix := (text? (Entries.get? "_env_prefix" given)).getD usual.namePrefix
  exactCase := (flag? (Entries.get? "_case_sensitive" given)).getD usual.exactCase
  skipsEmpty := (flag? (Entries.get? "_env_ignore_empty" given)).getD usual.skipsEmpty
  files := (files? (Entries.get? "_env_file" given)).getD usual.files

def names (name key : Text) (search : Search) : Bool :=
  if search.exactCase then key = name else key.lower = name.lower

/-- What the last of the entries under a name holds. -/
def find? {α : Type} (name : Text) (entries : Entries α) (search : Search) : Option α :=
  (entries.reverse.find? fun entry => search.names name entry.1).map Prod.snd

def counts (value : Text) (search : Search) : Bool :=
  !(search.skipsEmpty && value.isEmpty)

end Search

/-- The sources of settings that are not given directly: the environment and the variables of the
files, the last of a name counting. -/
structure Sources where
  search : Search
  environment : Environment
  file : Entries (Option Text)

def Sources.get? (name : Text) (sources : Sources) : Option Text :=
  let search := sources.search
  let key := search.namePrefix ++ name
  let environment : Environment := sources.environment.filter fun entry => search.counts entry.2
  let file := sources.file.filter fun entry => entry.2.all fun value => search.counts value
  match search.find? key environment with
  | some value => some value
  | none => (search.find? key file).join

end ClusterHealth
