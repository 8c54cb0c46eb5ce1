import ClusterHealth.Session.Basic
import ClusterHealth.Settings.EnvFile

/-!
# Settings of a session

Settings are made anew by each call that asks for them, except that one set is kept from its first
use until it is reset. Loading a file of variables sets them in the environment first, whether or
not the settings can be read afterwards.
-/

namespace ClusterHealth.Call

def setVariable (name value : Text) : Call Unit := do
  let s ← get
  match s.environment.set name value with
  | .ok environment => set { s with environment := environment }
  | .error fault => fail (.environment fault)

def unsetVariable (name : Text) : Call Unit :=
  modify fun s => { s with environment := Entries.erase name s.environment }

def writeFile (l : Location) (content : Bytes) : Call Unit := do
  let s ← get
  let (files, outcome) := s.files.writeFile l content
  -- Directories that have been made stay, whatever the outcome.
  set { s with files := files }
  match outcome with
  | .ok () => pure ()
  | .error fault => fail (.files fault)

def findFile (l : Location) : Call (Option FileNode) := do
  match (← get).files.find? l with
  | .ok node => return node
  | .error fault => fail (.files fault)

/-- The variables of an env file; a directory has none. -/
def readEnvFile (l : Location) : Call (Entries (Option Text)) := do
  match ← findFile l with
  | some (.file bytes) =>
    match EnvFile.read (← get).environment bytes with
    | .ok values => return values
    | .error fault => fail (.unreadableFile fault)
  | _ => return []

def issue (settings : Settings) : Call IssuedSettings := do
  let s ← get
  set { s with issued := s.issued + 1 }
  return ⟨s.issued, settings⟩

def readEnvFiles : List Location → Call (Entries (Option Text))
  | [] => return []
  | l :: more => do
    let values ← readEnvFile l
    return values ++ (← readEnvFiles more)

/-- Makes settings from values given directly, options among them, and from the sources; `refuse`
names the fault of settings that are refused. -/
def makeSettings (refuse : Rejection → Session.Fault) (given : List (Text × Json)) :
    Call IssuedSettings := do
  let search := Search.ofGiven given
  let file ← readEnvFiles search.files
  let s ← get
  match Settings.read given ⟨search, s.environment, file⟩ with
  | .ok settings => issue settings
  | .error rejection => fail (refuse rejection)

/-- Sets the variables of an env file, which must be there, unless the environment forbids it. -/
def applyEnvFile (l : Location) : Call Unit := do
  let node ← findFile l
  let s ← get
  if node.isNone then fail (.noEnvFile l)
  else if EnvFile.disabled s.environment then pure ()
  else
    let values ← readEnvFile l
    let (environment, outcome) := Environment.setAll values s.environment
    -- What has been set before a variable that cannot be set stays.
    set { s with environment := environment }
    match outcome with
    | .ok () => pure ()
    | .error fault => fail (.environment fault)

/-- Makes settings from the sources, after setting the variables of an env file if one is given. -/
def loadSettings (l : Option Location) : Call IssuedSettings := do
  match l with
  | some l => applyEnvFile l
  | none => pure ()
  makeSettings .settings []

/-- The settings that are kept, loaded on first use. -/
def getSettings : Call IssuedSettings := do
  match (← get).kept with
  | some settings => return settings
  | none =>
    let settings ← loadSettings none
    modify fun s => { s with kept := some settings }
    return settings

def resetSettings : Call Unit :=
  modify fun s => { s with kept := none }

/-- Sets the logger up as given settings say, or else those that are kept. -/
def setUpLoggingFrom (settings : Option Settings) : Call Unit := do
  let settings ←
    match settings with
    | some settings => pure settings
    | none => (·.settings) <$> getSettings
  setUpLogging { directory := settings.logDirectory, level := .name settings.logLevel.name }

end ClusterHealth.Call
