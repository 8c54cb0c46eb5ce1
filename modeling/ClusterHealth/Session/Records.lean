import ClusterHealth.Session.Settings

/-!
# Records in a session

Reading and writing records with an entry in the log for what is refused. A payload that holds no
object is refused without an entry.
-/

namespace ClusterHealth.Call

def logRejection (rejection : Rejection) : Call Unit :=
  discard <| log recordLogger .debug
    ("Rejected " ++ rejection.cls ++ " payload: " ++ rejection.headline)

def readRecord (cls : RecordClass) (payload : Payload) : Call Record := do
  match cls.load payload with
  | .ok r => return r
  | .error rejection =>
    logRejection rejection
    fail (.rejected rejection)

/-- Makes a record of a class from the values of its fields, given as JSON. Records and timestamps
that are made already are no such values. -/
def makeRecord (cls : RecordClass) (members : Json) : Call Record :=
  match cls.load (.tree members) with
  | .ok r => return r
  | .error rejection => fail (.invalid rejection)

def logReportFault : Report.Fault → Call Unit
  | .notJson reason =>
    discard <| log reportLogger .debug ("Health info payload is not JSON: " ++ reason.message)
  | .rejected rejection => logRejection rejection
  | .unsupportedVersion version =>
    discard <| log reportLogger .debug ("Rejected health info with version " ++ version.quoted)
  | _ => pure ()

/-- The outcome of reading a report or its header, noted if it is a fault. -/
def ofReport (outcome : Except Report.Fault Record) : Call Record := do
  match outcome with
  | .ok r => return r
  | .error fault =>
    logReportFault fault
    fail (.report fault)

def readReport (payload : Payload) : Call Record :=
  ofReport (Report.read payload)

def readHeader (payload : Payload) : Call Record :=
  ofReport (Report.readHeader payload)

/-- The outcome of writing a record of a class, noted if there is no document. -/
def ofWriter {α : Type} (cls : Text) (outcome : Except WriteFault α) : Call α := do
  match outcome with
  | .ok document => return document
  | .error fault =>
    match fault with
    | .unwritable u =>
      discard <| log recordLogger .error ("Failed to encode " ++ cls) []
        (some (ErrorKind.serialization.describe u.cause))
    | _ => pure ()
    fail (.writing fault)

def writeRecord (r : Record) : Call Text :=
  ofWriter r.cls.name (r.write.mapError .unwritable)

def writeTree (r : Record) : Call Json :=
  ofWriter r.cls.name r.writeTree

/-- Writes a record as a document for reading. What is not given is taken from the settings, which
must load in any case. -/
def writeSpacious (linePrefix : Option Text) (indent : Option Int) (r : Record) : Call Text := do
  let settings := (← getSettings).settings
  ofWriter r.cls.name
    (r.writeSpacious (linePrefix.getD settings.jsonPrefix) (indent.getD settings.jsonIndent))

end ClusterHealth.Call
