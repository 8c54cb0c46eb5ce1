import ClusterHealth.Record.Document
import ClusterHealth.Schema.Catalogue
import ClusterHealth.Text.Encoding.Detect
import ClusterHealth.Text.Quoted

/-!
# Reports

A report of unknown layout is read in two steps: its header names the version, and the version the
class. A text is read by the lenient reader, and bytes in whatever encoding form they show. Reports
are never converted between layouts.
-/

namespace ClusterHealth.Report

inductive Unreadable
  | malformed (fault : Json.Fault) (t : Text)
  | encoding (fault : Encoding.Fault)

def Unreadable.message : Unreadable → Text
  | malformed fault t => fault.message t
  | encoding fault => fault.message

/-- Why no report can be read. The last three are faults of the payload as such. -/
inductive Fault
  | notJson (reason : Unreadable)
  | notObject (kind : Json.Kind)
  | rejected (rejection : Rejection)
  | unsupportedVersion (version : Text)
  | tooDeep
  | tooLong (cause : Json.Cause)
  | notPayload (kind : Json.Kind)

def Fault.message : Fault → Text
  | notJson reason => "Invalid health info JSON: " ++ reason.message
  | notObject kind => "Health info must be a JSON object, got " ++ kind.name
  | rejected rejection => rejection.message
  | unsupportedVersion version => "Unsupported health info version: " ++ version.quoted
  | tooDeep => Json.Cause.tooDeep.message
  | tooLong cause => cause.message
  | notPayload kind => "the JSON object must be str, bytes or bytearray, not " ++ kind.name

def ofReader (t : Text) : Except Json.Fault Json → Except Fault Json
  | .ok json => .ok json
  | .error ⟨.tooDeep, _⟩ => .error .tooDeep
  | .error ⟨.tooLong digits, _⟩ => .error (.tooLong (.tooLong digits))
  | .error fault => .error (.notJson (.malformed fault t))

/-- Reads a JSON text by the lenient reader. It must not open with a byte order mark. -/
def readJson (t : Text) : Except Fault Json :=
  ofReader t (Json.readUnmarked .lenient t)

/-- Reads a JSON text from bytes. A byte order mark is dropped with the encoding form that it shows.
-/
def readJsonBytes (bytes : Bytes) : Except Fault Json :=
  match Encoding.decode bytes with
  | .ok t => ofReader t (Json.read .lenient t)
  | .error fault => .error (.notJson (.encoding fault))

def requireObject : Json → Except Fault Json
  | .object members => .ok (.object members)
  | json => .error (.notObject json.kind)

/-- The object that a payload holds. A tree must be an object, or the text of one. -/
def loadObject : Payload → Except Fault Json
  | .text t => readJson t >>= requireObject
  | .bytes bytes => readJsonBytes bytes >>= requireObject
  | .tree (.object members) => .ok (.object members)
  | .tree (.text t) => readJson t >>= requireObject
  | .tree json => .error (.notPayload json.kind)

def readAs (cls : RecordClass) (json : Json) : Except Fault Record :=
  match cls.load (.tree json) with
  | .ok r => .ok r
  | .error rejection => .error (.rejected rejection)

/-- Reads the header of a report: its version and its error. -/
def readHeader (payload : Payload) : Except Fault Record :=
  loadObject payload >>= readAs Catalogue.healthInfoVersion

def layout? (version : Text) : Option RecordClass :=
  if version = Catalogue.version0 then some Catalogue.healthInfoV0
  else if version = Catalogue.version2 then some Catalogue.healthInfoV2
  else none

def readObject (json : Json) : Except Fault Record := do
  let header ← readAs Catalogue.healthInfoVersion json
  let version := header.text "version"
  match layout? version with
  | some cls => readAs cls json
  | none => .error (.unsupportedVersion version)

def read (payload : Payload) : Except Fault Record :=
  loadObject payload >>= readObject

end ClusterHealth.Report
