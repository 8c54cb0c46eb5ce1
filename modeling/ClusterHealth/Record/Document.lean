import ClusterHealth.Json.Reader
import ClusterHealth.Record.Decode
import ClusterHealth.Text.Encoding.Utf8

/-!
# Documents of a known class

A document whose class is known comes as a text, as bytes or as a tree of values. A text is read by
the strict reader, and bytes are the UTF-8 of a text.
-/

namespace ClusterHealth

inductive Payload
  | text (t : Text)
  | bytes (bytes : Bytes)
  | tree (json : Json)

namespace RecordClass

def readText (cls : RecordClass) (t : Text) : Checked Record :=
  if t.hasSurrogate then .refuse .invalidText
  else
    match Json.read .strict t with
    | .ok json => cls.read .text json
    | .error _ => .refuse .invalidJson

def readBytes (cls : RecordClass) (bytes : Bytes) : Checked Record :=
  match Utf8.decode false 0 bytes with
  | .ok t => cls.readText t
  | .error _ => .refuse .invalidJson

end RecordClass

/-- All that is wrong with a document of a class. -/
structure Rejection where
  cls : Text
  issues : List Issue
  deriving DecidableEq, Repr

namespace Rejection

def headline (r : Rejection) : Text :=
  Issue.headline r.cls r.issues

def message (r : Rejection) : Text :=
  "Invalid " ++ r.cls ++ " payload: " ++ r.headline

end Rejection

def RecordClass.load (cls : RecordClass) (payload : Payload) : Except Rejection Record :=
  let checked :=
    match payload with
    | .text t => cls.readText t
    | .bytes bytes => cls.readBytes bytes
    | .tree json => cls.read .tree json
  match checked with
  | .ok r => .ok r
  | .error issues => .error ⟨cls.name, issues⟩

end ClusterHealth
