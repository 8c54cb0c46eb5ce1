import ClusterHealth.Files.Location
import ClusterHealth.Text.Encoding.Utf8
import ClusterHealth.Text.Quoted
import ClusterHealth.Text.Surrogates

/-!
# A tree of files

Files and directories, each under the names that lead to it from the root, which is always there.
The working directory has no name of its own that a location could spell. Making a directory may
fail part of the way, and what has been made until then stays.
-/

namespace ClusterHealth

inductive FileNode
  | directory
  | file (content : Bytes)
  /-- A device, which is neither. -/
  | device
  deriving DecidableEq, Repr

/-- The nodes by the names that lead to them. -/
abbrev FileTree := List (List Text × FileNode)

/-- Why files cannot be had. The text is the spelling of the location. -/
inductive FileFault
  | missing (location : Text)
  | notDirectory (location : Text)
  | present (location : Text)
  | isDirectory (location : Text)
  | nameTooLong (location : Text)
  | nullByte
  | surrogates (run : SurrogateRun)
  deriving DecidableEq, Repr

/-- The wording of a fault, after its number. -/
def FileFault.message : FileFault → Text
  | missing t => "[Errno 2] No such file or directory: " ++ t.quoted
  | notDirectory t => "[Errno 20] Not a directory: " ++ t.quoted
  | present t => "[Errno 17] File exists: " ++ t.quoted
  | isDirectory t => "[Errno 21] Is a directory: " ++ t.quoted
  | nameTooLong t => "[Errno 36] File name too long: " ++ t.quoted
  | nullByte => "embedded null byte"
  | surrogates run => run.message

namespace FileTree

/-- The names that lead to the working directory. The last one is empty, as no name of a location
is. -/
def workingDirectory : List Text :=
  ["tmp", []]

def initialDirectories : List (List Text) :=
  [["dev"], ["etc"], ["home"], ["proc"], ["root"], ["tmp"], ["usr"], ["var"], workingDirectory]

def initialDevices : List (List Text) :=
  [["dev", "null"], ["dev", "zero"]]

def initial : FileTree :=
  initialDirectories.map (·, .directory) ++ initialDevices.map (·, .device)

/-- The names from which a location counts. -/
def start (l : Location) : List Text :=
  if l.root.isEmpty then workingDirectory else []

/-- How many bytes a text has for the system, where a surrogate stands for one. -/
def systemLength (t : Text) : Nat :=
  t.foldl (fun count c => count + if c.isSurrogate then 1 else (Utf8.encodePoint c).length) 0

def nameBound : Nat := 255

def spellingBound : Nat := 4095

def checkSpelling (spelling : Text) : Except FileFault Unit :=
  match spelling.bytelessRun? with
  | some run => .error (.surrogates run)
  | none =>
    if spelling.contains 0 then .error .nullByte
    else if spellingBound < systemLength spelling then .error (.nameTooLong spelling)
    else .ok ()

def node? (names : List Text) (tree : FileTree) : Option FileNode :=
  if names.isEmpty then some .directory else tree.lookup names

def isDirectory (names : List Text) (tree : FileTree) : Bool :=
  tree.node? names == some .directory

/-- Follows names from a directory, given by the plain names to it; two points lead one up, and from
the root to itself. The plain names of the end, or the fault of the step that fails. -/
def resolveFrom (spelling : Text) (tree : FileTree) (here : List Text) :
    List Text → Except FileFault (List Text)
  | [] => .ok here
  | name :: names =>
    match tree.node? here with
    | none => .error (.missing spelling)
    | some .directory =>
      if name = Text.ofString ".." then resolveFrom spelling tree here.dropLast names
      else if nameBound < systemLength name then .error (.nameTooLong spelling)
      else resolveFrom spelling tree (here ++ [name]) names
    | some _ => .error (.notDirectory spelling)

/-- The plain names to a location. -/
def resolve (l : Location) (tree : FileTree) : Except FileFault (List Text) :=
  match checkSpelling l.toText with
  | .ok () => resolveFrom l.toText tree (start l) l.names
  | .error fault => .error fault

/-- What is at a location. Only a name that is too long is a fault. -/
def find? (l : Location) (tree : FileTree) : Except FileFault (Option FileNode) :=
  match tree.resolve l with
  | .ok names => .ok (tree.node? names)
  | .error (.nameTooLong spelling) => .error (.nameTooLong spelling)
  | .error _ => .ok none

def put (names : List Text) (node : FileNode) : FileTree → FileTree
  | [] => [(names, node)]
  | (other, old) :: rest =>
    if other = names then (names, node) :: rest else (other, old) :: put names node rest

def erase (names : List Text) (tree : FileTree) : FileTree :=
  tree.filter fun entry => entry.1 ≠ names

/-- Makes a directory, unless it is there. -/
def makeOne (l : Location) (tree : FileTree) : FileTree × Except FileFault Unit :=
  match tree.resolve l with
  | .error fault => (tree, .error fault)
  | .ok names =>
    match tree.node? names with
    | some .directory => (tree, .ok ())
    | some _ => (tree, .error (.present l.toText))
    | none => (tree.put names .directory, .ok ())

/-- Makes a directory, given by its names from the last on, and where something is missing on the
way to it, all that leads to it first. -/
def makeWay (root : Text) : List Text → FileTree → FileTree × Except FileFault Unit
  | [], tree => tree.makeOne ⟨root, []⟩
  | name :: back, tree =>
    let l : Location := ⟨root, (name :: back).reverse⟩
    match tree.makeOne l with
    | (_, .error (.missing _)) =>
      match makeWay root back tree with
      | (tree, .ok ()) => tree.makeOne l
      | failed => failed
    -- Only what is missing on the way is made; any other fault stays.
    | outcome => outcome

/-- Makes a directory and all that leads to it, where they are not there yet. -/
def makeDirectory (l : Location) (tree : FileTree) : FileTree × Except FileFault Unit :=
  makeWay l.root l.names.reverse tree

/-- The bytes of a file; none for want of one. -/
def content? (names : List Text) (tree : FileTree) : Option Bytes :=
  match tree.node? names with
  | some (.file bytes) => some bytes
  | _ => none

/-- Puts a file at a location whose directory is there. A device takes the bytes and stays. -/
def putFile (l : Location) (content : Bytes) (tree : FileTree) : FileTree × Except FileFault Unit :=
  match tree.resolve l with
  | .error fault => (tree, .error fault)
  | .ok names =>
    match tree.node? names with
    | some .directory => (tree, .error (.isDirectory l.toText))
    | some .device => (tree, .ok ())
    | _ => (tree.put names (.file content), .ok ())

def writeFile (l : Location) (content : Bytes) (tree : FileTree) :
    FileTree × Except FileFault Unit :=
  match tree.makeDirectory { l with names := l.names.dropLast } with
  | (tree, .ok ()) => tree.putFile l content
  | failed => failed

def append (names : List Text) (more : Bytes) (tree : FileTree) : FileTree :=
  tree.put names (.file ((tree.content? names).getD [] ++ more))

/-- Gives a file another name, in place of what had it. Nothing happens for want of the file. -/
def rename (source target : List Text) (tree : FileTree) : FileTree :=
  match tree.node? source with
  | some node => ((tree.erase source).erase target).put target node
  | none => tree

end FileTree

end ClusterHealth
