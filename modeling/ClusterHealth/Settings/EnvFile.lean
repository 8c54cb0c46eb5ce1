import ClusterHealth.Settings.Environment
import ClusterHealth.Text.Blank
import ClusterHealth.Text.Encoding.Utf8

/-!
# Env files

A file of variables, one to a line: a name, an equals sign and a value, which may stand in quotes. A
name without an equals sign has no value. What is not of this form is skipped up to the end of its
line. A value may refer to other variables by name, with a value for want of one.
-/

namespace ClusterHealth.EnvFile

abbrev Binding := Text × Option Text

def unifyLines : Text → Text
  | [] => []
  | c :: rest =>
    if c.is '\r' then
      CodePoint.ofChar '\n' ::
        match rest with
        | d :: more => if d.is '\n' then unifyLines more else unifyLines (d :: more)
        | [] => []
    else c :: unifyLines rest

/-- Skips what may stand between the words of a line. -/
def skipInline (t : Text) : Text :=
  t.dropWhile CodePoint.isInlineBlank

/-- Skips the word that marks a variable for export, with at least one blank after it. -/
def skipExport (t : Text) : Text :=
  match (Text.ofString "export").isPrefixOf? t with
  | some (c :: rest) => if c.isInlineBlank then skipInline rest else t
  | _ => t

def skipLine (t : Text) : Text :=
  (t.dropWhile fun c => !c.is '\n').drop 1

def isNameSign (c : CodePoint) : Bool :=
  !c.is '=' && !c.is '#' && !c.isBlank

def readName (t : Text) : Option (Text × Text) :=
  match t with
  | c :: rest =>
    if c.is '\'' then
      match rest.span fun c => !c.is '\'' with
      | (name, _ :: after) => if name.isEmpty then none else some (name, after)
      | (_, []) => none
    else
      let (name, after) := t.span isNameSign
      if name.isEmpty then none else some (name, after)
  | [] => none

/-- Reads up to the quote that ends a value. What follows a backslash goes with it and ends nothing.
-/
def readQuoted (quote : CodePoint) (read : Text) : Text → Option (Text × Text)
  | [] => none
  | c :: rest =>
    if c = quote then some (read.reverse, rest)
    else if c.is '\\' then
      match rest with
      | d :: more => readQuoted quote (d :: c :: read) more
      | [] => none
    else readQuoted quote (c :: read) rest

def singleEscapes : List (Char × CodePoint) :=
  [('\\', CodePoint.ofChar '\\'), ('\'', CodePoint.ofChar '\'')]

def doubleEscapes : List (Char × CodePoint) :=
  singleEscapes ++
    [('"', CodePoint.ofChar '"'), ('a', 0x07), ('b', 0x08), ('f', 0x0C), ('n', 0x0A), ('r', 0x0D),
      ('t', 0x09), ('v', 0x0B)]

/-- Replaces the escapes that are known; any other backslash stands for itself. -/
def unescape (escapes : List (Char × CodePoint)) : Text → Text
  | [] => []
  | c :: rest =>
    if c.is '\\' then
      match rest with
      | d :: more =>
        match escapes.find? fun entry => d.is entry.1 with
        | some entry => entry.2 :: unescape escapes more
        | none => c :: unescape escapes (d :: more)
      | [] => [c]
    else c :: unescape escapes rest

/-- Cuts a comment: white space, a number sign and what follows. -/
def cutComment : Text → Text
  | [] => []
  | c :: rest =>
    let next := rest.dropWhile CodePoint.isBlank
    if c.isBlank && (match next with | d :: _ => d.is '#' | [] => false) then []
    else c :: cutComment rest

/-- Reads a value after its equals sign, in quotes or up to the end of the line. A comment may
follow the equals sign after a blank. -/
def readValue (t : Text) : Option (Text × Text) :=
  match skipInline t with
  | [] => some ([], [])
  | c :: rest =>
    if c.is '\'' then
      (readQuoted c [] rest).map fun (value, rest) => (unescape singleEscapes value, rest)
    else if c.is '"' then
      (readQuoted c [] rest).map fun (value, rest) => (unescape doubleEscapes value, rest)
    else
      let (line, rest) := t.span fun c : CodePoint => !c.is '\n'
      some ((cutComment line).trim CodePoint.isBlank, rest)

/-- Skips a comment, if there is one, and the end of the line, which must follow. -/
def endLine (t : Text) : Option Text :=
  let t := skipInline t
  let t : Text := match t with
    | c :: _ => if c.is '#' then t.dropWhile (fun c => !c.is '\n') else t
    | [] => t
  match t with
  | [] => some []
  | c :: rest => if c.is '\n' then some rest else none

/-- Reads a line that starts with no blank: a binding or only a comment, and the rest. Where the
line cannot be read on, the rest from there is given back instead. -/
def readLine (t : Text) : Except Text (Option Binding × Text) :=
  let t := skipExport t
  let isComment := match t with | c :: _ => c.is '#' | [] => false
  if isComment then .ok (none, skipLine t)
  else
    match readName t with
    | none => .error t
    | some (name, t) =>
      match skipInline t with
      | c :: rest =>
        if c.is '=' then
          match readValue rest with
          | none => .error rest
          | some (value, t) =>
            match endLine t with
            | some t => .ok (some (name, some value), t)
            | none => .error t
        else
          match endLine (c :: rest) with
          | some t => .ok (some (name, none), t)
          | none => .error (c :: rest)
      | [] => .ok (some (name, none), [])

/-- Reads the bindings of a text. Every round passes at least one code point, so as many rounds as
the text has are enough. -/
def readLines : Nat → Text → List Binding
  | 0, _ => []
  | rounds + 1, t =>
    match t.dropWhile CodePoint.isBlank with
    | [] => []
    | c :: rest =>
      match readLine (c :: rest) with
      | .ok (some binding, t) => binding :: readLines rounds t
      | .ok (none, t) => readLines rounds t
      | .error t => readLines rounds (skipLine t)

/-- A reference after its opening brace: the name, the value for want of one, and the rest. -/
def readReference (t : Text) : Option (Text × Text × Text) :=
  let (name, rest) := t.span fun c : CodePoint => !c.is '}' && !c.is ':'
  match rest with
  | c :: rest =>
    if c.is '}' then some (name, [], rest)
    else
      -- A colon is followed by a minus sign and the value for want of one.
      match rest with
      | d :: rest =>
        if d.is '-' then
          match rest.span fun c => !c.is '}' with
          | (default, _ :: rest) => some (name, default, rest)
          | (_, []) => none
        else none
      | [] => none
  | [] => none

/-- Replaces the references of a value. Every round passes a code point. -/
def expandFrom (valueOf? : Text → Option Text) : Nat → Text → Text
  | 0, t => t
  | _, [] => []
  | rounds + 1, c :: rest =>
    let reference :=
      if c.is '$' then
        match rest with
        | d :: more => if d.is '{' then readReference more else none
        | [] => none
      else none
    match reference with
    | some (name, default, rest) => (valueOf? name).getD default ++ expandFrom valueOf? rounds rest
    | none => c :: expandFrom valueOf? rounds rest

def expand (valueOf? : Text → Option Text) (t : Text) : Text :=
  expandFrom valueOf? t.length t

/-- The values of bindings with their references replaced, each by those before it or else by the
environment. Of bindings of one name the last counts, at the place of the first. -/
def resolve (environment : Environment) (bindings : List Binding) : Entries (Option Text) :=
  bindings.foldl (fun values binding =>
    let valueOf? (name : Text) : Option Text :=
      match Entries.get? name values with
      -- A name without a value stands for no text, and hides the environment.
      | some value => some (value.getD [])
      | none => Entries.get? name environment
    Entries.put binding.1 (binding.2.map (expand valueOf?)) values) []

/-- The bindings of a text, less a byte order mark at its start. -/
def bindings (t : Text) : List Binding :=
  let t := match t with | c :: rest => if c.val = 0xFEFF then rest else t | [] => t
  let t := unifyLines t
  readLines (t.length + 1) t

def switchName : Text := "PYTHON_DOTENV_DISABLED"

def switchWords : List Text :=
  ["1", "true", "t", "yes", "y"]

/-- A word in small letters, in which the long s counts as one. -/
def foldWord (t : Text) : Text :=
  t.lower.map fun c => if c.val = 0x17F then CodePoint.ofChar 's' else c

def disabled (environment : Environment) : Bool :=
  (Entries.get? switchName environment).any fun word => switchWords.contains (foldWord word)

def read (environment : Environment) (bytes : Bytes) :
    Except Encoding.Fault (Entries (Option Text)) :=
  match Utf8.decode false 0 bytes with
  | .ok t => .ok (resolve environment (bindings t))
  | .error fault => .error fault

end ClusterHealth.EnvFile
