import ClusterHealth.Text.Upper

/-!
# Levels

How grave a log entry is, as a number. Some numbers have names.
-/

namespace ClusterHealth

abbrev Level := Int

namespace Level

def unset : Level := 0

def debug : Level := 10

def info : Level := 20

def warning : Level := 30

def error : Level := 40

/-- The names of levels; a level is shown under the first of its names. -/
def names : List (Text × Level) :=
  [("CRITICAL", 50), ("FATAL", 50), ("ERROR", error), ("WARNING", warning), ("WARN", warning),
    ("INFO", info), ("DEBUG", debug), ("NOTSET", unset)]

/-- The level of a name in capitals. -/
def ofName? (name : Text) : Option Level :=
  names.lookup name

/-- The name of a level, made up from its number if it has none. -/
def name (level : Level) : Text :=
  match names.find? fun entry => entry.2 == level with
  | some entry => entry.1
  | none => "Level " ++ Text.ofInt level

end Level

end ClusterHealth
