import ClusterHealth.Files.Tree
import ClusterHealth.Text.Encoding.Utf8

/-!
# Rotating files

A file that grows line by line up to a size. A line that would reach the size starts the file anew:
the file becomes the first backup, each backup the next, and the last is dropped. Without backups
the file simply goes on.
-/

namespace ClusterHealth

/-- A file, given by the plain names of its directory and its own, with its size in bytes and its
number of backups. A size that is not positive is no limit. -/
structure RotatingFile where
  directory : List Text
  name : Text
  maxBytes : Int
  backups : Nat
  deriving DecidableEq, Repr

namespace RotatingFile

def base (f : RotatingFile) : List Text :=
  f.directory ++ [f.name]

/-- The plain names of a backup; the first is the youngest. -/
def backup (f : RotatingFile) (n : Nat) : List Text :=
  f.directory ++ [f.name ++ "." ++ Text.ofNat n]

def size (f : RotatingFile) (tree : FileTree) : Nat :=
  ((tree.content? f.base).getD []).length

/-- Whether a line of so many characters, with its end, reaches the limit. -/
def reaches (f : RotatingFile) (characters : Nat) (tree : FileTree) : Bool :=
  0 < f.maxBytes && f.maxBytes ≤ (f.size tree + characters : Nat)

/-- Gives each backup up to the given one the next number, from the oldest on. -/
def shift (f : RotatingFile) : Nat → FileTree → FileTree
  | 0, tree => tree
  | n + 1, tree => shift f n (tree.rename (f.backup (n + 1)) (f.backup (n + 2)))

def rotate (f : RotatingFile) (tree : FileTree) : FileTree :=
  if f.backups = 0 then tree
  else ((f.shift (f.backups - 1) tree).rename f.base (f.backup 1)).put f.base (.file [])

/-- Writes a line. A line with a surrogate may start the file anew, but has no bytes. -/
def write (f : RotatingFile) (line : Text) (tree : FileTree) : FileTree :=
  let tree := if f.reaches (line.length + 1) tree then f.rotate tree else tree
  if line.hasSurrogate then tree
  else tree.append f.base (Utf8.encode (line ++ "\n"))

end RotatingFile

end ClusterHealth
