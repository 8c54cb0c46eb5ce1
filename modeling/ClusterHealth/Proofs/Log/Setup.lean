import ClusterHealth.Log.Logger
import ClusterHealth.Proofs.Log.Rotation

/-!
# Setting the logger up

A set-up goes one of five ways, `goes_of_setUp`. Handlers come in their order and at the level of
the logger, `Goes.inOrder`, and what stands on the console plays no part, `setUp_quiet`. A file that
is opened in a vacant directory is empty and has no backups, `Opening.fresh`.
-/

namespace ClusterHealth.Logging

variable {setup : LogSetup} {logging later : Logging} {files left : FileTree}
  {outcome : Except Fault Unit}

/-- The logger apart from what is on the console. -/
def quiet (logging : Logging) : Logging :=
  { logging with console := [] }

/-- The logger is as before any set-up, whatever is on the console. -/
def Clean (logging : Logging) : Prop :=
  logging.quiet = initial

def started (level : Level) (logging : Logging) : Logging :=
  { logging with level := level, handlers := logging.handlers ++ [.console level], done := true }

theorem clean_iff : logging.Clean ↔
    logging.level = .unset ∧ logging.handlers = [] ∧ logging.done = false := by
  simp [Clean, quiet, initial]

theorem reset_clean (logging : Logging) : logging.reset.Clean :=
  rfl

/-! ### The ways of a set-up -/

/-- How a set-up goes, and what it leaves of the logger and of the files. -/
inductive Goes (setup : LogSetup) (logging : Logging) (files : FileTree) :
    Except Fault Unit → Logging → FileTree → Prop
  /-- Nothing happens again. -/
  | again (done : logging.done = true) : Goes setup logging files (.ok ()) logging files
  | unresolved {fault : Fault} (fresh : logging.done = false)
      (unknown : resolve setup.level = .error fault) :
      Goes setup logging files (.error fault) { logging with done := true } files
  | console {level : Level} (fresh : logging.done = false)
      (resolved : resolve setup.level = .ok level) (nowhere : setup.directory = none) :
      Goes setup logging files (.ok ()) (logging.started level) files
  | refused {level : Level} {directory : Location} {fault : FileFault} {left : FileTree}
      (fresh : logging.done = false) (resolved : resolve setup.level = .ok level)
      (given : setup.directory = some directory)
      (closed : openFileIn setup directory files = (left, .error fault)) :
      Goes setup logging files (.error (.files fault)) (logging.started level) left
  | opened {level : Level} {directory : Location} {file : RotatingFile} {left : FileTree}
      (fresh : logging.done = false) (resolved : resolve setup.level = .ok level)
      (given : setup.directory = some directory)
      (opens : openFileIn setup directory files = (left, .ok file)) :
      Goes setup logging files (.ok ()) ((logging.started level).addHandler (.file level file)) left

theorem goes_of_setUp (went : logging.setUp setup files = (outcome, later, left)) :
    Goes setup logging files outcome later left := by
  rw [setUp] at went
  split at went
  · rename_i done
    cases went
    exact .again done
  · rename_i fresh
    rw [Bool.not_eq_true] at fresh
    dsimp only at went
    split at went
    · rename_i unknown
      cases went
      exact .unresolved fresh unknown
    · rename_i resolved
      split at went
      · rename_i nowhere
        cases went
        exact .console fresh resolved nowhere
      · rename_i given
        split at went
        · rename_i closed
          cases went
          exact .refused fresh resolved given closed
        · rename_i opens
          cases went
          exact .opened fresh resolved given opens

theorem setUp_done (done : logging.done = true) :
    logging.setUp setup files = (.ok (), logging, files) := by
  rw [setUp, if_pos done]

/-- What is on the console plays no part. -/
theorem setUp_quiet (setup : LogSetup) (files : FileTree) {other : Logging}
    (same : logging.quiet = other.quiet) :
    (logging.setUp setup files).1 = (other.setUp setup files).1 ∧
      (logging.setUp setup files).2.1.quiet = (other.setUp setup files).2.1.quiet ∧
      (logging.setUp setup files).2.2 = (other.setUp setup files).2.2 := by
  obtain ⟨level, handlers, done, console⟩ := logging
  obtain ⟨_, _, _, other⟩ := other
  simp only [quiet, Logging.mk.injEq, and_true] at same
  obtain ⟨rfl, rfl, rfl⟩ := same
  rw [setUp, setUp]
  cases done with
  | true => exact ⟨rfl, rfl, rfl⟩
  | false =>
    cases resolve setup.level with
    | error fault => exact ⟨rfl, rfl, rfl⟩
    | ok level =>
      cases setup.directory with
      | none => exact ⟨rfl, rfl, rfl⟩
      | some directory =>
        simp only [Bool.false_eq_true, if_false]
        obtain ⟨left, fault | file⟩ := openFileIn setup directory files <;> exact ⟨rfl, rfl, rfl⟩

/-! ### Entries -/

theorem handle_quiet (entry : LogEntry) (state : Logging × FileTree) (handler : LogHandler) :
    (handle entry state handler).1.quiet = state.1.quiet := by
  obtain ⟨logging, files⟩ := state
  rw [handle.eq_def]
  dsimp only
  split
  · rfl
  · cases handler with
    | console level => cases entry.plain <;> rfl
    | file level file => cases entry.json <;> rfl

theorem log_quiet (entry : LogEntry) (files : FileTree) :
    (logging.log entry files).1.quiet = logging.quiet := by
  have all (handlers : List LogHandler) (state : Logging × FileTree) :
      (handlers.foldl (handle entry) state).1.quiet = state.1.quiet := by
    induction handlers generalizing state with
    | nil => rfl
    | cons handler handlers ih => rw [List.foldl_cons, ih, handle_quiet]
  rw [log]
  split
  · exact all logging.handlers (logging, files)
  · rfl

/-! ### Handlers -/

/-- There is at most one console, then at most one file, each at the level of the logger; and there
is nothing unless the logger counts as set up. -/
structure InOrder (logging : Logging) : Prop where
  handlers : logging.handlers = [] ∨ logging.handlers = [.console logging.level] ∨
    ∃ file, logging.handlers = [.console logging.level, .file logging.level file]
  undone : logging.done = false → logging.Clean

theorem Clean.inOrder (clean : logging.Clean) : logging.InOrder :=
  ⟨.inl (clean_iff.mp clean).2.1, fun _ => clean⟩

theorem inOrder_congr {other : Logging} (same : logging.quiet = other.quiet) :
    logging.InOrder ↔ other.InOrder := by
  have quiet (logging : Logging) : logging.quiet.InOrder ↔ logging.InOrder :=
    ⟨fun h => ⟨h.handlers, h.undone⟩, fun h => ⟨h.handlers, h.undone⟩⟩
  rw [← quiet, same, quiet]

theorem Goes.inOrder (went : Goes setup logging files outcome later left)
    (inOrder : logging.InOrder) : later.InOrder := by
  have bare (fresh : logging.done = false) : logging.handlers = [] :=
    (clean_iff.mp (inOrder.undone fresh)).2.1
  cases went with
  | again => exact inOrder
  | unresolved fresh => exact ⟨.inl (bare fresh), nofun⟩
  | console fresh | refused fresh =>
    exact ⟨.inr (.inl (by rw [started, bare fresh]; rfl)), nofun⟩
  | opened fresh =>
    exact ⟨.inr (.inr ⟨_, by rw [addHandler, started, bare fresh]; rfl⟩), nofun⟩

/-! ### The file -/

/-- Nothing stands in the directory of the file, once it is made. -/
def Vacant (directory : Location) (files : FileTree) : Prop :=
  ∀ there, (files.makeDirectory directory).1.resolve (directory.child fileName) =
    .ok (there ++ [fileName]) →
      ∀ name, (files.makeDirectory directory).1.node? (there ++ [name]) = none

/-- The file that a set-up opens, and the files that it leaves. -/
structure Opening (setup : LogSetup) (directory : Location) (files : FileTree) (file : RotatingFile)
    (left : FileTree) : Prop where
  name : file.name = fileName
  maxBytes : file.maxBytes = setup.maxBytes
  backups : file.backups = setup.backups.toNat
  resolved : (files.makeDirectory directory).1.resolve (directory.child fileName) = .ok file.base
  left : left = (files.makeDirectory directory).1.append file.base []

theorem opening_of_openFileIn {directory : Location} {file : RotatingFile}
    (opens : openFileIn setup directory files = (left, .ok file)) :
    Opening setup directory files file left := by
  rw [openFileIn] at opens
  split at opens
  · rename_i made success
    rw [openFile] at opens
    split at opens
    · cases opens
    · rename_i names resolved
      split at opens
      · cases opens
      · cases opens
        obtain ⟨there, rfl⟩ := FileTree.resolve_child (by decide) resolved
        have base : (there ++ [fileName]).dropLast ++ [fileName] = there ++ [fileName] := by
          rw [List.dropLast_concat]
        refine ⟨rfl, rfl, rfl, ?_, ?_⟩
        · rw [success, RotatingFile.base, base, resolved]
        · rw [success, RotatingFile.base, base]
  · cases opens

variable {directory : Location} {file : RotatingFile}

/-- The file that is opened in a vacant directory is empty, and no backup of it is there. -/
theorem Opening.fresh (opening : Opening setup directory files file left)
    (vacant : Vacant directory files) : file.read left = [] ∧ file.Used 0 left := by
  have base : file.base = file.directory ++ [fileName] := by
    rw [RotatingFile.base, opening.name]
  have none (n : Nat) : (files.makeDirectory directory).1.node? (file.part n) = none := by
    have free := vacant file.directory (base ▸ opening.resolved)
    cases n <;> exact free _
  have content (n : Nat) :
      ((files.makeDirectory directory).1.content? (file.part n)).getD [] = [] := by
    rw [FileTree.content?, none]
    rfl
  constructor
  · rw [opening.left, RotatingFile.read_append, RotatingFile.read, List.append_nil,
      List.flatMap_eq_nil_iff]
    exact fun n _ => content n
  · intro n positive _
    rw [opening.left, FileTree.append, show file.base = file.part 0 from rfl,
      RotatingFile.node?_put_part, if_neg (by omega), none]

/-- A directory on a way without steps back is vacant if nothing stands in it beforehand. -/
theorem vacant_of_straight (straight : FileTree.Straight directory)
    (empty : ∀ name, files.node? (FileTree.start directory ++ directory.names ++ [name]) = none) :
    Vacant directory files := by
  intro there resolved name
  have straight_child : FileTree.Straight (directory.child fileName) := by
    rw [FileTree.Straight, Location.child, List.mem_append, List.mem_singleton, not_or]
    exact ⟨straight, by decide⟩
  -- A way such as `x/..` would leave an `x` in the directory that it makes.
  have found := FileTree.resolve_straight straight_child resolved
  have here : there = FileTree.start directory ++ directory.names := by
    rw [Location.child, ← List.append_assoc] at found
    exact List.append_cancel_right found
  have below : (FileTree.start directory ++ directory.names).length <
      (FileTree.start directory ++ directory.names ++ [name]).length := by simp
  rw [here, FileTree.node?_makeDirectory straight below, empty]

end ClusterHealth.Logging
