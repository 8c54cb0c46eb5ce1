import ClusterHealth.Proofs.Log.Lines
import ClusterHealth.Proofs.Session.Runs
import Mathlib.Data.List.Forall2

/-!
# The journal in the log files

After a set-up with a directory, the backups and the file together hold one line for each entry that
the logger has taken and that has a line without a surrogate, in the order in which the entries
came, and nothing else, `Session.journal`.
-/

namespace ClusterHealth

def LogEntry.taken (level : Level) (entry : LogEntry) : Bool :=
  Logging.owns entry.logger && decide (level ≤ entry.level)

def LogEntry.lines (entries : List LogEntry) : List Text :=
  entries.filterMap fun entry => entry.json.toOption

namespace Operation

/-- Whether the operation logs, sets the logger up or lets time pass. -/
def journals : Operation → Bool
  | log .. | setUpLogging _ | wait _ => true
  | _ => false

/-- The entry that the operation hands to the logger. -/
def entry? (s : Session) : Operation → Option LogEntry
  | log name level message arguments exception =>
    some ⟨s.clock, level, name, message, arguments, exception⟩
  | _ => none

end Operation

/-- The entries that operations one after another hand to the logger. -/
def Session.entries : List Operation → Session → List LogEntry
  | [], _ => []
  | op :: ops, s => (op.entry? s).toList ++ entries ops (op.after s)

/-! ### What entries leave in the files -/

namespace Logging

variable {logging : Logging} {level : Level} {file : RotatingFile}

/-- The logger writes to a console and a file from a level on. -/
structure Writes (logging : Logging) (level : Level) (file : RotatingFile) : Prop where
  least : logging.level = level
  handlers : logging.handlers = [.console level, .file level file]
  done : logging.done = true
  set : .unset < level

theorem Writes.congr {other : Logging} (same : other.quiet = logging.quiet)
    (writes : logging.Writes level file) : other.Writes level file := by
  obtain ⟨least, handlers, done, set⟩ := writes
  exact ⟨(congrArg Logging.level same).trans least,
    (congrArg Logging.handlers same).trans handlers, (congrArg Logging.done same).trans done, set⟩

theorem Writes.enabled (writes : logging.Writes level file) (entry : LogEntry) :
    (owns entry.logger && logging.enabled entry.logger entry.level) = entry.taken level := by
  have leveled : (logging.level != .unset) = true := by
    rw [writes.least, bne_iff_ne]
    exact Int.ne_of_gt writes.set
  rw [LogEntry.taken, Logging.enabled, effectiveLevel, leveled, writes.least]
  cases owns entry.logger with
  | false => rfl
  | true =>
    have above : level ≤ entry.level → Level.unset < entry.level := Int.lt_of_lt_of_le writes.set
    rw [Bool.eq_iff_iff]
    simpa using above

theorem handle_console (entry : LogEntry) (state : Logging × FileTree) :
    (handle entry state (.console level)).2 = state.2 := by
  obtain ⟨logging, files⟩ := state
  rw [handle.eq_def]
  dsimp only
  split
  · rfl
  · cases entry.plain <;> rfl

theorem handle_file {entry : LogEntry} (above : level ≤ entry.level) (state : Logging × FileTree) :
    (handle entry state (.file level file)).2 =
      file.writeAll (LogEntry.lines [entry]) state.2 := by
  obtain ⟨logging, files⟩ := state
  have least : ¬ entry.level < (LogHandler.file level file).level := Int.not_lt.mpr above
  rw [handle.eq_def, LogEntry.lines, List.filterMap_cons]
  dsimp only
  rw [if_neg least]
  cases entry.json <;> rfl

/-- An entry that the logger takes adds its line to the file, if it has one. -/
theorem Writes.log (writes : logging.Writes level file) (entry : LogEntry) (files : FileTree) :
    (logging.log entry files).2 =
      file.writeAll (LogEntry.lines ([entry].filter (LogEntry.taken level))) files := by
  rw [Logging.log, writes.enabled, writes.handlers, List.filter_cons]
  cases took : entry.taken level with
  | false => rfl
  | true =>
    rw [LogEntry.taken, Bool.and_eq_true, decide_eq_true_eq] at took
    rw [if_pos rfl, if_pos rfl, List.foldl_cons, List.foldl_cons, List.foldl_nil,
      handle_file took.2, handle_console]
    rfl

end Logging

section

variable {level : Level} {file : RotatingFile}

theorem LogEntry.lines_append (entries others : List LogEntry) :
    lines (entries ++ others) = lines entries ++ lines others :=
  List.filterMap_append

theorem RotatingFile.writeAll_append (lines others : List Text) (tree : FileTree) :
    file.writeAll (lines ++ others) tree = file.writeAll others (file.writeAll lines tree) :=
  List.foldl_append

theorem Operation.after_journal {op : Operation} (journals : op.journals = true) {s : Session}
    (writes : s.logging.Writes level file) :
    (op.after s).logging.Writes level file ∧
      (op.after s).files = file.writeAll
        (LogEntry.lines ((op.entry? s).toList.filter (LogEntry.taken level))) s.files := by
  cases op with
  | log name level message arguments exception =>
    exact ⟨writes.congr (Call.unlogged_logger name level message arguments exception s),
      writes.log _ s.files⟩
  | setUpLogging setup =>
    rw [after, Call.after_setUpLogging, Logging.setUp_done writes.done]
    exact ⟨writes, rfl⟩
  | wait clock => exact ⟨writes, rfl⟩
  | _ => cases journals

theorem Session.run_journal {ops : List Operation} (journals : ∀ op ∈ ops, op.journals = true)
    {s : Session} (writes : s.logging.Writes level file) :
    (s.run ops).files = file.writeAll
      (LogEntry.lines ((s.entries ops).filter (LogEntry.taken level))) s.files := by
  induction ops generalizing s with
  | nil => rfl
  | cons op ops ih =>
    obtain ⟨first, others⟩ := List.forall_mem_cons.mp journals
    -- The handlers stay those of the first set-up, since every later one does nothing.
    obtain ⟨still, files⟩ := op.after_journal first writes
    have run : s.run (op :: ops) = (op.after s).run ops := rfl
    rw [run, ih others still, files, entries, List.filter_append, LogEntry.lines_append,
      RotatingFile.writeAll_append]

theorem LogEntry.exists_of_mem_lines {entries : List LogEntry} {line : Text}
    (member : line ∈ lines entries) : ∃ entry ∈ entries, entry.json = .ok line := by
  obtain ⟨entry, present, found⟩ := List.mem_filterMap.mp member
  refine ⟨entry, present, ?_⟩
  cases json : entry.json with
  | error fault =>
    rw [json] at found
    cases found
  | ok other =>
    rw [json] at found
    rw [Option.some.inj found]

/-- The lines that a file takes are those of the entries that are fit for one. -/
theorem LogEntry.lines_writable (entries : List LogEntry) :
    List.Forall₂ (fun entry line => entry.json = .ok line ∧ line.hasSurrogate = false)
      (entries.filter writable) ((lines entries).filter fun line => !line.hasSurrogate) := by
  induction entries with
  | nil => exact .nil
  | cons entry entries ih =>
    cases json : entry.json with
    | error fault =>
      have unfit : ¬ entry.writable = true := by
        rw [writable_iff, json]
        exact fun ⟨_, written, _⟩ => nomatch written
      have none : lines (entry :: entries) = lines entries :=
        List.filterMap_cons_none (by rw [json]; rfl)
      rw [none, List.filter_cons_of_neg unfit]
      exact ih
    | ok line =>
      have some : lines (entry :: entries) = line :: lines entries :=
        List.filterMap_cons_some (by rw [json]; rfl)
      have fit : entry.writable = !line.hasSurrogate := by
        rw [Bool.eq_iff_iff, writable_iff]
        simp [json]
      rw [some, List.filter_cons, List.filter_cons, fit]
      cases plain : line.hasSurrogate with
      | true => exact ih
      | false => exact .cons ⟨json, plain⟩ ih

/-- The bytes of the lines that a file takes are a text of just these lines. -/
theorem LogEntry.decode_lines (entries : List LogEntry) :
    let taken := (lines entries).filter fun line => !line.hasSurrogate
    ∃ t, Utf8.decode false 0 (taken.flatMap fun line => Utf8.encode (line ++ "\n")) = .ok t ∧
      Json.lines t = taken ++ [[]] := by
  intro taken
  have plain : ∀ line ∈ taken, line.hasSurrogate = false := by
    intro line member
    simpa using (List.mem_filter.mp member).2
  have unbroken : ∀ line ∈ taken, Json.Unbroken line := by
    intro line member
    obtain ⟨entry, -, written⟩ := exists_of_mem_lines (List.mem_filter.mp member).1
    exact json_unbroken written
  exact ⟨_, Utf8.decode_ended plain, Json.lines_ended unbroken⟩

end

/-! ### The journal -/

namespace Session

variable {s : Session} {setup : LogSetup} {directory : Location} {level : Level}

theorem exists_file (clean : s.logging.Clean) (given : setup.directory = some directory)
    (resolved : Logging.resolve setup.level = .ok level) (set : .unset < level)
    (succeeds : (Call.setUpLogging setup).outcome s = .ok ()) :
    ∃ file, ((Call.setUpLogging setup).after s).logging.Writes level file ∧
      Logging.Opening setup directory s.files file ((Call.setUpLogging setup).after s).files := by
  obtain ⟨-, bare, fresh⟩ := Logging.clean_iff.mp clean
  rw [Call.outcome_setUpLogging] at succeeds
  rw [Call.after_setUpLogging]
  rcases went : s.logging.setUp setup s.files with ⟨outcome, later, left⟩
  rw [went] at succeeds
  cases Logging.goes_of_setUp went with
  | again done => exact absurd (done.symm.trans fresh) (by decide)
  | unresolved | refused => cases succeeds
  | console _ _ nowhere => exact absurd (given.symm.trans nowhere) nofun
  | @opened chosen place file _ _ here there opens =>
    obtain rfl : chosen = level := Except.ok.inj (here.symm.trans resolved)
    obtain rfl : place = directory := Option.some.inj (there.symm.trans given)
    exact ⟨file, ⟨rfl, by rw [Logging.addHandler, Logging.started, bare]; rfl, rfl, set⟩,
      Logging.opening_of_openFileIn opens⟩

/-- The log files hold one line for each entry that is taken and fit for a file, in order. -/
theorem journal (clean : s.logging.Clean) (given : setup.directory = some directory)
    (vacant : Logging.Vacant directory s.files)
    (resolved : Logging.resolve setup.level = .ok level) (set : .unset < level)
    (succeeds : (Call.setUpLogging setup).outcome s = .ok ()) {ops : List Operation}
    (journals : ∀ op ∈ ops, op.journals = true) :
    let start := (Call.setUpLogging setup).after s
    let taken := (start.entries ops).filter (LogEntry.taken level)
    ∃ file : RotatingFile, start.logging.handlers = [.console level, .file level file] ∧
      Logging.Opening setup directory s.files file start.files ∧
      (file.backups = 0 ∨ file.turns (LogEntry.lines taken) start.files ≤ file.backups →
        ∃ t lines, Utf8.decode false 0 (file.read (start.run ops).files) = .ok t ∧
          Json.lines t = lines ++ [[]] ∧
          List.Forall₂ LogEntry.Tells (taken.filter LogEntry.writable) lines ∧
          (List.Forall₂ LogEntry.Tells taken lines ↔ ∀ entry ∈ taken, entry.writable = true)) := by
  intro start taken
  obtain ⟨file, writes, opening⟩ := exists_file clean given resolved set succeeds
  obtain ⟨empty, unused⟩ := opening.fresh vacant
  refine ⟨file, writes.handlers, opening, fun room => ?_⟩
  have held := run_journal journals writes
  obtain ⟨t, decoded, ended⟩ := LogEntry.decode_lines taken
  rw [← List.nil_append (List.flatMap _ _), ← empty,
    ← RotatingFile.read_writeAll _ unused (by rwa [Nat.zero_add]), ← held] at decoded
  have tells := (LogEntry.lines_writable taken).imp fun _ _ fit => LogEntry.json_tells fit.1
  refine ⟨t, _, decoded, ended, tells, ?_, ?_⟩
  · -- Each line tells of some entry in turn, so only the numbers have to agree.
    intro all
    have lengths := tells.length_eq.trans all.length_eq.symm
    exact List.length_filter_eq_length_iff.mp lengths
  · intro fit
    rwa [List.filter_eq_self.mpr fit] at tells

theorem vacant_logs : Logging.Vacant ⟨[], ["logs"]⟩ FileTree.initial :=
  Logging.vacant_of_straight (by decide) fun _ => FileTree.node?_initial (by simp; decide)

/-- The file is started anew once, so one entry is in the backup and one in the file. -/
theorem journal_turned :
    let setup : LogSetup := { directory := some ⟨[], ["logs"]⟩, maxBytes := 150, backups := 1 }
    let start := (Call.setUpLogging setup).after (.initial [] .zero)
    let ops : List Operation := [.log "healthinfo" .info "a" [] none, .setUpLogging {},
      .log "healthinfo.models" .warning "b" [] (some "ValueError")]
    let file : RotatingFile := ⟨["tmp", [], "logs"], "healthinfo.log", 150, 1⟩
    file.turns (LogEntry.lines (start.entries ops)) start.files = 1 ∧
      ∃ t lines, Utf8.decode false 0 (file.read (start.run ops).files) = .ok t ∧
        Json.lines t = lines ++ [[]] ∧ List.Forall₂ LogEntry.Tells (start.entries ops) lines := by
  intro setup start ops file
  have resolved : Logging.resolve setup.level = .ok .info := rfl
  have taken : ∀ entry ∈ start.entries ops, entry.taken .info = true := by decide +kernel
  have fit : ∀ entry ∈ start.entries ops, entry.writable = true := by decide +kernel
  have turns : file.turns (LogEntry.lines (start.entries ops)) start.files = 1 := by decide +kernel
  have journals : ∀ op ∈ ops, op.journals = true := by decide
  obtain ⟨other, handlers, -, holds⟩ :=
    journal (s := .initial [] .zero) rfl rfl vacant_logs resolved (by decide) rfl journals
  obtain rfl : file = other := by
    have same : start.logging.handlers = [.console .info, .file .info file] := rfl
    simpa using same.symm.trans handlers
  rw [List.filter_eq_self.mpr taken] at holds
  obtain ⟨t, lines, decoded, ended, -, every⟩ := holds (.inr (Nat.le_of_eq turns))
  exact ⟨turns, t, lines, decoded, ended, every.mpr fit⟩

/-- An exception whose text holds a surrogate takes its entry out of the file, although the message
is plain. -/
theorem not_journal_surrogate :
    let start := (Call.setUpLogging { directory := some ⟨[], ["logs"]⟩ }).after (.initial [] .zero)
    let ops : List Operation :=
      [.log "healthinfo" .info "a" [] (some ("ValueError: " ++ [CodePoint.ofNat 0xD800])),
        .log "healthinfo" .info "b" [] none]
    let entries := start.entries ops
    let file : RotatingFile :=
      ⟨["tmp", [], "logs"], "healthinfo.log", LogSetup.usualMaxBytes, LogSetup.usualBackups.toNat⟩
    let line : Text := "\x7b\"timestamp\": \"1970-01-01T00:00:00+00:00\", \"level\": \"INFO\", " ++
      Text.ofString "\"logger\": \"healthinfo\", \"message\": \"b\"\x7d"
    start.logging.handlers = [.console .info, .file .info file] ∧
      (∀ entry ∈ entries, entry.taken .info = true) ∧ entries.map (·.text) = [.ok "a", .ok "b"] ∧
      file.turns (LogEntry.lines entries) start.files = 0 ∧
      file.read (start.run ops).files = Utf8.encode (line ++ "\n") ∧
      Json.lines (line ++ "\n") = [line, []] ∧ ¬ List.Forall₂ LogEntry.Tells entries [line] := by
  refine ⟨rfl, ?_, rfl, ?_, ?_, ?_, fun all => absurd all.length_eq (by decide)⟩
  all_goals decide +kernel

end Session

end ClusterHealth
