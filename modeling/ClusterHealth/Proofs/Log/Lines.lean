import ClusterHealth.Log.Entry
import ClusterHealth.Proofs.Json.Lines
import ClusterHealth.Proofs.Text.Utf8

/-!
# The lines of entries

The line that an entry has for a file is one line, and a reader of JSON finds in it what the entry
is about, `json_tells`. Only an entry that brings no surrogate has a line that a file takes,
`writable_iff`.
-/

namespace ClusterHealth

/-! ### Objects of texts -/

theorem Text.any_join {test : CodePoint → Bool} {separator : Text}
    (none : separator.any test = false) (pieces : List Text) :
    (join separator pieces).any test = pieces.any fun piece => piece.any test := by
  induction pieces with
  | nil => rfl
  | cons piece pieces ih =>
    cases pieces with
    | nil => rw [join, List.intercalate_singleton, List.any_cons, List.any_nil, Bool.or_false]
    | cons next pieces =>
      rw [join] at ih ⊢
      rw [List.intercalate_cons_cons, List.any_append, List.any_append, none, Bool.or_false, ih]
      rfl

namespace LogEntry

open Json

theorem blank_space : Blank [CodePoint.ofChar ' '] :=
  List.forall_mem_singleton.mpr rfl

def member (m : Text × Text) : Text :=
  quote m.1 ++ ": " ++ quote m.2

theorem jsonObject_eq (members : List (Text × Text)) :
    jsonObject members = CodePoint.ofChar '{' :: (Text.join ", " (members.map member) ++
      [CodePoint.ofChar '}']) :=
  rfl

theorem hasSurrogate_jsonObject (members : List (Text × Text)) : (jsonObject members).hasSurrogate =
    members.any fun m => m.1.hasSurrogate || m.2.hasSurrogate := by
  have marks : (CodePoint.ofChar '{').isSurrogate = false ∧
      Text.hasSurrogate [CodePoint.ofChar '}'] = false := ⟨rfl, rfl⟩
  have inside (m : Text × Text) : (member m).hasSurrogate =
      (m.1.hasSurrogate || m.2.hasSurrogate) := by
    rw [member, Text.hasSurrogate_append, Text.hasSurrogate_append, hasSurrogate_quote,
      hasSurrogate_quote, Text.hasSurrogate_ofString, Bool.or_false]
  rw [jsonObject_eq, Text.hasSurrogate_cons, Text.hasSurrogate_append, marks.1, marks.2,
    Bool.false_or, Bool.or_false, Text.hasSurrogate, Text.any_join rfl, List.any_map]
  exact congrArg members.any (funext inside)

theorem jsonObject_unbroken (members : List (Text × Text)) : Unbroken (jsonObject members) := by
  have inside (m : Text × Text) : Unbroken (member m) := by
    rw [member, unbroken_append, unbroken_append]
    exact ⟨⟨quote_unbroken m.1, by decide⟩, quote_unbroken m.2⟩
  have joined : Unbroken (Text.join ", " (members.map member)) := by
    have none : (Text.join ", " (members.map member)).any (·.is '\n') = false := by
      rw [Text.any_join rfl, List.any_map, List.any_eq_false]
      intro m _
      rw [Function.comp_apply, List.any_eq_true]
      rintro ⟨c, member, feed⟩
      exact Bool.false_ne_true ((inside m c member).symm.trans feed)
    intro c member
    exact Bool.eq_false_iff.mpr (List.any_eq_false.mp none c member)
  rw [jsonObject_eq]
  exact List.forall_mem_cons.mpr ⟨rfl, unbroken_append.mpr ⟨joined, by decide⟩⟩

def asJson (members : List (Text × Text)) : List (Text × Json) :=
  members.map fun m => (m.1, .text m.2)

theorem join_member (m next : Text × Text) (members : List (Text × Text)) :
    Text.join ", " ((m :: next :: members).map member) =
      member m ++ ", " ++ Text.join ", " ((next :: members).map member) :=
  List.intercalate_cons_cons ..

theorem join_startsValue (m : Text × Text) (members : List (Text × Text)) (rest : Text) :
    StartsValue (Text.join ", " ((m :: members).map member) ++ rest) := by
  cases members with
  | nil =>
    rw [List.map_singleton, Text.join, List.intercalate_singleton, member, List.append_assoc,
      List.append_assoc]
    exact startsValue_quote m.1 _
  | cons next members =>
    rw [join_member, member, List.append_assoc, List.append_assoc, List.append_assoc,
      List.append_assoc]
    exact startsValue_quote m.1 _

theorem join_stands (rules : Rules) (depth : Nat) (m : Text × Text) (members : List (Text × Text))
    (rest : Text) : MembersAt rules depth
      (Text.join ", " ((m :: members).map member) ++ CodePoint.ofChar '}' :: rest)
        (asJson (m :: members)) rest := by
  induction members generalizing m with
  | nil =>
    have shape : member m ++ CodePoint.ofChar '}' :: rest =
        quote m.1 ++ CodePoint.ofChar ':' :: ([CodePoint.ofChar ' '] ++
          (quote m.2 ++ CodePoint.ofChar '}' :: rest)) := by
      simp [member, Text.ofString]
    rw [List.map_singleton, Text.join, List.intercalate_singleton, shape]
    exact .last (.quoted blank_space (startsValue_quote m.2 _) (.quoted m.2 _))
      (skipBlank_mark blank_nil '}' rest rfl)
  | cons next members ih =>
    have shape : member m ++ ", " ++ Text.join ", " ((next :: members).map member) ++
        CodePoint.ofChar '}' :: rest =
          quote m.1 ++ CodePoint.ofChar ':' :: ([CodePoint.ofChar ' '] ++
            (quote m.2 ++ CodePoint.ofChar ',' :: ([CodePoint.ofChar ' '] ++
              (Text.join ", " ((next :: members).map member) ++
                CodePoint.ofChar '}' :: rest)))) := by
      simp [member, Text.ofString]
    rw [join_member, shape]
    refine .next (.quoted blank_space (startsValue_quote m.2 _) (.quoted m.2 _))
      (skipBlank_mark blank_nil ',' _ rfl) ?_
    rw [skipBlank_gap blank_space (join_startsValue next members _)]
    exact ih next

/-- An object of texts under distinct names is read back. -/
theorem readUnmarked_jsonObject {rules : Rules} (nests : 0 < rules.depth) (m : Text × Text)
    (members : List (Text × Text)) (distinct : Entries.Distinct (asJson (m :: members))) :
    readUnmarked rules (jsonObject (m :: members)) = .ok (.object (asJson (m :: members))) := by
  obtain ⟨depth, deep⟩ : ∃ d, rules.depth = d + 1 := ⟨rules.depth - 1, by omega⟩
  have unblank : skipBlank (jsonObject (m :: members)) = jsonObject (m :: members) :=
    skipBlank_mark blank_nil '{' _ rfl
  have inside := join_stands rules depth m members []
  rw [← skipBlank_of_startsValue (join_startsValue m members [CodePoint.ofChar '}'])] at inside
  have object := ValueAt.object inside
  rw [Entries.ofList_of_distinct distinct, ← jsonObject_eq, ← deep] at object
  refine readUnmarked_iff.mpr (read_iff.mpr ⟨[], ?_, rfl⟩)
  rwa [unblank]

/-! ### Entries -/

theorem name_plain (level : Level) : level.name.hasSurrogate = false := by
  have known : ∀ entry ∈ Level.names, entry.1.hasSurrogate = false := by decide
  have digits (n : Nat) : (Text.ofNat n).hasSurrogate = false :=
    Text.hasSurrogate_digits fun _ member => Text.isDigit_of_mem_ofNat member
  rw [Level.name]
  split
  · rename_i entry found
    exact known entry (List.mem_of_find?_eq_some found)
  · rw [Text.hasSurrogate_append, Text.hasSurrogate_ofString, Bool.false_or]
    cases level with
    | ofNat n => exact digits n
    | negSucc n => rw [Text.ofInt, Text.hasSurrogate_cons, digits]; rfl

theorem writeLong_plain (stamp : Timestamp) : stamp.writeLong.hasSurrogate = false := by
  have digits (width n : Nat) : (Text.ofNatPadded 10 width n).hasSurrogate = false :=
    Text.hasSurrogate_digits fun _ member => Text.isDigit_of_mem_ofNatPadded member
  rw [Timestamp.writeLong, Timestamp.writeLocal, Timestamp.writeDate, Timestamp.writeClock,
    Timestamp.writeOffset]
  split_ifs <;> simp [digits]

theorem json_iff {entry : LogEntry} {line : Text} : entry.json = .ok line ↔
    ∃ stamp text, preciseTime entry.created = .ok stamp ∧ entry.text = .ok text ∧
      jsonObject (entry.members stamp text) = line := by
  rw [json]
  cases preciseTime entry.created with
  | error fault => simp [bind, Except.bind]
  | ok stamp =>
    cases entry.text with
    | error fault => simp [bind, Except.bind]
    | ok text => simp [bind, Except.bind, pure, Except.pure]

theorem json_unbroken {entry : LogEntry} {line : Text} (written : entry.json = .ok line) :
    Unbroken line := by
  obtain ⟨stamp, text, -, -, rfl⟩ := json_iff.mp written
  exact jsonObject_unbroken _

theorem members_distinct (entry : LogEntry) (stamp : Timestamp) (text : Text) :
    Entries.Distinct (asJson (entry.members stamp text)) := by
  have names : ∀ names ∈ [["timestamp", "level", "logger", "message"],
      ["timestamp", "level", "logger", "message", "exception"]],
      (names.map Text.ofString).Nodup := by decide
  rw [members]
  cases entry.exception with
  | none => exact names _ List.mem_cons_self
  | some exception => exact names _ (List.mem_cons_of_mem _ List.mem_cons_self)

/-- A line is a JSON object that says of an entry its level, its logger, its message and, exactly if
it has one, its exception. -/
def Tells (entry : LogEntry) (line : Text) : Prop :=
  ∃ json text, Json.readUnmarked .lenient line = .ok json ∧ entry.text = .ok text ∧
    json.get? "level" = some (.text entry.level.name) ∧
    json.get? "logger" = some (.text entry.logger) ∧
    json.get? "message" = some (.text text) ∧
    json.get? "exception" = entry.exception.map .text

theorem json_tells {entry : LogEntry} {line : Text} (written : entry.json = .ok line) :
    Tells entry line := by
  obtain ⟨stamp, text, -, filled, rfl⟩ := json_iff.mp written
  have distinct := members_distinct entry stamp text
  refine ⟨_, text, readUnmarked_jsonObject (by decide) _ _ distinct, filled, ?_⟩
  cases entry.exception with
  | none => exact ⟨rfl, rfl, rfl, rfl⟩
  | some exception => exact ⟨rfl, rfl, rfl, rfl⟩

theorem hasSurrogate_members (entry : LogEntry) (stamp : Timestamp) (text : Text) :
    (jsonObject (entry.members stamp text)).hasSurrogate =
      (entry.logger.hasSurrogate || text.hasSurrogate ||
        entry.exception.any Text.hasSurrogate) := by
  rw [hasSurrogate_jsonObject, members]
  cases entry.exception <;> simp [name_plain, writeLong_plain, Bool.or_assoc]

/-- Whether a file takes a line of the entry: a clock can show its time, its message is filled in,
and none of its texts holds a surrogate. -/
def writable (entry : LogEntry) : Bool :=
  match preciseTime entry.created, entry.text with
  | .ok _, .ok text =>
    !entry.logger.hasSurrogate && !text.hasSurrogate && !entry.exception.any Text.hasSurrogate
  | _, _ => false

theorem writable_iff {entry : LogEntry} : entry.writable = true ↔
    ∃ line, entry.json = .ok line ∧ line.hasSurrogate = false := by
  rw [writable, json]
  cases preciseTime entry.created with
  | error fault => simp [bind, Except.bind]
  | ok stamp =>
    cases entry.text with
    | error fault => simp [bind, Except.bind]
    | ok text => simp [bind, Except.bind, pure, Except.pure, hasSurrogate_members]

end LogEntry

/-! ### Texts of several lines -/

theorem Json.lines_ended {texts : List Text} (unbroken : ∀ t ∈ texts, Unbroken t) :
    lines (texts.flatMap fun t => (t ++ "\n" : Text)) = texts ++ [[]] := by
  induction texts with
  | nil => rfl
  | cons t texts ih =>
    obtain ⟨first, others⟩ := List.forall_mem_cons.mp unbroken
    have ended : (t ++ "\n" : Text) ++ texts.flatMap (fun t => (t ++ "\n" : Text)) =
        t ++ CodePoint.ofChar '\n' :: texts.flatMap (fun t => (t ++ "\n" : Text)) := by
      rw [List.append_assoc]
      rfl
    have feed : (CodePoint.ofChar '\n').is '\n' = true := rfl
    rw [List.flatMap_cons, ended, lines_append first, lines_cons, if_pos feed, ih others,
      List.modifyHead_cons, List.append_nil]
    rfl

theorem Utf8.decode_ended {texts : List Text} (plain : ∀ t ∈ texts, t.hasSurrogate = false) :
    decode false 0 (texts.flatMap fun t => encode (t ++ "\n")) =
      .ok (texts.flatMap fun t => (t ++ "\n" : Text)) := by
  have joined : texts.flatMap (fun t => encode (t ++ "\n")) =
      encode (texts.flatMap fun t => (t ++ "\n" : Text)) :=
    List.flatMap_assoc.symm
  rw [joined]
  refine decode_encode (fun c member => .inr ?_) 0
  obtain ⟨t, found, inside⟩ := List.mem_flatMap.mp member
  rcases List.mem_append.mp inside with text | feed
  · exact Bool.eq_false_iff.mpr (List.any_eq_false.mp (plain t found) c text)
  · rw [List.mem_singleton.mp feed]
    rfl

end ClusterHealth
