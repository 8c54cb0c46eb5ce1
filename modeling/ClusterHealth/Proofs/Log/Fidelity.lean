import ClusterHealth.Proofs.Calendar.Spellings
import ClusterHealth.Proofs.Log.Creation
import ClusterHealth.Proofs.Log.Lines

/-!
# What the line of an entry keeps

Whenever the message of an entry can be filled in and its time can be shown, the entry has a line
for a file, without a line break, and a reader of JSON finds in it just what the entry says,
`LogEntry.json_faithful`. The line has a form in UTF-8 only if the entry brings no surrogate.
-/

namespace ClusterHealth

/-! ### Control characters -/

def Text.hasControl (t : Text) : Bool :=
  t.any fun c => c.val < 0x20

theorem Text.hasControl_append (a b : Text) :
    (a ++ b).hasControl = (a.hasControl || b.hasControl) :=
  List.any_append

def Text.OneLine (t : Text) : Prop :=
  ∀ c ∈ t, c.is '\n' = false ∧ c.is '\r' = false

theorem Text.oneLine_of_hasControl {t : Text} (plain : t.hasControl = false) : t.OneLine := by
  intro c member
  have graphic : ¬ c.val < 0x20 := by simpa using List.any_eq_false.mp plain c member
  simp only [CodePoint.is, beq_eq_false_iff_ne]
  constructor
  · rintro feed
    exact graphic (by rw [feed]; decide)
  · rintro back
    exact graphic (by rw [back]; decide)

namespace Json

theorem hasControl_escape (c : CodePoint) : (escape c).hasControl = false := by
  have controls : ∀ n < 0x20, Text.hasControl ("\\u" ++ Text.ofNatPadded 16 4 n) = false := by
    decide
  rw [escape]
  split_ifs with _ _ _ _ _ _ _ small
  · rfl
  · rfl
  · rfl
  · rfl
  · rfl
  · rfl
  · rfl
  · exact controls c.val small
  · simpa [Text.hasControl] using small

theorem hasControl_quote (t : Text) : (quote t).hasControl = false := by
  have inside : Text.hasControl (t.flatMap escape) = false := by
    rw [Text.hasControl, List.any_flatMap, List.any_eq_false]
    intro c _
    rw [Bool.not_eq_true]
    exact hasControl_escape c
  rw [quote, Text.hasControl_append, ← List.singleton_append, Text.hasControl_append, inside]
  rfl

end Json

namespace LogEntry

open Json

theorem hasControl_jsonObject (members : List (Text × Text)) :
    (jsonObject members).hasControl = false := by
  have inside (m : Text × Text) : (member m).hasControl = false := by
    rw [member, Text.hasControl_append, Text.hasControl_append, hasControl_quote, hasControl_quote]
    rfl
  have joined : (Text.join ", " (members.map member)).hasControl = false := by
    rw [Text.hasControl, Text.any_join rfl, List.any_map, List.any_eq_false]
    intro m _
    rw [Bool.not_eq_true]
    exact inside m
  rw [jsonObject_eq, ← List.singleton_append, Text.hasControl_append, Text.hasControl_append,
    joined]
  rfl

/-- What an entry says: its time, its level, its logger, its message and, exactly if it has one, its
exception. -/
def said (entry : LogEntry) (stamp : Timestamp) (text : Text) : List (Text × Json) :=
  let exceptions : List (Text × Json) :=
    entry.exception.toList.map fun exception => ("exception", .text exception)
  ("timestamp", .text stamp.writeLong) :: ("level", .text entry.level.name) ::
    ("logger", .text entry.logger) :: ("message", .text text) :: exceptions

theorem asJson_members (entry : LogEntry) (stamp : Timestamp) (text : Text) :
    asJson (entry.members stamp text) = entry.said stamp text := by
  rw [members, said]
  cases entry.exception <;> rfl

/-- No text that the entry brings, filled in as the given one, holds a surrogate. -/
def Plain (entry : LogEntry) (text : Text) : Prop :=
  entry.logger.hasSurrogate = false ∧ text.hasSurrogate = false ∧
    ∀ exception ∈ entry.exception, exception.hasSurrogate = false

variable {entry : LogEntry} {text line : Text}

theorem plain_iff {stamp : Timestamp} :
    (jsonObject (entry.members stamp text)).hasSurrogate = false ↔ entry.Plain text := by
  rw [hasSurrogate_members, Bool.or_eq_false_iff, Bool.or_eq_false_iff, and_assoc, Plain]
  cases entry.exception <;> simp

/-- An entry of the calendar whose message is filled in has a line for a file. It is one line that
says just what the entry does, and UTF-8 can hold it exactly if the entry brings no surrogate. -/
theorem json_faithful (filled : entry.text = .ok text) :
    (InCalendar entry.created → ∃ line, entry.json = .ok line) ∧
      ∀ line, entry.json = .ok line → line.OneLine ∧ (line.Encodable ↔ entry.Plain text) ∧
        ∃ stamp, Near entry.created stamp ∧ Timestamp.ofText stamp.writeLong = .ok stamp ∧
          Json.readUnmarked .lenient line = .ok (.object (entry.said stamp text)) := by
  constructor
  · intro within
    obtain ⟨stamp, dated⟩ := preciseTime_inCalendar within
    exact ⟨_, json_iff.mpr ⟨stamp, text, dated, filled, rfl⟩⟩
  · intro line written
    obtain ⟨stamp, other, dated, same, rfl⟩ := json_iff.mp written
    obtain rfl := Except.ok.inj (filled.symm.trans same)
    obtain ⟨valid, near⟩ := preciseTime_near dated
    have read : Json.readUnmarked .lenient (jsonObject (entry.members stamp text)) =
        .ok (.object (asJson (entry.members stamp text))) :=
      readUnmarked_jsonObject (by decide) _ _ (members_distinct entry stamp text)
    refine ⟨Text.oneLine_of_hasControl (hasControl_jsonObject _), ?_, stamp, near,
      Timestamp.ofText_writeLong valid near.1, ?_⟩
    · rw [Text.encodable_iff, plain_iff]
    · rw [read, asJson_members]

theorem inCalendar_zero : InCalendar .zero := by
  have unit := Int.natCast_nonneg Magnitude.one
  refine ⟨0, rfl, Int.mul_nonpos_of_nonpos_of_nonneg (by decide) unit, ?_⟩
  rw [Int.zero_mul]
  exact Int.mul_nonneg (by decide) unit

/-- A line feed, a quote and a letter outside ASCII, in an entry made at the start of 1970. -/
theorem json_faithful_quoted :
    let entry : LogEntry := ⟨.zero, .warning, "healthinfo", "a\n\"%s\"", [.text "\u00e9"],
      some "ValueError: b"⟩
    let line : Text := Text.ofString "\x7b\"timestamp\": \"1970-01-01T00:00:00+00:00\", " ++
      "\"level\": \"WARNING\", \"logger\": \"healthinfo\", " ++
      "\"message\": \"a\\n\\\"\u00e9\\\"\", \"exception\": \"ValueError: b\"\x7d"
    InCalendar entry.created ∧ entry.json = .ok line ∧ line.OneLine ∧ line.Encodable ∧
      ∃ stamp, Near entry.created stamp ∧ Timestamp.ofText stamp.writeLong = .ok stamp ∧
        Json.readUnmarked .lenient line =
          .ok (.object (entry.said stamp "a\n\"\u00e9\"")) := by
  intro entry line
  have filled : entry.text = .ok "a\n\"\u00e9\"" := by decide +kernel
  have written : entry.json = .ok line := by decide +kernel
  have plain : entry.Plain "a\n\"\u00e9\"" := ⟨rfl, rfl, by rintro _ ⟨⟩; rfl⟩
  obtain ⟨one, encodable, told⟩ := (json_faithful filled).2 line written
  exact ⟨inCalendar_zero, written, one, encodable.mpr plain, told⟩

/-- A message that is a surrogate is filled in and has a line, which no bytes of UTF-8 say. -/
theorem not_json_encodable :
    let entry : LogEntry := ⟨.zero, .info, "healthinfo", [CodePoint.ofNat 0xD800], [], none⟩
    entry.text = .ok [CodePoint.ofNat 0xD800] ∧
      ∃ line, entry.json = .ok line ∧ ¬ line.Encodable := by
  intro entry
  have filled : entry.text = .ok [CodePoint.ofNat 0xD800] := by decide +kernel
  have written : ∃ line, entry.json = .ok line ∧ line.hasSurrogate = true := by
    refine ⟨_, json_iff.mpr ⟨⟨⟨1970, 1, 1⟩, 0, 0, 0, 0, 0⟩, _, ?_, filled, rfl⟩, ?_⟩
    all_goals decide +kernel
  obtain ⟨line, written, surrogate⟩ := written
  refine ⟨filled, line, written, fun encodable => ?_⟩
  rw [Text.encodable_iff, surrogate] at encodable
  cases encodable

end LogEntry

end ClusterHealth
