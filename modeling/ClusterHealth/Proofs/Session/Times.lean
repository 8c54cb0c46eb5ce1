import ClusterHealth.Proofs.Session.Accepted
import ClusterHealth.Proofs.Session.Fields

/-!
# The times of reports

A report may spell its time in many ways. It is read as the time that is spelled, cut off at the
microsecond, and is never refused for it. It is written in one way, in which it is read again,
`Call.keeps_time`.
-/

namespace ClusterHealth

open Shape Catalogue

theorem Scalar.time_spelling {p : Timestamp.Spelling} (valid : p.Valid) :
    time (.text p.text) = .ok p.stamp := by
  simp only [time, valid.ofText_text]

namespace Report

def timeField : Field × Shape :=
  Field.sparse "timestamp" .time

/-- The class is that of the reports of one of the two layouts. -/
def IsLayout (cls : RecordClass) : Prop :=
  cls = healthInfoV0 ∨ cls = healthInfoV2

/-- A report of a class that has a time, and else what stands in for what is missing. -/
def dated (cls : RecordClass) (stamp : Timestamp) : Record :=
  ⟨cls, (zeros cls.fields).set ((cls.index? "timestamp").getD 0) (.time stamp)⟩

variable {intake : Intake} {members : List (Text × Json)} {t : Text} {stamp : Timestamp}
  {cls : RecordClass} {r : Record}

/-! ### The classes with a time -/

namespace IsLayout

variable (layout : IsLayout cls)

include layout

theorem catalogued : ∃ name, find? name = some cls := by
  rcases layout with rfl | rfl
  · exact ⟨"HealthInfoV0", rfl⟩
  · exact ⟨"HealthInfoV2", rfl⟩

theorem apart : Field.Apart cls.fields := by
  obtain ⟨name, catalogued⟩ := layout.catalogued
  exact (tellsApart_record.mp (tellsApart_of_find? catalogued)).1

theorem timed : ∃ place, cls.index? "timestamp" = some place ∧
    cls.fields[place]? = some timeField := by
  rcases layout with rfl | rfl
  · exact ⟨0, rfl, rfl⟩
  · exact ⟨2, rfl, rfl⟩

/-- What stands in does not keep a report from being written. -/
theorem write_dated (stamp : Timestamp) : ∃ document, (dated cls stamp).write = .ok document := by
  refine ⟨_, Record.write_eq_ok.mpr ⟨⟨?_, Record.all_toJson Value.plainText_carries ?_⟩, rfl⟩⟩
  · have nested : (dated cls stamp).toJson.nesting ≤ 4 := by
      rcases layout with rfl | rfl
      · exact Nat.le_of_ble_eq_true rfl
      · exact Nat.le_of_ble_eq_true rfl
    exact Nat.lt_of_le_of_lt nested (by decide)
  · rcases layout with rfl | rfl <;> rfl

end IsLayout

/-- A report is read by its class from the object that its payload holds. -/
theorem read_of_report {payload : Payload} (found : read payload = .ok r)
    (loaded : loadObject payload = .ok (.object members)) :
    r.cls.read .tree (.object members) = .ok r := by
  obtain ⟨_, header, loaded', headed⟩ := header_of_read found
  obtain rfl := Json.object.inj (Except.ok.inj (loaded.symm.trans loaded'))
  rcases read_ok loaded headed found with ⟨-, here⟩ | ⟨-, here⟩
  · exact (RecordClass.read_ok here).1 ▸ here
  · exact (RecordClass.read_ok here).1 ▸ here

/-! ### Reading a time -/

/-- The field of the time has the value that the text under its name is read as. -/
theorem readField_time_iff (there : Entries.get? "timestamp" members = some (.text t))
    {value : Value} : readField intake members timeField = .ok value ↔
      ∃ stamp, Scalar.time (.text t) = .ok stamp ∧ .time stamp = value := by
  have found : timeField.1.find? timeField.2.admitsNull members =
      some (Text.ofString "timestamp", Json.text t) := by
    have offered : Field.offered false members "timestamp" =
        some (Text.ofString "timestamp", Json.text t) :=
      Field.offered_eq_some.mpr ⟨rfl, there, .inl rfl⟩
    rw [Field.find?_eq]
    exact congrArg (Option.or · _) offered
  have read : timeField.2.read intake (.text t) = .time <$> Scalar.time (.text t) := by
    rw [timeField, Field.sparse, Field.sparseAs, Shape.read]
  rw [readField, found]
  dsimp only
  rw [Checked.under_eq_ok, read, Checked.map_eq_ok]

section

variable (layout : IsLayout cls) (told : Scalar.time (.text t) = .ok stamp)
  (there : Entries.get? "timestamp" members = some (.text t))

include told there

theorem readField_time : readField intake members timeField = .ok (.time stamp) :=
  (readField_time_iff there).mpr ⟨stamp, told, rfl⟩

include layout

theorem value_time (found : cls.read intake (.object members) = .ok r) :
    r.value "timestamp" = .time stamp := by
  obtain ⟨place, index, entry⟩ := layout.timed
  exact (RecordClass.read_gives found index entry).unique
    (gives_iff.mpr (readField_time told there))

/-- The issues of a report are those of its other fields. -/
theorem blameless : ∀ issue ∈ (cls.read intake (.object members)).issues,
    issue.path.head? ≠ some (.key "timestamp") := by
  intro issue member blamed
  obtain ⟨place, -, entry⟩ := layout.timed
  rw [RecordClass.read, Checked.issues_map, issues_readFields, List.mem_flatMap] at member
  obtain ⟨e, listed, member⟩ := member
  obtain ⟨key, own, head⟩ := head_of_issue member
  obtain rfl := Step.key.inj (Option.some.inj (head.symm.trans blamed))
  have same : e = timeField :=
    layout.apart.unique listed (List.mem_of_getElem? entry) own List.mem_cons_self
  rw [same, readField_time told there] at member
  cases member

end

theorem read_dated (layout : IsLayout cls) (told : Scalar.time (.text t) = .ok stamp) :
    cls.read intake (.object [("timestamp", .text t)]) = .ok (dated cls stamp) := by
  obtain ⟨place, index, entry⟩ := layout.timed
  let members : List (Text × Json) := [("timestamp", .text t)]
  have only : timeField.1.only members = members := rfl
  have own : readField intake members timeField = .ok (.time stamp) := readField_time told rfl
  have values := readFields_only layout.apart entry own
  rw [only] at values
  rw [RecordClass.read, values, dated, index]
  rfl

/-- The time of a report is written in its form in documents. -/
theorem get?_printed_time (typed : r.Typed) (layout : IsLayout r.cls)
    (value : r.value "timestamp" = .time stamp) :
    ∃ members, r.toJson.printed = .object members ∧
      Entries.get? "timestamp" members = some (.text stamp.write) := by
  obtain ⟨place, index, entry⟩ := layout.timed
  have written := (typed.found index entry).written
  rw [value] at written
  refine ⟨_, by rw [Record.toJson, Json.printed], ?_⟩
  rw [Json.get?_printedMembers]
  exact congrArg (Option.map Json.printed) (written rfl)

end Report

namespace Call

open Report

variable {cls : RecordClass} {t : Text} {stamp : Timestamp}

/-- How a session takes a text for the time of the reports of a class. -/
structure TakesTime (cls : RecordClass) (t : Text) (stamp : Timestamp) (s : Session) : Prop where
  /-- A report that says nothing else is taken, and has a document. -/
  alone {payload : Payload} : payload.StandsFor (.object [("timestamp", .text t)]) →
    ∃ r document, (readRecord cls payload).outcome s = .ok r ∧ r.Decoded ∧ r.cls = cls ∧
      (writeRecord r).outcome s = .ok document
  /-- Whatever else a report says, it has the time. -/
  value {payload : Payload} {members : List (Text × Json)} {r : Record} :
    payload.StandsFor (.object members) → Entries.get? "timestamp" members = some (.text t) →
      (readRecord cls payload).outcome s = .ok r → r.value "timestamp" = .time stamp
  /-- It is never refused for the time. -/
  blameless {payload : Payload} {members : List (Text × Json)} :
    payload.StandsFor (.object members) → Entries.get? "timestamp" members = some (.text t) →
      ∀ issue ∈ details ((readRecord cls payload).outcome s),
        issue.path.head? ≠ some (.key "timestamp")
  /-- Where the version of a report names the class, it has the time as well. -/
  report {payload : Payload} {members : List (Text × Json)} {r : Record} :
    loadObject payload = .ok (.object members) →
      Entries.get? "timestamp" members = some (.text t) →
        (readReport payload).outcome s = .ok r → r.cls = cls → r.value "timestamp" = .time stamp

/-- How a session writes the time of a report. -/
structure TellsTime (r : Record) (t : Text) (s : Session) : Prop where
  tree {json : Json} : (writeTree r).outcome s = .ok json →
    ∃ members, json = .object members ∧ Entries.get? "timestamp" members = some (.text t)
  document {document : Text} {json : Json} : (writeRecord r).outcome s = .ok document →
    document.StandsFor json →
      ∃ members, json = .object members ∧ Entries.get? "timestamp" members = some (.text t)

theorem takesTime (layout : IsLayout cls) (told : Scalar.time (.text t) = .ok stamp)
    (s : Session) : TakesTime cls t stamp s := by
  constructor
  case alone =>
    intro payload stands
    obtain ⟨name, catalogued⟩ := layout.catalogued
    obtain ⟨document, written⟩ := layout.write_dated stamp
    have returned : (readRecord cls payload).outcome s = .ok (dated cls stamp) := by
      rw [outcome_readPayload stands, read_dated layout told]
      rfl
    have parsed : payload.Parsed := by
      cases payload with
      | text | bytes => trivial
      | tree json =>
        obtain rfl : json = _ := stands
        exact rfl
    exact ⟨_, document, returned, .loaded catalogued parsed returned, rfl,
      returned_writeRecord.mpr written⟩
  case value =>
    intro payload members r stands there returned
    rw [outcome_readPayload stands, mapError_eq_ok] at returned
    exact value_time layout told there returned
  case blameless =>
    intro payload members stands there issue member
    rw [details_readPayload stands] at member
    exact Report.blameless layout told there issue member
  case report =>
    intro payload members r loaded there returned same
    have found := read_of_report (returned_readReport.mp returned) loaded
    rw [same] at found
    exact value_time layout told there found

theorem tellsTime {r : Record} (decoded : r.Decoded) (layout : IsLayout r.cls)
    (value : r.value "timestamp" = .time stamp) (s : Session) : TellsTime r stamp.write s := by
  have typed := decoded.typed
  have said := get?_printed_time typed layout value
  constructor
  case tree =>
    intro json returned
    obtain ⟨-, rfl⟩ := typed.returned_writeTree returned
    exact said
  case document =>
    intro document json returned stands
    rw [typed.stands (returned_writeRecord.mp returned) stands]
    exact said

/-- However a report spells its time, it is the time that is spelled, cut off at the microsecond.
The form in which it is written is taken for the same time again. -/
theorem keeps_time (layout : IsLayout cls) {p : Timestamp.Spelling} (valid : p.Valid)
    (s : Session) : TakesTime cls p.text p.stamp s ∧
      (∀ r : Record, r.Decoded → r.cls = cls → r.value "timestamp" = .time p.stamp →
        TellsTime r p.stamp.write s) ∧
      TakesTime cls p.stamp.write p.stamp s := by
  refine ⟨takesTime layout (Scalar.time_spelling valid) s, ?_,
    takesTime layout (Scalar.time_write valid.stamp) s⟩
  rintro r decoded rfl value
  exact tellsTime decoded layout value s

/-- A time that rounding would carry into the next second. -/
def fineSpelling : Timestamp.Spelling where
  date := ⟨2022, 4, 15⟩
  separator := CodePoint.ofChar 'T'
  hour := 5
  minute := 20
  second := 0
  fraction := .digits (CodePoint.ofChar '.') "999999999"
  zone := .offset (CodePoint.ofChar '+') true 5 30

def fineJson : Json :=
  .object [("timestamp", .text "2022-04-15T05:20:00.999999999+05:30")]

theorem keeps_time_fine : IsLayout healthInfoV2 ∧ fineSpelling.Valid ∧
    ∃ (s : Session) (r : Record), (readRecord healthInfoV2 (.tree fineJson)).outcome s = .ok r ∧
      r.value "timestamp" = .time ⟨⟨2022, 4, 15⟩, 5, 20, 0, 999999, 330⟩ ∧
        TellsTime r "2022-04-15T05:20:00.999999+05:30" s := by
  have layout : IsLayout healthInfoV2 := .inr rfl
  have valid : fineSpelling.Valid := by
    refine ⟨by decide, by decide, by decide, by decide, by decide, by decide, by decide, ?_, ?_⟩
    · exact ⟨by decide, by decide, by decide⟩
    · exact ⟨by decide, by decide, by decide⟩
  have given : (Payload.tree fineJson).StandsFor (.object [("timestamp", .text fineSpelling.text)]) :=
    rfl
  have written : fineSpelling.stamp.write = "2022-04-15T05:20:00.999999+05:30" := rfl
  obtain ⟨takes, tells, -⟩ := keeps_time layout valid (.initial [] .zero)
  obtain ⟨r, document, returned, decoded, same, -⟩ := takes.alone given
  have value := takes.value given rfl returned
  exact ⟨layout, valid, _, r, returned, value, written ▸ tells r decoded same value⟩

end Call

end ClusterHealth
