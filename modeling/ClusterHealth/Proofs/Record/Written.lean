import ClusterHealth.Proofs.Json.Printed
import ClusterHealth.Proofs.Record.RoundTrip

/-!
# The documents of all records

Open values may hold doubles without a numeral, and keys surrogates. The tree of a document is what
its text says of the record, `Record.Typed.writeTree`, and the class reads that again,
`Record.Typed.read_printed`. So the strict reader takes a document exactly if it allows its depth,
`Record.Typed.accepts_iff`.
-/

namespace ClusterHealth

namespace Json

variable {json : Json}

theorem parsed_of_clean (clean : json.all Json.clean = true) : json.all parsed = true :=
  all_mono (fun _ here => (Bool.and_eq_true_iff.mp here).1) json clean

theorem plainKeys_of_clean (clean : json.all Json.clean = true) : json.all plainKeys = true :=
  all_mono (fun _ here => (Bool.and_eq_true_iff.mp here).2) json clean

theorem get?_printedMembers (key : Text) (members : List (Text × Json)) :
    Entries.get? key (printedMembers members) = (Entries.get? key members).map printed := by
  rw [printedMembers_eq, Entries.get?_map]

end Json

namespace Shape

open Value

/-- Null is said only for a value that may be absent. -/
theorem admitsNull_of_printed {s : Shape} {value : Value} (holds : s.Holds value)
    (null : value.toJson.printed.isNull = true) : s.admitsNull = true := by
  cases s with
  | anything | nullable => rfl
  | number =>
    obtain ⟨x, rfl, finite⟩ := holds
    rw [toJson, Json.printed_float finite] at null
    cases null
  | text | flag =>
    obtain ⟨_, rfl⟩ := holds
    cases null
  | integer | count | time | list | mapping =>
    obtain ⟨_, rfl, -⟩ := holds
    cases null
  | record cls =>
    obtain ⟨_, _, fields⟩ := cls
    obtain ⟨_, rfl, -⟩ := holds
    cases null

section

variable {members : List (Text × Json)} {field : Field} {shape : Shape} {value : Value}

theorem find?_printed_omitted (found : Found members ((field, shape), value))
    (omitted : field.omission.omits value = true) :
    field.find? shape.admitsNull (Json.printedMembers members) = none := by
  obtain ⟨wire, name⟩ := found.omitted omitted
  simp [Field.find?, Json.get?_printedMembers, wire, name]

theorem find?_printed_written (found : Found members ((field, shape), value))
    (holds : shape.Holds value) (written : field.omission.omits value = false) :
    field.find? shape.admitsNull (Json.printedMembers members) =
      some (field.wire, value.toJson.printed) := by
  have there : Entries.get? field.wire members = some value.toJson := found.written written
  have present : (value.toJson.printed.isNull && !shape.admitsNull) = false := by
    cases null : value.toJson.printed.isNull with
    | false => rfl
    | true =>
      rw [admitsNull_of_printed holds null]
      rfl
  simp only [Field.find?, List.findSome?_cons, Json.get?_printedMembers, there, Option.map_some,
    present, Bool.false_eq_true, if_false]

end

mutual

/-- What the text of a value says is read by the shape of the value. -/
theorem read_printed : ∀ (s : Shape) {value : Value}, s.lawful = true → s.Holds value →
    ∃ back, s.read .text value.toJson.printed = .ok back
  | text _, value, _, holds => by
    obtain ⟨t, rfl⟩ := holds
    exact ⟨_, rfl⟩
  | integer, value, _, holds => by
    obtain ⟨n, rfl, -⟩ := holds
    exact ⟨_, rfl⟩
  | count, value, _, holds => by
    obtain ⟨n, rfl, positive, -⟩ := holds
    refine ⟨.int n, ?_⟩
    rw [toJson, Json.printed, Shape.read, Scalar.count_int positive]
    · rfl
    all_goals nofun
  | number, value, _, holds => by
    obtain ⟨x, rfl, finite⟩ := holds
    refine ⟨.number x, ?_⟩
    rw [toJson, Json.printed_float finite, Shape.read, Scalar.number_float finite]
    rfl
  | flag, value, _, holds => by
    obtain ⟨b, rfl⟩ := holds
    exact ⟨_, rfl⟩
  | time, value, _, holds => by
    obtain ⟨t, rfl, valid⟩ := holds
    refine ⟨.time t, ?_⟩
    rw [toJson, Json.printed, Shape.read, Scalar.time_write valid]
    · rfl
    all_goals nofun
  | anything, value, _, _ => ⟨.ofJson value.toJson.printed, by rw [Shape.read]⟩
  | nullable inner, value, lawful, holds => by
    rw [Shape.lawful, Bool.and_eq_true] at lawful
    rw [Shape.read]
    split
    · exact ⟨_, rfl⟩
    · rename_i present
      rcases holds with rfl | holds
      · exact absurd rfl present
      · exact read_printed inner lawful.2 holds
  | list item, value, lawful, holds => by
    obtain ⟨items, rfl, holds⟩ := holds
    have each : ∀ v ∈ items, ∃ back, item.read .text v.toJson.printed = .ok back :=
      fun v member => read_printed item lawful (holds v member)
    obtain ⟨backs, related⟩ := Checked.forall₂_of_exists each
    have read : Checked.items (fun json => item.read .text json) 0
        (items.map fun v => v.toJson.printed) = .ok backs :=
      (Checked.items_eq_ok 0).mpr (List.forall₂_map_left_iff.mpr related)
    refine ⟨.list backs, ?_⟩
    rw [toJson, toItems_eq, Json.printed, Json.printedItems_eq, List.map_map, Shape.read]
    simp only [Function.comp_def, read]
    rfl
  | mapping item, value, lawful, holds => by
    obtain ⟨entries, rfl, -, holds⟩ := holds
    have each : ∀ m ∈ Json.printedMembers (Entries.ofList (toMembers entries)),
        ∃ back : Text × Value, m.1 = back.1 ∧ item.read .text m.2 = .ok back.2 := by
      rw [Json.printedMembers_eq, List.forall_mem_map]
      intro m found
      -- Keys may have become equal, but each entry that is left is one of those written.
      have written := Entries.mem_of_mem_ofList found
      rw [toMembers_eq] at written
      obtain ⟨e, member, rfl⟩ := List.mem_map.mp written
      obtain ⟨back, read⟩ := read_printed item lawful (holds e member)
      exact ⟨(_, back), rfl, read⟩
    obtain ⟨backs, related⟩ := Checked.forall₂_of_exists each
    refine ⟨.mapping backs, ?_⟩
    rw [toJson, Json.printed, Shape.read, Checked.entries_eq_ok.mpr related]
    rfl
  | record ⟨name, aspects, fields⟩, value, lawful, holds => by
    obtain ⟨values, rfl, holds⟩ := holds
    obtain ⟨names, lawful⟩ := lawful_record.mp lawful
    have found := found_toFields (namesApart names) (holds_of_mem_zip holds)
    obtain ⟨backs, read⟩ := readFields_printed fields lawful holds found
    refine ⟨.record ⟨⟨name, aspects, fields⟩, backs⟩, ?_⟩
    rw [toJson, Json.printed, Shape.read, read]
    rfl

/-- What a document says of the fields is read by their shapes. -/
theorem readFields_printed {members : List (Text × Json)} : ∀ (fields : List (Field × Shape))
    {values : List Value}, lawfulFields fields = true → HoldFields fields values →
      (∀ entry ∈ fields.zip values, Found members entry) →
        ∃ backs, readFields .text (Json.printedMembers members) fields = .ok backs
  | [], _, _, _, _ => ⟨[], rfl⟩
  | (field, shape) :: rest, values, lawful, holds, found => by
    obtain ⟨value, others, rfl, here, more⟩ := holds
    obtain ⟨lawful, lawfulRest⟩ := lawful_cons.mp lawful
    rw [List.zip_cons_cons, List.forall_mem_cons] at found
    obtain ⟨backs, read⟩ := readFields_printed rest lawfulRest more found.2
    cases omitted : field.omission.omits value with
    | true =>
      exact ⟨shape.zero :: backs, readFields_cons.mpr ⟨_, _, rfl, read,
        .inr ⟨find?_printed_omitted found.1 omitted, rfl⟩⟩⟩
    | false =>
      obtain ⟨back, first⟩ := read_printed shape lawful here
      exact ⟨back :: backs, readFields_cons.mpr ⟨_, _, rfl, read,
        .inl ⟨_, _, find?_printed_written found.1 here omitted, first⟩⟩⟩

end

end Shape

/-- The class takes a text for a document of one of its records. -/
def RecordClass.Accepts (cls : RecordClass) (t : Text) : Prop :=
  ∃ r, cls.load (.text t) = .ok r

namespace Record.Typed

open Shape

variable {r : Record} (typed : r.Typed)

include typed

/-- What the document of a record says is read by its class. -/
theorem read_printed : ∃ back, r.cls.read .text r.toJson.printed = .ok back := by
  obtain ⟨names, lawful⟩ := lawful_record.mp typed.lawful
  have found := found_toFields (namesApart names) (holds_of_mem_zip typed.holds)
  obtain ⟨backs, read⟩ := readFields_printed r.cls.fields lawful typed.holds found
  refine ⟨⟨r.cls, backs⟩, ?_⟩
  rw [Record.toJson, Json.printed, RecordClass.read, read]
  rfl

theorem parsed_printed : r.toJson.printed.all Json.parsed = true :=
  Json.all_printed Json.readable_printed _ (Json.parsed_of_clean typed.toJson_clean)

/-- The tree of a document is what its text says of the record. -/
theorem writeTree {t : Text} (written : r.write = .ok t) : r.writeTree = .ok r.toJson.printed := by
  obtain ⟨⟨shallow, -⟩, rfl⟩ := Record.write_eq_ok.mp written
  have read : Json.read .lenient r.toJson.compact = .ok r.toJson.printed :=
    Json.read_printed (by decide) (Json.parsed_of_clean typed.toJson_clean)
      (Nat.le_trans (Nat.le_of_lt shallow) (by decide))
  rw [Record.writeTree, written]
  simp only [read]

/-- However a document is laid out, its class accepts it exactly if the strict reader allows its
depth. -/
theorem accepts_iff {style : Json.Style} (suits : style.Suits .strict) (plain : style.Plain)
    (texts : r.toJson.all Json.plainText = true) :
    r.cls.Accepts (r.toJson.printed.spread style 0) ↔
      r.toJson.nesting ≤ Json.Rules.strict.depth := by
  have parsed := typed.parsed_printed
  have finite := Json.finite_printed r.toJson
  have whole : (r.toJson.printed.spread style 0).hasSurrogate = false :=
    Json.spread_plain plain 0 _ finite (Json.all_printed Json.plainText_printed _ texts)
      (Json.all_printed Json.plainKeys_printed _ (Json.plainKeys_of_clean typed.toJson_clean))
  rw [← Json.nesting_printed]
  constructor
  · rintro ⟨back, loaded⟩
    by_contra deep
    obtain ⟨fault, refused, -⟩ := (Json.read_spread_limited suits parsed finite).mpr
      fun within => deep within.1
    rw [RecordClass.load_text, RecordClass.readText, whole, refused] at loaded
    cases loaded
  · intro shallow
    obtain ⟨back, read⟩ := typed.read_printed
    refine ⟨back, ?_⟩
    rw [RecordClass.load_text, RecordClass.readText, whole, if_neg Bool.false_ne_true,
      Json.read_spread suits parsed finite shallow]
    exact read

end Record.Typed

end ClusterHealth
