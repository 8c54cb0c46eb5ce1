import ClusterHealth.Proofs.Record.Places
import ClusterHealth.Proofs.Session.Decoded

/-!
# What a document leaves out

The object that stands for a record has one member for each field that its rule does not leave out,
in the order of the class, and no other. This holds of the top of a document and of every record
inside, `Record.Decoded.exact_documents`.
-/

namespace ClusterHealth

/-- The value is none, a text without characters, a zero, false, or a container without content. -/
inductive Value.Empty : Value → Prop
  | absent : Empty .absent
  | text : Empty (.text [])
  | int : Empty (.int 0)
  | number (negative : Bool) : Empty (.number (.finite negative .zero))
  | flag : Empty (.flag false)
  | list : Empty (.list [])
  | mapping : Empty (.mapping [])

/-- The rule leaves out a field with the value. -/
def Omission.Omitted : Omission → Value → Prop
  | never, _ => False
  | empty, value => value.Empty
  | absent, value => value = .absent

theorem Value.isEmpty_iff {value : Value} : value.isEmpty = true ↔ value.Empty := by
  constructor
  · intro empty
    cases value with
    | absent => exact .absent
    | flag b =>
      cases b with
      | false => exact .flag
      | true => cases empty
    | int n =>
      obtain rfl := beq_iff_eq.mp empty
      exact .int
    | number x =>
      cases x with
      | finite negative m =>
        obtain rfl := Magnitude.eq_zero_of_significand (beq_iff_eq.mp empty)
        exact .number negative
      | infinite | nan => cases empty
    | text t =>
      obtain rfl := List.isEmpty_iff.mp empty
      exact .text
    | list items =>
      obtain rfl := List.isEmpty_iff.mp empty
      exact .list
    | mapping entries =>
      obtain rfl := List.isEmpty_iff.mp empty
      exact .mapping
    | time | record => cases empty
  · intro empty
    cases empty <;> rfl

theorem Omission.omits_iff {omission : Omission} {value : Value} :
    omission.omits value = true ↔ omission.Omitted value := by
  cases omission with
  | never => exact iff_of_false Bool.false_ne_true id
  | empty => exact Value.isEmpty_iff
  | absent =>
    constructor
    · exact Shape.absent_of_omits
    · rintro rfl
      rfl

instance (omission : Omission) (value : Value) : Decidable (omission.Omitted value) :=
  decidable_of_iff _ Omission.omits_iff

namespace Record

/-- The fields that are not left out, each with its value. -/
def present (r : Record) : List ((Field × Shape) × Value) :=
  (r.cls.fields.zip r.values).filter fun e => !decide (e.1.1.omission.Omitted e.2)

/-- The members are those that an object must have to stand for the record. -/
structure Exact (r : Record) (members : List (Text × Json)) : Prop where
  /-- Every field has a value. -/
  complete : r.values.length = r.cls.fields.length
  /-- A member for each field that is not left out, under its name in documents, in order. -/
  listed : members = r.present.map fun e => (e.1.1.wire, e.2.toJson.printed)
  once : (Entries.keys members).Nodup
  order : (Entries.keys members).Sublist (r.cls.keys true)
  /-- Fields without a rule, records and times are never left out. -/
  kept : ∀ e ∈ r.cls.fields.zip r.values,
    (e.1.1.omission = .never ∨ (∃ part, e.2 = .record part) ∨ ∃ t, e.2 = .time t) →
      e.1.1.wire ∈ Entries.keys members

theorem toFields_eq {fields : List (Field × Shape)} {values : List Value}
    (holds : Shape.HoldFields fields values) : Value.toFields fields values =
      ((fields.zip values).filter fun e => !decide (e.1.1.omission.Omitted e.2)).map
        fun e => (e.1.1.wire, e.2.toJson) := by
  induction fields generalizing values with
  | nil =>
    obtain rfl : values = [] := holds
    rfl
  | cons entry fields ih =>
    obtain ⟨field, shape⟩ := entry
    obtain ⟨value, others, rfl, here, more⟩ := holds
    rw [Value.toFields, List.zip_cons_cons, ih more]
    by_cases omitted : field.omission.omits value = true
    · rw [if_pos omitted, List.filter_cons_of_neg (by simpa using Omission.omits_iff.mp omitted)]
    · have written : ¬ field.omission.Omitted value :=
        fun rule => omitted (Omission.omits_iff.mpr rule)
      rw [if_neg omitted, List.filter_cons_of_pos (by simpa using written), List.map_cons,
        Shape.adapt_toJson here]

/-- What the document says of a record has exactly the members that it must have. -/
theorem Typed.exact {r : Record} (typed : r.Typed) :
    r.Exact (Json.printedMembers (Value.toFields r.cls.fields r.values)) := by
  obtain ⟨names, -⟩ := Shape.lawful_record.mp typed.lawful
  have written : Json.printedMembers (Value.toFields r.cls.fields r.values) =
      r.present.map fun e => (e.1.1.wire, e.2.toJson.printed) := by
    rw [Json.printedMembers_eq, toFields_eq typed.holds, List.map_map]
    rfl
  refine ⟨typed.holds.length, written, ?_, ?_, ?_⟩
  · rw [Json.keys_printedMembers]
    exact Value.toFields_distinct (Shape.namesApart names) r.values
  · rw [Json.keys_printedMembers]
    exact Value.keys_toFields r.cls.fields r.values
  · intro e member never
    have present : e ∈ r.present := by
      refine List.mem_filter.mpr ⟨member, ?_⟩
      have rule : ¬ e.1.1.omission.Omitted e.2 := by
        rcases never with always | ⟨part, same⟩ | ⟨t, same⟩
        · rw [always]
          exact id
        all_goals
          rw [same]
          cases e.1.1.omission <;> nofun
      simpa using rule
    rw [written, Entries.keys, List.map_map]
    exact List.mem_map_of_mem present

variable {r : Record}

/-- The document of a record that a call returned has exactly the members that the record must have,
and so has the object inside it that stands for a record inside the record. -/
theorem Decoded.exact_documents (decoded : r.Decoded) {t : Text} (written : r.write = .ok t) :
    ∃ top, r.writeTree = .ok (.object top) ∧ t = (Json.object top).compact ∧ r.Exact top ∧
      (∀ path part, (Value.record r).at? path = some (.record part) →
        ∃ members, (Json.object top).at? path = some (.object members) ∧ part.Exact members) ∧
        (r.all Value.plainKeys = true → ∀ part, Value.Within part (.record r) →
          ∃ path, (Value.record r).at? path = some (.record part)) := by
  have typed := decoded.typed
  have whole : (Value.record r).toJson = r.toJson := by
    obtain ⟨cls, values⟩ := r
    rfl
  refine ⟨_, typed.writeTree written, ?_, typed.exact, fun path part there => ?_,
    fun keys part within => within.exists_path (Value.typed_record.mpr typed) keys⟩
  · exact (write_eq_ok.mp written).2.trans (Json.compact_printed r.toJson).symm
  · obtain ⟨inner, found⟩ := Value.toJson_at? (Value.typed_record.mpr typed) there
    rw [whole] at found
    refine ⟨_, ?_, inner.exact⟩
    change r.toJson.printed.at? path = _
    rw [Json.at?_printed, found]
    rfl

/-- In a report that says nothing but its error the survey is written, and has no members. -/
theorem Decoded.exact_documents_failed :
    ∃ top, Report.failedReport.writeTree = .ok (.object top) ∧ Report.failedReport.Exact top ∧
      ∃ members, (Json.object top).at? [.key "sys"] = some (.object members) ∧
        (Record.zero Catalogue.sysInfo).Exact members := by
  have catalogued : Catalogue.find? "HealthInfoV2" = some Catalogue.healthInfoV2 := rfl
  have loaded : Catalogue.healthInfoV2.load (.tree Report.failedJson) = .ok Report.failedReport :=
    rfl
  have decoded : Report.failedReport.Decoded :=
    .made (s := .initial [] .zero) catalogued (by decide) (Call.returned_makeRecord.mpr loaded)
  have document : Report.failedReport.toJson.nesting < Value.documentRoom ∧
      Report.failedReport.toJson.all Json.plainText = true := by
    decide +kernel
  have there : (Value.record Report.failedReport).at? [.key "sys"] =
      some (.record (.zero Catalogue.sysInfo)) := rfl
  obtain ⟨top, tree, -, exact, inside, -⟩ :=
    exact_documents decoded (write_eq_ok.mpr ⟨document, rfl⟩)
  exact ⟨top, tree, exact, inside _ _ there⟩

end Record

end ClusterHealth
