import ClusterHealth.Proofs.Record.Places

/-!
# The parts of a value

Induction over a value and what stands in it, `Value.induction`, and what follows from it: a test
holds everywhere in a value exactly if it holds of each part, `Value.all_iff_stands`; and the document
of a value holds a surrogate in a text exactly if a path leads to a text that does,
`Value.surrogate_iff`.
-/

namespace ClusterHealth

namespace Json

variable {test : Json → Bool}

theorem allItems_eq_false {items : List Json} :
    allItems test items = false ↔ ∃ item ∈ items, item.all test = false := by
  simp only [← Bool.not_eq_true, allItems_iff, not_forall, exists_prop]

theorem allMembers_eq_false {members : List (Text × Json)} :
    allMembers test members = false ↔ ∃ member ∈ members, member.2.all test = false := by
  simp only [← Bool.not_eq_true, allMembers_iff, not_forall, exists_prop]

end Json

namespace Value

/-- Induction over a value: a property of all values holds if it holds of those without parts and of
each list, mapping and record whose parts have it. -/
@[elab_as_elim]
theorem induction {motive : Value → Prop} (absent : motive .absent) (flag : ∀ b, motive (.flag b))
    (int : ∀ n, motive (.int n)) (number : ∀ x, motive (.number x)) (text : ∀ t, motive (.text t))
    (time : ∀ t, motive (.time t))
    (list : ∀ items, (∀ item ∈ items, motive item) → motive (.list items))
    (mapping : ∀ entries, (∀ e ∈ entries, motive e.2) → motive (.mapping entries))
    (record : ∀ r, (∀ value ∈ r.values, motive value) → motive (.record r)) (value : Value) :
    motive value :=
  @Value.rec motive (fun r => ∀ value ∈ r.values, motive value)
    (fun items => ∀ item ∈ items, motive item) (fun entries => ∀ e ∈ entries, motive e.2)
    (fun e => motive e.2) absent flag int number text time list mapping record
    (fun _ _ inside => inside) (List.forall_mem_nil _)
    (fun _ _ first others => List.forall_mem_cons.mpr ⟨first, others⟩) (List.forall_mem_nil _)
    (fun _ _ first others => List.forall_mem_cons.mpr ⟨first, others⟩)
    (fun _ _ inside => inside) value

variable {value part : Value} {path : Path}

/-! ### Tests -/

theorem test_of_all {test : Value → Bool} (every : value.all test = true) : test value = true := by
  cases value with
  | record r =>
    obtain ⟨cls, values⟩ := r
    rw [all, Bool.and_eq_true] at every
    exact every.1
  | list | mapping =>
    rw [all, Bool.and_eq_true] at every
    exact every.1
  | absent | flag | int | number | text | time => exact every

theorem Stands.typed (stands : Stands part path value) (typed : value.Typed) : part.Typed := by
  induction stands with
  | here => exact typed
  | item found _ ih => exact ih (typed_item typed _ (List.mem_of_getElem? found))
  | entry member _ ih => exact ih ((typed_entry typed).2 _ member)
  | field member _ ih =>
    exact ih (typed_field (typed_record.mp typed) _ (List.of_mem_zip member).2)

/-- A test holds everywhere in a value exactly if it holds of all that stands in it. -/
theorem all_iff_stands {test : Value → Bool} (typed : value.Typed) :
    value.all test = true ↔ ∀ path part, Stands part path value → test part = true := by
  constructor
  · intro every path part stands
    induction stands with
    | here => exact test_of_all every
    | item found _ ih =>
      rw [all_list] at every
      have member := List.mem_of_getElem? found
      exact ih (typed_item typed _ member) (every.2 _ member)
    | entry member _ ih =>
      rw [all_mapping] at every
      exact ih ((typed_entry typed).2 _ member) (every.2 _ member)
    | field member _ ih =>
      have inside := (List.of_mem_zip member).2
      exact ih (typed_field (typed_record.mp typed) _ inside)
        (allItems_iff.mp (Record.all_iff.mp every).2 _ inside)
  · intro each
    induction value using Value.induction with
    | absent | flag | int | number | text | time => exact each [] _ .here
    | list items ih =>
      rw [all_list]
      refine ⟨each [] _ .here, ?_⟩
      intro item member
      obtain ⟨place, found⟩ := List.mem_iff_getElem?.mp member
      apply ih item member (typed_item typed item member)
      intro path part stands
      exact each _ part (.item found stands)
    | mapping entries ih =>
      rw [all_mapping]
      refine ⟨each [] _ .here, ?_⟩
      intro e member
      apply ih e member ((typed_entry typed).2 e member)
      intro path part stands
      exact each _ part (.entry member stands)
    | record r ih =>
      have typed := typed_record.mp typed
      refine Record.all_iff.mpr ⟨each [] _ .here, allItems_iff.mpr ?_⟩
      intro value member
      obtain ⟨entry, paired⟩ := typed.holds.exists_mem_zip member
      apply ih value member (typed_field typed value member)
      intro path part stands
      exact each _ part (.field paired stands)

/-! ### Surrogates in texts -/

theorem mem_toFields {fields : List (Field × Shape)} {values : List Value} {member : Text × Json}
    (written : member ∈ toFields fields values) :
    ∃ e ∈ fields.zip values, member = (e.1.1.wire, e.1.2.adapt e.2.toJson) := by
  induction fields generalizing values with
  | nil =>
    rw [toFields] at written
    · cases written
    · nofun
  | cons entry fields ih =>
    cases values with
    | nil => cases written
    | cons value values =>
      obtain ⟨field, shape⟩ := entry
      rw [List.zip_cons_cons, List.exists_mem_cons_iff]
      rw [toFields] at written
      split at written
      · exact .inr (ih written)
      · rcases List.mem_cons.mp written with rfl | written
        · exact .inl rfl
        · exact .inr (ih written)

/-- If a document holds a surrogate in a text, a path leads to one in the value. -/
theorem exists_surrogate (typed : value.Typed) (held : value.toJson.all Json.plainText = false) :
    ∃ path t, value.at? path = some (.text t) ∧ t.hasSurrogate = true := by
  induction value using Value.induction with
  | absent | flag | int | number => cases held
  | text t => exact ⟨[], t, rfl, (Bool.not_eq_false' _).mp held⟩
  | time t =>
    have surrogate : t.write.hasSurrogate = true := (Bool.not_eq_false' _).mp held
    rw [write_plain] at surrogate
    cases surrogate
  | list items ih =>
    change Json.allItems Json.plainText (toItems items) = false at held
    rw [toItems_eq, Json.allItems_eq_false] at held
    obtain ⟨_, written, held⟩ := held
    obtain ⟨item, member, rfl⟩ := List.mem_map.mp written
    obtain ⟨path, t, there, surrogate⟩ := ih item member (typed_item typed item member) held
    obtain ⟨place, found⟩ := List.mem_iff_getElem?.mp member
    have here : (Value.list items).step? (.index place) = some item := found
    exact ⟨.index place :: path, t, by rw [at?, here]; exact there, surrogate⟩
  | mapping entries ih =>
    -- A member of the object is an entry under its written key, the last one under that key.
    change Json.allMembers Json.plainText (Entries.ofList (toMembers entries)) = false at held
    rw [ofList_toMembers, Json.allMembers_eq_false] at held
    obtain ⟨_, written, held⟩ := held
    obtain ⟨⟨key, inner⟩, kept, rfl⟩ := List.mem_map.mp written
    have here : (Value.mapping entries).step? (.key key) = some inner :=
      Entries.get?_of_mem (Entries.ofList_distinct _) kept
    obtain ⟨e, member, same⟩ := List.mem_map.mp (Entries.mem_of_mem_ofList kept)
    obtain rfl : e.2 = inner := (Prod.mk.inj same).2
    obtain ⟨path, t, there, surrogate⟩ := ih e member ((typed_entry typed).2 e member) held
    exact ⟨.key key :: path, t, by rw [at?, here]; exact there, surrogate⟩
  | record r ih =>
    have typed := typed_record.mp typed
    obtain ⟨cls, values⟩ := r
    change Json.allMembers Json.plainText (toFields cls.fields values) = false at held
    obtain ⟨_, written, held⟩ := Json.allMembers_eq_false.mp held
    obtain ⟨e, member, rfl⟩ := mem_toFields written
    have inside := (List.of_mem_zip member).2
    rw [Shape.adapt_toJson (Shape.holds_of_mem_zip typed.holds _ member)] at held
    obtain ⟨path, t, there, surrogate⟩ := ih e.2 inside (typed_field typed _ inside) held
    exact ⟨.key e.1.1.wire :: path, t, by rw [at?, step?_field typed member]; exact there,
      surrogate⟩

/-- The document of a value holds a surrogate in a text exactly if a path leads to such a text. -/
theorem surrogate_iff (typed : value.Typed) : value.toJson.all Json.plainText = false ↔
    ∃ path t, value.at? path = some (.text t) ∧ t.hasSurrogate = true := by
  refine ⟨exists_surrogate typed, ?_⟩
  rintro ⟨path, t, there, surrogate⟩
  by_contra plain
  rw [Bool.not_eq_false] at plain
  obtain ⟨-, same | ⟨-, empty⟩⟩ := toJson_at?_or typed there
  · have held : (!t.hasSurrogate) = true := Json.all_at? plain same
    rw [surrogate] at held
    cases held
  · obtain rfl := List.isEmpty_iff.mp empty
    cases surrogate

end Value

end ClusterHealth
