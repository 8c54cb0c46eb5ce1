import ClusterHealth.Proofs.Json.Limits
import ClusterHealth.Proofs.Record.ReadBack
import ClusterHealth.Proofs.Record.Sources
import ClusterHealth.Record.Insight

/-!
# Records and their documents

A record of a catalogued class is found again in its compact document and in its tree. What comes
back is equal to it and has the same document, `RecordClass.load_write`.
-/

namespace ClusterHealth

open Shape

def Record.all (test : Value → Bool) (r : Record) : Bool :=
  (Value.record r).all test

theorem Record.all_iff {test : Value → Bool} {r : Record} :
    r.all test = true ↔ test (.record r) = true ∧ Value.allItems test r.values = true := by
  obtain ⟨cls, values⟩ := r
  rw [Record.all, Value.all, Bool.and_eq_true]

theorem Catalogue.lawful_of_find? {name : Text} {cls : RecordClass}
    (found : find? name = some cls) : (Shape.record cls).lawful = true :=
  lawful _ (Entries.mem_of_get? found)

namespace Record

variable {r : Record}

theorem write_eq_ok {t : Text} : r.write = .ok t ↔
    (r.toJson.nesting < Value.documentRoom ∧ r.toJson.all Json.plainText = true) ∧
      t = r.toJson.compact := by
  rw [← Json.obstacle?_eq_none, write, obstacle?]
  cases r.toJson.obstacle? Value.documentRoom with
  | none =>
    constructor
    · intro found
      exact ⟨rfl, (Except.ok.inj found).symm⟩
    · rintro ⟨-, rfl⟩
      rfl
  | some obstacle =>
    constructor
    · intro found
      cases found
    · rintro ⟨none, -⟩
      cases none

/-- A document is read by any reader that allows its depth. -/
theorem read_write (rules : Json.Rules) (room : Scalar.longestNumeral ≤ rules.digits)
    (clean : r.toJson.all Json.clean = true) (finite : r.toJson.all Json.finite = true)
    (shallow : r.toJson.nesting ≤ rules.depth) :
    Json.read rules r.toJson.compact = .ok r.toJson := by
  refine Json.read_compact (Nat.le_trans (by decide) room) ?_ finite shallow
  refine Json.all_mono (fun json test => ?_) r.toJson clean
  rw [Json.clean, Bool.and_eq_true] at test
  cases json with
  | int n => exact decide_eq_true (Nat.le_trans (of_decide_eq_true test.1) room)
  | object members => exact test.1
  | null | bool | float | text | array => rfl

end Record

/-- A record of a lawful class whose values are those of its fields. -/
structure Record.Typed (r : Record) : Prop where
  lawful : (Shape.record r.cls).lawful = true
  holds : HoldFields r.cls.fields r.values

theorem Record.Typed.holds_record {r : Record} (typed : r.Typed) :
    (Shape.record r.cls).Holds (.record r) := by
  obtain ⟨⟨name, aspects, fields⟩, values⟩ := r
  exact ⟨values, rfl, typed.holds⟩

theorem Record.Typed.toJson_clean {r : Record} (typed : r.Typed) :
    r.toJson.all Json.clean = true := by
  have clean := Shape.toJson_clean _ typed.lawful typed.holds_record
  obtain ⟨cls, values⟩ := r
  exact clean

/-- A test on a record carries over to what it is written as. -/
theorem Record.all_toJson {test : Value → Bool} {check : Json → Bool}
    (carries : Value.Carries test check) {r : Record} (every : r.all test = true) :
    r.toJson.all check = true := by
  have carried := Value.all_toJson carries _ every
  obtain ⟨cls, values⟩ := r
  exact carried

theorem Record.toJson_finite {r : Record} (finite : r.all Value.finite = true) :
    r.toJson.all Json.finite = true :=
  all_toJson Value.finite_carries finite

/-- A typed record is read from a JSON value. -/
theorem RecordClass.read_typed {name : Text} {cls : RecordClass}
    (catalogued : Catalogue.find? name = some cls) {intake : Intake} {json : Json}
    (parsed : json.all Json.parsed = true) {r : Record} (found : cls.read intake json = .ok r) :
    r.cls = cls ∧ r.Typed := by
  obtain ⟨rfl, holds⟩ := read_holds parsed found
  exact ⟨rfl, Catalogue.lawful_of_find? catalogued, holds⟩

/-- A record of a lawful class whose values are those of its fields, without a double that has no
numeral and without a surrogate in a key. -/
structure Record.Sound (r : Record) : Prop where
  lawful : (Shape.record r.cls).lawful = true
  holds : HoldFields r.cls.fields r.values
  finite : r.all Value.finite = true
  keys : r.all Value.plainKeys = true

/-- Items that are equal are equal at each place, and nothing is equal to nothing past the end. -/
theorem Value.same_getD {items others : List Value} (same : sameItems items others = true)
    (place : Nat) : (items[place]?.getD .absent).same (others[place]?.getD .absent) = true := by
  induction items generalizing others place with
  | nil =>
    cases others with
    | nil => rfl
    | cons => cases same
  | cons item items ih =>
    cases others with
    | nil => cases same
    | cons other others =>
      rw [sameItems, Bool.and_eq_true] at same
      cases place with
      | zero => exact same.1
      | succ place => exact ih same.2 place

namespace Record.Sound

variable {r : Record} (sound : r.Sound)

include sound

theorem typed : r.Typed :=
  ⟨sound.lawful, sound.holds⟩

theorem toJson_finite : r.toJson.all Json.finite = true :=
  Record.toJson_finite sound.finite

/-- A record is read back from the object that stands for it. -/
theorem read_toJson (shallow : r.toJson.nesting ≤ Open.deepest) (intake : Intake) :
    r.cls.read intake r.toJson = .ok r.restored := by
  obtain ⟨names, lawful⟩ := lawful_record.mp sound.lawful
  have found := found_toFields (namesApart names) (holds_of_mem_zip sound.holds)
  rw [Record.toJson, RecordClass.read, readFields_toFields r.cls.fields lawful sound.holds found
    (Record.all_iff.mp sound.keys).2 (Record.all_iff.mp sound.finite).2
    fun _ inside => nesting_of_mem shallow inside]
  rfl

theorem toJson_restored : r.restored.toJson = r.toJson := by
  obtain ⟨names, lawful⟩ := lawful_record.mp sound.lawful
  rw [Record.toJson, Record.toJson, Record.restored,
    toFields_restored r.cls.fields (namesApart names).rests lawful sound.holds]

theorem sameItems_restored :
    Value.sameItems (Value.restoredFields r.cls.fields r.values) r.values = true := by
  obtain ⟨names, lawful⟩ := lawful_record.mp sound.lawful
  exact Shape.sameItems_restored r.cls.fields (namesApart names).rests lawful sound.holds
    (Record.all_iff.mp sound.finite).2

theorem same_restored : r.restored.same r = true := by
  rw [Record.same, Record.restored, sound.sameItems_restored, beq_self_eq_true]
  rfl

theorem value_restored (name : Text) : (r.restored.value name).same (r.value name) = true := by
  have inside := Value.same_getD sound.sameItems_restored
  rw [Record.value, Record.value, Record.get?, Record.get?, Record.restored]
  cases r.cls.index? name with
  | none => rfl
  | some place => exact inside place

/-- The document of what comes back is the same. -/
theorem write_restored {t : Text} (written : r.write = .ok t) : r.restored.write = .ok t := by
  rw [Record.write_eq_ok] at written ⊢
  rwa [sound.toJson_restored]

/-- The compact document holds no surrogate if no text does. -/
theorem compact_plain (texts : r.toJson.all Json.plainText = true) :
    r.toJson.compact.hasSurrogate = false := by
  refine Json.compact_plain r.toJson sound.toJson_finite texts ?_
  refine Json.all_mono (fun json clean => ?_) r.toJson sound.typed.toJson_clean
  rw [Json.clean, Bool.and_eq_true] at clean
  exact clean.2

/-- The tree of a document is the object that stands for the record. -/
theorem writeTree {t : Text} (written : r.write = .ok t) : r.writeTree = .ok r.toJson := by
  obtain ⟨⟨shallow, -⟩, rfl⟩ := Record.write_eq_ok.mp written
  have read := Record.read_write .lenient (Nat.le_refl _) sound.typed.toJson_clean
    sound.toJson_finite (by rw [Value.documentRoom] at shallow; simp [Json.Rules.lenient]; omega)
  rw [Record.writeTree, written]
  simp only [read]

/-- A record is read back from its tree. -/
theorem load_tree (shallow : r.toJson.nesting ≤ Open.deepest) :
    r.cls.load (.tree r.toJson) = .ok r.restored :=
  RecordClass.load_tree.mpr (sound.read_toJson shallow .tree)

/-- A record is read back from its compact document. -/
theorem load_text (texts : r.toJson.all Json.plainText = true)
    (shallow : r.toJson.nesting ≤ Json.Rules.strict.depth) :
    r.cls.load (.text r.toJson.compact) = .ok r.restored := by
  have within : r.toJson.nesting ≤ Open.deepest := Nat.le_trans shallow (by decide)
  have read := Record.read_write .strict (Nat.le_refl _) sound.typed.toJson_clean
    sound.toJson_finite shallow
  rw [RecordClass.load_text, RecordClass.readText, sound.compact_plain texts,
    if_neg Bool.false_ne_true]
  simp only [read]
  exact sound.read_toJson within .text

end Record.Sound

/-! ### Open values at the limits of the strict reader -/

/-- Objects with one member inside one another, around a number. -/
def Json.tower : Nat → Json
  | 0 => .int 1
  | n + 1 => .object [("a", tower n)]

theorem Json.nesting_tower (n : Nat) : (tower n).nesting = n := by
  induction n with
  | zero => rfl
  | succ n ih => rw [tower, nesting, nestingOfMembers, nestingOfMembers, ih, Nat.max_zero]

theorem Json.all_tower {test : Json → Bool} (leaf : test (.int 1) = true)
    (node : ∀ json, test (.object [("a", json)]) = true) (n : Nat) : (tower n).all test = true := by
  induction n with
  | zero => exact leaf
  | succ n ih => rw [tower, all, allMembers, allMembers, ih, node]; rfl

def Record.ofConfig (json : Json) : Record :=
  ⟨Catalogue.minioConfig, [.text [], .ofJson json]⟩

theorem Record.toJson_ofConfig {json : Json} (same : (Value.ofJson json).toJson = json)
    (present : json.isNull = false) : (ofConfig json).toJson = .object [("config", json)] := by
  have kept : Omission.absent.omits (.ofJson json) = false := by
    cases json with
    | null => cases present
    | bool | int | float | text | array | object => rfl
  change Json.object (if Omission.absent.omits (.ofJson json) then []
    else [("config", (Value.ofJson json).toJson)]) = _
  rw [kept, same]
  rfl

/-- A configuration comes in as a tree if its content is finite and not too deep. -/
theorem RecordClass.load_config {json : Json} (shallow : json.nesting < Open.deepest)
    (finite : json.all Json.finite = true) (present : json.isNull = false) :
    Catalogue.minioConfig.load (.tree (.object [("config", json)])) = .ok (.ofConfig json) := by
  have checked : Open.check 0 json = .ok () := (Open.check_iff 0 json).mpr ⟨by omega, finite⟩
  rw [load_tree]
  cases json with
  | null => cases present
  | bool | int | text => rfl
  | float | array | object =>
    change Except.map _ (Checked.both List.cons (.ok (Value.text [])) (Checked.both List.cons
      (Checked.under (.key "config") ((fun _ => Value.ofJson _) <$> Open.check 0 _)) (.ok []))) = _
    rw [checked]
    rfl

/-- The strict reader refuses the text of a value that goes past its limits. -/
theorem RecordClass.load_text_past {cls : RecordClass} {digits : Nat} {json : Json}
    (readable : json.all (Json.readable digits) = true) (finite : json.all Json.finite = true)
    (past : ¬ (json.nesting ≤ Json.Rules.strict.depth ∧ json.all Json.parsed = true)) (r : Record) :
    cls.load (.text json.compact) ≠ .ok r := by
  intro loaded
  obtain ⟨fault, refused, -⟩ := (Json.read_compact_limited (by decide) readable finite).mpr past
  rw [load_text, readText, refused] at loaded
  split at loaded <;> cases loaded

theorem Record.all_ofConfig {test : Value → Bool} {check : Json → Bool}
    (node : ∀ json, test (.ofJson json) = check json) (top : ∀ r, test (.record r) = true)
    (error : test (.text []) = true) {json : Json} (every : json.all check = true) :
    (ofConfig json).all test = true := by
  rw [← Value.all_ofJson node] at every
  simp [ofConfig, all_iff, Value.allItems, Value.all, top, error, every]

/-- A configuration with the content comes in, holds no surrogate and no double without a numeral,
and has a document whose reading back fails, though below its top it is as deep as the strict reader
allows. -/
structure Record.Stranded (json : Json) : Prop where
  loaded : Catalogue.minioConfig.load (.tree (.object [("config", json)])) = .ok (ofConfig json)
  finite : (ofConfig json).all Value.finite = true
  texts : (ofConfig json).all Value.plainText = true
  keys : (ofConfig json).all Value.plainKeys = true
  shallow : (ofConfig json).toJson.nesting ≤ 1 + Json.Rules.strict.depth
  refused : ∃ t, (ofConfig json).write = .ok t ∧
    ∀ back, Catalogue.minioConfig.load (.text t) ≠ .ok back

/-- The strict reader counts the top, and it limits integers. -/
theorem Record.stranded (digits : Nat) {json : Json} (same : (Value.ofJson json).toJson = json)
    (present : json.isNull = false) (readable : json.all (Json.readable digits) = true)
    (finite : json.all Json.finite = true) (texts : json.all Json.plainText = true)
    (keys : json.all Json.plainKeys = true) (shallow : json.nesting ≤ Json.Rules.strict.depth)
    (past : json.nesting = Json.Rules.strict.depth ∨ json.all Json.parsed = false) :
    Stranded json := by
  have document := toJson_ofConfig same present
  have depth : Json.Rules.strict.depth = 200 := rfl
  have nested : (Json.object [("config", json)]).nesting = json.nesting + 1 := by
    rw [Json.nesting, Json.nestingOfMembers, Json.nestingOfMembers, Nat.max_zero]
  have every {test : Json → Bool} (top : test (.object [("config", json)]) = true)
      (inside : json.all test = true) : (Json.object [("config", json)]).all test = true := by
    rw [Json.all, Json.allMembers, Json.allMembers, top, inside]
    rfl
  refine ⟨RecordClass.load_config (by rw [Open.deepest]; omega) finite present,
    all_ofConfig Value.finite_ofJson (fun _ => rfl) rfl finite,
    all_ofConfig Value.plainText_ofJson (fun _ => rfl) rfl texts,
    all_ofConfig Value.plainKeys_ofJson (fun _ => rfl) rfl keys, ?_, _,
    write_eq_ok.mpr ⟨⟨?_, ?_⟩, rfl⟩, fun back => ?_⟩
  · rw [document, nested]
    omega
  · rw [document, nested, Value.documentRoom]
    omega
  · rw [document]
    exact every rfl texts
  · rw [document]
    refine RecordClass.load_text_past (every rfl readable) (every rfl finite) ?_ back
    rintro ⟨within, parsed⟩
    rw [nested] at within
    rcases past with deep | long
    · omega
    · rw [Json.all, Json.allMembers, long] at parsed
      cases parsed

/-! ### The round trip -/

/-- What is read of a parsed payload is sound if it holds no double without a numeral and no
surrogate in a key. -/
theorem RecordClass.load_sound {name : Text} {cls : RecordClass}
    (catalogued : Catalogue.find? name = some cls) {payload : Payload} (parsed : payload.Parsed)
    {r : Record} (loaded : cls.load payload = .ok r) (finite : r.all Value.finite = true)
    (keys : r.all Value.plainKeys = true) : r.cls = cls ∧ r.Sound := by
  obtain ⟨intake, json, readable, found⟩ := load_ok parsed loaded
  obtain ⟨rfl, typed⟩ := read_typed catalogued readable found
  exact ⟨rfl, typed.lawful, typed.holds, finite, keys⟩

/-- A record of a catalogued class that came in as a text, as bytes or as values of its fields is
found again in its compact document and in its tree, if it holds no double without a numeral, no
surrogate, and no more containers with content inside one another than the strict reader allows.
What comes back is equal to it, field by field, and has the same document. -/
theorem RecordClass.load_write {name : Text} {cls : RecordClass}
    (catalogued : Catalogue.find? name = some cls) {payload : Payload} (parsed : payload.Parsed)
    {r : Record} (loaded : cls.load payload = .ok r) (finite : r.all Value.finite = true)
    (texts : r.all Value.plainText = true) (keys : r.all Value.plainKeys = true)
    (shallow : r.toJson.nesting ≤ Json.Rules.strict.depth) :
    ∃ t json back, r.write = .ok t ∧ cls.load (.text t) = .ok back ∧ r.writeTree = .ok json ∧
      cls.load (.tree json) = .ok back ∧ back.same r = true ∧ back.write = .ok t ∧
        ∀ field, (back.value field).same (r.value field) = true := by
  obtain ⟨rfl, sound⟩ := load_sound catalogued parsed loaded finite keys
  have plain := Record.all_toJson Value.plainText_carries texts
  have written : r.write = .ok r.toJson.compact :=
    Record.write_eq_ok.mpr ⟨⟨Nat.lt_of_le_of_lt shallow (by decide), plain⟩, rfl⟩
  exact ⟨_, _, _, written, sound.load_text plain shallow, sound.writeTree written,
    sound.load_tree (Nat.le_trans shallow (by decide)), sound.same_restored,
    sound.write_restored written, sound.value_restored⟩

/-- A configuration as deep as the strict reader allows is found again. -/
theorem RecordClass.load_write_tower :
    ∃ t json back, (Record.ofConfig (.tower 199)).write = .ok t ∧
      Catalogue.minioConfig.load (.text t) = .ok back ∧
        (Record.ofConfig (.tower 199)).writeTree = .ok json ∧
          Catalogue.minioConfig.load (.tree json) = .ok back ∧
            back.same (Record.ofConfig (.tower 199)) = true ∧ back.write = .ok t ∧
              ∀ field, (back.value field).same
                ((Record.ofConfig (.tower 199)).value field) = true := by
  have finite : (Json.tower 199).all Json.finite = true := Json.all_tower rfl (fun _ => rfl) _
  have texts : (Json.tower 199).all Json.plainText = true := Json.all_tower rfl (fun _ => rfl) _
  have keys : (Json.tower 199).all Json.plainKeys = true := Json.all_tower rfl (fun _ => rfl) _
  have parsed : (Json.tower 199).all Json.parsed = true :=
    Json.all_tower (by decide) (fun _ => rfl) _
  have catalogued : Catalogue.find? "MinioConfig" = some Catalogue.minioConfig := rfl
  refine load_write catalogued ?_
    (load_config (by rw [Json.nesting_tower]; decide) finite rfl)
    (Record.all_ofConfig Value.finite_ofJson (fun _ => rfl) rfl finite)
    (Record.all_ofConfig Value.plainText_ofJson (fun _ => rfl) rfl texts)
    (Record.all_ofConfig Value.plainKeys_ofJson (fun _ => rfl) rfl keys) ?_
  · rw [Payload.Parsed, Json.all, Json.allMembers, parsed]
    rfl
  · rw [Record.toJson_ofConfig (Value.toJson_ofJson _ parsed keys) rfl, Json.nesting,
      Json.nestingOfMembers, Json.nestingOfMembers, Json.nesting_tower]
    decide

/-- With one object more the document is written, but the strict reader refuses it. So it does with
an integer of one digit more than a numeral may have. -/
theorem RecordClass.load_write_past :
    Record.Stranded (.tower 200) ∧ Record.Stranded (.int (10 ^ 4300)) := by
  have keys : (Json.tower 200).all Json.plainKeys = true := Json.all_tower rfl (fun _ => rfl) _
  have parsed : (Json.tower 200).all Json.parsed = true :=
    Json.all_tower (by decide) (fun _ => rfl) _
  constructor
  · exact Record.stranded _ (Value.toJson_ofJson _ parsed keys) rfl parsed
      (Json.all_tower rfl (fun _ => rfl) _) (Json.all_tower rfl (fun _ => rfl) _) keys
      (by rw [Json.nesting_tower]; decide) (.inl (Json.nesting_tower 200))
  · exact Record.stranded 4301 rfl rfl
      ((Json.readable_power (by decide) 4300).trans (by decide)) rfl rfl rfl (by decide)
      (.inr ((Json.readable_power (by decide) 4300).trans (by decide)))

end ClusterHealth
