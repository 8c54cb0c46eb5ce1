import ClusterHealth.Proofs.Record.Sources
import ClusterHealth.Proofs.Schema.Names

/-!
# Fields one by one

What is read of an object for one field depends on the members under the names of that field alone.
The fields of a class are read if each of them is, and their issues come one after another,
`Shape.issues_readFields`. An object that keeps only the members of one field gives that field what
the whole object gives it, `Shape.readFields_only_issues`.
-/

namespace ClusterHealth

def Checked.issues {α : Type} : Checked α → List Issue
  | .ok _ => []
  | .error issues => issues

namespace Checked

variable {α β γ : Type}

theorem issues_map (change : α → β) (c : Checked α) : (change <$> c).issues = c.issues := by
  cases c <;> rfl

theorem issues_relocate (f : Path → Path) (c : Checked α) :
    (relocate f c).issues = c.issues.map (Issue.relocate f) := by
  cases c <;> rfl

theorem issues_under (step : Step) (c : Checked α) :
    (under step c).issues = c.issues.map (Issue.under step) := by
  cases c <;> rfl

theorem issues_both (join : α → β → γ) (first : Checked α) (second : Checked β) :
    (both join first second).issues = first.issues ++ second.issues := by
  cases first <;> cases second <;> simp [both, issues]

theorem map_passes {change : α → β} {c : Checked α} :
    (∃ b, change <$> c = .ok b) ↔ ∃ a, c = .ok a := by
  cases c <;> simp [Functor.map, Except.map]

theorem both_passes {join : α → β → γ} {first : Checked α} {second : Checked β} :
    (∃ c, both join first second = .ok c) ↔ (∃ a, first = .ok a) ∧ ∃ b, second = .ok b := by
  cases first <;> cases second <;> simp [both]

end Checked

/-- The members under the names of a field. -/
def Field.only (field : Field) (members : List (Text × Json)) : List (Text × Json) :=
  members.filter fun m => decide (m.1 ∈ field.names)

namespace Shape

open Checked

variable {intake : Intake} {members others : List (Text × Json)} {fields : List (Field × Shape)}
  {e other : Field × Shape}

theorem readField_congr
    (same : ∀ key ∈ e.1.names, Entries.get? key others = Entries.get? key members) :
    readField intake others e = readField intake members e := by
  rw [readField, readField, Field.find?_congr same]

theorem readFields_congr (same : ∀ e ∈ fields, ∀ key ∈ e.1.names,
    Entries.get? key others = Entries.get? key members) :
    readFields intake others fields = readFields intake members fields := by
  induction fields with
  | nil => rfl
  | cons e rest ih =>
    obtain ⟨here, later⟩ := List.forall_mem_cons.mp same
    rw [readFields_eq, readFields_eq, readField_congr here, ih later]

theorem readFields_passes : (∃ values, readFields intake members fields = .ok values) ↔
    ∀ e ∈ fields, ∃ value, readField intake members e = .ok value := by
  induction fields with
  | nil => exact iff_of_true ⟨[], rfl⟩ (List.forall_mem_nil _)
  | cons e rest ih => rw [readFields_eq, both_passes, ih, List.forall_mem_cons]

/-- The issues of the fields come one after another, in the order of the fields. -/
theorem issues_readFields : (readFields intake members fields).issues =
    fields.flatMap fun e => (readField intake members e).issues := by
  induction fields with
  | nil => rfl
  | cons e rest ih => rw [readFields_eq, issues_both, ih, List.flatMap_cons]

/-- An issue of a field lies under the key by which the field was found. -/
theorem head_of_issue {issue : Issue} (member : issue ∈ (readField intake members e).issues) :
    ∃ key ∈ e.1.names, issue.path.head? = some (.key key) := by
  rw [readField] at member
  split at member
  · rename_i key json found
    rw [issues_under] at member
    obtain ⟨inner, -, rfl⟩ := List.mem_map.mp member
    exact ⟨key, Field.find?_own found, rfl⟩
  · cases member

/-! ### The members of one field -/

theorem get?_only (field : Field) (key : Text) : Entries.get? key (field.only members) =
    if key ∈ field.names then Entries.get? key members else none := by
  have kept := Entries.get?_filter_keys (fun key => decide (key ∈ field.names)) key members
  simpa only [Field.only, decide_eq_true_eq] using kept

theorem readField_only_self : readField intake (e.1.only members) e = readField intake members e := by
  refine readField_congr fun key own => ?_
  rw [get?_only, if_pos own]

theorem readField_only_other (apart : ∀ key ∈ e.1.names, key ∉ other.1.names) :
    readField intake (e.1.only members) other = .ok other.2.zero := by
  have missing : other.1.find? other.2.admitsNull (e.1.only members) = none := by
    cases found : other.1.find? other.2.admitsNull (e.1.only members) with
    | none => rfl
    | some m =>
      have own := Field.find?_own found
      have kept := List.mem_filter.mp (Field.find?_mem found)
      exact absurd own (apart _ (of_decide_eq_true kept.2))
  rw [readField, missing]

/-- From the members of one field comes its value, and from those of no other what stands in. -/
theorem readFields_only {place : Nat} {value : Value} (apart : Field.Apart fields)
    (entry : fields[place]? = some e) (own : readField intake members e = .ok value) :
    readFields intake (e.1.only members) fields = .ok ((zeros fields).set place value) := by
  have zeroed : ∀ rest : List (Field × Shape),
      (∀ other ∈ rest, ∀ key ∈ e.1.names, key ∉ other.1.names) →
        readFields intake (e.1.only members) rest = .ok (zeros rest) := by
    intro rest disjoint
    induction rest with
    | nil => rfl
    | cons other rest ih =>
      obtain ⟨here, later⟩ := List.forall_mem_cons.mp disjoint
      rw [readFields_eq, readField_only_other here, ih later]
      rfl
  induction fields generalizing place with
  | nil => cases entry
  | cons first rest ih =>
    obtain ⟨here, later⟩ := List.pairwise_cons.mp apart
    rw [readFields_eq]
    cases place with
    | zero =>
      obtain rfl := Option.some.inj entry
      rw [readField_only_self, own, zeroed rest here]
      rfl
    | succ place =>
      have behind : rest[place]? = some e := entry
      have disjoint : ∀ key ∈ e.1.names, key ∉ first.1.names :=
        fun key own own' => here e (List.mem_of_getElem? behind) key own' own
      rw [readField_only_other disjoint, ih later behind]
      rfl

theorem readFields_only_passes (apart : Field.Apart fields) (member : e ∈ fields) :
    (∃ values, readFields intake (e.1.only members) fields = .ok values) ↔
      ∃ value, readField intake members e = .ok value := by
  rw [readFields_passes, ← readField_only_self]
  constructor
  · intro each
    exact each e member
  · intro passes other member'
    rcases apart.eq_or_disjoint member member' with rfl | disjoint
    · exact passes
    · exact ⟨_, readField_only_other disjoint⟩

/-- From the members of one field the issues are those of that field. -/
theorem readFields_only_issues (apart : Field.Apart fields) (member : e ∈ fields) :
    (readFields intake (e.1.only members) fields).issues =
      (readField intake members e).issues := by
  rw [issues_readFields]
  -- The other fields, before it and behind it, find nothing and have no issues.
  induction fields with
  | nil => cases member
  | cons first rest ih =>
    obtain ⟨here, later⟩ := List.pairwise_cons.mp apart
    rw [List.flatMap_cons]
    rcases List.mem_cons.mp member with rfl | inside
    · have others : ∀ other ∈ rest, (readField intake (e.1.only members) other).issues = [] := by
        intro other member'
        rw [readField_only_other (here other member')]
        rfl
      rw [List.flatMap_eq_nil_iff.mpr others, List.append_nil, readField_only_self]
    · have disjoint : ∀ key ∈ e.1.names, key ∉ first.1.names :=
        fun key own own' => here e inside key own' own
      rw [readField_only_other disjoint, ih later inside]
      rfl

end Shape

namespace RecordClass

open Shape

variable {cls : RecordClass} {members : List (Text × Json)} {e : Field × Shape} {r part : Record}

theorem get?_of_read (apart : Field.Apart cls.fields) (member : e ∈ cls.fields) {intake : Intake}
    (found : cls.read intake (.object members) = .ok r) :
    ∃ value, r.get? e.1.name = some value ∧ readField intake members e = .ok value := by
  obtain ⟨place, entry⟩ := List.mem_iff_getElem?.mp member
  obtain ⟨rfl, _, same, read⟩ := read_ok found
  obtain rfl := Json.object.inj same
  obtain ⟨value, here, field⟩ := readFields_at read entry
  refine ⟨value, ?_, field⟩
  rw [Record.get?, apart.index? entry]
  exact here

/-- The members of a field give it the value that the whole object gives it. -/
theorem value_of_only (apart : Field.Apart cls.fields) (member : e ∈ cls.fields)
    {intake : Intake} (found : cls.read intake (.object members) = .ok r)
    (found' : cls.read intake (.object (e.1.only members)) = .ok part) :
    ∃ value, r.get? e.1.name = some value ∧ part.get? e.1.name = some value := by
  obtain ⟨value, here, field⟩ := get?_of_read apart member found
  obtain ⟨value', here', field'⟩ := get?_of_read apart member found'
  rw [readField_only_self, field] at field'
  obtain rfl := Except.ok.inj field'
  exact ⟨value, here, here'⟩

theorem read_congr {intake : Intake} {others : List (Text × Json)}
    (same : ∀ e ∈ cls.fields, ∀ key ∈ e.1.names,
      Entries.get? key others = Entries.get? key members) :
    cls.read intake (.object others) = cls.read intake (.object members) := by
  rw [RecordClass.read, RecordClass.read, readFields_congr same]

end RecordClass

end ClusterHealth
