import ClusterHealth.Proofs.Entries
import ClusterHealth.Record.Decode
import ClusterHealth.Schema.Catalogue

/-!
# The names of fields

A field is found under either of its names, and in no class of the catalogue is a key a name of two
fields, `Catalogue.tellsApart`. So the member that a field takes is its own, `Field.find?_own`.
-/

namespace ClusterHealth

namespace Field

def names (field : Field) : List Text :=
  [field.wire, field.name]

/-- No key is a name of two of the fields. -/
def Apart (fields : List (Field × Shape)) : Prop :=
  fields.Pairwise fun a b => ∀ key ∈ a.1.names, key ∉ b.1.names

instance (fields : List (Field × Shape)) : Decidable (Apart fields) :=
  inferInstanceAs (Decidable (List.Pairwise _ _))

variable {fields : List (Field × Shape)} {key : Text}

theorem wire_mem_names (field : Field) : field.wire ∈ field.names :=
  List.mem_cons_self

theorem name_mem_names (field : Field) : field.name ∈ field.names :=
  List.mem_cons_of_mem _ List.mem_cons_self

theorem mem_names {field : Field} : key ∈ field.names ↔ key = field.wire ∨ key = field.name := by
  simp [names]

instance (field : Field) (key : Text) : Decidable (key ∈ field.names) :=
  decidable_of_iff _ mem_names.symm

/-- A key belongs to one field. -/
theorem Apart.unique {e other : Field × Shape} (apart : Apart fields) (member : e ∈ fields)
    (member' : other ∈ fields) (own : key ∈ e.1.names) (own' : key ∈ other.1.names) : e = other := by
  induction fields with
  | nil => cases member
  | cons first rest ih =>
    obtain ⟨here, later⟩ := List.pairwise_cons.mp apart
    rcases List.mem_cons.mp member with rfl | inside
    · rcases List.mem_cons.mp member' with rfl | inside'
      · rfl
      · exact absurd own' (here other inside' key own)
    · rcases List.mem_cons.mp member' with rfl | inside'
      · exact absurd own (here e inside key own')
      · exact ih later inside inside'

theorem Apart.eq_or_disjoint {e other : Field × Shape} (apart : Apart fields) (member : e ∈ fields)
    (member' : other ∈ fields) : other = e ∨ ∀ key ∈ e.1.names, key ∉ other.1.names := by
  by_cases shared : ∃ key ∈ e.1.names, key ∈ other.1.names
  · obtain ⟨key, own, own'⟩ := shared
    exact .inl (apart.unique member' member own' own)
  · exact .inr fun key own own' => shared ⟨key, own, own'⟩

variable {members others : List (Text × Json)} {field : Field} {admitsNull : Bool}

/-- The member under a key, unless it is null where null stands for a missing value. -/
def offered (admitsNull : Bool) (members : List (Text × Json)) (key : Text) :
    Option (Text × Json) :=
  match Entries.get? key members with
  | some json => if json.isNull && !admitsNull then none else some (key, json)
  | none => none

theorem find?_eq : field.find? admitsNull members =
    (offered admitsNull members field.wire).or (offered admitsNull members field.name) := by
  have listed : field.find? admitsNull members =
      field.names.findSome? (offered admitsNull members) := rfl
  rw [listed, names, List.findSome?_cons, List.findSome?_cons, List.findSome?_nil]
  cases offered admitsNull members field.wire <;> cases offered admitsNull members field.name <;> rfl

theorem offered_eq_some {other : Text} {json : Json} :
    offered admitsNull members key = some (other, json) ↔
      other = key ∧ Entries.get? key members = some json ∧
        (json.isNull = false ∨ admitsNull = true) := by
  rw [offered]
  cases Entries.get? key members with
  | none => simp
  | some found => cases null : found.isNull <;> cases admitsNull <;> grind

theorem find?_own {json : Json} (found : field.find? admitsNull members = some (key, json)) :
    key ∈ field.names := by
  rw [find?_eq, Option.or_eq_some_iff] at found
  rw [mem_names]
  rcases found with wire | ⟨-, name⟩
  · exact .inl (offered_eq_some.mp wire).1
  · exact .inr (offered_eq_some.mp name).1

theorem find?_congr
    (same : ∀ key ∈ field.names, Entries.get? key others = Entries.get? key members) :
    field.find? admitsNull others = field.find? admitsNull members := by
  have wire := same _ field.wire_mem_names
  have name := same _ field.name_mem_names
  rw [find?_eq, find?_eq, offered, offered, wire, name, offered, offered]

/-- Where no other member comes under a new key, a field is offered under it what it was offered. -/
theorem offered_rename (rename : Text → Text) {change : Text × Json → Json}
    (nulls : ∀ m, (change m).isNull = m.2.isNull) {old new : Text} (renamed : rename old = new)
    (only : ∀ m ∈ members, rename m.1 = new ↔ m.1 = old) :
    offered admitsNull (members.map fun m => (rename m.1, change m)) new =
      (offered admitsNull members old).map fun m => (rename m.1, change m) := by
  rw [offered, offered, Entries.get?_rename change only]
  cases Entries.get? old members with
  | none => rfl
  | some json =>
    simp only [Option.map_some, nulls]
    split
    · rfl
    · rw [Option.map_some, renamed]

theorem Apart.index? {cls : RecordClass} (apart : Apart cls.fields) {place : Nat}
    {e : Field × Shape} (entry : cls.fields[place]? = some e) :
    cls.index? e.1.name = some place := by
  obtain ⟨bound, rfl⟩ := List.getElem?_eq_some_iff.mp entry
  refine List.findIdx?_eq_some_iff_getElem.mpr ⟨bound, by simp, ?_⟩
  intro earlier before same
  have different := List.pairwise_iff_getElem.mp apart earlier place (by omega) bound before
  have shared : cls.fields[earlier].1.name = cls.fields[place].1.name := of_decide_eq_true same
  exact different _ (name_mem_names _) (shared ▸ name_mem_names _)

end Field

namespace Shape

mutual

/-- Whether in no class in the shape a key is a name of two fields. -/
def tellsApart : Shape → Bool
  | nullable inner => inner.tellsApart
  | list item => item.tellsApart
  | mapping item => item.tellsApart
  | record ⟨_, _, fields⟩ => decide (Field.Apart fields) && tellsApartFields fields
  | _ => true

def tellsApartFields : List (Field × Shape) → Bool
  | [] => true
  | (_, shape) :: rest => shape.tellsApart && tellsApartFields rest

end

theorem tellsApart_record {cls : RecordClass} : (record cls).tellsApart = true ↔
    Field.Apart cls.fields ∧ tellsApartFields cls.fields = true := by
  obtain ⟨name, aspects, fields⟩ := cls
  rw [tellsApart, Bool.and_eq_true, decide_eq_true_eq]

theorem tellsApart_cons {e : Field × Shape} {rest : List (Field × Shape)} :
    tellsApartFields (e :: rest) = true ↔
      e.2.tellsApart = true ∧ tellsApartFields rest = true := by
  rw [tellsApartFields, Bool.and_eq_true]

end Shape

namespace Catalogue

theorem tellsApart : ∀ entry ∈ all, (Shape.record entry.2).tellsApart = true := by
  decide +kernel

theorem tellsApart_of_find? {name : Text} {cls : RecordClass} (found : find? name = some cls) :
    (Shape.record cls).tellsApart = true :=
  tellsApart _ (Entries.mem_of_get? found)

end Catalogue

end ClusterHealth
