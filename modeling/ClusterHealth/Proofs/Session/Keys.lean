import ClusterHealth.Proofs.Record.Parts
import ClusterHealth.Proofs.Session.Accepted

/-!
# The keys of mappings in documents

Encoding keeps the keys of every mapping in a record exactly if none of them holds a surrogate,
`Record.Decoded.keeps_keys_iff`. A key with one is rewritten without a word, and an entry is lost if
two keys become one, `Record.Decoded.not_keeps_keys_merged`.
-/

namespace ClusterHealth.Record

variable {r : Record}

/-- Every mapping in the record stands in the tree, at the end of the path that its own keys make,
as an object with exactly its entries under their own keys. It may be left out if it is empty. -/
def KeepsKeys (r : Record) (tree : Json) : Prop :=
  ∀ path entries, Value.Stands (.mapping entries) path (.record r) →
    (tree.at? path).getD (.object []) = .object (entries.map fun e => (e.1, e.2.toJson.printed))

theorem Typed.keepsKeys (typed : r.Typed) (keys : r.all Value.plainKeys = true) :
    r.KeepsKeys r.toJson.printed := by
  intro path entries stands
  have whole := Value.typed_record.mpr typed
  have distinct := (Value.typed_entry (stands.typed whole)).1
  have plain := Shape.plainKeys_iff.mp ((Value.all_iff_stands whole).mp keys path _ stands)
  obtain ⟨-, same | ⟨missing, empty⟩⟩ := Value.toJson_at?_or whole (stands.at? whole keys)
  · rw [Value.toJson_record, Shape.toJson_mapping distinct plain] at same
    rw [Json.at?_printed, same, Option.map_some, Option.getD_some, Json.printed,
      Json.printedMembers_eq, List.map_map]
    rfl
  · obtain rfl := List.isEmpty_iff.mp empty
    rw [Value.toJson_record] at missing
    rw [Json.at?_printed, missing]
    rfl

theorem Typed.plainKeys_of_keepsKeys (typed : r.Typed) {tree : Json}
    (plain : tree.all Json.plainKeys = true) (keeps : r.KeepsKeys tree) :
    r.all Value.plainKeys = true := by
  apply (Value.all_iff_stands (Value.typed_record.mpr typed)).mpr
  intro path part stands
  cases part with
  | mapping entries =>
    -- The object that stands for it is one of the tree or empty, so its keys hold no surrogate.
    have names : ((tree.at? path).getD (.object [])).plainKeys = true := by
      cases found : tree.at? path with
      | none => rfl
      | some inner => exact Json.test_of_all (Json.all_at? plain found)
    rw [keeps path entries stands, Json.plainKeys, List.all_map] at names
    exact names
  | absent | flag | int | number | text | time | list | record => rfl

theorem Typed.plainKeys_printed (typed : r.Typed) :
    r.toJson.printed.all Json.plainKeys = true :=
  Json.all_printed Json.plainKeys_printed _ (Json.plainKeys_of_clean typed.toJson_clean)

/-- A record that a call returned either has no document, which is reported, or has one in which it
keeps the keys of its mappings exactly if none of them holds a surrogate. -/
theorem Decoded.keeps_keys_iff (decoded : r.Decoded) (s later : Session) :
    match (Call.writeRecord r).outcome s with
    | .error fault => ∃ u, fault = .writing (.unwritable u)
    | .ok _ => ∃ tree, (Call.writeTree r).outcome later = .ok tree ∧
        (r.KeepsKeys tree ↔ r.all Value.plainKeys = true) := by
  have typed := decoded.typed
  rw [typed.outcome_writeTree s]
  cases returned : (Call.writeRecord r).outcome s with
  | error fault =>
    obtain ⟨u, -, same⟩ := Call.refused_writeRecord.mp returned
    exact ⟨u, same.symm⟩
  | ok t =>
    exact ⟨_, rfl, typed.plainKeys_of_keepsKeys typed.plainKeys_printed, typed.keepsKeys⟩

def nestedKeys : Record :=
  .ofConfig (.object [("b", .object [([0xE9], .int 1), ([], .null)]), ("a", .object [])])

theorem Decoded.keeps_keys_nested : ∃ (s : Session) (tree : Json),
    (Call.writeTree nestedKeys).outcome s = .ok tree ∧ nestedKeys.KeepsKeys tree := by
  let s : Session := .initial [] .zero
  have decoded : nestedKeys.Decoded := .ofConfig (by decide) (by decide) (by decide) rfl
  have written : nestedKeys.write = .ok nestedKeys.toJson.compact :=
    write_eq_ok.mpr ⟨by decide +kernel, rfl⟩
  have outcome := keeps_keys_iff decoded s s
  rw [Call.returned_writeRecord.mpr written] at outcome
  obtain ⟨tree, returned, keeps⟩ := outcome
  exact ⟨s, tree, returned, keeps.mpr (by decide +kernel)⟩

/-- A configuration with two keys that differ in a surrogate. -/
def mergedKeys : Record :=
  .ofConfig (.object [([0xD800], .int 1), ([0xDFFF], .int 2)])

/-- Both are written as the same three replacement characters, and the first entry is lost. -/
theorem Decoded.not_keeps_keys_merged : mergedKeys.Decoded ∧ ∃ (s : Session) (t : Text),
    (Call.writeRecord mergedKeys).outcome s = .ok t ∧
      (Call.writeTree mergedKeys).outcome s =
        .ok (.object [("config", .object [([0xFFFD, 0xFFFD, 0xFFFD], .int 2)])]) ∧
        ¬ mergedKeys.KeepsKeys
          (.object [("config", .object [([0xFFFD, 0xFFFD, 0xFFFD], .int 2)])]) := by
  have decoded : mergedKeys.Decoded := .ofConfig (by decide) (by decide) (by decide) rfl
  have written : mergedKeys.write = .ok mergedKeys.toJson.compact :=
    write_eq_ok.mpr ⟨by decide +kernel, rfl⟩
  have returned : (Call.writeRecord mergedKeys).outcome (.initial [] .zero) = .ok _ :=
    Call.returned_writeRecord.mpr written
  refine ⟨decoded, _, _, returned, ?_, ?_⟩
  · rw [decoded.typed.outcome_writeTree (.initial [] .zero), returned]
    rfl
  · intro keeps
    have plain := decoded.typed.plainKeys_of_keepsKeys (by decide) keeps
    exact absurd plain (by decide +kernel)

end ClusterHealth.Record
