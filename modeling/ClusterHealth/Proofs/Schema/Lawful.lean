import ClusterHealth.Record.Encode
import ClusterHealth.Schema.Catalogue

/-!
# Lawful classes

What a class must keep to so that its documents lose nothing: no two fields share a name in
documents, no field is found under the name of another, and what is left out is what stands in for
a missing value. Every class of the catalogue keeps to it, `Catalogue.lawful`.
-/

namespace ClusterHealth

def Field.wires (fields : List (Field × Shape)) : List Text :=
  fields.map fun entry => entry.1.wire

namespace Shape

/-- Whether an empty value of the shape is as good as the one that stands in for a missing one. -/
def restsOnZero : Shape → Bool
  | text initial => initial.isEmpty
  | anything => false
  | nullable _ => false
  | _ => true

/-- Whether the names of the fields tell them apart, and what is left out can be told. -/
def lawfulNames (fields : List (Field × Shape)) : Bool :=
  decide (Field.wires fields).Nodup &&
    fields.all fun entry =>
      (entry.1.name = entry.1.wire || !(Field.wires fields).contains entry.1.name) &&
        !entry.1.wire.hasSurrogate && (entry.1.omission ≠ .empty || entry.2.restsOnZero)

mutual

/-- Whether all classes in the shape are lawful, and null tells an absent value from a present one.
-/
def lawful : Shape → Bool
  | nullable inner => !inner.admitsNull && inner.lawful
  | list item => item.lawful
  | mapping item => item.lawful
  | record ⟨_, _, fields⟩ => lawfulNames fields && lawfulFields fields
  | _ => true

def lawfulFields : List (Field × Shape) → Bool
  | [] => true
  | (_, shape) :: rest => shape.lawful && lawfulFields rest

end

end Shape

namespace Catalogue

theorem lawful : ∀ entry ∈ all, (Shape.record entry.2).lawful = true := by
  decide +kernel

end Catalogue

end ClusterHealth
