import ClusterHealth.Entries
import ClusterHealth.Record.Value

/-!
# Equality and hashing

Values are equal by what they mean: flags, integers and doubles as numbers, exactly; times as
instants; mappings whatever the order of their entries. Records are equal if their classes are one
and their fields are equal. A hash key depends on the fields alone, so records of two classes may
share it, and a list or a mapping anywhere has none.
-/

namespace ClusterHealth

namespace Value

/-- The number that a value stands for, in the units of doubles; none for what is no number and for
what is not finite. -/
def units? : Value → Option Int
  | flag b => some (Magnitude.unitsOfInt (if b then 1 else 0))
  | int n => some (Magnitude.unitsOfInt n)
  | number x => x.units?
  | _ => none

def sameScalar (a b : Value) : Bool :=
  match a, b with
  | absent, absent => true
  | text s, text t => s == t
  | time s, time t => s.instant == t.instant
  | number (.infinite s), number (.infinite t) => s == t
  | a, b =>
    match a.units?, b.units? with
    | some m, some n => m == n
    | _, _ => false

mutual

def same : Value → Value → Bool
  | list items, other =>
    match other with
    | list others => sameItems items others
    | _ => false
  | mapping entries, other =>
    match other with
    | mapping others => entries.length == others.length && sameEntries entries others
    | _ => false
  | record ⟨cls, values⟩, other =>
    match other with
    | record ⟨otherCls, others⟩ => cls.name == otherCls.name && sameItems values others
    | _ => false
  | a, b => sameScalar a b

def sameItems : List Value → List Value → Bool
  | [], [] => true
  | a :: as, b :: bs => same a b && sameItems as bs
  | _, _ => false

/-- Whether each entry has an equal one under its key among the others. -/
def sameEntries : List (Text × Value) → List (Text × Value) → Bool
  | [], _ => true
  | (key, value) :: entries, others =>
    (match Entries.get? key others with
      | some other => same value other
      | none => false) && sameEntries entries others

end

end Value

def Record.same (a b : Record) : Bool :=
  a.cls.name == b.cls.name && Value.sameItems a.values b.values

/-- What a hash is made from. Equal values have equal keys. -/
inductive HashKey
  | nothing
  | residue (n : Int)
  | notANumber
  | text (t : Text)
  | instant (micros : Int)
  | fields (keys : List HashKey)
  deriving BEq, Repr

inductive Unhashable
  | list
  | mapping
  deriving DecidableEq, Repr

def Unhashable.message : Unhashable → Text
  | list => "unhashable type: 'list'"
  | mapping => "unhashable type: 'dict'"

namespace HashKey

def modulus : Nat :=
  0x1FFFFFFFFFFFFFFF

/-- The key of a number by its residue without sign. The residue of minus one is set aside, so minus
one shares the key of minus two. -/
def ofResidue (negative : Bool) (residue : Nat) : HashKey :=
  if negative then .residue (if residue = 1 then -2 else -residue) else .residue residue

def ofInt (n : Int) : HashKey :=
  ofResidue (n < 0) (n.natAbs % modulus)

/-- The key of a double, which is that of an equal integer: modulo the prime, a unit is `2 ^ 24`. -/
def ofDouble : Double → HashKey
  | .finite negative m => ofResidue negative (m.units * 0x1000000 % modulus)
  | .infinite negative => .residue (if negative then -314159 else 314159)
  | .nan => .notANumber

/-- The key of a sequence of fields: none shares that of zero, and one keeps its own. -/
def ofFields : List HashKey → HashKey
  | [] => .residue 0
  | [key] => key
  | keys => .fields keys

end HashKey

namespace Value

mutual

/-- The hash key of a value, or the first container in the way. -/
def hashKey : Value → Except Unhashable HashKey
  | absent => .ok .nothing
  | flag b => .ok (.ofInt (if b then 1 else 0))
  | int n => .ok (.ofInt n)
  | number x => .ok (.ofDouble x)
  -- An empty text shares the key of zero.
  | text t => .ok (if t.isEmpty then .residue 0 else .text t)
  | time t => .ok (.instant t.instant)
  | list _ => .error .list
  | mapping _ => .error .mapping
  | record ⟨_, values⟩ =>
    match hashKeys values with
    | .ok keys => .ok (.ofFields keys)
    | .error e => .error e

def hashKeys : List Value → Except Unhashable (List HashKey)
  | [] => .ok []
  | value :: values =>
    match hashKey value with
    | .error e => .error e
    | .ok key =>
      match hashKeys values with
      | .error e => .error e
      | .ok keys => .ok (key :: keys)

end

end Value

def Record.hashKey (r : Record) : Except Unhashable HashKey :=
  (Value.record r).hashKey

end ClusterHealth
