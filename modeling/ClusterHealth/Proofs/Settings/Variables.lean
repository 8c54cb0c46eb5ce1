import ClusterHealth.Proofs.Entries
import ClusterHealth.Proofs.Json.Tree
import ClusterHealth.Settings.EnvFile
import Mathlib.Tactic.SplitIfs

/-!
# Setting variables

Whether a variable can be set depends on it alone, `Environment.set_eq_ok`. Of many, those up to the
first that cannot be set are put in the environment, `Environment.setAll_eq`. Where no name stands
twice, they leave it as it was only if they had their values before, `Environment.putAll_eq_self`.
-/

namespace ClusterHealth

/-- The system has bytes for the text: it holds no null, and no surrogate but those for bytes. -/
def Text.hasBytes (t : Text) : Bool :=
  !t.contains 0 && t.all fun c => !c.isSurrogate || c.within 0xDC80 0xDCFF

theorem Text.bytelessRun?_eq_none {t : Text} : t.bytelessRun? = none ↔
    (t.all fun c => !c.isSurrogate || c.within 0xDC80 0xDCFF) = true := by
  rw [bytelessRun?, Json.runFrom?_eq_none, ← Bool.not_eq_true', List.not_any_eq_all_not]
  simp only [Bool.not_and, Bool.not_not]

namespace Environment

/-- Whether a variable can be set, in any environment. -/
def settable (v : Text × Text) : Bool :=
  v.1.hasBytes && v.2.hasBytes && !v.1.contains (CodePoint.ofChar '=') && !v.1.isEmpty

theorem set_eq_ok {name value : Text} {environment later : Environment} :
    environment.set name value = .ok later ↔
      settable (name, value) = true ∧ Entries.put name value environment = later := by
  have bytes (t : Text) : t.hasBytes = true ↔ t.contains 0 = false ∧ t.bytelessRun? = none := by
    rw [Text.hasBytes, Bool.and_eq_true, Bool.not_eq_true', Text.bytelessRun?_eq_none]
  simp only [settable, Bool.and_eq_true, bytes, Bool.not_eq_true']
  rw [set]
  cases name.bytelessRun? with
  | some run => simp
  | none =>
    cases value.bytelessRun? with
    | some run => simp
    | none =>
      dsimp only [Option.or]
      cases name.contains 0 <;> cases value.contains 0 <;>
        cases name.contains (CodePoint.ofChar '=') <;> cases name.isEmpty <;> simp

def assigned (values : Entries (Option Text)) : Entries Text :=
  values.filterMap fun entry => entry.2.map (entry.1, ·)

def putAll (changes : Entries Text) (environment : Environment) : Environment :=
  changes.foldl (fun environment v => Entries.put v.1 v.2 environment) environment

theorem setAll_eq (values : Entries (Option Text)) (environment : Environment) :
    (setAll values environment).1 = putAll ((assigned values).takeWhile settable) environment ∧
      ((setAll values environment).2 = .ok () ↔ ∀ v ∈ assigned values, settable v = true) := by
  induction values generalizing environment with
  | nil => exact ⟨rfl, iff_of_true rfl nofun⟩
  | cons entry values ih =>
    obtain ⟨name, _ | value⟩ := entry
    · exact ih environment
    · have cons : assigned ((name, some value) :: values) = (name, value) :: assigned values := rfl
      rw [setAll, cons, List.takeWhile_cons, List.forall_mem_cons]
      cases fits : settable (name, value) with
      | true =>
        rw [set_eq_ok.mpr ⟨fits, rfl⟩]
        obtain ⟨put, outcome⟩ := ih (Entries.put name value environment)
        exact ⟨put, outcome.trans (by simp)⟩
      | false =>
        cases stopped : environment.set name value with
        | ok later =>
          rw [(set_eq_ok.mp stopped).1] at fits
          cases fits
        | error fault => exact ⟨rfl, iff_of_false nofun fun all => nomatch all.1⟩

theorem putAll_cons (v : Text × Text) (changes : Entries Text) (environment : Environment) :
    putAll (v :: changes) environment = putAll changes (Entries.put v.1 v.2 environment) :=
  rfl

theorem get?_putAll {changes : Entries Text} (distinct : Entries.Distinct changes)
    (name : Text) (environment : Environment) : Entries.get? name (putAll changes environment) =
      (Entries.get? name changes).or (Entries.get? name environment) := by
  induction changes generalizing environment with
  | nil => rfl
  | cons v changes ih =>
    obtain ⟨fresh, rest⟩ := Entries.distinct_cons.mp distinct
    rw [putAll_cons, ih rest, Entries.get?]
    by_cases same : v.1 = name
    · rw [if_pos same, ← same, Entries.get?_eq_none_of_not_mem fresh, Entries.get?_put_self]
      rfl
    · rw [if_neg same, Entries.get?_put_of_ne (Ne.symm same)]

theorem put_eq_self {name value : Text} {environment : Environment}
    (there : Entries.get? name environment = some value) :
    Entries.put name value environment = environment := by
  induction environment with
  | nil => cases there
  | cons entry environment ih =>
    obtain ⟨other, held⟩ := entry
    rw [Entries.get?] at there
    rw [Entries.put]
    split_ifs at there ⊢ with same
    · rw [same, Option.some.inj there]
    · rw [ih there]

theorem putAll_eq_self {changes : Entries Text} (distinct : Entries.Distinct changes)
    {environment : Environment} : putAll changes environment = environment ↔
      ∀ v ∈ changes, Entries.get? v.1 environment = some v.2 := by
  constructor
  · intro still v member
    have found := get?_putAll distinct v.1 environment
    rwa [still, Entries.get?_of_mem distinct member] at found
  · intro held
    induction changes with
    | nil => rfl
    | cons v changes ih =>
      obtain ⟨first, others⟩ := List.forall_mem_cons.mp held
      rw [putAll_cons, put_eq_self first, ih (Entries.distinct_cons.mp distinct).2 others]

/-- No name stands twice among the variables of a file. -/
theorem resolve_distinct (environment : Environment) (bindings : List EnvFile.Binding) :
    Entries.Distinct (EnvFile.resolve environment bindings) := by
  have started (read : Entries (Option Text) → EnvFile.Binding → Option Text)
      {values : Entries (Option Text)} (distinct : Entries.Distinct values) :
      Entries.Distinct (bindings.foldl (fun values binding =>
        Entries.put binding.1 (read values binding) values) values) := by
    induction bindings generalizing values with
    | nil => exact distinct
    | cons binding bindings ih => exact ih (Entries.put_distinct _ _ distinct)
  exact started (fun values binding => binding.2.map (EnvFile.expand _)) List.nodup_nil

theorem assigned_distinct {values : Entries (Option Text)} (distinct : Entries.Distinct values) :
    Entries.Distinct (assigned values) := by
  refine distinct.sublist ?_
  induction values with
  | nil => exact .slnil
  | cons entry values ih =>
    obtain ⟨name, _ | value⟩ := entry
    · exact (ih (Entries.distinct_cons.mp distinct).2).cons name
    · exact (ih (Entries.distinct_cons.mp distinct).2).cons_cons name

end Environment

end ClusterHealth
