import ClusterHealth.Record.Issue
import Mathlib.Data.List.Forall2

/-!
# What passes a check

A value that is put together passes exactly if its parts do.
-/

namespace ClusterHealth.Checked

variable {α β γ : Type}

theorem map_eq_ok {f : α → β} {c : Checked α} {b : β} :
    f <$> c = .ok b ↔ ∃ a, c = .ok a ∧ f a = b := by
  cases c <;> simp [Functor.map, Except.map]

theorem map_injective {f : α → β} (inj : ∀ a b, f a = f b → a = b) {c other : Checked α}
    (same : f <$> c = f <$> other) : c = other := by
  cases c with
  | error issues =>
    cases other with
    | error more => exact congrArg Except.error (Except.error.inj same)
    | ok => cases same
  | ok a =>
    cases other with
    | error => cases same
    | ok b => exact congrArg Except.ok (inj a b (Except.ok.inj same))

theorem under_eq_ok {step : Step} {c : Checked α} {a : α} : under step c = .ok a ↔ c = .ok a := by
  cases c <;> simp [under]

theorem both_eq_ok {join : α → β → γ} {first : Checked α} {second : Checked β} {c : γ} :
    both join first second = .ok c ↔ ∃ a b, first = .ok a ∧ second = .ok b ∧ join a b = c := by
  cases first <;> cases second <;> simp [both]

theorem both_unit {first second : Checked Unit} :
    both (fun _ _ => ()) first second = .ok () ↔ first = .ok () ∧ second = .ok () := by
  cases first <;> cases second <;> simp [both]

theorem items_eq_ok {check : α → Checked β} {given : List α} (start : Nat) {passed : List β} :
    items check start given = .ok passed ↔
      List.Forall₂ (fun a b => check a = .ok b) given passed := by
  induction given generalizing start passed with
  | nil => simp [items, eq_comm]
  | cons a given ih =>
    simp only [items, both_eq_ok, under_eq_ok, ih, List.forall₂_cons_left_iff]
    constructor
    · rintro ⟨b, rest, first, others, rfl⟩
      exact ⟨b, rest, first, others, rfl⟩
    · rintro ⟨b, rest, first, others, rfl⟩
      exact ⟨b, rest, first, others, rfl⟩

theorem entries_eq_ok {check : α → Checked β} {given : List (Text × α)}
    {passed : List (Text × β)} :
    entries check given = .ok passed ↔
      List.Forall₂ (fun a b => a.1 = b.1 ∧ check a.2 = .ok b.2) given passed := by
  induction given generalizing passed with
  | nil => simp [entries, eq_comm]
  | cons a given ih =>
    obtain ⟨key, value⟩ := a
    simp only [entries, both_eq_ok, under_eq_ok, ih, List.forall₂_cons_left_iff]
    constructor
    · rintro ⟨b, rest, first, others, rfl⟩
      exact ⟨(key, b), rest, ⟨rfl, first⟩, others, rfl⟩
    · rintro ⟨⟨_, b⟩, rest, ⟨rfl, first⟩, others, rfl⟩
      exact ⟨b, rest, first, others, rfl⟩

theorem items_congr {check other : α → Checked β} {given : List α}
    (same : ∀ a ∈ given, check a = other a) (start : Nat) :
    items check start given = items other start given := by
  induction given generalizing start with
  | nil => rfl
  | cons a given ih =>
    obtain ⟨first, others⟩ := List.forall_mem_cons.mp same
    rw [items, items, first, ih others]

theorem entries_congr {check other : α → Checked β} {given : List (Text × α)}
    (same : ∀ e ∈ given, check e.2 = other e.2) : entries check given = entries other given := by
  induction given with
  | nil => rfl
  | cons e given ih =>
    obtain ⟨first, others⟩ := List.forall_mem_cons.mp same
    obtain ⟨key, value⟩ := e
    rw [entries, entries, first, ih others]

/-- What has passed comes from something that was given. -/
theorem exists_of_mem {R : α → β → Prop} {given : List α} {passed : List β}
    (related : List.Forall₂ R given passed) {b : β} (member : b ∈ passed) :
    ∃ a ∈ given, R a b := by
  induction related with
  | nil => cases member
  | cons first _ ih =>
    rcases List.mem_cons.mp member with rfl | later
    · exact ⟨_, List.mem_cons_self, first⟩
    · obtain ⟨a, inside, found⟩ := ih later
      exact ⟨a, List.mem_cons_of_mem _ inside, found⟩

theorem forall₂_and_iff {R : α → β → Prop} {P : α → Prop} {given : List α} {passed : List β} :
    List.Forall₂ (fun a b => R a b ∧ P a) given passed ↔
      List.Forall₂ R given passed ∧ ∀ a ∈ given, P a := by
  simp only [and_comm (b := P _), List.forall₂_and_left, and_comm (b := ∀ a ∈ given, P a)]

theorem forall_iff_of_related {R : α → β → Prop} {P : α → Prop} {Q : β → Prop} {given : List α}
    {passed : List β} (related : List.Forall₂ R given passed) (same : ∀ a b, R a b → (P a ↔ Q b)) :
    (∀ a ∈ given, P a) ↔ ∀ b ∈ passed, Q b := by
  induction related with
  | nil => exact iff_of_true nofun nofun
  | cons first _ ih => rw [List.forall_mem_cons, List.forall_mem_cons, same _ _ first, ih]

theorem forall₂_of_exists {R : α → β → Prop} {given : List α} (each : ∀ a ∈ given, ∃ b, R a b) :
    ∃ passed, List.Forall₂ R given passed := by
  induction given with
  | nil => exact ⟨[], .nil⟩
  | cons a given ih =>
    obtain ⟨b, first⟩ := each a List.mem_cons_self
    obtain ⟨rest, others⟩ := ih fun a member => each a (List.mem_cons_of_mem _ member)
    exact ⟨b :: rest, .cons first others⟩

theorem keys_of_related {P : Text × α → Text × β → Prop} {given : List (Text × α)}
    {passed : List (Text × β)}
    (related : List.Forall₂ (fun a b => a.1 = b.1 ∧ P a b) given passed) :
    given.map Prod.fst = passed.map Prod.fst := by
  induction related with
  | nil => rfl
  | cons first _ ih => rw [List.map_cons, List.map_cons, first.1, ih]

end ClusterHealth.Checked

namespace ClusterHealth

def Issue.relocate (f : Path → Path) (issue : Issue) : Issue :=
  { issue with path := f issue.path }

/-- The map on paths that leaves the first step and maps what follows. -/
def Path.past (f : Path → Path) : Path → Path
  | [] => []
  | step :: path => step :: f path

namespace Checked

/-! ### Issues at other places -/

variable {α β γ : Type} {f g : Path → Path}

def relocate (f : Path → Path) (c : Checked α) : Checked α :=
  c.mapError (List.map (Issue.relocate f))

theorem relocate_refuse (top : f [] = []) (problem : Problem) :
    relocate f (refuse problem : Checked α) = refuse problem := by
  simp [relocate, refuse, Except.mapError, Issue.relocate, top]

theorem relocate_map (change : α → β) (c : Checked α) :
    relocate f (change <$> c) = change <$> relocate f c := by
  cases c <;> rfl

theorem relocate_both (join : α → β → γ) (first : Checked α) (second : Checked β) :
    relocate f (both join first second) = both join (relocate f first) (relocate f second) := by
  cases first <;> cases second <;> simp [relocate, both, Except.mapError]

theorem relocate_under {step other : Step} (moved : ∀ path, f (step :: path) = other :: g path)
    (c : Checked α) : relocate f (under step c) = under other (relocate g c) := by
  cases c with
  | ok value => rfl
  | error issues =>
    have each : ∀ issue : Issue,
        (issue.under step).relocate f = (issue.relocate g).under other := by
      intro issue
      simp only [Issue.under, Issue.relocate, moved]
    simp only [relocate, under, Except.mapError, List.map_map, Function.comp_def, each]

theorem relocate_past (step : Step) (c : Checked α) :
    relocate (Path.past f) (under step c) = under step (relocate f c) := by
  have moved : ∀ path, Path.past f (step :: path) = step :: f path := fun _ => rfl
  exact relocate_under moved c

theorem relocate_self (fixed : ∀ path, f path = path) (c : Checked α) : relocate f c = c := by
  cases c with
  | ok value => rfl
  | error issues =>
    have each : ∀ issue : Issue, issue.relocate f = issue := by
      intro issue
      rw [Issue.relocate, fixed]
    rw [relocate, Except.mapError, funext each, List.map_id']

theorem relocate_eq_ok {c : Checked α} {a : α} : relocate f c = .ok a ↔ c = .ok a := by
  cases c <;> simp [relocate, Except.mapError]

/-- Items that are changed one by one give the same issues one step further in. -/
theorem items_relocate {check other : α → Checked β} {change : α → α} {given : List α}
    (each : ∀ a ∈ given, other (change a) = relocate f (check a)) (start : Nat) :
    items other start (given.map change) = relocate (Path.past f) (items check start given) := by
  induction given generalizing start with
  | nil => rfl
  | cons a given ih =>
    obtain ⟨first, rest⟩ := List.forall_mem_cons.mp each
    rw [List.map_cons, items, items, relocate_both, relocate_past, ih rest, first]

theorem entries_relocate {check other : α → Checked β} {change : α → α}
    {given : List (Text × α)} (each : ∀ e ∈ given, other (change e.2) = relocate f (check e.2)) :
    entries other (given.map fun e => (e.1, change e.2)) =
      relocate (Path.past f) (entries check given) := by
  induction given with
  | nil => rfl
  | cons e given ih =>
    obtain ⟨first, rest⟩ := List.forall_mem_cons.mp each
    obtain ⟨key, value⟩ := e
    rw [List.map_cons, entries, entries, relocate_both, relocate_past, ih rest, ← first]

end Checked

end ClusterHealth
