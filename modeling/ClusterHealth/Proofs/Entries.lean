import ClusterHealth.Entries

/-!
# Entries with distinct keys

Entries that are put one after another have distinct keys, and entries whose keys are distinct stay
as they are when they are put again.
-/

namespace ClusterHealth.Entries

variable {α : Type}

def Distinct (entries : Entries α) : Prop :=
  (keys entries).Nodup

instance (entries : Entries α) : Decidable (Distinct entries) :=
  inferInstanceAs (Decidable (List.Nodup _))

theorem distinct_cons {key : Text} {value : α} {entries : Entries α} :
    Distinct ((key, value) :: entries) ↔ key ∉ keys entries ∧ Distinct entries :=
  List.nodup_cons

theorem put_distinct (key : Text) (value : α) {entries : Entries α} (distinct : Distinct entries) :
    Distinct (put key value entries) := by
  rw [Distinct, keys_put]
  split
  · exact distinct
  · rename_i fresh
    rw [List.nodup_append]
    refine ⟨distinct, by simp, ?_⟩
    intro k member other last
    rw [List.mem_singleton.mp last]
    rintro rfl
    exact fresh member

theorem foldl_put_distinct (pairs : List (Text × α)) {entries : Entries α}
    (distinct : Distinct entries) :
    Distinct (pairs.foldl (fun entries e => put e.1 e.2 entries) entries) := by
  induction pairs generalizing entries with
  | nil => exact distinct
  | cons pair pairs ih => exact ih (put_distinct pair.1 pair.2 distinct)

theorem ofList_distinct (pairs : List (Text × α)) : Distinct (ofList pairs) :=
  foldl_put_distinct pairs (by simp [Distinct, keys])

theorem put_fresh {key : Text} (value : α) {entries : Entries α} (fresh : key ∉ keys entries) :
    put key value entries = entries ++ [(key, value)] := by
  induction entries with
  | nil => rfl
  | cons entry rest ih =>
    simp only [keys, List.map_cons, List.mem_cons, not_or] at fresh
    have different : ¬ entry.1 = key := fun same => fresh.1 same.symm
    rw [put, if_neg different, ih fresh.2, List.cons_append]

theorem foldl_put_fresh (pairs entries : Entries α) (distinct : Distinct (entries ++ pairs)) :
    pairs.foldl (fun entries e => put e.1 e.2 entries) entries = entries ++ pairs := by
  induction pairs generalizing entries with
  | nil => rw [List.foldl_nil, List.append_nil]
  | cons pair pairs ih =>
    have joined : entries ++ pair :: pairs = entries ++ [pair] ++ pairs := by simp
    have fresh : pair.1 ∉ keys entries := by
      rw [Distinct, keys, List.map_append, List.nodup_append] at distinct
      intro member
      exact distinct.2.2 pair.1 member pair.1 (by simp) rfl
    rw [List.foldl_cons, put_fresh pair.2 fresh, joined]
    exact ih _ (joined ▸ distinct)

/-- Entries with distinct keys are the mapping that they make. -/
theorem ofList_of_distinct {pairs : Entries α} (distinct : Distinct pairs) : ofList pairs = pairs :=
  foldl_put_fresh pairs [] distinct

theorem mem_put {key : Text} {value : α} {entries : Entries α} {entry : Text × α}
    (member : entry ∈ put key value entries) : entry = (key, value) ∨ entry ∈ entries := by
  induction entries with
  | nil => exact .inl (List.mem_singleton.mp member)
  | cons first rest ih =>
    rw [put] at member
    split at member
    · rcases List.mem_cons.mp member with new | old
      · exact .inl new
      · exact .inr (List.mem_cons_of_mem _ old)
    · rcases List.mem_cons.mp member with same | later
      · exact .inr (same ▸ List.mem_cons_self)
      · exact (ih later).imp_right (List.mem_cons_of_mem _)

theorem mem_foldl_put {pairs : List (Text × α)} {entries : Entries α} {entry : Text × α}
    (member : entry ∈ pairs.foldl (fun entries e => put e.1 e.2 entries) entries) :
    entry ∈ entries ∨ entry ∈ pairs := by
  induction pairs generalizing entries with
  | nil => exact .inl member
  | cons pair pairs ih =>
    rcases ih member with early | late
    · rcases mem_put early with new | old
      · exact .inr (new ▸ List.mem_cons_self)
      · exact .inl old
    · exact .inr (List.mem_cons_of_mem _ late)

theorem mem_of_mem_ofList {pairs : List (Text × α)} {entry : Text × α}
    (member : entry ∈ ofList pairs) : entry ∈ pairs := by
  rcases mem_foldl_put member with early | late
  · cases early
  · exact late

/-! ### Entries with other values -/

variable {β : Type}

theorem get?_map (f : α → β) (key : Text) (entries : Entries α) :
    get? key (entries.map fun e => (e.1, f e.2)) = (get? key entries).map f := by
  induction entries with
  | nil => rfl
  | cons entry rest ih =>
    rw [List.map_cons, get?, get?]
    split
    · rfl
    · exact ih

theorem put_map (f : α → β) (key : Text) (value : α) (entries : Entries α) :
    put key (f value) (entries.map fun e => (e.1, f e.2)) =
      (put key value entries).map fun e => (e.1, f e.2) := by
  induction entries with
  | nil => rfl
  | cons entry rest ih =>
    rw [List.map_cons, put, put]
    split
    · rfl
    · rw [ih, List.map_cons]

theorem ofList_map (f : α → β) (pairs : List (Text × α)) :
    ofList (pairs.map fun e => (e.1, f e.2)) = (ofList pairs).map fun e => (e.1, f e.2) := by
  have from_any : ∀ entries : Entries α,
      (pairs.map fun e => (e.1, f e.2)).foldl (fun entries e => put e.1 e.2 entries)
          (entries.map fun e => (e.1, f e.2)) =
        (pairs.foldl (fun entries e => put e.1 e.2 entries) entries).map fun e => (e.1, f e.2) := by
    induction pairs with
    | nil => intro entries; rfl
    | cons pair pairs ih =>
      intro entries
      rw [List.map_cons, List.foldl_cons, List.foldl_cons, ← ih, ← put_map]
  exact from_any []

/-! ### Looking up -/

theorem get?_eq_none_of_not_mem {key : Text} {entries : Entries α} (fresh : key ∉ keys entries) :
    get? key entries = none := by
  induction entries with
  | nil => rfl
  | cons entry rest ih =>
    simp only [keys, List.map_cons, List.mem_cons, not_or] at fresh
    rw [get?, if_neg (fun same => fresh.1 same.symm)]
    exact ih fresh.2

theorem get?_of_mem {key : Text} {value : α} {entries : Entries α} (distinct : Distinct entries)
    (member : (key, value) ∈ entries) : get? key entries = some value := by
  induction entries with
  | nil => cases member
  | cons entry rest ih =>
    obtain ⟨k, v⟩ := entry
    obtain ⟨fresh, distinct⟩ := distinct_cons.mp distinct
    rcases List.mem_cons.mp member with same | later
    · obtain ⟨rfl, rfl⟩ := Prod.mk.inj same
      simp [get?]
    · have other : ¬ k = key := by
        rintro rfl
        exact fresh (List.mem_map_of_mem later)
      rw [get?, if_neg other]
      exact ih distinct later

theorem mem_of_get? {key : Text} {entries : Entries α} {value : α}
    (found : get? key entries = some value) : (key, value) ∈ entries := by
  induction entries with
  | nil => cases found
  | cons entry rest ih =>
    obtain ⟨k, v⟩ := entry
    rw [get?] at found
    split at found
    · rename_i same
      rw [← same, Option.some.inj found]
      exact List.mem_cons_self
    · exact List.mem_cons_of_mem _ (ih found)

/-- Under a new key stands what stood under the only key that is renamed to it. -/
theorem get?_rename {rename : Text → Text} (change : Text × α → β) {old key : Text}
    {entries : Entries α} (only : ∀ e ∈ entries, rename e.1 = key ↔ e.1 = old) :
    get? key (entries.map fun e => (rename e.1, change e)) =
      (get? old entries).map fun value => change (old, value) := by
  induction entries with
  | nil => rfl
  | cons entry rest ih =>
    obtain ⟨k, v⟩ := entry
    obtain ⟨here, later⟩ := List.forall_mem_cons.mp only
    rw [List.map_cons, get?, get?]
    by_cases same : k = old
    · subst same
      rw [if_pos (here.mpr rfl), if_pos rfl, Option.map_some]
    · rw [if_neg (fun renamed => same (here.mp renamed)), if_neg same]
      exact ih later

theorem get?_filter {entries : Entries α} (distinct : Distinct entries) (keeps : Text × α → Bool)
    (key : Text) : get? key (entries.filter keeps) =
      (get? key entries).filter fun value => keeps (key, value) := by
  induction entries with
  | nil => rfl
  | cons entry rest ih =>
    obtain ⟨k, v⟩ := entry
    obtain ⟨fresh, distinct⟩ := distinct_cons.mp distinct
    rw [List.filter_cons, get?]
    by_cases same : k = key
    · subst same
      rw [if_pos rfl, Option.filter_some]
      split
      · rw [get?, if_pos rfl]
      · rw [ih distinct, get?_eq_none_of_not_mem fresh, Option.filter_none]
    · rw [if_neg same]
      split
      · rw [get?, if_neg same, ih distinct]
      · exact ih distinct

theorem get?_filter_keys (keeps : Text → Bool) (key : Text) (entries : Entries α) :
    get? key (entries.filter fun e => keeps e.1) = if keeps key then get? key entries else none := by
  induction entries with
  | nil => simp [get?]
  | cons entry rest ih =>
    rw [List.filter_cons, get?]
    by_cases same : entry.1 = key
    · rw [same, if_pos rfl]
      cases kept : keeps key with
      | true => simp [get?, same]
      | false =>
        rw [kept] at ih
        simpa using ih
    · rw [if_neg same]
      split
      · rw [get?, if_neg same, ih]
      · exact ih

/-- A member under another key may stand anywhere. -/
theorem get?_insert {key other : Text} (different : key ≠ other) (value : α)
    (before after : Entries α) :
    get? other (before ++ (key, value) :: after) = get? other (before ++ after) := by
  induction before with
  | nil => rw [List.nil_append, List.nil_append, get?, if_neg different]
  | cons entry before ih => rw [List.cons_append, List.cons_append, get?, get?, ih]

/-- Where keys are distinct their order does not matter. -/
theorem get?_perm {entries others : Entries α} (distinct : Distinct entries)
    (perm : others.Perm entries) (key : Text) : get? key others = get? key entries := by
  have distinct' : Distinct others := (perm.map Prod.fst).nodup_iff.mpr distinct
  apply Option.ext
  intro value
  constructor
  · intro found
    exact get?_of_mem distinct (perm.mem_iff.mp (mem_of_get? found))
  · intro found
    exact get?_of_mem distinct' (perm.mem_iff.mpr (mem_of_get? found))

end ClusterHealth.Entries
