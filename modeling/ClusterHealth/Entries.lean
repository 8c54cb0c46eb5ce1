import ClusterHealth.Text.Basic

/-!
# Entries

A mapping from texts, in the order in which its keys first came in. Putting a key again changes its
value and keeps its place.
-/

namespace ClusterHealth

/-- The entries of a mapping, each key once when built by `put`. -/
abbrev Entries (α : Type) := List (Text × α)

namespace Entries

variable {α β : Type}

def get? (key : Text) : Entries α → Option α
  | [] => none
  | (k, v) :: rest => if k = key then some v else get? key rest

/-- Puts a value under a key, at the end if the key is new. -/
def put (key : Text) (value : α) : Entries α → Entries α
  | [] => [(key, value)]
  | (k, v) :: rest => if k = key then (key, value) :: rest else (k, v) :: put key value rest

@[simp] theorem get?_put_self (key : Text) (value : α) (entries : Entries α) :
    get? key (put key value entries) = some value := by
  induction entries with
  | nil => simp [put, get?]
  | cons entry rest ih =>
    by_cases h : entry.1 = key
    · simp [put, get?, h]
    · simp [put, get?, h, ih]

theorem get?_put_of_ne {key other : Text} (h : other ≠ key) (value : α) (entries : Entries α) :
    get? other (put key value entries) = get? other entries := by
  induction entries with
  | nil => simp [put, get?, Ne.symm h]
  | cons entry rest ih =>
    by_cases hk : entry.1 = key
    · have hne : entry.1 ≠ other := fun e => h (e.symm.trans hk)
      simp [put, get?, hk, Ne.symm h]
    · by_cases ho : entry.1 = other
      · simp [put, get?, ho, h]
      · simp [put, get?, hk, ho, ih]

def erase (key : Text) (entries : Entries α) : Entries α :=
  entries.filter fun e => e.1 ≠ key

def ofList (pairs : List (Text × α)) : Entries α :=
  pairs.foldl (fun entries e => put e.1 e.2 entries) []

def keys (entries : Entries α) : List Text :=
  entries.map Prod.fst

/-- A key that is there keeps its place; a new one comes last. -/
theorem keys_put (key : Text) (value : α) (entries : Entries α) :
    keys (put key value entries) =
      if key ∈ keys entries then keys entries else keys entries ++ [key] := by
  induction entries with
  | nil => simp [put, keys]
  | cons entry rest ih =>
    by_cases h : entry.1 = key
    · simp [put, keys, h]
    · have hk : ¬ key = entry.1 := fun e => h e.symm
      simp only [keys] at ih
      simp only [put, h, if_false, keys, List.map_cons, ih, List.mem_cons, hk, false_or]
      by_cases hm : key ∈ rest.map Prod.fst
      · simp only [hm, if_true]
      · simp only [hm, if_false, List.cons_append]

end Entries

end ClusterHealth
