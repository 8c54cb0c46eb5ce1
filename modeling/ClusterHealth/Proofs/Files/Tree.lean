import ClusterHealth.Files.Tree

/-!
# What stands in a tree of files

A node is found under the names that it has been put under, and nothing else changes. Making a
directory on a way without steps back adds nothing below it, `node?_makeDirectory`.
-/

namespace ClusterHealth.FileTree

variable {tree : FileTree} {names other : List Text}

theorem node?_named (named : names ≠ []) : tree.node? names = tree.lookup names := by
  rw [node?, List.isEmpty_eq_false_iff.mpr named, if_neg Bool.false_ne_true]

theorem lookup_entry (key : List Text) (node : FileNode) (rest : FileTree) :
    List.lookup other ((key, node) :: rest) =
      if other = key then some node else rest.lookup other := by
  by_cases same : other = key
  · rw [List.lookup_cons, if_pos same, beq_iff_eq.mpr same]
  · rw [List.lookup_cons, if_neg same, beq_eq_false_iff_ne.mpr same]

theorem lookup_put (names other : List Text) (node : FileNode) (tree : FileTree) :
    (tree.put names node).lookup other =
      if other = names then some node else tree.lookup other := by
  induction tree with
  | nil => exact lookup_entry names node []
  | cons entry rest ih =>
    obtain ⟨key, old⟩ := entry
    rw [put]
    by_cases here : key = names
    · rw [if_pos here, lookup_entry, lookup_entry, here]
      split <;> rfl
    · rw [if_neg here, lookup_entry, lookup_entry, ih]
      by_cases first : other = key
      · rw [if_pos first, if_pos first, if_neg (fun same => here (first ▸ same))]
      · rw [if_neg first, if_neg first]

theorem lookup_erase (names other : List Text) (tree : FileTree) :
    (tree.erase names).lookup other = if other = names then none else tree.lookup other := by
  induction tree with
  | nil => rw [erase, List.filter_nil, List.lookup_nil, ite_self]
  | cons entry rest ih =>
    obtain ⟨key, old⟩ := entry
    rw [erase] at ih ⊢
    rw [List.filter_cons, lookup_entry]
    by_cases here : key = names
    · rw [if_neg (by simp [here]), ih, here]
      split <;> rfl
    · rw [if_pos (by simp [here]), lookup_entry, ih]
      by_cases first : other = key
      · rw [if_pos first, if_pos first, if_neg (fun same => here (first ▸ same))]
      · rw [if_neg first, if_neg first]

theorem node?_put (named : other ≠ []) (node : FileNode) :
    (tree.put names node).node? other = if other = names then some node else tree.node? other := by
  rw [node?_named named, node?_named named, lookup_put]

/-- The node goes from its names to the others, if it is there. -/
theorem node?_rename {source target : List Text} (named : other ≠ []) :
    (tree.rename source target).node? other =
      if other = target then (tree.node? source).or (tree.node? target)
      else if other = source then none
      else tree.node? other := by
  rw [rename]
  -- If the source is absent, nothing moves, and what stands at the target stays.
  cases there : tree.node? source with
  | none =>
    dsimp only
    by_cases last : other = target
    · rw [if_pos last, last, Option.none_or]
    · rw [if_neg last]
      by_cases first : other = source
      · rw [if_pos first, first, there]
      · rw [if_neg first]
  | some node =>
    dsimp only
    rw [node?_put named, node?_named named, node?_named named, lookup_erase, lookup_erase]
    by_cases last : other = target
    · rw [if_pos last, if_pos last, Option.some_or]
    · rw [if_neg last, if_neg last, if_neg last]

/-! ### What files hold -/

theorem content?_eq_of_node? {later : FileTree} (same : later.node? names = tree.node? other) :
    later.content? names = tree.content? other := by
  rw [content?, content?, same]

theorem content?_append (named : other ≠ []) (more : Bytes) :
    (tree.append names more).content? other =
      if other = names then some ((tree.content? names).getD [] ++ more)
      else tree.content? other := by
  rw [append, content?, node?_put named]
  by_cases same : other = names
  · rw [if_pos same, if_pos same]
  · rw [if_neg same, if_neg same, content?]

/-! ### Ways without steps back -/

/-- No step of the location leads one up. -/
def Straight (l : Location) : Prop :=
  Text.ofString ".." ∉ l.names

instance (l : Location) : Decidable (Straight l) :=
  inferInstanceAs (Decidable (_ ∉ _))

theorem resolveFrom_straight {spelling : Text} {way here found : List Text}
    (straight : Text.ofString ".." ∉ way)
    (resolved : resolveFrom spelling tree here way = .ok found) : found = here ++ way := by
  induction way generalizing here with
  | nil =>
    rw [resolveFrom] at resolved
    rw [List.append_nil]
    exact (Except.ok.inj resolved).symm
  | cons name way ih =>
    have first := List.ne_of_not_mem_cons straight
    have others := List.not_mem_of_not_mem_cons straight
    rw [resolveFrom] at resolved
    split at resolved
    · cases resolved
    · rw [if_neg (Ne.symm first)] at resolved
      split at resolved
      · cases resolved
      · rw [ih others resolved, List.append_assoc, List.singleton_append]
    · cases resolved

theorem resolve_straight {l : Location} {found : List Text} (straight : Straight l)
    (resolved : tree.resolve l = .ok found) : found = start l ++ l.names := by
  rw [resolve] at resolved
  split at resolved
  · exact resolveFrom_straight straight resolved
  · cases resolved

/-- Whatever way leads to a name other than two points, the name comes last in what is found. -/
theorem resolveFrom_last {spelling name : Text} {way here found : List Text}
    (plain : name ≠ Text.ofString "..")
    (resolved : resolveFrom spelling tree here (way ++ [name]) = .ok found) :
    ∃ there, found = there ++ [name] := by
  induction way generalizing here with
  | nil =>
    rw [List.nil_append, resolveFrom] at resolved
    split at resolved
    · cases resolved
    · rw [if_neg plain] at resolved
      split at resolved
      · cases resolved
      · exact ⟨here, (Except.ok.inj resolved).symm⟩
    · cases resolved
  | cons step way ih =>
    rw [List.cons_append, resolveFrom] at resolved
    split at resolved
    · cases resolved
    · split at resolved
      · exact ih resolved
      · split at resolved
        · cases resolved
        · exact ih resolved
    · cases resolved

theorem resolve_child {l : Location} {name : Text} {found : List Text}
    (plain : name ≠ Text.ofString "..") (resolved : tree.resolve (l.child name) = .ok found) :
    ∃ there, found = there ++ [name] := by
  rw [resolve] at resolved
  split at resolved
  · exact resolveFrom_last plain resolved
  · cases resolved

theorem node?_makeOne {l : Location} (straight : Straight l) (named : names ≠ [])
    (away : names ≠ start l ++ l.names) : (tree.makeOne l).1.node? names = tree.node? names := by
  rw [makeOne]
  split
  · rfl
  · rename_i found resolved
    split
    · rfl
    · rfl
    · rw [node?_put named, resolve_straight straight resolved, if_neg away]

theorem node?_makeWay {root : Text} {back : List Text} (straight : Text.ofString ".." ∉ back)
    (long : (start ⟨root, []⟩).length + back.length < names.length) :
    (makeWay root back tree).1.node? names = tree.node? names := by
  have named : names ≠ [] := List.ne_nil_of_length_pos (by omega)
  -- The way to a location is no longer than the location.
  have away (back : List Text) (short : (start ⟨root, []⟩).length + back.length < names.length) :
      names ≠ start ⟨root, back.reverse⟩ ++ back.reverse := by
    intro same
    have lengths := congrArg List.length same
    have same_start : start ⟨root, back.reverse⟩ = start ⟨root, []⟩ := rfl
    rw [List.length_append, List.length_reverse, same_start] at lengths
    omega
  induction back generalizing tree with
  | nil => exact node?_makeOne List.not_mem_nil named (away [] long)
  | cons name back ih =>
    have reversed : Straight ⟨root, (name :: back).reverse⟩ :=
      fun member => straight (List.mem_reverse.mp member)
    have one (tree : FileTree) : (tree.makeOne ⟨root, (name :: back).reverse⟩).1.node? names =
        tree.node? names := node?_makeOne reversed named (away _ long)
    rw [List.length_cons] at long
    have way : (makeWay root back tree).1.node? names = tree.node? names :=
      ih (List.not_mem_of_not_mem_cons straight) (by omega)
    rw [makeWay]
    split
    · split
      · rename_i made back
        rw [back] at way
        rw [one, way]
      · exact way
    · exact one tree

theorem node?_makeDirectory {l : Location} (straight : Straight l)
    (below : (start l ++ l.names).length < names.length) :
    (tree.makeDirectory l).1.node? names = tree.node? names := by
  rw [List.length_append, start] at below
  refine node?_makeWay (fun member => straight (List.mem_reverse.mp member)) ?_
  rw [start, List.length_reverse]
  exact below

theorem node?_initial (deep : 2 < names.length) : initial.node? names = none := by
  have shallow : ∀ entry ∈ initial, entry.1.length ≤ 2 := by decide
  have named : names ≠ [] := List.ne_nil_of_length_pos (by omega)
  rw [node?_named named, List.lookup_eq_none_iff]
  intro entry member
  rw [bne_iff_ne]
  rintro rfl
  exact absurd (shallow entry member) (by omega)

end ClusterHealth.FileTree
