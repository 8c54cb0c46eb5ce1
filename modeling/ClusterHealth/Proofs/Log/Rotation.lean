import ClusterHealth.Log.RotatingFile
import ClusterHealth.Proofs.Files.Tree
import ClusterHealth.Proofs.Text.Digits
import Mathlib.Data.List.Basic

/-!
# Rotation keeps what has been written

Read from the oldest backup on, the backups and the file hold all lines that have been written, in
their order, `read_writeAll`, as long as the file is started anew no more often than there are
backups.
-/

namespace ClusterHealth.RotatingFile

variable {f : RotatingFile} {tree : FileTree}

/-- The plain names of the file and of its backups, by age. -/
def part (f : RotatingFile) : Nat → List Text
  | 0 => f.base
  | n + 1 => f.backup (n + 1)

/-- What the backups and the file hold, from the oldest backup on. -/
def read (f : RotatingFile) (tree : FileTree) : Bytes :=
  (List.range (f.backups + 1)).reverse.flatMap fun n => (tree.content? (f.part n)).getD []

def writeAll (f : RotatingFile) (lines : List Text) (tree : FileTree) : FileTree :=
  lines.foldl (fun tree line => f.write line tree) tree

/-- How often the file is started anew while lines are written one after another. -/
def turns (f : RotatingFile) : List Text → FileTree → Nat
  | [], _ => 0
  | line :: lines, tree =>
    (if f.reaches (line.length + 1) tree then 1 else 0) + turns f lines (f.write line tree)

theorem part_named (n : Nat) : f.part n ≠ [] := by
  cases n <;> exact List.concat_ne_nil _ _

theorem part_inj {m n : Nat} : f.part m = f.part n ↔ m = n := by
  refine ⟨fun same => ?_, fun same => congrArg f.part same⟩
  have last (n : Nat) : (f.part n).getLast? =
      some (f.name ++
        match n with
        | 0 => []
        | n + 1 => Text.ofString "." ++ Text.ofNat (n + 1)) := by
    cases n <;> simp [part, base, backup]
  -- Past the common name there is nothing, or a point and the number of the backup.
  have names := (last m).symm.trans (same ▸ last n)
  have endings := List.append_cancel_left (Option.some.inj names)
  cases m with
  | zero =>
    cases n with
    | zero => rfl
    | succ n => cases endings
  | succ m =>
    cases n with
    | zero => cases endings
    | succ n =>
      have numbers := congrArg Text.toNat (List.append_cancel_left endings)
      rwa [Text.toNat_ofNat, Text.toNat_ofNat] at numbers

theorem node?_rename_part (m n i : Nat) : (tree.rename (f.part m) (f.part n)).node? (f.part i) =
    if i = n then (tree.node? (f.part m)).or (tree.node? (f.part n))
    else if i = m then none
    else tree.node? (f.part i) := by
  rw [FileTree.node?_rename (part_named i)]
  simp only [part_inj]

theorem node?_put_part (n i : Nat) (node : FileNode) :
    (tree.put (f.part n) node).node? (f.part i) =
      if i = n then some node else tree.node? (f.part i) := by
  rw [FileTree.node?_put (part_named i)]
  simp only [part_inj]

theorem content?_append_part (i : Nat) (more : Bytes) :
    (tree.append f.base more).content? (f.part i) =
      if i = 0 then some ((tree.content? (f.part 0)).getD [] ++ more)
      else tree.content? (f.part i) := by
  rw [show f.base = f.part 0 from rfl, FileTree.content?_append (part_named i)]
  simp only [part_inj]

/-! ### Starting anew -/

/-- Each part takes the place of the next older one, if the last of these places is free. -/
theorem node?_shift (n : Nat) (free : tree.node? (f.part (n + 1)) = none) :
    let shifted := (f.shift n tree).rename (f.part 0) (f.part 1)
    (∀ i ≤ n, shifted.node? (f.part (i + 1)) = tree.node? (f.part i)) ∧
      ∀ i, n + 1 < i → shifted.node? (f.part i) = tree.node? (f.part i) := by
  induction n generalizing tree with
  | zero =>
    constructor
    · intro i least
      obtain rfl := Nat.le_zero.mp least
      rw [shift, node?_rename_part, if_pos rfl, free, Option.or_none]
    · intro i later
      rw [shift, node?_rename_part, if_neg (by omega), if_neg (by omega)]
  | succ n ih =>
    -- The oldest part moves first, which frees the place that the induction asks for.
    have step (i : Nat) : (tree.rename (f.part (n + 1)) (f.part (n + 2))).node? (f.part i) = _ :=
      node?_rename_part (n + 1) (n + 2) i
    have moved : (tree.rename (f.part (n + 1)) (f.part (n + 2))).node? (f.part (n + 1)) = none := by
      rw [step, if_neg (by omega), if_pos rfl]
    have shifted : f.shift (n + 1) tree =
        f.shift n (tree.rename (f.part (n + 1)) (f.part (n + 2))) := rfl
    obtain ⟨younger, older⟩ := ih moved
    rw [shifted]
    constructor
    · intro i within
      by_cases last : i = n + 1
      · rw [last, older (n + 2) (by omega), step, if_pos rfl, free, Option.or_none]
      · rw [younger i (by omega), step, if_neg (by omega), if_neg last]
    · intro i later
      rw [older i (by omega), step, if_neg (by omega), if_neg (by omega)]

/-- After a new start the file is empty, and each part is where the next older one was. -/
theorem node?_rotate {n : Nat} (backups : f.backups = n + 1)
    (free : tree.node? (f.part (n + 1)) = none) :
    (f.rotate tree).node? (f.part 0) = some (.file []) ∧
      ∀ i ≤ n, (f.rotate tree).node? (f.part (i + 1)) = tree.node? (f.part i) := by
  obtain ⟨younger, -⟩ := node?_shift n free
  have rotated : f.rotate tree =
      ((f.shift n tree).rename (f.part 0) (f.part 1)).put (f.part 0) (.file []) := by
    rw [rotate, backups, if_neg (Nat.succ_ne_zero n)]
    rfl
  rw [rotated]
  constructor
  · rw [node?_put_part, if_pos rfl]
  · intro i within
    rw [node?_put_part, if_neg (Nat.succ_ne_zero i), younger i within]

theorem read_rotate (free : f.backups ≠ 0 → tree.node? (f.part f.backups) = none) :
    f.read (f.rotate tree) = f.read tree := by
  cases backups : f.backups with
  | zero => rw [rotate, if_pos backups]
  | succ n =>
    rw [backups] at free
    have free := free (Nat.succ_ne_zero n)
    obtain ⟨file, older⟩ := node?_rotate backups free
    have empty : (f.rotate tree).content? (f.part 0) = some [] := by
      rw [FileTree.content?, file]
    -- The place that the shift overwrites holds nothing, so both readings are of the same parts.
    have last : tree.content? (f.part (n + 1)) = none := by
      rw [FileTree.content?, free]
    have same : ∀ i ∈ (List.range (n + 1)).reverse,
        ((f.rotate tree).content? (f.part (i + 1))).getD [] =
          (tree.content? (f.part i)).getD [] := by
      intro i member
      rw [List.mem_reverse, List.mem_range] at member
      rw [FileTree.content?_eq_of_node? (older i (by omega))]
    have before : f.read tree = (List.range (n + 1)).reverse.flatMap fun i =>
        (tree.content? (f.part i)).getD [] := by
      rw [read, backups, List.range_succ, List.reverse_append, List.reverse_singleton,
        List.singleton_append, List.flatMap_cons, last]
      rfl
    have after : f.read (f.rotate tree) = (List.range (n + 1)).reverse.flatMap fun i =>
        ((f.rotate tree).content? (f.part (i + 1))).getD [] := by
      rw [read, backups, List.range_succ_eq_map, List.reverse_cons, ← List.map_reverse,
        List.flatMap_append, List.flatMap_map, List.flatMap_singleton, empty]
      exact List.append_nil _
    rw [after, before, List.flatMap_congr same]

theorem read_append (more : Bytes) : f.read (tree.append f.base more) = f.read tree ++ more := by
  have same : ∀ i ∈ (List.range f.backups).reverse,
      ((tree.append f.base more).content? (f.part i.succ)).getD [] =
        (tree.content? (f.part i.succ)).getD [] := by
    intro i _
    rw [content?_append_part, if_neg (Nat.succ_ne_zero i)]
  have file : ((tree.append f.base more).content? (f.part 0)).getD [] =
      (tree.content? (f.part 0)).getD [] ++ more := by
    rw [content?_append_part, if_pos rfl]
    rfl
  rw [read, read, List.range_succ_eq_map, List.reverse_cons, ← List.map_reverse,
    List.flatMap_append, List.flatMap_append, List.flatMap_map, List.flatMap_map,
    List.flatMap_singleton, List.flatMap_singleton, file, List.flatMap_congr same,
    List.append_assoc]

/-! ### Writing lines -/

/-- Of the backups only the first few are there. -/
def Used (f : RotatingFile) (used : Nat) (tree : FileTree) : Prop :=
  ∀ n, used < n → n ≤ f.backups → tree.node? (f.part n) = none

theorem read_added {used : Nat} (line : Text) (here : f.Used used tree) :
    let added := if line.hasSurrogate then tree
      else tree.append f.base (Utf8.encode (line ++ "\n"))
    f.read added =
        f.read tree ++ (if line.hasSurrogate then [] else Utf8.encode (line ++ "\n")) ∧
      f.Used used added := by
  dsimp only
  split
  · exact ⟨(List.append_nil _).symm, here⟩
  · refine ⟨read_append _, fun n later within => ?_⟩
    rw [FileTree.append, show f.base = f.part 0 from rfl, node?_put_part, if_neg (by omega)]
    exact here n later within

theorem used_rotate {used : Nat} (here : f.Used used tree) :
    f.Used (used + 1) (f.rotate tree) := by
  intro n later within
  obtain ⟨m, backups⟩ : ∃ m, f.backups = m + 1 := ⟨f.backups - 1, by omega⟩
  obtain ⟨i, rfl⟩ : ∃ i, n = i + 1 := ⟨n - 1, by omega⟩
  have free : tree.node? (f.part (m + 1)) = none := here _ (by omega) (by omega)
  rw [(node?_rotate backups free).2 i (by omega)]
  exact here i (by omega) (by omega)

/-- A line is added at the end, unless it holds a surrogate, and at most one more backup is used. -/
theorem read_write {used : Nat} (line : Text) (here : f.Used used tree)
    (room : f.backups = 0 ∨
      used + (if f.reaches (line.length + 1) tree then 1 else 0) ≤ f.backups) :
    f.read (f.write line tree) =
        f.read tree ++ (if line.hasSurrogate then [] else Utf8.encode (line ++ "\n")) ∧
      f.Used (used + if f.reaches (line.length + 1) tree then 1 else 0) (f.write line tree) := by
  rw [write]
  cases reached : f.reaches (line.length + 1) tree with
  | false => exact read_added line here
  | true =>
    rw [reached, if_pos rfl] at room
    have free : f.backups ≠ 0 → tree.node? (f.part f.backups) = none := by
      intro some
      exact here _ (by omega) (Nat.le_refl _)
    obtain ⟨content, still⟩ := read_added line (used_rotate here)
    rw [read_rotate free] at content
    exact ⟨content, still⟩

/-- All lines without a surrogate are found in their order, as long as there are backups enough. -/
theorem read_writeAll {used : Nat} (lines : List Text) (here : f.Used used tree)
    (room : f.backups = 0 ∨ used + f.turns lines tree ≤ f.backups) :
    f.read (f.writeAll lines tree) = f.read tree ++
      (lines.filter fun line => !line.hasSurrogate).flatMap fun line =>
        Utf8.encode (line ++ "\n") := by
  induction lines generalizing tree used with
  | nil => exact (List.append_nil _).symm
  | cons line lines ih =>
    -- What this line takes of the backups is off what `turns` counts for the others.
    rw [turns] at room
    obtain ⟨content, later⟩ := read_write line here (room.imp_right (by omega))
    have others := ih later (room.imp_right (by omega))
    rw [writeAll, List.foldl_cons, ← writeAll, others, content, List.append_assoc, List.filter_cons]
    cases line.hasSurrogate <;> rfl

end ClusterHealth.RotatingFile
