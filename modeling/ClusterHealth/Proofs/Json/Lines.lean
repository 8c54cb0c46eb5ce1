import ClusterHealth.Proofs.Json.Spacious

/-!
# Lines under a prefix

What is put after each line feed can be taken away again, whatever the prefix and the text,
`dropPrefixes_prefixLines`. If the prefix has no line feed, it opens every line after the first,
`startsWith_of_mem_lines`.
-/

namespace ClusterHealth.Json

def lines (t : Text) : List Text :=
  t.splitOn (CodePoint.ofChar '\n')

/-- Deletes the prefix behind each line feed, in which no other line feed counts. -/
def dropPrefixes (linePrefix : Text) : Text → Text
  | [] => []
  | c :: rest =>
    if c.is '\n' then c :: dropPrefixes linePrefix (rest.drop linePrefix.length)
    else c :: dropPrefixes linePrefix rest
termination_by t => t.length

variable {linePrefix : Text}

theorem prefixLines_feed {c : CodePoint} (feed : c.is '\n' = true) (t : Text) :
    prefixLines linePrefix (c :: t) = c :: (linePrefix ++ prefixLines linePrefix t) := by
  rw [prefixLines, List.flatMap_cons, if_pos feed]
  rfl

theorem prefixLines_other {c : CodePoint} (other : c.is '\n' = false) (t : Text) :
    prefixLines linePrefix (c :: t) = c :: prefixLines linePrefix t := by
  rw [prefixLines, List.flatMap_cons, other]
  rfl

theorem prefixLines_nil (t : Text) : prefixLines [] t = t := by
  induction t with
  | nil => rfl
  | cons c t ih =>
    cases feed : c.is '\n' with
    | true =>
      rw [prefixLines_feed feed, ih]
      rfl
    | false => rw [prefixLines_other feed, ih]

theorem dropPrefixes_prefixLines (t : Text) :
    dropPrefixes linePrefix (prefixLines linePrefix t) = t := by
  induction t with
  | nil => rw [prefixLines, List.flatMap_nil, dropPrefixes]
  | cons c t ih =>
    cases feed : c.is '\n' with
    | true =>
      rw [prefixLines_feed feed, dropPrefixes, if_pos feed, List.drop_left, ih]
    | false =>
      rw [prefixLines_other feed, dropPrefixes, feed, if_neg Bool.false_ne_true, ih]

/-! ### The lines -/

theorem beq_feed (c : CodePoint) : (c == CodePoint.ofChar '\n') = c.is '\n' := by
  obtain ⟨n, bound⟩ := c
  rw [Bool.eq_iff_iff, beq_iff_eq, CodePoint.is_iff, CodePoint.ofChar, CodePoint.mk.injEq]

theorem lines_cons (c : CodePoint) (t : Text) :
    lines (c :: t) = if c.is '\n' then [] :: lines t else (lines t).modifyHead (c :: ·) := by
  rw [lines, Text.splitOn, List.splitOn_cons_eq_if_modifyHead, beq_feed]
  rfl

theorem lines_append {s : Text} (unbroken : Unbroken s) (t : Text) :
    lines (s ++ t) = (lines t).modifyHead (s ++ ·) := by
  induction s with
  | nil => exact (congrFun List.modifyHead_id (lines t)).symm
  | cons c s ih =>
    obtain ⟨first, others⟩ := List.forall_mem_cons.mp unbroken
    rw [List.cons_append, lines_cons, first, if_neg Bool.false_ne_true, ih others,
      List.modifyHead_modifyHead]
    rfl

/-- The first line stays as it is, and the prefix opens the others. -/
theorem lines_prefixLines (unbroken : Unbroken linePrefix) (t : Text) :
    ∃ first others, lines t = first :: others ∧
      lines (prefixLines linePrefix t) = first :: others.map (linePrefix ++ ·) := by
  induction t with
  | nil => exact ⟨[], [], rfl, rfl⟩
  | cons c t ih =>
    obtain ⟨first, others, plain, prefixed⟩ := ih
    cases feed : c.is '\n' with
    | true =>
      refine ⟨[], first :: others, ?_, ?_⟩
      · rw [lines_cons, if_pos feed, plain]
      · rw [prefixLines_feed feed, lines_cons, if_pos feed, lines_append unbroken, prefixed]
        rfl
    | false =>
      refine ⟨c :: first, others, ?_, ?_⟩
      · rw [lines_cons, feed, plain]
        rfl
      · rw [prefixLines_other feed, lines_cons, feed, prefixed]
        rfl

theorem startsWith_of_mem_lines (unbroken : Unbroken linePrefix) (t : Text) :
    ∀ line ∈ (lines (prefixLines linePrefix t)).tail, linePrefix.startsWith line = true := by
  obtain ⟨first, others, -, prefixed⟩ := lines_prefixLines unbroken t
  rw [prefixed, List.tail_cons, List.forall_mem_map]
  intro line _
  exact List.isPrefixOf_iff_prefix.mpr (List.prefix_append linePrefix line)

end ClusterHealth.Json
