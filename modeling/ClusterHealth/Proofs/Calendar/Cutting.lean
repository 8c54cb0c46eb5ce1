import ClusterHealth.Proofs.Calendar.Spellings

/-!
# What cutting takes away

Cutting counts digits of any script, reading only those of ASCII. So a text may be a time only once
it is cut, for two reasons: digits of another script were cut off, or the number that all digits of
a numeral spell lies outside the calendar. There is no other, `ofText_uncut_iff`.
-/

namespace ClusterHealth.Timestamp

def cutOff : Text → Text
  | [] => []
  | c :: rest =>
    let digits := rest.takeWhile CodePoint.isScriptDigit
    if c.is '.' && 7 ≤ digits.length then digits.drop 6 else cutOff rest

/-- Only digits of ASCII are cut off. -/
def CutsAscii (t : Text) : Prop :=
  ∀ c ∈ cutOff t, c.isDigit = true

/-- If anything is cut off a numeral, all its digits together spell a time of the calendar. -/
def CountsWhole (t : Text) : Prop :=
  cutOff t ≠ [] → ∀ x, Numeral.double? t = some x →
    ∃ stamp, (Unix.ofDouble? x).bind ofUnix? = some stamp

/-! ### Texts that are cut -/

/-- A text in parts: what stands before the point, the six digits that are kept, those that are cut
off and what follows them. -/
structure CutInto (t before : Text) (point : CodePoint) (kept off rest : Text) : Prop where
  whole : t = before ++ point :: (kept ++ off ++ rest)
  cut : cutFraction t = before ++ point :: (kept ++ rest)
  dropped : cutOff t = off
  present : off ≠ []
  mark : point.is '.' = true
  six : kept.length = 6
  digits : ∀ c ∈ kept ++ off, c.isScriptDigit = true
  closed : ∀ c ∈ rest.head?, c.isScriptDigit = false

theorem head?_dropWhile_false {test : CodePoint → Bool} (t : Text) :
    ∀ c ∈ (t.dropWhile test).head?, test c = false := by
  intro c first
  have stop := List.head?_dropWhile_not test t
  rw [first] at stop
  simpa using stop

theorem cutInto_or (t : Text) : (cutFraction t = t ∧ cutOff t = []) ∨
    ∃ before point kept off rest, CutInto t before point kept off rest := by
  induction t with
  | nil => exact .inl ⟨rfl, rfl⟩
  | cons c t ih =>
    by_cases long : (c.is '.' && 7 ≤ (t.takeWhile CodePoint.isScriptDigit).length) = true
    · right
      obtain ⟨mark, seven⟩ := Bool.and_eq_true_iff.mp long
      have seven := of_decide_eq_true seven
      have joined := List.takeWhile_append_dropWhile (p := CodePoint.isScriptDigit) (l := t)
      -- The six digits that are kept are the first of the run.
      have six : t.take 6 = (t.takeWhile CodePoint.isScriptDigit).take 6 := by
        conv_lhs => rw [← joined]
        exact List.take_append_of_le_length (by omega)
      have run : (t.takeWhile CodePoint.isScriptDigit).take 6 ++
          (t.takeWhile CodePoint.isScriptDigit).drop 6 = t.takeWhile CodePoint.isScriptDigit :=
        List.take_append_drop 6 _
      refine ⟨[], c, t.take 6, (t.takeWhile CodePoint.isScriptDigit).drop 6,
        t.dropWhile CodePoint.isScriptDigit, ?_, ?_, ?_, ?_, mark, ?_, ?_, ?_⟩
      · rw [List.nil_append, six, run, joined]
      · rw [cutFraction, if_pos long]
        rfl
      · rw [cutOff]
        exact if_pos long
      · intro none
        have short := congrArg List.length none
        rw [List.length_drop, List.length_nil] at short
        omega
      · rw [six, List.length_take]
        omega
      · rw [six, run]
        exact fun d member => List.mem_takeWhile_imp member
      · exact head?_dropWhile_false t
    · have whole : cutFraction (c :: t) = c :: cutFraction t := by
        rw [cutFraction, if_neg long]
      have off : cutOff (c :: t) = cutOff t := by
        rw [cutOff]
        exact if_neg long
      rcases ih with ⟨same, none⟩ | ⟨before, point, kept, off', rest, parts⟩
      · exact .inl ⟨by rw [whole, same], off.trans none⟩
      · refine .inr ⟨c :: before, point, kept, off', rest, { parts with
          whole := ?_, cut := ?_, dropped := off.trans parts.dropped }⟩
        · rw [List.cons_append, ← parts.whole]
        · rw [whole, parts.cut, List.cons_append]

/-- Digits of any script that a reader of ASCII passes whole are digits of ASCII. -/
theorem digits_of_dropWhile {run rest : Text} (script : ∀ c ∈ run, c.isScriptDigit = true)
    (ends : ∀ c ∈ ((run ++ rest).dropWhile CodePoint.isDigit).head?, c.isScriptDigit = false) :
    ∀ c ∈ run, c.isDigit = true := by
  induction run with
  | nil => exact nofun
  | cons d run ih =>
    obtain ⟨first, later⟩ := List.forall_mem_cons.mp script
    cases digit : d.isDigit with
    | true =>
      rw [List.cons_append, List.dropWhile_cons_of_pos digit] at ends
      exact List.forall_mem_cons.mpr ⟨digit, ih later ends⟩
    | false =>
      rw [List.cons_append, List.dropWhile_cons_of_neg (by simp [digit])] at ends
      rw [ends d rfl] at first
      cases first

/-! ### Readers that stop before a point -/

/-- What a reader takes off a text, which holds no point, whatever follows it. -/
structure Takes {α : Type} (reader : Text → Option (α × Text)) (front : Text) (value : α) :
    Prop where
  pointless : ∀ c ∈ front, c.is '.' = false
  takes : ∀ rest, reader (front ++ rest) = some (value, rest)

theorem number?_digits {width n : Nat} {t rest : Text} (read : number? width t = some (n, rest)) :
    ∃ digits, t = digits ++ rest ∧ digits.length = width ∧ ∀ c ∈ digits, c.isDigit = true := by
  rw [number?] at read
  split at read
  · rename_i found
    obtain ⟨-, rfl⟩ := Prod.mk.inj (Option.some.inj read)
    simp only [Bool.and_eq_true, decide_eq_true_eq, List.all_eq_true] at found
    exact ⟨t.take width, (List.take_append_drop width t).symm, found⟩
  · cases read

theorem number?_takes {width n : Nat} {t rest : Text} (read : number? width t = some (n, rest)) :
    ∃ front, t = front ++ rest ∧ Takes (number? width) front n := by
  obtain ⟨digits, rfl, length, all⟩ := number?_digits read
  have takes (rest : Text) :
      number? width (digits ++ rest) = some (Text.toNat digits, rest) := by
    have run : digits.all CodePoint.isDigit = true := List.all_eq_true.mpr all
    simp [number?, List.take_left' length, List.drop_left' length, length, run]
  obtain ⟨rfl, -⟩ := Prod.mk.inj (Option.some.inj ((takes rest).symm.trans read))
  exact ⟨digits, rfl, fun c member => CodePoint.not_is_of_isDigit (all c member) (by decide), takes⟩

theorem after?_some {ch : Char} {t rest : Text} (read : after? ch t = some rest) :
    ∃ c, t = c :: rest ∧ c.is ch = true := by
  cases t with
  | nil => cases read
  | cons c t =>
    rw [after?] at read
    split at read
    · rename_i mark
      exact ⟨c, by rw [Option.some.inj read], mark⟩
    · cases read

theorem after?_of_is {ch : Char} {c : CodePoint} (mark : c.is ch = true) (rest : Text) :
    after? ch (c :: rest) = some rest := by
  rw [after?, if_pos mark]

theorem not_is_of_is {c : CodePoint} {ch other : Char} (mark : c.is ch = true)
    (different : ch.toNat ≠ other.toNat) : c.is other = false := by
  rw [Bool.eq_false_iff]
  intro same
  exact different ((CodePoint.is_iff.mp mark).symm.trans (CodePoint.is_iff.mp same))

theorem not_isDigit_of_is {c : CodePoint} {ch : Char} (mark : c.is ch = true)
    (other : (CodePoint.ofChar ch).isDigit = false) : c.isDigit = false :=
  CodePoint.eq_ofChar mark ▸ other

theorem point_behind {point : CodePoint} (mark : point.is '.' = true)
    {front rest before after : Text} (pointless : ∀ c ∈ front, c.is '.' = false)
    (same : before ++ point :: after = front ++ rest) :
    ∃ left, before = front ++ left ∧ rest = left ++ point :: after := by
  rcases List.append_eq_append_iff.mp same with ⟨left, whole, later⟩ | ⟨left, whole, later⟩
  · cases left with
    | nil => exact ⟨[], by simpa using whole.symm, by simpa using later.symm⟩
    | cons c left =>
      obtain ⟨rfl, -⟩ := List.cons.inj later
      rw [pointless point (by simp [whole])] at mark
      cases mark
  · exact ⟨left, whole, later⟩

/-- A reader that stops before a point takes the same, whatever stands behind the point. -/
theorem Takes.behind {α : Type} {reader : Text → Option (α × Text)} {front : Text} {value : α}
    (taken : Takes reader front value) {point : CodePoint} (mark : point.is '.' = true)
    {before after rest : Text} (same : before ++ point :: after = front ++ rest) :
    ∃ left, rest = left ++ point :: after ∧ ∀ after,
      reader (before ++ point :: after) = some (value, left ++ point :: after) := by
  obtain ⟨left, rfl, rfl⟩ := point_behind mark taken.pointless same
  refine ⟨left, rfl, fun after => ?_⟩
  rw [List.append_assoc, taken.takes]

theorem number?_behind {point : CodePoint} (mark : point.is '.' = true) {width n : Nat}
    {before after rest : Text} (read : number? width (before ++ point :: after) = some (n, rest)) :
    ∃ left, rest = left ++ point :: after ∧ ∀ after,
      number? width (before ++ point :: after) = some (n, left ++ point :: after) := by
  obtain ⟨front, same, taken⟩ := number?_takes read
  exact taken.behind mark same

theorem after?_behind {point : CodePoint} (mark : point.is '.' = true) {ch : Char}
    (other : ch.toNat ≠ '.'.toNat) {before after rest : Text}
    (read : after? ch (before ++ point :: after) = some rest) :
    ∃ left, rest = left ++ point :: after ∧ ∀ after,
      after? ch (before ++ point :: after) = some (left ++ point :: after) := by
  obtain ⟨c, same, marked⟩ := after?_some read
  have pointless : ∀ d ∈ [c], d.is '.' = false :=
    List.forall_mem_singleton.mpr (not_is_of_is marked other)
  obtain ⟨left, rfl, rfl⟩ := point_behind mark pointless (show _ = [c] ++ rest from same)
  exact ⟨left, rfl, fun after => after?_of_is marked _⟩

theorem dropWhile_point {point : CodePoint} (mark : point.is '.' = true) (before after : Text) :
    ∃ left, (before ++ point :: after).dropWhile CodePoint.isDigit = left ++ point :: after := by
  have digits : ∀ c ∈ (before ++ point :: after).takeWhile CodePoint.isDigit, c.is '.' = false :=
    fun c member => CodePoint.not_is_of_isDigit (List.mem_takeWhile_imp member) (by decide)
  obtain ⟨left, -, behind⟩ := point_behind mark digits List.takeWhile_append_dropWhile.symm
  exact ⟨left, behind⟩

theorem date?_takes {t rest : Text} {d : Date} (read : date? t = some (d, rest)) :
    ∃ front, t = front ++ rest ∧ Takes date? front d := by
  simp only [date?, Option.bind_eq_bind, Option.bind_eq_some_iff] at read
  obtain ⟨⟨year, t₁⟩, years, t₂, dash₁, ⟨month, t₃⟩, months, t₄, dash₂, ⟨day, t₅⟩, days, real⟩ :=
    read
  split at real
  · rename_i exists_
    obtain ⟨rfl, rfl⟩ := Prod.mk.inj (Option.some.inj real)
    obtain ⟨year', rfl, ⟨pointless₁, takes₁⟩⟩ := number?_takes years
    obtain ⟨c₁, rfl, mark₁⟩ := after?_some dash₁
    obtain ⟨month', rfl, ⟨pointless₂, takes₂⟩⟩ := number?_takes months
    obtain ⟨c₂, rfl, mark₂⟩ := after?_some dash₂
    obtain ⟨day', rfl, ⟨pointless₃, takes₃⟩⟩ := number?_takes days
    refine ⟨year' ++ c₁ :: (month' ++ c₂ :: day'), by simp, ?_, ?_⟩
    · simp only [List.forall_mem_append, List.forall_mem_cons]
      exact ⟨pointless₁, not_is_of_is mark₁ (by decide), pointless₂,
        not_is_of_is mark₂ (by decide), pointless₃⟩
    · intro rest
      simp only [date?, List.append_assoc, List.cons_append, takes₁, takes₂, takes₃,
        after?_of_is mark₁, after?_of_is mark₂, Option.bind_eq_bind, Option.bind_some, exists_,
        if_true]
  · cases real

theorem offset?_pointless {t : Text} {offset : Int} (read : offset? t = some offset) :
    ∀ c ∈ t, c.is '.' = false := by
  cases t with
  | nil => exact nofun
  | cons c t =>
    rw [offset?] at read
    split at read
    · rename_i letter
      split at read
      · rename_i alone
        have mark : c.is '.' = false := by
          rcases Bool.or_eq_true_iff.mp letter with capital | small
          · exact not_is_of_is capital (by decide)
          · exact not_is_of_is small (by decide)
        rw [List.isEmpty_iff.mp alone]
        exact List.forall_mem_singleton.mpr mark
      · cases read
    · simp only [Option.bind_eq_bind, Option.bind_eq_some_iff] at read
      obtain ⟨sign, signed, ⟨hours, t₁⟩, hour, ⟨minutes, t₂⟩, minute, last⟩ := read
      split at last
      · rename_i clock
        simp only [Bool.and_eq_true, List.isEmpty_iff] at clock
        obtain ⟨⟨rfl, -⟩, -⟩ := clock
        obtain ⟨hours', rfl, first⟩ := number?_takes hour
        obtain ⟨minutes', colon, second⟩ := number?_takes minute
        have mark : c.is '.' = false := by
          rw [Bool.eq_false_iff]
          intro point
          have value := CodePoint.is_iff.mp point
          simp [offsetSign?, CodePoint.is, value] at signed
        have tail : ∀ d ∈ t₁, d.is '.' = false := by
          rw [List.append_nil] at colon
          cases between : after? ':' t₁ with
          | none =>
            rw [between, Option.getD_none] at colon
            obtain rfl : t₁ = minutes' := colon
            exact second.pointless
          | some t =>
            obtain ⟨d, rfl, marked⟩ := after?_some between
            rw [between, Option.getD_some] at colon
            exact List.forall_mem_cons.mpr
              ⟨not_is_of_is marked (by decide), colon ▸ second.pointless⟩
        rw [List.forall_mem_cons, List.forall_mem_append]
        exact ⟨mark, first.pointless, tail⟩
      · cases last

theorem offset?_point {point : CodePoint} (mark : point.is '.' = true) (before after : Text) :
    offset? (before ++ point :: after) = none := by
  cases read : offset? (before ++ point :: after) with
  | none => rfl
  | some offset =>
    rw [offset?_pointless read point (by simp)] at mark
    cases mark

/-- What stands before the point of a time says all but its fraction. -/
theorem time?_point {point : CodePoint} (mark : point.is '.' = true) {before after rest : Text}
    {clock : Nat × Nat × Nat × Nat} {offset : Int}
    (read : time? (before ++ point :: after) = some (clock, rest))
    (zone : offset? rest = some offset) :
    ∃ hour minute second, ∀ after, time? (before ++ point :: after) =
      (fraction? (point :: after)).map fun f => ((hour, minute, second, f.1), f.2) := by
  simp only [time?, Option.bind_eq_bind, Option.bind_eq_some_iff] at read
  obtain ⟨⟨hour, t₁⟩, hours, t₂, colon, ⟨minute, t₃⟩, minutes, last⟩ := read
  obtain ⟨left₁, rfl, takes₁⟩ := number?_behind mark hours
  obtain ⟨left₂, rfl, passes₁⟩ := after?_behind mark (by decide) colon
  obtain ⟨left₃, rfl, takes₂⟩ := number?_behind mark minutes
  split at last
  · cases last
  · rename_i early
    split at last
    · -- A time without seconds has no fraction, and an offset holds no point.
      obtain ⟨rfl, rfl⟩ := Prod.mk.inj (Option.some.inj last)
      rw [offset?_point mark] at zone
      cases zone
    · rename_i t₄ colon
      obtain ⟨left₄, rfl, passes₂⟩ := after?_behind mark (by decide) colon
      rw [Option.bind_eq_some_iff] at last
      obtain ⟨⟨second, t₅⟩, seconds, last⟩ := last
      obtain ⟨left₅, rfl, takes₃⟩ := number?_behind mark seconds
      split at last
      · cases last
      · rename_i soon
        rw [Option.bind_eq_some_iff] at last
        obtain ⟨⟨micro, t₆⟩, fraction, last⟩ := last
        obtain ⟨-, rfl⟩ := Prod.mk.inj (Option.some.inj last)
        have none_left : left₅ = [] := by
          cases left₅ with
          | nil => rfl
          | cons c left =>
            rw [List.cons_append, fraction?] at fraction
            split at fraction
            · -- A comma opens a fraction, and the point stands behind its digits.
              dsimp only at fraction
              split at fraction
              · cases fraction
              · obtain ⟨-, rfl⟩ := Prod.mk.inj (Option.some.inj fraction)
                obtain ⟨left', behind⟩ := dropWhile_point mark left after
                rw [List.span_eq_takeWhile_dropWhile, behind, offset?_point mark] at zone
                cases zone
            · obtain ⟨-, rfl⟩ := Prod.mk.inj (Option.some.inj fraction)
              rw [← List.cons_append, offset?_point mark] at zone
              cases zone
        subst none_left
        refine ⟨hour, minute, second, fun after => ?_⟩
        simp only [time?, takes₁, passes₁, takes₂, passes₂, takes₃, List.nil_append,
          Option.bind_eq_bind, Option.bind_some, early, soon, if_false, Bool.false_eq_true,
          Option.map_eq_bind]
        rfl

/-- What stands before the point of a date with a time says all but the fraction and the offset. -/
theorem calendar?_point {point : CodePoint} (mark : point.is '.' = true) {before after : Text}
    {stamp : Timestamp} (read : calendar? (before ++ point :: after) = some stamp) :
    ∃ date hour minute second, ∀ after,
      (∃ rest, date? (before ++ point :: after) = some (date, rest)) ∧
        calendar? (before ++ point :: after) = (fraction? (point :: after)).bind fun f =>
          (offset? f.2).map fun offset => ⟨date, hour, minute, second, f.1, offset⟩ := by
  simp only [calendar?, Option.bind_eq_bind, Option.bind_eq_some_iff] at read
  obtain ⟨⟨date, t₁⟩, dated, last⟩ := read
  obtain ⟨date', same, taken⟩ := date?_takes dated
  obtain ⟨left, rfl, takes⟩ := taken.behind mark same
  cases left with
  | nil =>
    have other : isSeparator point = false := by
      simp [isSeparator, not_is_of_is mark]
    simp [other] at last
  | cons c left =>
    rw [List.cons_append] at last
    dsimp only at last
    split at last
    · rename_i separator
      simp only [Option.bind_eq_some_iff] at last
      obtain ⟨⟨clock, t₂⟩, timed, offset, zone, -⟩ := last
      obtain ⟨hour, minute, second, times⟩ := time?_point mark timed zone
      refine ⟨date, hour, minute, second, fun after => ?_⟩
      simp only [calendar?, takes, List.cons_append, separator, times, Option.bind_eq_bind,
        Option.bind_some, if_true]
      refine ⟨⟨_, rfl⟩, ?_⟩
      cases fraction? (point :: after) with
      | none => rfl
      | some f => exact Option.map_eq_bind.symm
    · cases last

/-! ### Numerals -/

theorem special?_letters {negative : Bool} {t : Text} {x : Double}
    (named : Numeral.special? negative t = some x) : ∀ c ∈ t, 0x41 ≤ c.val := by
  have lower : ∀ c ∈ t.lower, 0x41 ≤ c.val := by
    have names : ∀ name ∈ ["inf", "infinity", "nan"], ∀ c ∈ Text.ofString name, 0x41 ≤ c.val := by
      decide
    rw [Numeral.special?] at named
    split at named
    · rename_i infinite
      rcases infinite with same | same
      · exact same ▸ names "inf" (by decide)
      · exact same ▸ names "infinity" (by decide)
    · split at named
      · rename_i same
        exact same ▸ names "nan" (by decide)
      · cases named
  intro c member
  have folded := lower c.lower (List.mem_map_of_mem member)
  rw [CodePoint.lower] at folded
  split at folded
  · rename_i capital
    simp only [CodePoint.within, Bool.and_eq_true, decide_eq_true_eq] at capital
    exact capital.1
  · exact folded

theorem not_special {negative : Bool} {t : Text} {c : CodePoint} (member : c ∈ t)
    (other : c.val < 0x41) : Numeral.special? negative t = none := by
  cases named : Numeral.special? negative t with
  | none => rfl
  | some x => exact absurd (special?_letters named c member) (by omega)

theorem exponent?_pointless {t : Text} {exponent : Int}
    (read : Numeral.exponent? t = some exponent) : ∀ c ∈ t, c.is '.' = false := by
  cases t with
  | nil => exact nofun
  | cons c t =>
    rw [Numeral.exponent?] at read
    split at read
    · rename_i letter
      dsimp only at read
      split at read
      · cases read
      · rename_i digits
        have mark : c.is '.' = false := by
          rcases Bool.or_eq_true_iff.mp letter with small | capital
          · exact not_is_of_is small (by decide)
          · exact not_is_of_is capital (by decide)
        have all : ∀ d ∈ (Numeral.splitSign t).2, d.is '.' = false := by
          simp only [Bool.or_eq_true, Bool.not_eq_true', not_or, Bool.not_eq_false,
            List.all_eq_true] at digits
          exact fun d member => CodePoint.not_is_of_isDigit (digits.2 d member) (by decide)
        refine List.forall_mem_cons.mpr ⟨mark, ?_⟩
        cases t with
        | nil => exact nofun
        | cons d t =>
          rw [Numeral.splitSign] at all
          split at all
          · rename_i minus
            exact List.forall_mem_cons.mpr ⟨not_is_of_is minus (by decide), all⟩
          · split at all
            · rename_i plus
              exact List.forall_mem_cons.mpr ⟨not_is_of_is plus (by decide), all⟩
            · exact all
    · cases read

theorem exponent?_point {point : CodePoint} (mark : point.is '.' = true) (before after : Text) :
    Numeral.exponent? (before ++ point :: after) = none := by
  cases read : Numeral.exponent? (before ++ point :: after) with
  | none => rfl
  | some exponent =>
    rw [exponent?_pointless read point (by simp)] at mark
    cases mark

theorem not_numeral_of_date {t rest : Text} {d : Date} (read : date? t = some (d, rest)) :
    numeral? t = none ∧ Numeral.double? t = none := by
  simp only [date?, Option.bind_eq_bind, Option.bind_eq_some_iff] at read
  obtain ⟨⟨year, t₁⟩, years, t₂, dash, -⟩ := read
  obtain ⟨digits, rfl, length, all⟩ := number?_digits years
  obtain ⟨c, rfl, mark⟩ := after?_some dash
  have other : c.isDigit = false := not_isDigit_of_is mark (by decide)
  have spanned : (digits ++ c :: t₂).span CodePoint.isDigit = (digits, c :: t₂) :=
    Text.span_digits all (Text.digitFree_cons other t₂)
  cases digits with
  | nil => cases length
  | cons d digits =>
    have digit := all d List.mem_cons_self
    have range := CodePoint.isDigit_iff.mp digit
    have unsigned :
        Numeral.splitSign (d :: digits ++ c :: t₂) = (false, d :: digits ++ c :: t₂) := by
      rw [List.cons_append, Numeral.splitSign, CodePoint.not_is_of_isDigit digit (by decide),
        CodePoint.not_is_of_isDigit digit (by decide)]
      rfl
    have pointless : c.is '.' = false := not_is_of_is mark (by decide)
    have unmarked : Numeral.exponent? (c :: t₂) = none := by
      rw [Numeral.exponent?, not_is_of_is mark (by decide), not_is_of_is mark (by decide)]
      rfl
    have special : Numeral.special? false (d :: digits ++ c :: t₂) = none :=
      not_special List.mem_cons_self (by omega)
    constructor
    · simp only [numeral?, unsigned, spanned, pointless, Bool.not_false, Bool.true_or, if_true]
    · simp only [Numeral.double?, unsigned, special, spanned, pointless, unmarked,
        List.isEmpty_cons, Bool.false_and, Bool.false_eq_true, if_false, Option.map_none]

theorem splitSign_point {point : CodePoint} (mark : point.is '.' = true) (before : Text) :
    ∃ negative body, ∀ after,
      Numeral.splitSign (before ++ point :: after) = (negative, body ++ point :: after) := by
  cases before with
  | nil =>
    refine ⟨false, [], fun after => ?_⟩
    rw [List.nil_append, Numeral.splitSign, not_is_of_is mark (by decide),
      not_is_of_is mark (by decide)]
    rfl
  | cons c before =>
    cases minus : c.is '-' with
    | true => exact ⟨true, before, fun after => by simp [Numeral.splitSign, minus]⟩
    | false =>
      cases plus : c.is '+' with
      | true => exact ⟨false, before, fun after => by simp [Numeral.splitSign, minus, plus]⟩
      | false => exact ⟨false, c :: before, fun after => by simp [Numeral.splitSign, minus, plus]⟩

/-- Only digits stand between the sign of a numeral and its point. If another character ended the
whole part early, the point would stand in the exponent. -/
theorem digits_of_numeral? {point : CodePoint} (mark : point.is '.' = true) {t body after : Text}
    {negative : Bool} {u : Unix}
    (signed : Numeral.splitSign t = (negative, body ++ point :: after))
    (read : numeral? t = some u) : ∀ c ∈ body, c.isDigit = true := by
  cases left : body.dropWhile CodePoint.isDigit with
  | nil => exact List.dropWhile_eq_nil_iff.mp left
  | cons c rest =>
    have stop : c.isDigit = false := head?_dropWhile_false body c (by rw [left]; rfl)
    have split : body ++ point :: after =
        body.takeWhile CodePoint.isDigit ++ c :: (rest ++ point :: after) := by
      conv_lhs =>
        rw [← List.takeWhile_append_dropWhile (p := CodePoint.isDigit) (l := body), left]
      rw [List.append_assoc, List.cons_append]
    have spanned : (body ++ point :: after).span CodePoint.isDigit =
        (body.takeWhile CodePoint.isDigit, c :: (rest ++ point :: after)) := by
      rw [split]
      exact Text.span_digits (fun d member => List.mem_takeWhile_imp member)
        (Text.digitFree_cons stop _)
    obtain ⟨left', behind⟩ := dropWhile_point mark rest after
    simp only [numeral?, signed, spanned, List.span_eq_takeWhile_dropWhile, behind,
      exponent?_point mark, Option.bind_eq_bind, Option.bind_none, ite_self] at read
    cases read

/-- What stands before the point of a numeral is its sign and its whole part. -/
theorem numeral?_point {point : CodePoint} (mark : point.is '.' = true) {before after : Text}
    {u : Unix} (read : numeral? (before ++ point :: after) = some u) :
    ∃ negative whole, ∀ after,
      numeral? (before ++ point :: after) =
          (Numeral.double? (before ++ point :: after)).bind Unix.ofDouble? ∧
        Numeral.double? (before ++ point :: after) =
          if whole.isEmpty && (after.takeWhile CodePoint.isDigit).isEmpty then none
          else (Numeral.exponent? (after.dropWhile CodePoint.isDigit)).map
            (Numeral.toDouble negative whole (after.takeWhile CodePoint.isDigit)) := by
  obtain ⟨negative, body, signed⟩ := splitSign_point mark before
  have other : point.isDigit = false := not_isDigit_of_is mark (by decide)
  have digits := digits_of_numeral? mark (signed after) read
  have spanned (after : Text) :
      (body ++ point :: after).span CodePoint.isDigit = (body, point :: after) :=
    Text.span_digits digits (Text.digitFree_cons other after)
  have small : ¬ greatestWhole < Text.toNat body := by
    intro large
    simp only [numeral?, signed, spanned, large, decide_true, Bool.or_true, Bool.true_or,
      if_true] at read
    cases read
  refine ⟨negative, body, fun after => ?_⟩
  have special : Numeral.special? negative (body ++ point :: after) = none :=
    not_special (c := point) (by simp) (by rw [CodePoint.is_iff.mp mark]; decide)
  have double : Numeral.double? (before ++ point :: after) =
      if body.isEmpty && (after.takeWhile CodePoint.isDigit).isEmpty then none
      else (Numeral.exponent? (after.dropWhile CodePoint.isDigit)).map
        (Numeral.toDouble negative body (after.takeWhile CodePoint.isDigit)) := by
    simp only [Numeral.double?, signed, special, spanned, mark, if_true,
      List.span_eq_takeWhile_dropWhile]
  refine ⟨?_, double⟩
  rw [double]
  simp only [numeral?, signed, spanned, mark, small, decide_false, Bool.not_true, Bool.false_or,
    List.span_eq_takeWhile_dropWhile]
  split
  · rfl
  · cases Numeral.exponent? (after.dropWhile CodePoint.isDigit) <;> rfl

/-! ### Reading without cutting -/

def openers : List Char :=
  ['Z', 'z', '+', '-', '\u2212', 'e', 'E']

theorem not_scriptDigit {c : CodePoint} {ch : Char} (opens : ch ∈ openers)
    (mark : c.is ch = true) : c.isScriptDigit = false := by
  have all : ∀ c ∈ openers.map CodePoint.ofChar, c.isScriptDigit = false := by decide
  exact CodePoint.eq_ofChar mark ▸ all _ (List.mem_map_of_mem opens)

theorem offset?_head {t : Text} {offset : Int} (read : offset? t = some offset) :
    ∀ c ∈ t.head?, c.isScriptDigit = false := by
  cases t with
  | nil => exact nofun
  | cons c t =>
    intro d first
    obtain rfl := Option.some.inj first
    rw [offset?] at read
    split at read
    · rename_i letter
      rcases Bool.or_eq_true_iff.mp letter with capital | small
      · exact not_scriptDigit (by decide) capital
      · exact not_scriptDigit (by decide) small
    · simp only [Option.bind_eq_bind, Option.bind_eq_some_iff] at read
      obtain ⟨sign, signed, -⟩ := read
      rw [offsetSign?] at signed
      split at signed
      · rename_i plus
        exact not_scriptDigit (by decide) plus
      · split at signed
        · rename_i minus
          rcases Bool.or_eq_true_iff.mp minus with hyphen | long
          · exact not_scriptDigit (by decide) hyphen
          · have sign : c.is '\u2212' = true := CodePoint.is_iff.mpr (of_decide_eq_true long)
            exact not_scriptDigit (by decide) sign
        · cases signed

theorem exponent?_head {t : Text} {exponent : Int} (read : Numeral.exponent? t = some exponent) :
    ∀ c ∈ t.head?, c.isScriptDigit = false := by
  cases t with
  | nil => exact nofun
  | cons c t =>
    intro d first
    obtain rfl := Option.some.inj first
    rw [Numeral.exponent?] at read
    split at read
    · rename_i letter
      rcases Bool.or_eq_true_iff.mp letter with small | capital
      · exact not_scriptDigit (by decide) small
      · exact not_scriptDigit (by decide) capital
    · cases read

theorem fraction?_point {point : CodePoint} (mark : point.is '.' = true) (after : Text) :
    fraction? (point :: after) =
      if (after.takeWhile CodePoint.isDigit).isEmpty then none
      else some (fractionMicros (after.takeWhile CodePoint.isDigit),
        after.dropWhile CodePoint.isDigit) := by
  simp only [fraction?, mark, Bool.true_or, if_true, List.span_eq_takeWhile_dropWhile]

section

variable {t before kept off rest : Text} {point : CodePoint} {stamp : Timestamp} {u : Unix}

/-- The digits that are read where only digits of ASCII stand. -/
theorem CutInto.spanned (parts : CutInto t before point kept off rest) {run : Text}
    (ascii : ∀ c ∈ run, c.isDigit = true) :
    (run ++ rest).takeWhile CodePoint.isDigit = run ∧
      (run ++ rest).dropWhile CodePoint.isDigit = rest := by
  have free : Text.DigitFree rest := fun c first =>
    isDigit_of_not_isScriptDigit (parts.closed c first)
  have spanned := Text.span_digits ascii free
  rw [List.span_eq_takeWhile_dropWhile] at spanned
  exact Prod.mk.inj spanned

theorem CutInto.ascii_of_ends (parts : CutInto t before point kept off rest)
    (ends : ∀ c ∈ ((kept ++ off ++ rest).dropWhile CodePoint.isDigit).head?,
      c.isScriptDigit = false) : ∀ c ∈ off, c.isDigit = true := fun c member =>
  digits_of_dropWhile parts.digits ends c (List.mem_append_right kept member)

theorem CutInto.kept_of_ends (parts : CutInto t before point kept off rest)
    (ends : ∀ c ∈ ((kept ++ rest).dropWhile CodePoint.isDigit).head?, c.isScriptDigit = false) :
    ∀ c ∈ kept, c.isDigit = true :=
  digits_of_dropWhile (fun c member => parts.digits c (List.mem_append_left off member)) ends

/-- A date with a time is read alike without being cut exactly if the digits that are cut off are
of ASCII. -/
theorem CutInto.calendar (parts : CutInto t before point kept off rest)
    (spelled : calendar? (cutFraction t) = some stamp) :
    (∃ d left, date? t = some (d, left)) ∧
      calendar? t = if ∀ c ∈ off, c.isDigit = true then some stamp else none := by
  rw [parts.cut] at spelled
  obtain ⟨date, hour, minute, second, reads⟩ := calendar?_point parts.mark spelled
  have whole := parts.whole
  subst whole
  obtain ⟨⟨left, dated⟩, read⟩ := reads (kept ++ off ++ rest)
  refine ⟨⟨date, left, dated⟩, ?_⟩
  rw [(reads (kept ++ rest)).2, fraction?_point parts.mark] at spelled
  split at spelled
  · cases spelled
  · rename_i some_
    rw [Option.bind_some, Option.map_eq_some_iff] at spelled
    obtain ⟨offset, zone, rfl⟩ := spelled
    have ascii := parts.kept_of_ends (offset?_head zone)
    obtain ⟨taken, behind⟩ := parts.spanned ascii
    rw [behind] at zone
    rw [read, fraction?_point parts.mark]
    by_cases all : ∀ c ∈ off, c.isDigit = true
    · obtain ⟨taken', behind'⟩ := parts.spanned (List.forall_mem_append.mpr ⟨ascii, all⟩)
      have present : (kept ++ off).isEmpty = false := by simp [parts.present]
      have micros : fractionMicros (kept ++ off) = fractionMicros kept := by
        rw [fractionMicros, fractionMicros, List.take_append_of_le_length parts.six.ge]
      rw [if_pos all, taken', behind', present, taken, micros]
      simp [zone]
    · rw [if_neg all, Option.bind_eq_none_iff]
      intro f found
      split at found
      · cases found
      · obtain rfl := Option.some.inj found
        rw [Option.map_eq_none_iff]
        cases zone' : offset? ((kept ++ off ++ rest).dropWhile CodePoint.isDigit) with
        | none => rfl
        | some offset' => exact absurd (parts.ascii_of_ends (offset?_head zone')) all

/-- A numeral that is not cut is still one only if the digits that would be cut off are of ASCII. -/
theorem CutInto.numeral (parts : CutInto t before point kept off rest)
    (counted : numeral? (cutFraction t) = some u) :
    numeral? t = (Numeral.double? t).bind Unix.ofDouble? ∧
      ((∀ c ∈ off, c.isDigit = true) ↔ ∃ x, Numeral.double? t = some x) := by
  rw [parts.cut] at counted
  obtain ⟨negative, digits, reads⟩ := numeral?_point parts.mark counted
  have whole := parts.whole
  subst whole
  obtain ⟨read, double⟩ := reads (kept ++ off ++ rest)
  refine ⟨read, ?_⟩
  obtain ⟨read', double'⟩ := reads (kept ++ rest)
  rw [read', double', Option.bind_eq_some_iff] at counted
  obtain ⟨x, value, -⟩ := counted
  split at value
  · cases value
  · rw [Option.map_eq_some_iff] at value
    obtain ⟨exponent, raised, -⟩ := value
    have ascii := parts.kept_of_ends (exponent?_head raised)
    rw [(parts.spanned ascii).2] at raised
    rw [double]
    constructor
    · intro all
      obtain ⟨taken, behind⟩ := parts.spanned (List.forall_mem_append.mpr ⟨ascii, all⟩)
      have present : (kept ++ off).isEmpty = false := by simp [parts.present]
      rw [taken, behind, raised, present, Bool.and_false, if_neg (by decide)]
      exact ⟨_, rfl⟩
    · rintro ⟨y, found⟩
      split at found
      · cases found
      · rw [Option.map_eq_some_iff] at found
        obtain ⟨exponent', raised', -⟩ := found
        exact parts.ascii_of_ends (exponent?_head raised')

/-- Where a text that is cut reads as a date with a time, it reads as the same one without being cut
if the digits that are cut off are of ASCII. -/
theorem ofText_uncut (taken : ofText (cutFraction t) = .ok stamp)
    (spelled : calendar? (cutFraction t) = some stamp) (ascii : CutsAscii t) :
    ofText t = .ok stamp := by
  rcases cutInto_or t with ⟨same, -⟩ | ⟨before, point, kept, off, rest, parts⟩
  · rwa [same] at taken
  · have read := (parts.calendar spelled).2
    rw [CutsAscii, parts.dropped] at ascii
    rw [if_pos ascii] at read
    rw [ofText, spelled] at taken
    rw [ofText, read]
    exact taken

/-- A text that is a time once it is cut is one without being cut exactly if the digits that are
cut off are of ASCII and, where it is a numeral, all its digits together spell a time of the
calendar. -/
theorem ofText_uncut_iff (taken : ofText (cutFraction t) = .ok stamp) :
    (∃ own, ofText t = .ok own) ↔ CutsAscii t ∧ CountsWhole t := by
  rcases cutInto_or t with ⟨same, none⟩ | ⟨before, point, kept, off, rest, parts⟩
  · have ascii : CutsAscii t := by
      rw [CutsAscii, none]
      exact fun c member => absurd member List.not_mem_nil
    exact iff_of_true ⟨stamp, same ▸ taken⟩ ⟨ascii, fun some_ => absurd none some_⟩
  · rw [CutsAscii, CountsWhole, parts.dropped, imp_iff_right parts.present]
    cases spelled : calendar? (cutFraction t) with
    | some stamp' =>
      obtain ⟨⟨d, left, dated⟩, read⟩ := parts.calendar spelled
      obtain ⟨uncounted, undoubled⟩ := not_numeral_of_date dated
      have whole : ∀ x, Numeral.double? t = some x →
          ∃ stamp, (Unix.ofDouble? x).bind ofUnix? = some stamp := by
        rw [undoubled]
        exact fun x given => absurd given (Option.some_ne_none x).symm
      rw [and_iff_left whole]
      by_cases ascii : ∀ c ∈ off, c.isDigit = true
      · rw [if_pos ascii] at read
        rw [ofText, spelled] at taken
        rw [ofText, read]
        exact iff_of_true ⟨stamp, taken⟩ ascii
      · rw [if_neg ascii] at read
        rw [ofText, read, uncounted]
        have refused : ¬ ∃ own, (Except.error .unreadable : Except Fault Timestamp) = .ok own := by
          simp
        exact iff_of_false refused ascii
    | none =>
      rw [ofText, spelled] at taken
      dsimp only at taken
      cases counted : numeral? (cutFraction t) with
      | none =>
        rw [counted] at taken
        cases taken
      | some u =>
        obtain ⟨read, ascii⟩ := parts.numeral counted
        have undated : calendar? t = none := by
          cases dated : calendar? t with
          | none => rfl
          | some other =>
            rw [parts.whole] at dated
            obtain ⟨_, _, _, _, reads⟩ := calendar?_point parts.mark dated
            obtain ⟨⟨left, found⟩, -⟩ := reads (kept ++ rest)
            rw [← parts.cut] at found
            cases counted.symm.trans (not_numeral_of_date found).1
        rw [ascii, ofText, undated, read]
        cases Numeral.double? t with
        | none => simp
        | some x =>
          cases time : Unix.ofDouble? x with
          | none => simp [time]
          | some u => cases stamped : ofUnix? u <;> simp [time, stamped]

end

end ClusterHealth.Timestamp
