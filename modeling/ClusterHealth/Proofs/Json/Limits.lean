import ClusterHealth.Proofs.Json.Compact

/-!
# The limits of a reader

A reader with limits gives what a reader with wider ones gives, or it says that a limit is met,
`read_agrees`. So what the strict reader takes the lenient one takes for the same value,
`read_lenient`. Limits as large as the text are never met, `read_unlimited`, and so a reader meets
one exactly where it gives something else than the reader for texts of that size,
`read_limited_iff`.
-/

namespace ClusterHealth.Json

def Cause.isLimit : Cause → Bool
  | tooDeep | tooLong _ => true
  | _ => false

/-- Whether the strict reader may give the cause for a text that the lenient one takes. -/
def Cause.isStrict : Cause → Bool
  | loneSurrogate => true
  | cause => cause.isLimit

/-- The same rules with limits that no text of the size meets. -/
def Rules.forSize (size : Nat) (rules : Rules) : Rules :=
  { rules with depth := max rules.depth size, digits := max rules.digits size }

/-- The first rules allow no more than the others, and where they allow less the cause is among the
given ones. -/
structure Rules.Within (causes : Cause → Bool) (rules wider : Rules) : Prop where
  limits : ∀ cause, cause.isLimit = true → causes cause = true
  depth : rules.depth ≤ wider.depth
  digits : rules.digits ≤ wider.digits
  loneSurrogates : rules.loneSurrogates = wider.loneSurrogates ∨
    wider.loneSurrogates = true ∧ causes .loneSurrogate = true
  limitsFractions : wider.limitsFractions = true → rules.limitsFractions = true

theorem Rules.within_forSize (size : Nat) (rules : Rules) :
    rules.Within Cause.isLimit (rules.forSize size) :=
  ⟨fun _ => id, Nat.le_max_left .., Nat.le_max_left .., .inl rfl, id⟩

theorem Rules.strict_within : Rules.strict.Within Cause.isStrict .lenient :=
  ⟨fun cause limit => by cases cause <;> trivial, by decide, by decide, .inr ⟨rfl, rfl⟩, nofun⟩

variable {causes : Cause → Bool} {rules wider : Rules} {α β : Type}

/-- The first outcome says that a limit is met. -/
def Limited (outcome : Except Fault α) : Prop :=
  ∃ fault, outcome = .error fault ∧ fault.cause.isLimit = true

/-- Both outcomes are one unless the first is a fault with one of the causes. -/
def Agrees (causes : Cause → Bool) (limited free : Except Fault α) : Prop :=
  limited = free ∨ ∃ fault, limited = .error fault ∧ causes fault.cause = true

theorem limited_error {fault : Fault} :
    Limited (α := α) (.error fault) ↔ fault.cause.isLimit = true :=
  ⟨fun ⟨_, same, limit⟩ => Except.error.inj same ▸ limit, fun limit => ⟨fault, rfl, limit⟩⟩

theorem not_limited_ok {value : α} : ¬ Limited (.ok value) := by
  rintro ⟨_, same, -⟩
  cases same

theorem not_limited_of_text {fault : Fault} (cause : fault.cause.isLimit = false) :
    ¬ Limited (α := α) (.error fault) := by
  rw [limited_error, cause]
  exact Bool.false_ne_true

theorem not_limited_error {outcome : Except Fault α} {fault : Fault} (free : ¬ Limited outcome)
    (failed : outcome = .error fault) : ¬ Limited (α := β) (.error fault) := by
  rw [failed, limited_error] at free
  exact fun limit => free (limited_error.mp limit)

/-! ### Fewer limits -/

theorem readText_within (lone : rules.loneSurrogates = wider.loneSurrogates)
    (start read t : Text) : readText rules start read t = readText wider start read t := by
  fun_induction readText rules start read t
  all_goals conv_rhs => rw [readText.eq_def]
  all_goals simp only [lone] at *
  all_goals simp only [*, if_true, if_false, Bool.false_eq_true]
  -- What is left is the second escape of a pair, which is only now read.
  case case5 _ paired _ => exact (if_pos paired).symm
  case case6 _ single _ _ => exact (if_neg single).symm
  case case7 _ single _ => exact (if_neg single).symm

/-- A reader that lets a surrogate stand alone goes on where the other stops at one. -/
theorem readText_lone (lone : wider.loneSurrogates = true) (start read t : Text) :
    readText rules start read t = readText wider start read t ∨
      ∃ fault, readText rules start read t = .error fault ∧ fault.cause = .loneSurrogate := by
  fun_induction readText rules start read t
  all_goals try exact .inr ⟨_, rfl, rfl⟩
  all_goals
    conv =>
      lhs
      rhs
      rw [readText.eq_def]
  all_goals
    simp only [*, if_true, if_false, Bool.false_eq_true, true_or, Bool.not_true, Bool.and_false]
  case case5 _ paired recursion =>
    exact recursion.imp_left fun same => same.trans (if_pos paired).symm
  case case6 _ single _ recursion =>
    exact recursion.imp_left fun same => same.trans (if_neg single).symm

theorem readText_agrees (within : rules.Within causes wider) (start read t : Text) :
    Agrees causes (readText rules start read t) (readText wider start read t) := by
  rcases within.loneSurrogates with same | ⟨lone, cause⟩
  · exact .inl (readText_within same start read t)
  · refine (readText_lone lone start read t).imp_right ?_
    rintro ⟨fault, met, alone⟩
    exact ⟨fault, met, alone ▸ cause⟩

theorem readNumber_agrees (within : rules.Within causes wider) (start : Text) :
    Agrees causes (readNumber rules start) (readNumber wider start) := by
  rcases readNumber_cases start with none | ⟨number, -, some⟩
  · exact .inl (by rw [none, none])
  · rw [some, some, Number.limited, Number.limited]
    by_cases long : rules.digits < number.length && (number.isInteger || rules.limitsFractions)
    · exact .inr ⟨_, if_pos long, within.limits _ rfl⟩
    · have short : ¬ (wider.digits < number.length &&
          (number.isInteger || wider.limitsFractions)) = true := by
        have digits := within.digits
        simp only [Bool.and_eq_true, Bool.or_eq_true, decide_eq_true_eq] at long ⊢
        exact fun more => long ⟨by omega, more.2.imp_right within.limitsFractions⟩
      exact .inl (by rw [if_neg long, if_neg short])

theorem readScalar_agrees (within : rules.Within causes wider) (start : Text) :
    Agrees causes (readScalar rules start) (readScalar wider start) := by
  rcases readScalar_cases start with ⟨_, _, _, _, _, _, word⟩ | number
  · exact .inl (by rw [word, word])
  · rw [number, number]
    exact readNumber_agrees within start

mutual

theorem readValue_agrees (within : rules.Within causes wider) :
    ∀ {fuel free depth room : Nat} (start : Text), fuel ≤ free → depth ≤ room →
      Agrees causes (readValue rules fuel depth start) (readValue wider free room start)
  | 0, _, _, _, _, _, _ => .inr ⟨_, by rw [readValue], within.limits _ rfl⟩
  | _ + 1, _ + 1, _, _, [], _, _ => .inl (by rw [readValue, readValue])
  | fuel + 1, free + 1, depth, room, c :: rest, fueled, roomy => by
    rw [readValue, readValue]
    split_ifs with quote bracket brace
    · rcases readText_agrees within (c :: rest) [] rest with same | ⟨fault, met, cause⟩
      · exact .inl (by rw [same])
      · exact .inr ⟨fault, by rw [met], cause⟩
    · split
      · exact .inl rfl
      · rename_i d after _
        split_ifs
        · exact .inl rfl
        · match depth, room, roomy with
          | 0, _, _ => exact .inr ⟨_, rfl, within.limits _ rfl⟩
          | depth + 1, room + 1, roomy =>
            rcases readItems_agrees within (d :: after) (Nat.le_of_succ_le_succ fueled)
              (Nat.le_of_succ_le_succ roomy) with same | ⟨fault, met, cause⟩
            · exact .inl (by simp only [same])
            · exact .inr ⟨fault, by simp only [met], cause⟩
    · split
      · exact .inl rfl
      · rename_i d after _
        split_ifs
        · exact .inl rfl
        · match depth, room, roomy with
          | 0, _, _ => exact .inr ⟨_, rfl, within.limits _ rfl⟩
          | depth + 1, room + 1, roomy =>
            rcases readMembers_agrees within (d :: after) (Nat.le_of_succ_le_succ fueled)
              (Nat.le_of_succ_le_succ roomy) with same | ⟨fault, met, cause⟩
            · exact .inl (by simp only [same])
            · exact .inr ⟨fault, by simp only [met], cause⟩
    · exact readScalar_agrees within (c :: rest)

theorem readItems_agrees (within : rules.Within causes wider) :
    ∀ {fuel free depth room : Nat} (start : Text), fuel ≤ free → depth ≤ room →
      Agrees causes (readItems rules fuel depth start) (readItems wider free room start)
  | 0, _, _, _, _, _, _ => .inr ⟨_, by rw [readItems], within.limits _ rfl⟩
  | fuel + 1, free + 1, depth, room, start, fueled, roomy => by
    have fewer := Nat.le_of_succ_le_succ fueled
    rw [readItems, readItems]
    rcases readValue_agrees within start fewer roomy with same | ⟨fault, met, cause⟩
    · rw [same]
      split
      · exact .inl rfl
      · split
        · exact .inl rfl
        · rename_i after _
          split_ifs
          · exact .inl rfl
          · rcases readItems_agrees within (skipBlank after) fewer roomy with
              same | ⟨fault, met, cause⟩
            · exact .inl (by rw [same])
            · exact .inr ⟨fault, by rw [met], cause⟩
          · exact .inl rfl
    · exact .inr ⟨fault, by rw [met], cause⟩

theorem readMembers_agrees (within : rules.Within causes wider) :
    ∀ {fuel free depth room : Nat} (start : Text), fuel ≤ free → depth ≤ room →
      Agrees causes (readMembers rules fuel depth start) (readMembers wider free room start)
  | 0, _, _, _, _, _, _ => .inr ⟨_, by rw [readMembers], within.limits _ rfl⟩
  | _ + 1, _ + 1, _, _, [], _, _ => .inl (by rw [readMembers, readMembers])
  | fuel + 1, free + 1, depth, room, c :: rest, fueled, roomy => by
    have fewer := Nat.le_of_succ_le_succ fueled
    rw [readMembers, readMembers]
    split_ifs
    · rcases readText_agrees within (c :: rest) [] rest with same | ⟨fault, met, cause⟩
      · rw [same]
        split
        · exact .inl rfl
        · split
          · exact .inl rfl
          · rename_i after _
            split_ifs
            · rcases readValue_agrees within (skipBlank after) fewer roomy with
                same | ⟨fault, met, cause⟩
              · rw [same]
                split
                · exact .inl rfl
                · split
                  · exact .inl rfl
                  · rename_i after _
                    split_ifs
                    · exact .inl rfl
                    · rcases readMembers_agrees within (skipBlank after) fewer roomy with
                        same | ⟨fault, met, cause⟩
                      · exact .inl (by rw [same])
                      · exact .inr ⟨fault, by rw [met], cause⟩
                    · exact .inl rfl
              · exact .inr ⟨fault, by rw [met], cause⟩
            · exact .inl rfl
      · exact .inr ⟨fault, by rw [met], cause⟩
    · exact .inl rfl

end

theorem read_agrees (within : rules.Within causes wider) (t : Text) :
    Agrees causes (read rules t) (read wider t) := by
  rw [read, read]
  rcases readValue_agrees within (skipBlank t) (Nat.le_refl _) within.depth with
    same | ⟨fault, met, cause⟩
  · exact .inl (by rw [same])
  · exact .inr ⟨fault, by rw [met], cause⟩

theorem read_lenient {t : Text} {json : Json} (found : read .strict t = .ok json) :
    read .lenient t = .ok json := by
  rcases read_agrees Rules.strict_within t with same | ⟨fault, met, -⟩
  · exact same.symm.trans found
  · cases met.symm.trans found

/-! ### Limits as large as the text -/

theorem readText_unlimited {start read t : Text} {fault : Fault}
    (refused : readText rules start read t = .error fault) : fault.cause.isLimit = false := by
  fun_induction readText rules start read t
  all_goals grind [Cause.isLimit]

theorem readScalar_unlimited {start : Text} (short : start.length ≤ rules.digits) :
    ¬ Limited (readScalar rules start) := by
  rcases readScalar_cases start with ⟨_, _, _, _, _, _, word⟩ | scalar
  · rw [word]
    exact not_limited_ok
  · rw [scalar]
    rcases readNumber_cases start with none | ⟨number, fits, some⟩
    · rw [none]
      exact not_limited_of_text rfl
    · have few := fits.shorter
      rw [some, Number.limited, if_neg (by simp; omega)]
      exact not_limited_ok

mutual

/-- With room for the whole text the bound on the recursion is not met either. -/
theorem readValue_unlimited : ∀ (fuel depth : Nat) (start : Text),
    2 * start.length + 1 ≤ fuel → start.length ≤ depth → start.length ≤ rules.digits →
      ¬ Limited (readValue rules fuel depth start)
  | _ + 1, _, [], _, _, _ => by
    rw [readValue]
    exact not_limited_of_text rfl
  | fuel + 1, depth, c :: rest, fueled, roomy, short => by
    have blank := skipBlank_length rest
    rw [List.length_cons] at fueled roomy short
    rw [readValue]
    split_ifs with quote bracket brace
    · split
      · exact not_limited_ok
      · rename_i refused
        exact not_limited_of_text (readText_unlimited refused)
    · split
      · exact not_limited_of_text rfl
      · rename_i d after inside
        rw [inside, List.length_cons] at blank
        split_ifs
        · exact not_limited_ok
        · match depth, roomy with
          | depth + 1, roomy =>
            have free := readItems_unlimited fuel depth (d :: after)
              (by rw [List.length_cons]; omega) (by rw [List.length_cons]; omega)
              (by rw [List.length_cons]; omega)
            dsimp only
            split
            · exact not_limited_ok
            · exact not_limited_error free (by assumption)
    · split
      · exact not_limited_of_text rfl
      · rename_i d after inside
        rw [inside, List.length_cons] at blank
        split_ifs
        · exact not_limited_ok
        · match depth, roomy with
          | depth + 1, roomy =>
            have free := readMembers_unlimited fuel depth (d :: after)
              (by rw [List.length_cons]; omega) (by rw [List.length_cons]; omega)
              (by rw [List.length_cons]; omega)
            dsimp only
            split
            · exact not_limited_ok
            · exact not_limited_error free (by assumption)
    · exact readScalar_unlimited (by rwa [List.length_cons])

theorem readItems_unlimited : ∀ (fuel depth : Nat) (start : Text),
    2 * start.length + 2 ≤ fuel → start.length ≤ depth → start.length ≤ rules.digits →
      ¬ Limited (readItems rules fuel depth start)
  | fuel + 1, depth, start, fueled, roomy, short => by
    have first := readValue_unlimited fuel depth start (by omega) roomy short
    rw [readItems]
    split
    · exact not_limited_error first (by assumption)
    · rename_i item rest read
      have shorter := (readValue_sound fuel depth read).taken.shorter
      have blank := skipBlank_length rest
      split
      · exact not_limited_of_text rfl
      · rename_i d after inside
        have skipped := skipBlank_length after
        rw [inside, List.length_cons] at blank
        split_ifs
        · exact not_limited_ok
        · have others := readItems_unlimited fuel depth (skipBlank after)
            (by omega) (by omega) (by omega)
          split
          · exact not_limited_ok
          · exact not_limited_error others (by assumption)
        · exact not_limited_of_text rfl

theorem readMembers_unlimited : ∀ (fuel depth : Nat) (start : Text),
    2 * start.length + 2 ≤ fuel → start.length ≤ depth → start.length ≤ rules.digits →
      ¬ Limited (readMembers rules fuel depth start)
  | _ + 1, _, [], _, _, _ => by
    rw [readMembers]
    exact not_limited_of_text rfl
  | fuel + 1, depth, c :: rest, fueled, roomy, short => by
    rw [List.length_cons] at fueled roomy short
    rw [readMembers]
    split_ifs with quote
    · split
      · rename_i refused
        exact not_limited_of_text (readText_unlimited refused)
      · rename_i key afterKey named
        have name := readText_shorter named
        have blank := skipBlank_length afterKey
        split
        · exact not_limited_of_text rfl
        · rename_i d after inside
          have skipped := skipBlank_length after
          rw [inside, List.length_cons] at blank
          split_ifs
          · have first := readValue_unlimited fuel depth (skipBlank after)
              (by omega) (by omega) (by omega)
            split
            · exact not_limited_error first (by assumption)
            · rename_i value afterValue read
              have shorter := (readValue_sound fuel depth read).taken.shorter
              have blank := skipBlank_length afterValue
              split
              · exact not_limited_of_text rfl
              · rename_i d after inside
                have skipped := skipBlank_length after
                rw [inside, List.length_cons] at blank
                split_ifs
                · exact not_limited_ok
                · have others := readMembers_unlimited fuel depth (skipBlank after)
                    (by omega) (by omega) (by omega)
                  split
                  · exact not_limited_ok
                  · exact not_limited_error others (by assumption)
                · exact not_limited_of_text rfl
          · exact not_limited_of_text rfl
    · exact not_limited_of_text rfl

end

theorem read_unlimited {t : Text} (roomy : t.length ≤ rules.depth)
    (short : t.length ≤ rules.digits) : ¬ Limited (read rules t) := by
  have skipped := skipBlank_length t
  have free := readValue_unlimited (2 * t.length + 2) rules.depth (skipBlank t) (by omega)
    (skipped.trans roomy) (skipped.trans short)
  rw [read]
  split
  · exact not_limited_error free (by assumption)
  · split
    · exact not_limited_ok
    · exact not_limited_of_text rfl

theorem read_limited_iff (t : Text) :
    Limited (read rules t) ↔ read rules t ≠ read (rules.forSize t.length) t := by
  have free : ¬ Limited (read (rules.forSize t.length) t) :=
    read_unlimited (Nat.le_max_right ..) (Nat.le_max_right ..)
  constructor
  · intro limited same
    exact free (same ▸ limited)
  · intro different
    exact (read_agrees (rules.within_forSize t.length) t).resolve_left different

/-- The same for a reader that refuses a byte order mark, which is no limit. -/
theorem readUnmarked_limited_iff (t : Text) :
    Limited (readUnmarked rules t) ↔
      readUnmarked rules t ≠ readUnmarked (rules.forSize t.length) t := by
  cases t with
  | nil => exact @read_limited_iff rules []
  | cons c rest =>
    rw [readUnmarked, readUnmarked]
    split_ifs
    · exact ⟨fun limited => absurd limited (not_limited_of_text rfl),
        fun different => absurd rfl different⟩
    · exact read_limited_iff (c :: rest)

theorem readable_mono {json : Json} {digits more : Nat} (fewer : digits ≤ more)
    (readable : json.all (readable digits) = true) : json.all (Json.readable more) = true := by
  refine all_mono (fun inner test => ?_) json readable
  cases inner with
  | int n => exact decide_eq_true (Nat.le_trans (of_decide_eq_true test) fewer)
  | null | bool | float | text | array | object => exact test

theorem readable_power {digits : Nat} (positive : 0 < digits) (k : Nat) :
    (int (10 ^ k)).all (readable digits) = decide (k < digits) := by
  refine decide_eq_decide.mpr ?_
  rw [Text.length_ofNat_le_iff positive, Int.natAbs_pow]
  exact Nat.pow_lt_pow_iff_right (by decide)

/-- The text of a value meets a limit exactly if the value goes past one. -/
theorem read_spread_limited {style : Style} (suits : style.Suits rules) {digits : Nat} {json : Json}
    (readable : json.all (readable digits) = true) (finite : json.all finite = true) :
    Limited (read rules (json.spread style 0)) ↔
      ¬ (json.nesting ≤ rules.depth ∧ json.all (Json.readable rules.digits) = true) := by
  let wider : Rules :=
    { rules with depth := max rules.depth json.nesting, digits := max rules.digits digits }
  have fewer : rules.digits ≤ wider.digits := Nat.le_max_left ..
  have whole : read wider (json.spread style 0) = .ok json := by
    have free : style.Suits wider :=
      { suits with room := Nat.lt_of_lt_of_le suits.room fewer,
                   most := lt_of_lt_of_le suits.most (Int.ofNat_le.mpr fewer) }
    exact read_spread free (readable_mono (Nat.le_max_right ..) readable) finite
      (Nat.le_max_right ..)
  constructor
  · rintro limited ⟨shallow, short⟩
    rw [read_spread suits short finite shallow] at limited
    exact not_limited_ok limited
  · intro past
    have within : rules.Within Cause.isLimit wider :=
      ⟨fun _ => id, Nat.le_max_left .., fewer, .inl rfl, id⟩
    refine (read_agrees within (json.spread style 0)).resolve_left fun same => past ?_
    exact read_ok (same.trans whole)

theorem read_compact_limited (room : 16 ≤ rules.digits) {digits : Nat} {json : Json}
    (readable : json.all (readable digits) = true) (finite : json.all finite = true) :
    Limited (read rules json.compact) ↔
      ¬ (json.nesting ≤ rules.depth ∧ json.all (Json.readable rules.digits) = true) := by
  rw [compact_eq 0]
  exact read_spread_limited (suits_compact room) readable finite

end ClusterHealth.Json
