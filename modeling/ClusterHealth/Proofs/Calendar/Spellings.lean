import ClusterHealth.Proofs.Calendar.Timestamps

/-!
# Spellings of a timestamp

A timestamp may be spelled with other marks than those it is written with, with a fraction of any
length and with or without a zone. Whatever its spelling, what is finer than a microsecond is cut
off and never rounded, `Spelling.Valid.ofText_text`. The form in documents is one of the spellings,
so it is read back, `ofText_write`, and so is the form for reading, `ofText_writeLong`.
-/

namespace ClusterHealth.Timestamp

/-! ### The parts of a spelling -/

/-- How the part of a second is spelled. -/
inductive Fraction
  | missing
  | digits (mark : CodePoint) (run : Text)
  deriving DecidableEq

namespace Fraction

def text : Fraction → Text
  | missing => []
  | digits mark run => mark :: run

/-- The first six digits, filled up with zeros. -/
def micro : Fraction → Nat
  | missing => 0
  | digits _ run => Text.toNat ((run ++ List.replicate 6 (CodePoint.ofChar '0')).take 6)

/-- The mark is a point or a comma, and at least one digit follows. -/
def Valid : Fraction → Prop
  | missing => True
  | digits mark run =>
    mark ∈ ['.', ','].map CodePoint.ofChar ∧ run ≠ [] ∧ ∀ c ∈ run, c.isDigit = true

/-- What is left of a fraction once the digits after a point are cut to six. -/
def cut : Fraction → Fraction
  | missing => missing
  | digits mark run => digits mark (if mark.is '.' then run.take 6 else run)

end Fraction

/-- How the distance of the clock from UTC is spelled. -/
inductive Zone
  | missing
  | letter (c : CodePoint)
  | offset (sign : CodePoint) (colon : Bool) (hours minutes : Nat)
  deriving DecidableEq

namespace Zone

def text : Zone → Text
  | missing => []
  | letter c => [c]
  | offset sign colon hours minutes =>
    sign :: (Text.ofNatPadded 10 2 hours ++ ((if colon then ":" else [] : Text) ++
      Text.ofNatPadded 10 2 minutes))

def ahead : Zone → Int
  | offset sign _ hours minutes =>
    (if sign = CodePoint.ofChar '+' then 1 else -1) * (hours * 60 + minutes : Nat)
  | _ => 0

/-- The letter is one for UTC; a sign is a plus or one of two minuses, and the offset less than a
day. -/
def Valid : Zone → Prop
  | missing => True
  | letter c => c ∈ ['Z', 'z'].map CodePoint.ofChar
  | offset sign _ hours minutes =>
    sign ∈ ['+', '-', '\u2212'].map CodePoint.ofChar ∧ hours < 24 ∧ minutes < 60

end Zone

/-- A date and a time of day as they are spelled, with a separator between them. -/
structure Spelling where
  date : Date
  separator : CodePoint
  hour : Nat
  minute : Nat
  second : Nat
  fraction : Fraction
  zone : Zone
  deriving DecidableEq

namespace Spelling

def stamp (p : Spelling) : Timestamp :=
  ⟨p.date, p.hour, p.minute, p.second, p.fraction.micro, p.zone.ahead⟩

def text (p : Spelling) : Text :=
  writeDate p.date ++ p.separator :: (p.stamp.writeClock ++ (p.fraction.text ++ p.zone.text))

/-- The date and the time exist, and all marks are known. -/
structure Valid (p : Spelling) : Prop where
  date : p.date.Exists
  early : 1 ≤ p.date.year
  late : p.date.year ≤ 9999
  separator : p.separator ∈ ['T', 't', ' ', '_'].map CodePoint.ofChar
  hour : p.hour < 24
  minute : p.minute < 60
  second : p.second < 60
  fraction : p.fraction.Valid
  zone : p.zone.Valid

def cut (p : Spelling) : Spelling :=
  { p with fraction := p.fraction.cut }

end Spelling

/-! ### Reading numbers and dates -/

theorem number?_ofNatPadded (width n : Nat) (positive : 0 < width) (small : n < 10 ^ width)
    (rest : Text) : number? width (Text.ofNatPadded 10 width n ++ rest) = some (n, rest) := by
  have length := Text.length_ofNatPadded width n positive small
  have digits : (Text.ofNatPadded 10 width n).all CodePoint.isDigit = true :=
    List.all_eq_true.mpr fun c member => Text.isDigit_of_mem_ofNatPadded member
  rw [number?, List.take_left' length, List.drop_left' length]
  simp only [length, digits, decide_true, Bool.and_self, if_true, Text.toNat_ofNatPadded]

theorem after?_cons (ch : Char) (rest : Text) :
    after? ch (CodePoint.ofChar ch :: rest) = some rest := by
  simp [after?, CodePoint.is_ofChar]

theorem after?_digits {ch : Char} (outside : ch.toNat < 0x30 ∨ 0x39 < ch.toNat) (width n : Nat) :
    after? ch (Text.ofNatPadded 10 width n) = none := by
  cases spelled : Text.ofNatPadded 10 width n with
  | nil => exact absurd spelled (Text.ofNatPadded_ne_nil width n)
  | cons c digits =>
    have digit : c.isDigit = true :=
      Text.isDigit_of_mem_ofNatPadded (spelled ▸ List.mem_cons_self)
    rw [after?, CodePoint.not_is_of_isDigit digit outside]
    rfl

theorem daysInMonth_le (year month : Nat) : Date.daysInMonth year month ≤ 31 := by
  rw [Date.daysInMonth]
  split
  · decide
  · rw [List.getD_eq_getElem?_getD]
    have all : ∀ length ∈ Date.monthLengths year, length ≤ 31 := by
      cases leap : Date.isLeap year <;> simp [Date.monthLengths, leap]
    cases found : (Date.monthLengths year)[month - 1]? with
    | none => simp
    | some length => exact all length (List.mem_of_getElem? found)

theorem month_lt {d : Date} (real : d.Exists) : d.month < 13 := by
  by_contra late
  have none : Date.daysInMonth d.year d.month = 0 := by
    rw [Date.daysInMonth, if_neg (by omega), List.getD_eq_getElem?_getD,
      List.getElem?_eq_none (by simp [Date.monthLengths]; omega)]
    rfl
  have := real.1
  have := real.2
  omega

theorem date?_write {d : Date} (real : d.Exists) (late : d.year ≤ 9999) (rest : Text) :
    date? (writeDate d ++ rest) = some (d, rest) := by
  have day : d.day < 10 ^ 2 := by
    have := real.2
    have := daysInMonth_le d.year d.month
    omega
  have month : d.month < 10 ^ 2 := by
    have := month_lt real
    omega
  have dash : (Text.ofString "-" : Text) = [CodePoint.ofChar '-'] := rfl
  have year := number?_ofNatPadded 4 d.year (by decide) (by omega)
  have month := number?_ofNatPadded _ _ (by decide) month
  have day := number?_ofNatPadded _ _ (by decide) day
  simp only [date?, writeDate, dash, List.append_assoc, List.cons_append, List.nil_append, year,
    month, day, after?_cons, Option.bind_eq_bind, Option.bind_some, real, if_true]

/-! ### Reading zones -/

/-- What follows the fraction starts with no digit and with no mark of a fraction. -/
def Closing (t : Text) : Prop :=
  ∀ c ∈ t.head?, c.isScriptDigit = false ∧ c.is '.' = false ∧ c.is ',' = false

theorem isScriptDigit_of_isDigit {c : CodePoint} (digit : c.isDigit = true) :
    c.isScriptDigit = true := by
  rw [CodePoint.isScriptDigit, List.any_eq_true]
  exact ⟨0x30, by decide, digit⟩

theorem isDigit_of_not_isScriptDigit {c : CodePoint} (other : c.isScriptDigit = false) :
    c.isDigit = false := by
  cases digit : c.isDigit with
  | false => rfl
  | true =>
    rw [isScriptDigit_of_isDigit digit] at other
    cases other

theorem pointless_ofNatPadded (width n : Nat) :
    ∀ c ∈ Text.ofNatPadded 10 width n, c.is '.' = false := fun _ member =>
  CodePoint.not_is_of_isDigit (Text.isDigit_of_mem_ofNatPadded member) (by decide)

namespace Zone

variable {zone : Zone}

theorem offset?_text (valid : zone.Valid) : offset? zone.text = some zone.ahead := by
  cases zone with
  | missing => rfl
  | letter c =>
    simp only [Valid, List.map_cons, List.map_nil, List.mem_cons, List.not_mem_nil, or_false]
      at valid
    rcases valid with rfl | rfl <;> rfl
  | offset sign colon hours minutes =>
    obtain ⟨signs, short, shorter⟩ := valid
    have hour := number?_ofNatPadded 2 hours (by decide) (by omega)
    have minute := number?_ofNatPadded 2 minutes (by decide) (by omega) []
    rw [List.append_nil] at minute
    have colons : ((after? ':' ((if colon then ":" else [] : Text) ++
        Text.ofNatPadded 10 2 minutes)).getD ((if colon then ":" else [] : Text) ++
          Text.ofNatPadded 10 2 minutes)) = Text.ofNatPadded 10 2 minutes := by
      cases colon with
      | true => exact congrArg (Option.getD · _) (after?_cons ':' _)
      | false =>
        have absent : after? ':' (Text.ofNatPadded 10 2 minutes) = none :=
          after?_digits (by decide) 2 minutes
        simp [absent]
    have signed : ∃ unit : Int, offsetSign? sign = some unit ∧ sign.is 'Z' = false ∧
        sign.is 'z' = false ∧ unit = if sign = CodePoint.ofChar '+' then 1 else -1 := by
      simp only [List.map_cons, List.map_nil, List.mem_cons, List.not_mem_nil, or_false] at signs
      rcases signs with rfl | rfl | rfl
      · exact ⟨1, rfl, rfl, rfl, rfl⟩
      · exact ⟨-1, rfl, rfl, rfl, rfl⟩
      · exact ⟨-1, rfl, rfl, rfl, rfl⟩
    obtain ⟨unit, same, capital, small, value⟩ := signed
    simp only [text, offset?, capital, small, Bool.or_self, Bool.false_eq_true, if_false, same,
      hour, colons, minute, Option.bind_eq_bind, Option.bind_some, List.isEmpty_nil, short, shorter,
      decide_true, Bool.and_self, if_true, ahead, value]

theorem closing_text (valid : zone.Valid) : Closing zone.text := by
  intro c first
  cases zone with
  | missing => cases first
  | letter mark =>
    obtain rfl := Option.some.inj first
    have all : ∀ ch ∈ ['Z', 'z'].map CodePoint.ofChar,
        ch.isScriptDigit = false ∧ ch.is '.' = false ∧ ch.is ',' = false := by decide
    exact all _ valid
  | offset sign colon hours minutes =>
    obtain rfl := Option.some.inj first
    have all : ∀ ch ∈ ['+', '-', '\u2212'].map CodePoint.ofChar,
        ch.isScriptDigit = false ∧ ch.is '.' = false ∧ ch.is ',' = false := by decide
    exact all _ valid.1

theorem pointless_text (valid : zone.Valid) : ∀ c ∈ zone.text, c.is '.' = false := by
  cases zone with
  | missing => exact fun c member => absurd member List.not_mem_nil
  | letter mark =>
    have first := closing_text valid
    intro c member
    obtain rfl := List.mem_singleton.mp member
    exact (first _ rfl).2.1
  | offset sign colon hours minutes =>
    have first := closing_text valid
    have mark : ∀ c ∈ (if colon then ":" else [] : Text), c.is '.' = false := by
      cases colon <;> decide
    rw [text, List.forall_mem_cons, List.forall_mem_append, List.forall_mem_append]
    exact ⟨(first _ rfl).2.1, pointless_ofNatPadded 2 hours, mark, pointless_ofNatPadded 2 minutes⟩

end Zone

/-! ### Reading fractions -/

/-- The digits kept, with a zero for each that is missing. -/
theorem fractionMicros_eq (run : Text) : fractionMicros run =
    Text.toNat ((run ++ List.replicate 6 (CodePoint.ofChar '0')).take 6) := by
  have missing : min (6 - run.length) 6 = 6 - (run.take 6).length := by
    rw [List.length_take]
    omega
  rw [List.take_append, List.take_replicate, Text.toNat_append, Text.toNat_zeros,
    List.length_replicate, missing]
  rfl

namespace Fraction

variable {f : Fraction}

theorem micro_cut (f : Fraction) : f.cut.micro = f.micro := by
  cases f with
  | missing => rfl
  | digits mark run =>
    simp only [cut, micro, ← fractionMicros_eq]
    split
    · simp only [fractionMicros, List.take_take, Nat.min_self]
    · rfl

theorem Valid.cut (valid : f.Valid) : f.cut.Valid := by
  cases f with
  | missing => trivial
  | digits mark run =>
    obtain ⟨known, present, all⟩ := valid
    refine ⟨known, ?_, ?_⟩
    · split
      · simpa using present
      · exact present
    · split
      · exact fun c member => all c (List.mem_of_mem_take member)
      · exact all

theorem fraction?_text (valid : f.Valid) {rest : Text} (closing : Closing rest) :
    fraction? (f.text ++ rest) = some (f.micro, rest) := by
  cases f with
  | missing =>
    cases rest with
    | nil => rfl
    | cons c rest =>
      obtain ⟨-, noPoint, noComma⟩ := closing c rfl
      simp [text, fraction?, noPoint, noComma, micro]
  | digits mark run =>
    obtain ⟨known, present, all⟩ := valid
    have marks : (mark.is '.' || mark.is ',') = true := by
      have each : ∀ ch ∈ ['.', ','].map CodePoint.ofChar, (ch.is '.' || ch.is ',') = true := by
        decide
      exact each mark known
    have spanned : (run ++ rest).span CodePoint.isDigit = (run, rest) :=
      Text.span_digits all fun c first => isDigit_of_not_isScriptDigit (closing c first).1
    have some : run.isEmpty = false := by simpa using present
    simp only [text, List.cons_append, fraction?, marks, if_true, spanned, some,
      Bool.false_eq_true, if_false, fractionMicros_eq, micro]

end Fraction

/-! ### Cutting fractions -/

theorem cutFraction_append {s : Text} (pointless : ∀ c ∈ s, c.is '.' = false) (t : Text) :
    cutFraction (s ++ t) = s ++ cutFraction t := by
  induction s with
  | nil => rfl
  | cons c s ih =>
    have plain := pointless c List.mem_cons_self
    rw [List.cons_append, cutFraction, plain]
    simp [ih fun d member => pointless d (List.mem_cons_of_mem c member)]

theorem cutFraction_pointless {s : Text} (pointless : ∀ c ∈ s, c.is '.' = false) :
    cutFraction s = s := by
  have whole := cutFraction_append pointless []
  rwa [cutFraction, List.append_nil] at whole

/-- Digits after a comma are left to the reader of fractions. -/
theorem Fraction.cutFraction_text {f : Fraction} (valid : f.Valid) {rest : Text}
    (closing : Closing rest) (pointless : ∀ c ∈ rest, c.is '.' = false) :
    cutFraction (f.text ++ rest) = f.cut.text ++ rest := by
  cases f with
  | missing => exact cutFraction_pointless pointless
  | digits mark run =>
    obtain ⟨-, -, all⟩ := valid
    have plain : ∀ c ∈ run ++ rest, c.is '.' = false := List.forall_mem_append.mpr
      ⟨fun c member => CodePoint.not_is_of_isDigit (all c member) (by decide), pointless⟩
    have spanned : (run ++ rest).span CodePoint.isScriptDigit = (run, rest) :=
      Text.span_append (fun c member => isScriptDigit_of_isDigit (all c member))
        fun c first => (closing c first).1
    rw [List.span_eq_takeWhile_dropWhile] at spanned
    obtain ⟨taken, dropped⟩ := Prod.mk.inj spanned
    simp only [text, cut, List.cons_append, cutFraction, taken, dropped,
      cutFraction_pointless plain]
    cases point : mark.is '.' with
    | false => rfl
    | true =>
      by_cases long : 7 ≤ run.length
      · have kept : (run ++ rest).take 6 = run.take 6 := List.take_append_of_le_length (by omega)
        simp [long, kept]
      · have whole : run.take 6 = run := List.take_of_length_le (by omega)
        simp [long, whole]

/-! ### Reading spellings -/

theorem pointless_writeDate (d : Date) : ∀ c ∈ writeDate d, c.is '.' = false := by
  have dash : ∀ c ∈ Text.ofString "-", c.is '.' = false := by decide
  have digits := pointless_ofNatPadded
  simp only [writeDate, List.forall_mem_append]
  exact ⟨⟨⟨⟨digits _ _, dash⟩, digits _ _⟩, dash⟩, digits _ _⟩

theorem pointless_writeClock (t : Timestamp) : ∀ c ∈ t.writeClock, c.is '.' = false := by
  have colon : ∀ c ∈ Text.ofString ":", c.is '.' = false := by decide
  have digits := pointless_ofNatPadded
  simp only [writeClock, List.forall_mem_append]
  exact ⟨⟨⟨⟨digits _ _, colon⟩, digits _ _⟩, colon⟩, digits _ _⟩

namespace Spelling

variable {p : Spelling}

theorem stamp_cut (p : Spelling) : p.cut.stamp = p.stamp := by
  simp only [stamp, cut, Fraction.micro_cut]

namespace Valid

theorem cut (valid : p.Valid) : p.cut.Valid :=
  { valid with fraction := valid.fraction.cut }

theorem time?_text (valid : p.Valid) :
    time? (p.stamp.writeClock ++ (p.fraction.text ++ p.zone.text)) =
      some ((p.hour, p.minute, p.second, p.fraction.micro), p.zone.text) := by
  have ⟨_, _, _, _, hours, minutes, seconds, fraction, zone⟩ := valid
  have colon : (Text.ofString ":" : Text) = [CodePoint.ofChar ':'] := rfl
  have hour := number?_ofNatPadded 2 p.hour (by decide) (by omega)
  have minute := number?_ofNatPadded 2 p.minute (by decide) (by omega)
  have second := number?_ofNatPadded 2 p.second (by decide) (by omega)
  have clock : (decide (24 ≤ p.hour) || decide (60 ≤ p.minute)) = false := by simp; omega
  have early : ¬ 60 ≤ p.second := by omega
  simp only [time?, stamp, writeClock, colon, List.append_assoc, List.cons_append, List.nil_append,
    hour, minute, second, after?_cons, Option.bind_eq_bind, Option.bind_some, clock, early,
    Bool.false_eq_true, if_false, Fraction.fraction?_text fraction (Zone.closing_text zone)]

theorem calendar?_text (valid : p.Valid) : calendar? p.text = some p.stamp := by
  have known : isSeparator p.separator = true := by
    have all : ∀ c ∈ ['T', 't', ' ', '_'].map CodePoint.ofChar, isSeparator c = true := by decide
    exact all _ valid.separator
  simp only [calendar?, text, date?_write valid.date valid.late, known, valid.time?_text,
    Zone.offset?_text valid.zone, Option.bind_eq_bind, Option.bind_some, if_true]
  rfl

theorem cutFraction_text (valid : p.Valid) : cutFraction p.text = p.cut.text := by
  have separator : p.separator.is '.' = false := by
    have all : ∀ c ∈ ['T', 't', ' ', '_'].map CodePoint.ofChar, c.is '.' = false := by decide
    exact all _ valid.separator
  have front : ∀ c ∈ writeDate p.date ++ p.separator :: p.stamp.writeClock, c.is '.' = false := by
    rw [List.forall_mem_append, List.forall_mem_cons]
    exact ⟨pointless_writeDate p.date, separator, pointless_writeClock p.stamp⟩
  have split (q : Spelling) : q.text = (writeDate q.date ++ q.separator :: q.stamp.writeClock) ++
      (q.fraction.text ++ q.zone.text) := by simp [text]
  rw [split p, cutFraction_append front, Fraction.cutFraction_text valid.fraction
    (Zone.closing_text valid.zone) (Zone.pointless_text valid.zone), split p.cut]
  rfl

theorem ofText_plain (valid : p.Valid) : ofText p.text = .ok p.stamp := by
  have positive : p.stamp.date.year ≠ 0 := Nat.ne_of_gt valid.early
  rw [ofText, valid.calendar?_text]
  exact if_neg positive

/-- What is finer than a microsecond is cut off, in the text or by the reader. -/
theorem ofText_text (valid : p.Valid) : ofText (cutFraction p.text) = .ok p.stamp := by
  rw [valid.cutFraction_text, valid.cut.ofText_plain, stamp_cut]

theorem stamp (valid : p.Valid) : p.stamp.Valid :=
  ofText_valid valid.ofText_text

end Valid

end Spelling

/-! ### The form in documents -/

def spelling (t : Timestamp) : Spelling where
  date := t.date
  separator := CodePoint.ofChar 'T'
  hour := t.hour
  minute := t.minute
  second := t.second
  fraction :=
    if t.micro = 0 then .missing else .digits (CodePoint.ofChar '.') (Text.ofNatPadded 10 6 t.micro)
  zone :=
    if t.offset = 0 then .letter (CodePoint.ofChar 'Z')
    else .offset (CodePoint.ofChar (if t.offset < 0 then '-' else '+')) true
      (t.offset.natAbs / 60) (t.offset.natAbs % 60)

theorem text_spelling (t : Timestamp) : t.spelling.text = t.write := by
  have mark : (Text.ofString "T" : Text) = [CodePoint.ofChar 'T'] := rfl
  have fraction : t.spelling.fraction.text =
      (if t.micro = 0 then [] else "." ++ Text.ofNatPadded 10 6 t.micro : Text) := by
    rw [spelling, apply_ite Fraction.text]
    rfl
  have zone : t.spelling.zone.text = (if t.offset = 0 then "Z" else t.writeOffset : Text) := by
    rw [spelling, apply_ite Zone.text]
    by_cases west : t.offset < 0
    · simp only [Zone.text, writeOffset, west, if_true, List.append_assoc]
      rfl
    · simp only [Zone.text, writeOffset, west, if_true, if_false, List.append_assoc]
      rfl
  rw [Spelling.text, fraction, zone, write, writeLocal, mark]
  simp only [List.append_assoc, List.cons_append, List.nil_append]
  rfl

variable {t : Timestamp}

theorem stamp_spelling (valid : t.Valid) : t.spelling.stamp = t := by
  obtain ⟨-, -, -, -, -, -, micros, -⟩ := valid
  have micro : t.spelling.fraction.micro = t.micro := by
    rw [spelling, apply_ite Fraction.micro]
    by_cases zero : t.micro = 0
    · rw [if_pos zero, zero]
      rfl
    · have length := Text.length_ofNatPadded 6 t.micro (by decide) micros
      rw [if_neg zero, Fraction.micro, List.take_left' length, Text.toNat_ofNatPadded]
  have ahead : t.spelling.zone.ahead = t.offset := by
    have parts : t.offset.natAbs / 60 * 60 + t.offset.natAbs % 60 = t.offset.natAbs := by omega
    rw [spelling, apply_ite Zone.ahead]
    by_cases utc : t.offset = 0
    · rw [if_pos utc, utc]
      rfl
    · rw [if_neg utc, Zone.ahead, parts]
      by_cases west : t.offset < 0
      · rw [if_pos west, if_neg (by decide)]
        omega
      · rw [if_neg west, if_pos rfl]
        omega
  rw [Spelling.stamp, micro, ahead]
  rfl

theorem spelling_valid (valid : t.Valid) : t.spelling.Valid := by
  obtain ⟨date, early, late, hour, minute, second, micros, west, east⟩ := valid
  refine ⟨date, early, late, List.mem_cons_self, hour, minute, second, ?_, ?_⟩
  · rw [spelling, apply_ite Fraction.Valid]
    split
    · trivial
    · exact ⟨List.mem_cons_self, Text.ofNatPadded_ne_nil 6 t.micro,
        fun c member => Text.isDigit_of_mem_ofNatPadded member⟩
  · rw [spelling, apply_ite Zone.Valid]
    split
    · exact List.mem_cons_self
    · refine ⟨?_, by omega, by omega⟩
      split <;> decide

/-- A timestamp is found again in its form in documents. -/
theorem ofText_write (valid : t.Valid) : ofText (cutFraction t.write) = .ok t := by
  rw [← text_spelling, (spelling_valid valid).ofText_text, stamp_spelling valid]

/-! ### The form for reading -/

def longSpelling (t : Timestamp) : Spelling :=
  { t.spelling with zone := .offset (CodePoint.ofChar '+') true 0 0 }

theorem text_longSpelling (utc : t.offset = 0) :
    t.longSpelling.text = t.writeLong := by
  have split (p : Spelling) : p.text = (writeDate p.date ++ p.separator :: (p.stamp.writeClock ++
      p.fraction.text)) ++ p.zone.text := by simp [Spelling.text]
  have lettered : t.spelling.zone.text = "Z" := by
    rw [spelling, if_pos utc]
    rfl
  have local_eq : writeDate t.date ++ t.spelling.separator :: (t.spelling.stamp.writeClock ++
      t.spelling.fraction.text) = t.writeLocal := by
    have written := text_spelling t
    rw [split, lettered, write, if_pos utc] at written
    exact List.append_cancel_right written
  have offset : t.longSpelling.zone.text = t.writeOffset := by
    rw [writeOffset, utc]
    rfl
  rw [split, offset, writeLong, ← local_eq]
  rfl

/-- A timestamp in UTC is found again in its form for reading. -/
theorem ofText_writeLong (valid : t.Valid) (utc : t.offset = 0) :
    ofText t.writeLong = .ok t := by
  have zone : Zone.Valid (.offset (CodePoint.ofChar '+') true 0 0) :=
    ⟨by decide, by decide, by decide⟩
  have known : t.longSpelling.Valid := { spelling_valid valid with zone }
  have stamp : t.longSpelling.stamp = t := by
    have same := stamp_spelling valid
    rw [← same] at utc
    calc t.longSpelling.stamp = { t.spelling.stamp with offset := 0 } := rfl
      _ = t.spelling.stamp := by rw [← utc]
      _ = t := same
  rw [← text_longSpelling utc, known.ofText_plain, stamp]

end ClusterHealth.Timestamp
