import ClusterHealth.Proofs.Report.RoundTrip
import ClusterHealth.Proofs.Text.Forms

/-!
# The forms of the document of an object

The text of an object opens with two characters of ASCII, `Json.opens_of_read`. So its bytes show
their encoding form, and every form of the document holds the same object,
`Report.loadObject_of_carries`.
-/

namespace ClusterHealth

open Encoding (IsPlain)

namespace Json

variable {rules : Rules} {c d : CodePoint} {t rest : Text} {members : List (Text × Json)}

theorem plain_of_blank (blank : c.isJsonBlank = true) : IsPlain c := by
  have value := isJsonBlank_iff.mp blank
  rw [IsPlain]
  omega

/-- White space is ASCII, so a text is opened by a character of ASCII if what follows it is. -/
theorem opens_of_skipBlank (skipped : skipBlank t = d :: rest) (plain : IsPlain d) :
    ∃ c more, t = c :: more ∧ IsPlain c := by
  cases t with
  | nil => cases skipped
  | cons c more =>
    refine ⟨c, more, rfl, ?_⟩
    cases blank : c.isJsonBlank with
    | true => exact plain_of_blank blank
    | false =>
      have here : skipBlank (c :: more) = c :: more :=
        List.dropWhile_cons_of_neg (by simp [blank])
      rw [here] at skipped
      obtain ⟨rfl, -⟩ := List.cons.inj skipped
      exact plain

/-- An object opens with a brace, and what follows it is its first name or its end. -/
theorem ValueAt.opens {depth : Nat} (here : ValueAt rules depth t (.object members) rest) :
    ∃ c d more after, t = c :: more ∧ skipBlank more = d :: after ∧ IsPlain c ∧ IsPlain d := by
  have plain {mark : Char} (ascii : 0 < mark.toNat ∧ mark.toNat < 0x80) :
      IsPlain (CodePoint.ofChar mark) := ascii
  generalize whole : Json.object members = json at here
  cases here with
  | text | emptyArray | array => cases whole
  | emptyObject closing => exact ⟨_, _, _, _, rfl, closing, plain (by decide), plain (by decide)⟩
  | object inside =>
    obtain ⟨_, name⟩ := inside.starts
    exact ⟨_, _, _, _, rfl, name, plain (by decide), plain (by decide)⟩
  | scalar found =>
    obtain rfl := whole
    cases (readScalar_ok found).bare

/-- The text of an object opens with two characters of ASCII. -/
theorem opens_of_read (found : read rules t = .ok (.object members)) :
    ∃ c d more, t = c :: d :: more ∧ IsPlain c ∧ IsPlain d := by
  obtain ⟨rest, here, -⟩ := read_iff.mp found
  obtain ⟨brace, d, after, _, start, skipped, first, second⟩ := here.opens
  cases t with
  | nil => cases start
  | cons c more =>
    cases blank : c.isJsonBlank with
    | true =>
      have next : skipBlank more = brace :: after := by
        rw [← start]
        exact (List.dropWhile_cons_of_pos blank).symm
      obtain ⟨d, more, rfl, second⟩ := opens_of_skipBlank next first
      exact ⟨c, d, more, rfl, plain_of_blank blank, second⟩
    | false =>
      have here : skipBlank (c :: more) = c :: more :=
        List.dropWhile_cons_of_neg (by simp [blank])
      rw [here] at start
      obtain ⟨rfl, rfl⟩ := List.cons.inj start
      obtain ⟨d, more, rfl, second⟩ := opens_of_skipBlank skipped second
      exact ⟨c, d, more, rfl, first, second⟩

end Json

/-- The forms in which the document of an object comes: its text, the bytes of the text in an
encoding form, with a byte order mark or without, and the object itself. -/
inductive Payload.Carries (t : Text) (members : List (Text × Json)) : Payload → Prop
  | text : Carries t members (.text t)
  | bytes (encoding : Encoding) (marked : Bool) :
    Carries t members (.bytes (encoding.bytes marked t))
  | tree : Carries t members (.tree (.object members))

namespace Report

variable {t : Text} {members : List (Text × Json)}

theorem readUnmarked_of_loadObject {json : Json} (loaded : loadObject (.text t) = .ok json) :
    ∃ members, json = .object members ∧ Json.readUnmarked .lenient t = .ok (.object members) := by
  rw [loadObject] at loaded
  cases read : readJson t with
  | error fault =>
    rw [read] at loaded
    cases loaded
  | ok inner =>
    rw [read] at loaded
    cases inner with
    | object members =>
      obtain rfl := Except.ok.inj loaded
      exact ⟨members, rfl, ofReader_ok read⟩
    | null | bool | int | float | text | array => cases loaded

/-- Every form of the document holds the object that the text holds. -/
theorem loadObject_of_carries {payload : Payload} (carries : payload.Carries t members)
    (plain : t.hasSurrogate = false)
    (read : Json.readUnmarked .lenient t = .ok (.object members)) :
    loadObject payload = .ok (.object members) := by
  cases carries with
  | text =>
    rw [loadObject, readJson, read]
    rfl
  | bytes encoding marked =>
    have read := Json.readUnmarked_iff.mp read
    obtain ⟨c, d, more, rfl, first, second⟩ := Json.opens_of_read read
    rw [loadObject, readJsonBytes, Encoding.decode_bytes first second encoding marked plain]
    dsimp only
    rw [read]
    rfl
  | tree => rfl

end Report

end ClusterHealth
