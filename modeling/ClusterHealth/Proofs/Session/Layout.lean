import ClusterHealth.Proofs.Json.Lines
import ClusterHealth.Proofs.Session.Accepted

/-!
# Layouts of a document

The document for reading says what the compact document says, whatever the prefix and the indent:
without the prefixes both are read as the object that stands for the record, and under a prefix of
white space the class takes either for a record with the same compact document,
`Record.Decoded.shares_content`. Only an indent that is no size is refused.
-/

namespace ClusterHealth.Record

open Shape

variable {r : Record}

theorem Sound.load_spread (sound : r.Sound) {style : Json.Style} (suits : style.Suits .strict)
    (plain : style.Plain) (texts : r.toJson.all Json.plainText = true)
    (shallow : r.toJson.nesting ≤ Json.Rules.strict.depth) :
    r.cls.load (.text (r.toJson.spread style 0)) = .ok r.restored := by
  have clean := sound.typed.toJson_clean
  have whole : (r.toJson.spread style 0).hasSurrogate = false :=
    Json.spread_plain plain 0 _ sound.toJson_finite texts (Json.plainKeys_of_clean clean)
  have read : Json.read .strict (r.toJson.spread style 0) = .ok r.toJson :=
    Json.read_spread suits (Json.parsed_of_clean clean) sound.toJson_finite shallow
  exact RecordClass.load_iff.mpr
    ⟨_, ⟨whole, read⟩, sound.read_toJson (Nat.le_trans shallow (by decide)) .text⟩

/-- A document for reading, with a prefix on each line after the first, says what the compact
document of the record says. -/
structure SharesContent (r : Record) (compact linePrefix spacious : Text) : Prop where
  /-- What is deleted behind the line feeds is the prefix. -/
  prefixed : Json.prefixLines linePrefix (Json.dropPrefixes linePrefix spacious) = spacious
  /-- Without the prefixes the document is read as the value that the compact one is read as. -/
  value : ∃ json, Json.readUnmarked .lenient compact = .ok json ∧
    Json.readUnmarked .lenient (Json.dropPrefixes linePrefix spacious) = .ok json
  lines : Json.Unbroken linePrefix →
    ∀ line ∈ (Json.lines spacious).tail, linePrefix.startsWith line = true
  /-- Under white space the class takes it for a record with the compact document. -/
  back : Json.Blank linePrefix → r.toJson.nesting ≤ Json.Rules.strict.depth → ∀ s : Session,
    ∃ back, (Call.readRecord r.cls (.text spacious)).outcome s = .ok back ∧
      ∀ later : Session, (Call.writeRecord back).outcome later = .ok compact

theorem Sound.sharesContent (sound : r.Sound) {compact : Text} (written : r.write = .ok compact)
    (linePrefix : Text) (indent : Int) : r.SharesContent compact linePrefix
      (Json.prefixLines linePrefix (r.toJson.spacious indent 0)) := by
  obtain ⟨⟨shallow, texts⟩, rfl⟩ := write_eq_ok.mp written
  have readable := Json.parsed_of_clean sound.typed.toJson_clean
  have finite := sound.toJson_finite
  have within : r.toJson.nesting ≤ Json.Rules.lenient.depth :=
    Nat.le_trans (Nat.le_of_lt shallow) (by decide)
  have plain : r.toJson.spacious indent 0 = r.toJson.spread (.spacious [] indent) 0 := by
    rw [← Json.spacious_eq, Json.prefixLines_nil]
  refine ⟨?_, ⟨r.toJson, ?_, ?_⟩, ?_, ?_⟩
  · rw [Json.dropPrefixes_prefixLines]
  · rw [Json.readUnmarked_compact rfl]
    exact Json.read_compact (by decide) readable finite within
  · rw [Json.dropPrefixes_prefixLines, plain, Json.readUnmarked_spread rfl]
    exact Json.read_spread (Json.suits_spacious Json.blank_nil (by decide)) readable finite within
  · intro unbroken
    exact Json.startsWith_of_mem_lines unbroken _
  -- Prefixes of white space belong to the gaps between tokens, which the strict reader skips.
  · intro blank taken s
    refine ⟨r.restored, ?_, ?_⟩
    · apply Call.returned_readRecord.mpr
      rw [Json.spacious_eq]
      exact sound.load_spread (Json.suits_spacious blank (by decide)) (Json.plain_spacious blank)
        texts taken
    · intro later
      exact Call.returned_writeRecord.mpr (sound.write_restored written)

/-- A record that a call returned and that has a compact document, all doubles with a numeral and no
surrogate in a key has a document for reading, under any prefix and with any indent that is a size,
and it says the same. Any other indent is refused. -/
theorem Decoded.shares_content (decoded : r.Decoded) (finite : r.all Value.finite = true)
    (keys : r.all Value.plainKeys = true) {compact : Text} (written : r.write = .ok compact)
    {s : Session} {kept : IssuedSettings} (loads : Call.getSettings.outcome s = .ok kept)
    (linePrefix : Option Text) (indent : Option Int) :
    if -sizeBound ≤ indent.getD kept.settings.jsonIndent ∧
        indent.getD kept.settings.jsonIndent < sizeBound then
      ∃ spacious, (Call.writeSpacious linePrefix indent r).outcome s = .ok spacious ∧
        r.SharesContent compact (linePrefix.getD kept.settings.jsonPrefix) spacious
    else (Call.writeSpacious linePrefix indent r).outcome s = .error (.writing .indentNoSize) := by
  have sound : r.Sound := ⟨decoded.typed.lawful, decoded.typed.holds, finite, keys⟩
  rw [Call.outcome_writeSpacious loads, Record.writeSpacious, sound.writeTree written, checkIndent]
  split_ifs with size
  · exact ⟨_, rfl, sound.sharesContent written _ _⟩
  · rfl

def brokenLines : Record :=
  .ofConfig (.object [("a\nb", .array [.text "\"\n\"", .text [0x2028], .int 1])])

/-- Line feeds in the texts of a record do not break its lines. -/
theorem Decoded.shares_content_brokenLines :
    brokenLines.write = .ok brokenLines.toJson.compact ∧ ∃ (s : Session) (spacious : Text),
      (Call.writeSpacious (some "\t") (some 2) brokenLines).outcome s = .ok spacious ∧
        brokenLines.SharesContent brokenLines.toJson.compact "\t" spacious := by
  have decoded : brokenLines.Decoded := .ofConfig (by decide) (by decide) (by decide) rfl
  have document : brokenLines.toJson.nesting < Value.documentRoom ∧
      brokenLines.toJson.all Json.plainText = true := by
    decide +kernel
  have written := write_eq_ok.mpr ⟨document, rfl⟩
  let s : Session := { Session.initial [] .zero with kept := some ⟨0, .default⟩ }
  have loads : Call.getSettings.outcome s = .ok ⟨0, .default⟩ := rfl
  have layout := shares_content decoded (by decide +kernel) (by decide +kernel) written loads
    (some "\t") (some 2)
  rw [if_pos (by decide)] at layout
  obtain ⟨spacious, returned, shares⟩ := layout
  exact ⟨written, s, spacious, returned, shares⟩

/-- With an indent that is no size there is no document, though the record has a compact one. -/
theorem Decoded.no_document_oversized :
    (zero Catalogue.baseModel).Decoded ∧ (zero Catalogue.baseModel).all Value.finite = true ∧
      (zero Catalogue.baseModel).all Value.plainKeys = true ∧
        (zero Catalogue.baseModel).write = .ok "\x7b\x7d" ∧
          ∃ (s : Session) (kept : IssuedSettings), Call.getSettings.outcome s = .ok kept ∧
            ∀ spacious, (Call.writeSpacious (some []) (some (10 ^ 25))
              (zero Catalogue.baseModel)).outcome s ≠ .ok spacious := by
  have catalogued : Catalogue.find? "HealthModel" = some Catalogue.baseModel := rfl
  have loaded : Catalogue.baseModel.load (.tree (.object [])) = .ok (zero Catalogue.baseModel) :=
    rfl
  have decoded : (zero Catalogue.baseModel).Decoded :=
    .made (s := .initial [] .zero) catalogued (by decide) (Call.returned_makeRecord.mpr loaded)
  let s : Session := { Session.initial [] .zero with kept := some ⟨0, .default⟩ }
  have loads : Call.getSettings.outcome s = .ok ⟨0, .default⟩ := rfl
  refine ⟨decoded, rfl, rfl, rfl, s, _, loads, ?_⟩
  intro spacious returned
  rw [Call.outcome_writeSpacious loads, Call.mapError_eq_ok,
    decoded.typed.writeSpacious (t := "\x7b\x7d") rfl] at returned
  cases returned

end ClusterHealth.Record
