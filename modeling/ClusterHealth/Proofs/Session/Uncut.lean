import ClusterHealth.Proofs.Calendar.Cutting
import ClusterHealth.Proofs.Session.Times

/-!
# Times of reports that are none without being cut

The text of a report's time is cut before it is read. A report is taken with a text that is no time
of its own exactly if digits of another script than ASCII were cut off it, or if it is a numeral
that only lies in the calendar once it is cut, `Report.TimedBy.uncut_iff`.
-/

namespace ClusterHealth

open Shape Catalogue

namespace Report

/-- A call has returned the report, and its time came in as the text. -/
inductive TimedBy (t : Text) (r : Record) : Prop
  | loaded {s : Session} {cls : RecordClass} {payload : Payload} {members : List (Text × Json)}
      (layout : IsLayout cls) (stands : payload.StandsFor (.object members))
      (there : Entries.get? "timestamp" members = some (.text t))
      (returned : (Call.readRecord cls payload).outcome s = .ok r) : TimedBy t r
  | made {s : Session} {cls : RecordClass} {members : List (Text × Json)}
      (layout : IsLayout cls) (there : Entries.get? "timestamp" members = some (.text t))
      (returned : (Call.makeRecord cls (.object members)).outcome s = .ok r) : TimedBy t r
  | reported {s : Session} {payload : Payload} {members : List (Text × Json)}
      (loaded : loadObject payload = .ok (.object members))
      (there : Entries.get? "timestamp" members = some (.text t))
      (returned : (Call.readReport payload).outcome s = .ok r) : TimedBy t r

variable {t : Text} {stamp : Timestamp} {r : Record}

theorem time_text_iff :
    Scalar.time (.text t) = .ok stamp ↔ Timestamp.ofText (Timestamp.cutFraction t) = .ok stamp := by
  rw [Scalar.time]
  rcases Timestamp.ofText (Timestamp.cutFraction t) with ⟨_ | _⟩ | own <;> simp [Checked.refuse]

theorem isLayout_of_read {payload : Payload} (found : read payload = .ok r) : IsLayout r.cls := by
  obtain ⟨members, header, loaded, headed⟩ := header_of_read found
  rcases read_ok loaded headed found with ⟨-, here⟩ | ⟨-, here⟩
  · exact .inl (RecordClass.read_ok here).1
  · exact .inr (RecordClass.read_ok here).1

/-- Whatever call returned it, the class of the report has read the text. -/
theorem TimedBy.source (timed : TimedBy t r) : IsLayout r.cls ∧ ∃ intake members,
    Entries.get? "timestamp" members = some (.text t) ∧
      r.cls.read intake (.object members) = .ok r := by
  cases timed with
  | @loaded s cls payload members layout stands there returned =>
    rw [Call.outcome_readPayload stands, Call.mapError_eq_ok] at returned
    obtain ⟨rfl, -⟩ := RecordClass.read_ok returned
    exact ⟨layout, _, members, there, returned⟩
  | @made s cls members layout there returned =>
    have read := RecordClass.load_tree.mp (Call.returned_makeRecord.mp returned)
    obtain ⟨rfl, -⟩ := RecordClass.read_ok read
    exact ⟨layout, _, members, there, read⟩
  | @reported s payload members loaded there returned =>
    have found := Call.returned_readReport.mp returned
    exact ⟨isLayout_of_read found, _, members, there, read_of_report found loaded⟩

theorem TimedBy.value (timed : TimedBy t r) : ∃ stamp,
    Timestamp.ofText (Timestamp.cutFraction t) = .ok stamp ∧ r.value "timestamp" = .time stamp := by
  obtain ⟨layout, intake, members, there, found⟩ := timed.source
  obtain ⟨place, index, entry⟩ := layout.timed
  have given := gives_iff.mp (RecordClass.read_gives found index entry)
  obtain ⟨stamp, told, value⟩ := (readField_time_iff there).mp given
  exact ⟨stamp, time_text_iff.mp told, value.symm⟩

/-- The text that a report was taken with is a time by itself exactly if only digits of ASCII are
cut off it and, where it is a numeral, all its digits together spell a time of the calendar. A date
with a time that is one by itself is the time of the report. -/
theorem TimedBy.uncut_iff (timed : TimedBy t r) :
    ((∃ own, Timestamp.ofText t = .ok own) ↔ Timestamp.CutsAscii t ∧ Timestamp.CountsWhole t) ∧
      ∀ stamp, Timestamp.calendar? (Timestamp.cutFraction t) = some stamp →
        r.value "timestamp" = .time stamp ∧
          (Timestamp.CutsAscii t → Timestamp.ofText t = .ok stamp) := by
  obtain ⟨stamp, taken, value⟩ := timed.value
  refine ⟨Timestamp.ofText_uncut_iff taken, fun spelled dated => ?_⟩
  obtain rfl : spelled = stamp := by
    have read := taken
    rw [Timestamp.ofText, dated] at read
    dsimp only at read
    split at read
    · cases read
    · exact Except.ok.inj read
  exact ⟨value, Timestamp.ofText_uncut taken dated⟩

/-- A report that says nothing but a time is taken with every text that is a time once it is cut. -/
theorem timedBy_of_cut (taken : Timestamp.ofText (Timestamp.cutFraction t) = .ok stamp)
    {cls : RecordClass} (layout : IsLayout cls) :
    ∃ r s, (Call.readRecord cls (.tree (.object [("timestamp", .text t)]))).outcome s = .ok r ∧
      TimedBy t r := by
  have stands : (Payload.tree (.object [("timestamp", .text t)])).StandsFor
      (.object [("timestamp", .text t)]) := rfl
  obtain ⟨r, -, returned, -⟩ :=
    (Call.takesTime layout (time_text_iff.mpr taken) (.initial [] .zero)).alone stands
  exact ⟨r, _, returned, .loaded layout stands rfl returned⟩

/-- A fraction of nine digits, all of ASCII, is cut off a time that is one by itself. -/
theorem TimedBy.uncut_iff_nanoseconds :
    let t : Text := "2022-04-15T05:20:00.123456789Z"
    ∃ r, TimedBy t r ∧ Timestamp.ofText t = .ok ⟨⟨2022, 4, 15⟩, 5, 20, 0, 123456, 0⟩ := by
  let t : Text := "2022-04-15T05:20:00.123456789Z"
  have spelled : Timestamp.calendar? (Timestamp.cutFraction t) =
      some ⟨⟨2022, 4, 15⟩, 5, 20, 0, 123456, 0⟩ := by decide +kernel
  have ascii : Timestamp.CutsAscii t := by
    have off : Timestamp.cutOff t = Text.ofString "789" := by decide +kernel
    rw [Timestamp.CutsAscii, off]
    decide
  have taken : Timestamp.ofText (Timestamp.cutFraction t) =
      .ok ⟨⟨2022, 4, 15⟩, 5, 20, 0, 123456, 0⟩ := by
    rw [Timestamp.ofText, spelled]
    rfl
  obtain ⟨r, s, -, timed⟩ := timedBy_of_cut taken (.inr rfl)
  exact ⟨r, timed, (timed.uncut_iff.2 _ spelled).2 ascii⟩

/-- A time with a seventh digit of another script is taken, though it is none by itself. So is a
count of milliseconds past the calendar, whose exponent is left when most of its digits are cut
off. -/
theorem not_uncut_foreign :
    (∃ r, TimedBy "2022-04-15T05:20:00.123456\u0663Z" r) ∧
      Timestamp.ofText "2022-04-15T05:20:00.123456\u0663Z" = .error .unreadable ∧
      (∃ r, TimedBy "2.534023008e14" r) ∧
      Timestamp.ofText "2.534023008e14" = .error .unreadable := by
  have foreign : Timestamp.ofText (Timestamp.cutFraction "2022-04-15T05:20:00.123456\u0663Z") =
      .ok ⟨⟨2022, 4, 15⟩, 5, 20, 0, 123456, 0⟩ := by decide +kernel
  have late : Timestamp.ofText (Timestamp.cutFraction "2.534023008e14") =
      .ok ⟨⟨9999, 12, 31⟩, 23, 46, 40, 0, 0⟩ := by decide +kernel
  obtain ⟨r, -, -, first⟩ := timedBy_of_cut foreign (.inl rfl)
  obtain ⟨r', -, -, second⟩ := timedBy_of_cut late (.inr rfl)
  exact ⟨⟨r, first⟩, by decide +kernel, ⟨r', second⟩, by decide +kernel⟩

end Report

end ClusterHealth
