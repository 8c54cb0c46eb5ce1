import ClusterHealth.Proofs.Record.Kinds
import ClusterHealth.Proofs.Session.Decoded

/-!
# Records that calls return are well formed

However a document spells its scalars, a record that a call returns holds at every depth what its
classes declare, `Call.well_formed`.
-/

namespace ClusterHealth

namespace RecordClass

variable {cls : RecordClass} {payload : Payload} {r : Record}

theorem load_wellFormed (loaded : cls.load payload = .ok r) : r.cls = cls ∧ r.WellFormed := by
  obtain ⟨json, -, found⟩ := load_iff.mp loaded
  exact read_wellFormed found

end RecordClass

namespace Report

open Catalogue

theorem read_wellFormed {payload : Payload} {r : Record} (found : read payload = .ok r) :
    (r.cls = healthInfoV0 ∨ r.cls = healthInfoV2) ∧ r.WellFormed := by
  obtain ⟨members, header, loaded, headed⟩ := header_of_read found
  rcases read_ok loaded headed found with ⟨-, here⟩ | ⟨-, here⟩
  · exact (RecordClass.read_wellFormed here).imp_left .inl
  · exact (RecordClass.read_wellFormed here).imp_left .inr

end Report

namespace Call

open Catalogue

/-- What the calls of a session return. -/
structure WellFormed (s : Session) : Prop where
  read {cls : RecordClass} {payload : Payload} {r : Record} :
    (readRecord cls payload).outcome s = .ok r → r.cls = cls ∧ r.WellFormed
  made {cls : RecordClass} {members : Json} {r : Record} :
    (makeRecord cls members).outcome s = .ok r → r.cls = cls ∧ r.WellFormed
  report {payload : Payload} {r : Record} : (readReport payload).outcome s = .ok r →
    (r.cls = healthInfoV0 ∨ r.cls = healthInfoV2) ∧ r.WellFormed

/-- Every record that a call returns holds in each field, at every depth, a value of the declared
kind. -/
theorem well_formed (s : Session) : WellFormed s where
  read returned := RecordClass.load_wellFormed (returned_readRecord.mp returned)
  made returned := RecordClass.load_wellFormed (returned_makeRecord.mp returned)
  report returned := Report.read_wellFormed (returned_readReport.mp returned)

def oddServer : Json :=
  .object [("uptime", .text "12"), ("version", .null), ("poolNumber", .bool true),
    ("drives", .array [.object [("healing", .text "yes"), ("totalspace", .text "+7")]])]

theorem well_formed_oddServer : ∃ (s : Session) (r : Record),
    (readRecord serverProperties (.tree oddServer)).outcome s = .ok r ∧ r.WellFormed ∧
      r.get? "uptime" = some (.int 12) ∧ r.get? "version" = some (.text []) ∧
        r.get? "pool_number" = some (.int 1) := by
  let s : Session := .initial [] .zero
  obtain ⟨r, returned, fields⟩ : ∃ r, (readRecord serverProperties (.tree oddServer)).outcome s =
      .ok r ∧ r.get? "uptime" = some (.int 12) ∧ r.get? "version" = some (.text []) ∧
        r.get? "pool_number" = some (.int 1) := ⟨_, rfl, rfl, rfl, rfl⟩
  obtain ⟨-, wellFormed⟩ := (well_formed s).read returned
  exact ⟨s, r, returned, wellFormed, fields⟩

end Call

end ClusterHealth
