import ClusterHealth.Proofs.Session.Accepted

/-!
# Loading settings

What a call for the settings gives, and why it fails. A document for reading is laid out only
once the settings have loaded, also where it takes nothing from them. With both parts of the layout
given it comes out the same in two sessions exactly if the same keeps the settings from loading
there, `Call.explicit_layout_iff`.
-/

namespace ClusterHealth

/-- The usual env file can be looked for in any tree, whether or not it is there. -/
theorem FileTree.find?_usualFile (tree : FileTree) :
    ∃ node, tree.find? Search.usualFile = .ok node := by
  have spelled : checkSpelling Search.usualFile.toText = .ok () := by decide
  have short : ¬ nameBound < systemLength (Text.ofString ".env") := by decide
  have named : Text.ofString ".env" ≠ Text.ofString ".." := by decide
  have names : Search.usualFile.names = [Text.ofString ".env"] := rfl
  simp only [find?, resolve, spelled, names, resolveFrom, if_neg named, if_neg short]
  split
  · exact ⟨_, rfl⟩
  · rename_i failed
    split at failed <;> cases failed
  · exact ⟨_, rfl⟩

namespace Call

variable {s t : Session} {fault : Session.Fault}

theorem outcome_getSettings (s : Session) : getSettings.outcome s =
    match s.kept with
    | some kept => .ok kept
    | none => (loadSettings none).outcome s := by
  rw [getSettings, outcome_get]
  cases s.kept with
  | some kept => rfl
  | none =>
    dsimp only
    rw [outcome_bind]
    cases (loadSettings none).outcome s <;> rfl

/-! ### Why settings do not load -/

theorem refused_bind {α β : Type} {call : Call α} {next : α → Call β} :
    (call >>= next).outcome s = .error fault ↔ call.outcome s = .error fault ∨
      ∃ a, call.outcome s = .ok a ∧ (next a).outcome (call.after s) = .error fault := by
  rw [outcome_bind]
  cases call.outcome s <;> simp

theorem fault_of_findFile {l : Location} (failed : (findFile l).outcome s = .error fault) :
    ∃ cause, s.files.find? l = .error cause := by
  rw [findFile, outcome_get] at failed
  cases found : s.files.find? l with
  | ok node =>
    rw [found] at failed
    cases failed
  | error cause => exact ⟨cause, rfl⟩

theorem fault_of_readEnvFile {l : Location} (failed : (readEnvFile l).outcome s = .error fault) :
    (∃ cause, s.files.find? l = .error cause) ∨ ∃ cause, fault = .unreadableFile cause := by
  rcases refused_bind.mp failed with unfound | ⟨node, -, unread⟩
  · exact .inl (fault_of_findFile unfound)
  · right
    split at unread
    · rename_i bytes
      rw [outcome_get] at unread
      split at unread
      · cases unread
      · rename_i cause _
        cases unread
        exact ⟨cause, rfl⟩
    · cases unread

/-- Without a file of their own settings do not load because they are refused, or because the usual
env file is no text. -/
theorem fault_of_loadSettings (failed : (loadSettings none).outcome s = .error fault) :
    (∃ rejection, fault = .settings rejection) ∨ ∃ cause, fault = .unreadableFile cause := by
  rcases refused_bind.mp failed with unread | ⟨file, -, refused⟩
  · right
    rcases refused_bind.mp unread with first | ⟨values, -, rest⟩
    · obtain ⟨node, there⟩ := s.files.find?_usualFile
      rcases fault_of_readEnvFile first with ⟨cause, missed⟩ | unreadable
      · cases there.symm.trans missed
      · exact unreadable
    · cases rest
  · left
    rw [outcome_get] at refused
    split at refused
    · cases refused
    · rename_i rejection _
      cases refused
      exact ⟨rejection, rfl⟩

/-- What keeps the settings of a session from loading. Settings that are kept need not load. -/
def unsettled? (s : Session) : Option Session.Fault :=
  match s.kept, (loadSettings none).outcome s with
  | none, .error fault => some fault
  | _, _ => none

theorem outcome_laidOut (linePrefix : Text) (indent : Int) (r : Record) (s : Session) :
    (writeSpacious (some linePrefix) (some indent) r).outcome s =
      match unsettled? s with
      | some fault => .error fault
      | none => (r.writeSpacious linePrefix indent).mapError .writing := by
  have got := outcome_getSettings s
  rw [unsettled?]
  cases kept : s.kept with
  | some issued =>
    rw [kept] at got
    exact outcome_writeSpacious got _ _ r
  | none =>
    rw [kept] at got
    cases loads : (loadSettings none).outcome s with
    | ok issued => exact outcome_writeSpacious (got.trans loads) _ _ r
    | error fault =>
      rw [writeSpacious, outcome_bind, got, loads]

theorem fault_of_unsettled (unsettled : unsettled? s = some fault) :
    (∃ rejection, fault = .settings rejection) ∨ ∃ cause, fault = .unreadableFile cause := by
  rw [unsettled?] at unsettled
  split at unsettled
  · rename_i failed
    cases unsettled
    exact fault_of_loadSettings failed
  · cases unsettled

/-- With its layout given in full, a record is laid out alike in two sessions exactly if the same
keeps the settings from loading in both. Where the settings load, or are kept, they play no part.
Where they do not, there is no document, whatever the layout. -/
theorem explicit_layout_iff (linePrefix : Text) (indent : Int) (r : Record) (s t : Session) :
    ((writeSpacious (some linePrefix) (some indent) r).outcome s =
        (writeSpacious (some linePrefix) (some indent) r).outcome t ↔
      unsettled? s = unsettled? t) ∧
    match unsettled? s with
    | none => (writeSpacious (some linePrefix) (some indent) r).outcome s =
        (r.writeSpacious linePrefix indent).mapError .writing
    | some fault => (writeSpacious (some linePrefix) (some indent) r).outcome s = .error fault ∧
        ((∃ rejection, fault = .settings rejection) ∨ ∃ cause, fault = .unreadableFile cause) := by
  -- What keeps the settings from loading is never a fault of the writer.
  have apart {s : Session} {fault : Session.Fault} (unsettled : unsettled? s = some fault) :
      (r.writeSpacious linePrefix indent).mapError .writing ≠ .error fault := by
    intro same
    obtain ⟨cause, -, rfl⟩ := mapError_eq_error.mp same
    rcases fault_of_unsettled unsettled with ⟨rejection, same⟩ | ⟨cause, same⟩ <;> cases same
  rw [outcome_laidOut, outcome_laidOut]
  constructor
  · cases here : unsettled? s with
    | none =>
      cases there : unsettled? t with
      | none => exact iff_of_true rfl rfl
      | some fault => exact iff_of_false (apart there) nofun
    | some fault =>
      cases there : unsettled? t with
      | none => exact iff_of_false (fun same => apart here same.symm) nofun
      | some other => exact (Except.error.injEq fault other ▸ Option.some_inj.symm)
  · cases here : unsettled? s with
    | none => rfl
    | some fault => exact ⟨rfl, fault_of_unsettled here⟩

/-- A negative indent in the environment keeps a record from being laid out, though its layout is
given. -/
theorem not_explicit_layout_negative :
    let s := Session.initial [] .zero
    let t := Session.initial [("HEALTHINFO_JSON_INDENT", "-1")] .zero
    (Record.zero Catalogue.nodeCommon).Decoded ∧
      (writeSpacious (some []) (some 1) (.zero Catalogue.nodeCommon)).outcome s =
        .ok "\x7b\n \"addr\": \"\"\n\x7d" ∧
      (writeSpacious (some []) (some 1) (.zero Catalogue.nodeCommon)).outcome t =
        .error (.settings ⟨"Settings", [⟨.negative, [.key "json_indent"]⟩]⟩) := by
  refine ⟨?_, ?_, ?_⟩
  · have catalogued : Catalogue.find? "NodeCommon" = some Catalogue.nodeCommon := rfl
    have parsed : (Json.object []).all Json.parsed = true := rfl
    exact .made (s := .initial [] .zero) catalogued parsed (returned_makeRecord.mpr rfl)
  · rfl
  · rfl

end Call

end ClusterHealth
