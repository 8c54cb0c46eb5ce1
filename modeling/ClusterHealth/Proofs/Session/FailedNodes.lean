import ClusterHealth.Proofs.Report.Surveys
import ClusterHealth.Proofs.Session.Accepted

/-!
# The nodes that failed

A survey, of its own or in a report, names the nodes with a record that has an error: each once, by
its first such record. Its document names the same nodes, and so does what is read back from the
document, whatever errors the survey and the report have themselves, `Record.Decoded.names_failed`.
-/

namespace ClusterHealth

open Shape

namespace RecordClass

/-- The names of the fields that list records, in the order of the class. -/
def nodeLists (cls : RecordClass) : List Text :=
  cls.fields.filterMap fun e =>
    match e.2 with
    | .list (.record _) => some e.1.name
    | _ => none

example : Catalogue.sysHealthInfo.nodeLists =
    ["cpu_info", "disk_hw_info", "os_info", "mem_info", "proc_info"] :=
  rfl

example : Catalogue.sysInfo.nodeLists = ["cpu_info", "partitions", "os_info", "mem_info",
    "proc_info", "sys_errs", "sys_services", "sys_config"] :=
  rfl

theorem surveys_nil : Surveys [] :=
  List.forall_mem_nil _

theorem surveys_list {field : Field} {node : RecordClass} {rest : List (Field × Shape)}
    (ofNode : node.OfNode) (surveys : Surveys rest) :
    Surveys ((field, .list (.record node)) :: rest) :=
  List.forall_mem_cons.mpr ⟨.inl ⟨node, rfl, ofNode⟩, surveys⟩

theorem surveys_text {field : Field} {initial : Text} {rest : List (Field × Shape)}
    (surveys : Surveys rest) : Surveys ((field, .text initial) :: rest) :=
  List.forall_mem_cons.mpr ⟨.inr ⟨initial, rfl⟩, surveys⟩

end RecordClass

namespace Catalogue

open RecordClass

theorem isSurvey_first : sysHealthInfo.IsSurvey where
  has := rfl
  surveys := surveys_list ⟨_, rfl⟩ <| surveys_list ⟨_, rfl⟩ <| surveys_list ⟨_, rfl⟩ <|
    surveys_list ⟨_, rfl⟩ <| surveys_list ⟨_, rfl⟩ <| surveys_text surveys_nil
  apart := by decide
  error := .inl ⟨5, rfl, rfl⟩

theorem isSurvey_second : sysInfo.IsSurvey where
  has := rfl
  surveys := surveys_list ⟨_, rfl⟩ <| surveys_list ⟨_, rfl⟩ <| surveys_list ⟨_, rfl⟩ <|
    surveys_list ⟨_, rfl⟩ <| surveys_list ⟨_, rfl⟩ <| surveys_list ⟨_, rfl⟩ <|
    surveys_list ⟨_, rfl⟩ <| surveys_list ⟨_, rfl⟩ surveys_nil
  apart := by decide
  error := .inr rfl

theorem isReport_first : healthInfoV0.IsReport sysHealthInfo :=
  ⟨rfl, rfl, 2, rfl, rfl⟩

theorem isReport_second : healthInfoV2.IsReport sysInfo :=
  ⟨rfl, rfl, 3, rfl, rfl⟩

def having (aspect : Aspect) : List RecordClass :=
  (all.map Prod.snd).filter (RecordClass.has aspect)

theorem having_survey : having .survey = [sysHealthInfo, sysInfo] :=
  rfl

theorem having_report : having .report = [healthInfoV0, healthInfoV2] :=
  rfl

theorem mem_having {name : Text} {cls : RecordClass} {aspect : Aspect}
    (catalogued : find? name = some cls) (has : cls.has aspect = true) : cls ∈ having aspect :=
  List.mem_filter.mpr ⟨List.mem_map_of_mem (Entries.mem_of_get? catalogued), has⟩

end Catalogue

namespace Record

/-- The record is that of a survey. -/
def IsSurvey (r : Record) : Prop :=
  r.cls = Catalogue.sysHealthInfo ∨ r.cls = Catalogue.sysInfo

def nodesIn (name : Text) (r : Record) : List Record :=
  (r.value name).records

/-- The records in the lists of a survey, list by list. -/
def nodes (r : Record) : List Record :=
  r.cls.nodeLists.flatMap fun name => r.nodesIn name

/-- The record of a node with the address has an error. -/
def Fails (a : Text) (node : Record) : Prop :=
  node.text "error" ≠ [] ∧ node.text "addr" = a

instance (a : Text) (node : Record) : Decidable (node.Fails a) :=
  inferInstanceAs (Decidable (_ ∧ _))

theorem isSurvey_cls {r : Record} (isSurvey : r.IsSurvey) : r.cls.IsSurvey := by
  rcases isSurvey with first | second
  · exact first ▸ Catalogue.isSurvey_first
  · exact second ▸ Catalogue.isSurvey_second

theorem survey?_self {r : Record} (isSurvey : r.cls.IsSurvey) : r.survey? = some r :=
  if_pos isSurvey.has

theorem survey?_report {r survey : Record} {cls : RecordClass} (report : r.cls.IsReport cls)
    (value : r.value "sys" = .record survey) : r.survey? = some survey := by
  rw [survey?, report.other, report.has, if_neg Bool.false_ne_true, if_pos rfl, value]

namespace Typed

variable {r survey : Record} (typed : r.Typed)

include typed

theorem values_eq (apart : Field.Apart r.cls.fields) :
    r.values = r.cls.fields.map fun e => r.value e.1.name := by
  refine List.ext_getElem (by rw [List.length_map, typed.holds.length]) ?_
  intro place bound bound'
  rw [List.length_map] at bound'
  rw [List.getElem_map, value, get?, apart.index? (List.getElem?_eq_getElem bound'),
    Option.bind_some, List.getElem?_eq_getElem bound]
  rfl

theorem listed_eq_nodes (isSurvey : r.cls.IsSurvey) : r.listed = r.nodes := by
  -- A field that lists no records holds a text.
  have none (e : Field × Shape) (own : e ∈ r.cls.fields) {initial : Text}
      (text : e.2 = .text initial) : r.nodesIn e.1.name = [] := by
    obtain ⟨field, shape⟩ := e
    obtain rfl : shape = .text initial := text
    obtain ⟨place, there⟩ := List.mem_iff_getElem?.mp own
    rw [nodesIn, typed.value_text (isSurvey.apart.index? there) there]
    rfl
  have surveys := isSurvey.surveys
  rw [listed_eq, typed.values_eq isSurvey.apart, List.flatMap_map, nodes, RecordClass.nodeLists]
  change r.cls.fields.flatMap (fun e => r.nodesIn e.1.name) = _
  generalize r.cls.fields = fields at none surveys
  induction fields with
  | nil => rfl
  | cons e fields ih =>
    obtain ⟨kind, kinds⟩ := List.forall_mem_cons.mp surveys
    obtain ⟨here, later⟩ := List.forall_mem_cons.mp none
    rw [List.flatMap_cons, ih later kinds]
    rcases kind with ⟨node, same, -⟩ | ⟨initial, same⟩
    · rw [List.filterMap_cons_some (b := e.1.name) (by rw [same]), List.flatMap_cons]
    · rw [List.filterMap_cons_none (by rw [same]), here same, List.nil_append]

theorem failed_iff (ofNode : r.cls.OfNode) : r.failed = decide (r.text "error" ≠ []) := by
  obtain ⟨index, there⟩ := ofNode.error
  rw [failed, typed.value_text index there, Value.isEmpty]
  cases r.text "error" <;> rfl

theorem failedNodes_eq_nodes (isSurvey : r.cls.IsSurvey) : r.failedNodes =
    ((r.nodes.filter fun node => decide (node.text "error" ≠ [])).map (text "addr")).eraseDups := by
  have failing : r.listed.filter failed =
      r.listed.filter fun node => decide (node.text "error" ≠ []) := by
    refine List.filter_congr fun node member => ?_
    obtain ⟨whole, ofNode⟩ := typed.node_of_listed isSurvey.surveys node member
    exact whole.failed_iff ofNode
  rw [failedNodes, failing, typed.listed_eq_nodes isSurvey]

theorem mem_failedNodes (isSurvey : r.cls.IsSurvey) (a : Text) :
    a ∈ r.failedNodes ↔ ∃ name ∈ r.cls.nodeLists, ∃ node ∈ r.nodesIn name, node.Fails a := by
  rw [typed.failedNodes_eq_nodes isSurvey, List.mem_eraseDups, List.mem_map]
  constructor
  · rintro ⟨node, member, addr⟩
    obtain ⟨inside, error⟩ := List.mem_filter.mp member
    obtain ⟨name, list, listed⟩ := List.mem_flatMap.mp inside
    exact ⟨name, list, node, listed, of_decide_eq_true error, addr⟩
  · rintro ⟨name, list, node, listed, error, addr⟩
    have inside : node ∈ r.nodes := List.mem_flatMap.mpr ⟨name, list, listed⟩
    exact ⟨node, List.mem_filter.mpr ⟨inside, decide_eq_true error⟩, addr⟩

theorem order_failedNodes (isSurvey : r.cls.IsSurvey) : r.failedNodes.Pairwise fun a b =>
    r.nodes.findIdx (fun node => node.Fails a) < r.nodes.findIdx (fun node => node.Fails b) := by
  have fails (a : Text) : (fun node : Record => decide (node.Fails a)) =
      fun node => decide (node.text "error" ≠ []) && node.text "addr" == a := by
    funext node
    rw [Bool.eq_iff_iff, decide_eq_true_iff, Bool.and_eq_true, decide_eq_true_iff, beq_iff_eq]
    rfl
  simp only [fails]
  rw [typed.failedNodes_eq_nodes isSurvey]
  exact pairwise_eraseDups _ _ _

end Typed

/-- The record is a survey or a report that carries it. -/
inductive Bears (survey : Record) : Record → Prop
  | itself : Bears survey survey
  | report {r : Record} (report : r.cls.IsReport survey.cls)
    (value : r.value "sys" = .record survey) : Bears survey r

theorem Decoded.survey {r survey : Record} (decoded : r.Decoded) (asked : r.survey? = some survey) :
    survey.IsSurvey ∧ survey.Typed ∧ Bears survey r := by
  obtain ⟨name, _, _, catalogued, -⟩ := decoded.source
  have typed := decoded.typed
  rw [survey?] at asked
  split at asked
  · rename_i has
    cases asked
    have own := Catalogue.mem_having catalogued has
    rw [Catalogue.having_survey, List.mem_pair] at own
    exact ⟨own, typed, .itself⟩
  · split at asked
    · rename_i has
      have own := Catalogue.mem_having catalogued has
      rw [Catalogue.having_report, List.mem_pair] at own
      have carries : ∃ cls, r.cls.IsReport cls ∧
          (cls = Catalogue.sysHealthInfo ∨ cls = Catalogue.sysInfo) := by
        rcases own with first | second
        · exact ⟨_, first ▸ Catalogue.isReport_first, .inl rfl⟩
        · exact ⟨_, second ▸ Catalogue.isReport_second, .inr rfl⟩
      obtain ⟨cls, report, kind⟩ := carries
      obtain ⟨inner, value, rfl, whole⟩ := typed.survey_of_report report
      rw [value] at asked
      cases asked
      exact ⟨kind, whole, .report report value⟩
    · cases asked

/-- The record comes back from its documents with a survey that names the same nodes. -/
structure Steady (r : Record) (names : List Text) (s later : Session) : Prop where
  tree {json : Json} : (Call.writeTree r).outcome s = .ok json →
    ∃ back, (Call.readRecord r.cls (.tree json)).outcome later = .ok back ∧
      back.survey?.map failedNodes = some names
  text {t : Text} {back : Record} : (Call.writeRecord r).outcome s = .ok t →
    (Call.readRecord r.cls (.text t)).outcome later = .ok back →
      back.survey?.map failedNodes = some names

/-- What a document says is read as a tree as it is read as a text. -/
theorem read_tree_printed {r : Record} {t : Text} (written : r.write = .ok t) :
    r.cls.read .tree r.toJson.printed = r.cls.read .text r.toJson.printed := by
  obtain ⟨⟨shallow, -⟩, -⟩ := write_eq_ok.mp written
  have within : r.toJson.printed.nesting ≤ Open.deepest := by
    rw [Json.nesting_printed]
    exact Nat.le_of_lt_succ shallow
  have passes : ∀ member ∈ Json.printedMembers (Value.toFields r.cls.fields r.values),
      Passes member.2 := by
    intro member inside
    exact ⟨nesting_of_mem within inside, Json.all_of_mem (Json.finite_printed r.toJson) inside⟩
  rw [toJson, Json.printed, RecordClass.read, RecordClass.read,
    readFields_tree_eq _ (Passes.openedFields _ passes)]

theorem Typed.steady {r : Record} {names : List Text} (typed : r.Typed)
    (again : ∀ back, r.cls.read .text r.toJson.printed = .ok back →
      back.survey?.map failedNodes = some names) (s later : Session) : r.Steady names s later := by
  constructor
  · intro json returned
    obtain ⟨⟨t, written⟩, rfl⟩ := typed.returned_writeTree returned
    obtain ⟨back, found⟩ := typed.read_printed
    have loaded := RecordClass.load_tree.mpr ((read_tree_printed written).trans found)
    exact ⟨back, Call.returned_readRecord.mpr loaded, again back found⟩
  · intro t back returned read
    have loaded := RecordClass.load_text.mp (Call.returned_readRecord.mp read)
    obtain ⟨json, stands, found⟩ := RecordClass.readText_iff.mp loaded
    rw [typed.stands (Call.returned_writeRecord.mp returned) stands] at found
    exact again back found

/-- How the nodes that failed are named by a survey, alone or in a report, in a session and a later
one. -/
structure NamesFailed (r survey : Record) (s later : Session) : Prop where
  kind : survey.IsSurvey
  /-- A node is named if one of its records in one of the lists has an error. -/
  mem (a : Text) : a ∈ survey.failedNodes ↔
    ∃ name ∈ survey.cls.nodeLists, ∃ node ∈ survey.nodesIn name, node.Fails a
  once : survey.failedNodes.Nodup
  /-- Its first such record, of all lists in their order, gives it its place. -/
  order : survey.failedNodes.Pairwise fun a b =>
    survey.nodes.findIdx (fun node => node.Fails a) <
      survey.nodes.findIdx (fun node => node.Fails b)
  /-- The document of the survey names the same nodes. -/
  tree {json : Json} :
    (Call.writeTree survey).outcome s = .ok json → json.failedNodes = survey.failedNodes
  steady : ∀ bearer ∈ [survey, r], bearer.Steady survey.failedNodes s later
  /-- The errors of the survey and of the report play no part. -/
  apart (error : Json) : ∀ bearer ∈ [survey, r],
    (bearer.update [("error", error)]).survey?.map failedNodes = some survey.failedNodes

namespace Bears

variable {r survey again : Record} (bears : Bears survey r) (isSurvey : survey.IsSurvey)

include bears isSurvey

/-- What is read back of a record that bears a survey bears one that names the same nodes. -/
theorem back (typed : r.Typed) (whole : survey.Typed)
    (found : r.cls.read .text r.toJson.printed = .ok again) :
    again.survey?.map failedNodes = some survey.failedNodes := by
  have lists := isSurvey_cls isSurvey
  cases bears with
  | itself =>
    have same := (RecordClass.read_ok found).1
    rw [survey?_self (same ▸ lists), Option.map_some, typed.failedNodes_back lists.surveys found]
  | report report value =>
    have same := (RecordClass.read_ok found).1
    obtain ⟨part, carried, inner⟩ := typed.survey_back report value found
    rw [survey?_report (same ▸ report) carried, Option.map_some,
      whole.failedNodes_back lists.surveys inner]

theorem update (whole : survey.Typed) (error : Json) :
    (r.update [("error", error)]).survey?.map failedNodes = some survey.failedNodes := by
  have lists := isSurvey_cls isSurvey
  cases bears with
  | itself =>
    have same : (r.update [("error", error)]).cls = r.cls := rfl
    rw [survey?_self (same ▸ lists), Option.map_some, whole.failedNodes_update lists.error]
  | report report value =>
    have same : (r.update [("error", error)]).cls = r.cls := rfl
    have different : Text.ofString "sys" ≠ Text.ofString "error" := by decide
    have carried := (r.value_update different error).trans value
    rw [survey?_report (same ▸ report) carried, Option.map_some]

end Bears

/-- The nodes of a survey that failed are named exactly, each once and in order, on the wire as in
memory, and whatever became of the survey or the report as a whole. -/
theorem Decoded.names_failed {r survey : Record} (decoded : r.Decoded)
    (asked : r.survey? = some survey) (s later : Session) : r.NamesFailed survey s later := by
  obtain ⟨isSurvey, typed, bears⟩ := decoded.survey asked
  have lists := isSurvey_cls isSurvey
  have order := typed.order_failedNodes lists
  constructor
  case kind => exact isSurvey
  case mem => exact typed.mem_failedNodes lists
  case once =>
    refine order.imp fun {a b} before same => ?_
    rw [same] at before
    exact Nat.lt_irrefl _ before
  case order => exact order
  case tree =>
    intro json returned
    obtain ⟨-, rfl⟩ := typed.returned_writeTree returned
    exact typed.failedNodes_printed lists.surveys
  case steady =>
    have itself := typed.steady (fun back => Bears.itself.back isSurvey typed typed) s later
    have bearer := decoded.typed.steady (fun back => bears.back isSurvey decoded.typed typed) s later
    exact List.forall_mem_cons.mpr ⟨itself, List.forall_mem_singleton.mpr bearer⟩
  case apart =>
    intro error
    have itself := Bears.itself.update isSurvey typed error
    exact List.forall_mem_cons.mpr
      ⟨itself, List.forall_mem_singleton.mpr (bears.update isSurvey typed error)⟩

/-- The record of a node that says no more than its address and its error. -/
def ofNode (cls : RecordClass) (addr error : Text) : Record :=
  ⟨cls, ((Shape.zeros cls.fields).set 0 (.text addr)).set 1 (.text error)⟩

/-- A survey in which one node fails twice, and another only in the later list. -/
def unevenSurvey : Record :=
  ⟨Catalogue.sysInfo, ((Shape.zeros Catalogue.sysInfo.fields).set 0
    (.list [.record (ofNode Catalogue.cpus "b" "down"), .record (ofNode Catalogue.cpus "a" [])])).set
      1 (.list [.record (ofNode Catalogue.partitions "a" "lost"),
        .record (ofNode Catalogue.partitions "b" "down")])⟩

/-- A report that carries it, with an error of its own. -/
def unevenReport : Record :=
  ⟨Catalogue.healthInfoV2, ((Shape.zeros Catalogue.healthInfoV2.fields).set 1 (.text "late")).set 3
    (.record unevenSurvey)⟩

/-- The document of that report. -/
def unevenJson : Json :=
  let node (addr error : Text) : Json := .object [("addr", .text addr), ("error", .text error)]
  .object [("error", .text "late"), ("sys", .object
    [("cpus", .array [node "b" "down", .object [("addr", .text "a")]]),
      ("partitions", .array [node "a" "lost", node "b" "down"])])]

theorem Decoded.names_failed_uneven : ∃ s : Session, unevenReport.Decoded ∧
    unevenReport.survey? = some unevenSurvey ∧ unevenReport.NamesFailed unevenSurvey s s ∧
      unevenSurvey.failedNodes = ["b", "a"] := by
  have catalogued : Catalogue.find? "HealthInfoV2" = some Catalogue.healthInfoV2 := rfl
  have loaded : Catalogue.healthInfoV2.load (.tree unevenJson) = .ok unevenReport := rfl
  have decoded : unevenReport.Decoded :=
    .made (s := .initial [] .zero) catalogued (by decide) (Call.returned_makeRecord.mpr loaded)
  have asked : unevenReport.survey? = some unevenSurvey := rfl
  exact ⟨.initial [] .zero, decoded, asked, decoded.names_failed asked _ _, by decide +kernel⟩

end Record

end ClusterHealth
