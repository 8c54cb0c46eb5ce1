import ClusterHealth.Proofs.Record.Kinds
import ClusterHealth.Proofs.Record.Written
import ClusterHealth.Proofs.Report.RoundTrip
import ClusterHealth.Proofs.Schema.Names
import ClusterHealth.Record.Insight

/-!
# The nodes of a survey

A survey lists records of nodes, each with its address and the reason of a failure. Both are found
again in the document of the survey, item by item, and in what is read back from it,
`Record.Typed.failedNodes_printed` and `Record.Typed.failedNodes_back`.
-/

namespace ClusterHealth

open Shape

/-- Among the values that are kept, each once, those come first that are seen first. -/
theorem pairwise_eraseDups {α β : Type} [BEq α] [LawfulBEq α] (f : β → α) (items : List β)
    (keeps : β → Bool) : ((items.filter keeps).map f).eraseDups.Pairwise fun a b =>
      items.findIdx (fun x => keeps x && f x == a) <
        items.findIdx (fun x => keeps x && f x == b) := by
  induction items generalizing keeps with
  | nil => exact .nil
  | cons item items ih =>
    cases kept : keeps item with
    | false =>
      rw [List.filter_cons_of_neg (by simp [kept])]
      refine (ih keeps).imp fun {a b} before => ?_
      simpa [List.findIdx_cons, kept] using before
    | true =>
      -- The rest is kept less the first value, so that nothing of it comes before the first.
      have rest : ((items.filter keeps).map f).filter (fun a => !a == f item) =
          (items.filter fun x => keeps x && !f x == f item).map f := by
        rw [List.filter_map, List.filter_filter]
        refine congrArg _ (List.filter_congr fun x _ => ?_)
        exact Bool.and_comm _ _
      have others : ∀ a, a ≠ f item → (item :: items).findIdx (fun x => keeps x && f x == a) =
          items.findIdx (fun x => (keeps x && !f x == f item) && f x == a) + 1 := by
        intro a different
        have first : (keeps item && f item == a) = false := by
          rw [beq_eq_false_iff_ne.mpr different.symm, Bool.and_false]
        have later : (fun x => keeps x && f x == a) =
            fun x => (keeps x && !f x == f item) && f x == a := by
          funext x
          by_cases same : f x = a
          · simp [same, different]
          · simp [beq_eq_false_iff_ne.mpr same]
        rw [List.findIdx_cons, first, cond_false, later]
      rw [List.filter_cons_of_pos kept, List.map_cons, List.eraseDups_cons, rest]
      have outside : ∀ a ∈ ((items.filter fun x => keeps x && !f x == f item).map f).eraseDups,
          a ≠ f item := by
        intro a member
        rw [List.mem_eraseDups, ← rest, List.mem_filter] at member
        simpa using member.2
      refine List.pairwise_cons.mpr ⟨fun a member => ?_, ?_⟩
      · have here : (item :: items).findIdx (fun x => keeps x && f x == f item) = 0 := by
          simp [List.findIdx_cons, kept]
        rw [here, others a (outside a member)]
        omega
      · refine (ih fun x => keeps x && !f x == f item).imp_of_mem fun {a b} inA inB before => ?_
        rw [others a (outside a inA), others b (outside b inB)]
        omega

namespace RecordClass

/-- The class opens with the address of a node and the reason of a failure. -/
def OfNode (cls : RecordClass) : Prop :=
  ∃ more, cls.fields = Field.always "addr" .string :: Field.error :: more

/-- Each field lists records of nodes or holds a text. -/
def Surveys (fields : List (Field × Shape)) : Prop :=
  ∀ e ∈ fields, (∃ node, e.2 = .list (.record node) ∧ node.OfNode) ∨ ∃ initial, e.2 = .text initial

variable {cls : RecordClass}

theorem OfNode.addr (ofNode : cls.OfNode) :
    cls.index? "addr" = some 0 ∧ cls.fields[0]? = some (Field.always "addr" .string) := by
  obtain ⟨more, same⟩ := ofNode
  rw [index?, same]
  exact ⟨rfl, rfl⟩

theorem OfNode.error (ofNode : cls.OfNode) :
    cls.index? "error" = some 1 ∧ cls.fields[1]? = some Field.error := by
  obtain ⟨more, same⟩ := ofNode
  rw [index?, same]
  exact ⟨rfl, rfl⟩

end RecordClass

open RecordClass (Surveys)

/-! ### One node -/

namespace Record

/-- What the record of a node says: its address, and whether collecting it failed. -/
def verdict (r : Record) : Text × Bool :=
  (r.text "addr", r.failed)

end Record

namespace Json

def address : Json → Text
  | object members =>
    match Entries.get? "addr" members with
    | some (text t) => t
    | _ => []
  | _ => []

def failed : Json → Bool
  | object members => (Entries.get? "error" members).isSome
  | _ => false

end Json

/-- A text field is given again what the printed document has for it. -/
theorem Shape.Found.gives_printed {members : List (Text × Json)} {field : Field} {initial t : Text}
    (found : Found members ((field, .text initial), .text t))
    (rests : field.omission.omits (.text t) = true → t = initial) :
    Gives .text (Json.printedMembers members) field (.text initial) (.text t) :=
  gives_of_find? (find?_printed_omitted found) (find?_printed_written found ⟨t, rfl⟩) rests

namespace Record.Typed

variable {r back : Record} (typed : r.Typed)

include typed

/-- A text that is left out is the one that stands in for it. -/
theorem rests {field : Field} {initial t : Text} (member : (field, .text initial) ∈ r.cls.fields)
    (omitted : field.omission.omits (.text t) = true) : t = initial := by
  obtain ⟨names, -⟩ := lawful_record.mp typed.lawful
  cases rule : field.omission with
  | never | absent =>
    rw [rule] at omitted
    cases omitted
  | empty =>
    rw [rule] at omitted
    have stands := (namesApart names).rests _ member rule
    exact (List.isEmpty_iff.mp omitted).trans (List.isEmpty_iff.mp stands).symm

theorem text_back (found : r.cls.read .text r.toJson.printed = .ok back) {name : Text} {place : Nat}
    {field : Field} {initial : Text} (index : r.cls.index? name = some place)
    (there : r.cls.fields[place]? = some (field, .text initial)) :
    back.value name = .text (r.text name) := by
  have written := typed.found index there
  rw [typed.value_text index there] at written
  have again := written.gives_printed (typed.rests (List.mem_of_getElem? there))
  exact (RecordClass.read_gives found index there).unique again

theorem verdict_back (ofNode : r.cls.OfNode)
    (found : r.cls.read .text r.toJson.printed = .ok back) : back.verdict = r.verdict := by
  obtain ⟨index, there⟩ := ofNode.addr
  obtain ⟨index', there'⟩ := ofNode.error
  have addr := typed.text_back found index there
  have error := typed.text_back found index' there'
  have error' := typed.value_text index' there'
  rw [verdict, verdict, failed, failed, text_of_value addr, error, error']

theorem verdict_printed (ofNode : r.cls.OfNode) :
    (r.toJson.printed.address, r.toJson.printed.failed) = r.verdict := by
  obtain ⟨index, there⟩ := ofNode.addr
  obtain ⟨index', there'⟩ := ofNode.error
  have addr := (typed.found index there).written rfl
  have error := typed.found index' there'
  rw [typed.value_text index there] at addr
  rw [typed.value_text index' there'] at error
  have address : r.toJson.printed.address = r.text "addr" := by
    rw [toJson, Json.printed, Json.address, Json.get?_printedMembers]
    change Entries.get? "addr" _ = _ at addr
    rw [addr]
    rfl
  have failing : r.toJson.printed.failed = r.failed := by
    rw [toJson, Json.printed, Json.failed, Json.get?_printedMembers, failed,
      typed.value_text index' there', Option.isSome_map]
    cases omitted : (Value.text (r.text "error")).isEmpty with
    | true =>
      have none := (error.omitted omitted).1
      change Entries.get? "error" _ = _ at none
      rw [none]
      rfl
    | false =>
      have some := error.written omitted
      change Entries.get? "error" _ = _ at some
      rw [some]
      rfl
  rw [address, failing, verdict]

end Record.Typed

/-! ### The lists of nodes -/

namespace Value

def record? : Value → Option Record
  | record r => some r
  | _ => none

def records : Value → List Record
  | list items => items.filterMap record?
  | _ => []

theorem records_cons (r : Record) (items : List Value) :
    (list (record r :: items)).records = r :: (list items).records :=
  rfl

theorem records_map (nodes : List Record) : (list (nodes.map record)).records = nodes := by
  rw [records, List.filterMap_map]
  exact List.filterMap_some

theorem records_ofJson (json : Json) : (ofJson json).records = [] := by
  cases json with
  | array items =>
    rw [ofJson, records, List.filterMap_eq_nil_iff]
    intro value member
    obtain ⟨inner, rfl⟩ := mem_ofItems member
    cases inner <;> rfl
  | null | bool | int | float | text | object => rfl

/-- A list of records of a class, each of them typed. -/
theorem nodes_of_holds {node : RecordClass} {value : Value}
    (lawful : (Shape.list (.record node)).lawful = true)
    (holds : (Shape.list (.record node)).Holds value) :
    ∃ nodes : List Record, value = .list (nodes.map record) ∧
      ∀ r ∈ nodes, r.cls = node ∧ r.Typed := by
  obtain ⟨items, rfl, holds⟩ := holds
  induction items with
  | nil => exact ⟨[], rfl, nofun⟩
  | cons item items ih =>
    obtain ⟨here, later⟩ := List.forall_mem_cons.mp holds
    obtain ⟨nodes, same, typed⟩ := ih later
    obtain ⟨name, aspects, fields⟩ := node
    obtain ⟨values, rfl, fits⟩ := here
    obtain rfl := Value.list.inj same
    exact ⟨⟨⟨name, aspects, fields⟩, values⟩ :: nodes, rfl,
      List.forall_mem_cons.mpr ⟨⟨rfl, lawful, fits⟩, typed⟩⟩

end Value

theorem Record.listed_eq (r : Record) : r.listed = r.values.flatMap Value.records :=
  rfl

def Json.items : Json → List Json
  | array items => items
  | _ => []

/-- The items of the arrays among the members of an object, in order. -/
def Json.listed : Json → List Json
  | object members => members.flatMap fun m => m.2.items
  | _ => []

theorem Json.items_printed (nodes : List Record) :
    (Value.list (nodes.map .record)).toJson.printed.items = nodes.map fun r => r.toJson.printed := by
  rw [Value.toJson, printed, items, printedItems_eq, Value.toItems_eq, List.map_map, List.map_map]
  exact List.map_congr_left fun r _ => congrArg printed (Value.toJson_record r)

/-- Only an empty list is left out. -/
theorem Omission.omits_list {omission : Omission} {items : List Value}
    (omitted : omission.omits (.list items) = true) : items = [] := by
  cases omission with
  | never | absent => cases omitted
  | empty => exact List.isEmpty_iff.mp omitted

namespace Shape

open Value

/-- The items of the arrays in the document of a survey are what its records are written as. -/
theorem listed_toFields : ∀ (fields : List (Field × Shape)) {values : List Value},
    Surveys fields → lawfulFields fields = true → HoldFields fields values →
      (Json.printedMembers (toFields fields values)).flatMap (fun m => m.2.items) =
        (values.flatMap records).map fun r => r.toJson.printed
  | [], values, _, _, holds => by
    rw [holds]
    rfl
  | (field, shape) :: rest, values, surveys, lawful, holds => by
    obtain ⟨value, others, rfl, here, more⟩ := holds
    obtain ⟨lawful, lawfulRest⟩ := lawful_cons.mp lawful
    obtain ⟨kind, kinds⟩ := List.forall_mem_cons.mp surveys
    rw [toFields, List.flatMap_cons, List.map_append, ← listed_toFields rest kinds lawfulRest more]
    rcases kind with ⟨node, rfl, -⟩ | ⟨initial, rfl⟩
    · obtain ⟨nodes, rfl, -⟩ := nodes_of_holds lawful here
      rw [records_map, adapt_toJson here]
      split
      · rename_i omitted
        rw [List.map_eq_nil_iff.mp (Omission.omits_list omitted)]
        rfl
      · rw [Json.printedMembers, List.flatMap_cons, Json.items_printed]
    · obtain ⟨t, rfl⟩ := here
      split <;> rfl

/-- What is read back of a list of nodes says what the nodes say. -/
theorem records_read {node : RecordClass} (ofNode : node.OfNode) {nodes : List Record}
    (each : ∀ r ∈ nodes, r.cls = node ∧ r.Typed) {back : Value}
    (read : (Shape.list (.record node)).read .text (Value.list (nodes.map .record)).toJson.printed =
      .ok back) : back.records.map Record.verdict = nodes.map Record.verdict := by
  obtain ⟨items, backs, same, rfl, related⟩ := read_list read
  have written := Json.items_printed nodes
  rw [same] at written
  obtain rfl : items = nodes.map fun r => r.toJson.printed := written
  rw [List.forall₂_map_left_iff] at related
  clear same read
  induction related with
  | nil => rfl
  | cons first _ ih =>
    obtain ⟨⟨rfl, typed⟩, later⟩ := List.forall_mem_cons.mp each
    rw [RecordClass.shape_read, Checked.map_eq_ok] at first
    obtain ⟨back, found, rfl⟩ := first
    rw [records_cons, List.map_cons, List.map_cons, typed.verdict_back ofNode found, ih later]

/-- What is read back of a survey lists records that say what those of the survey say. -/
theorem listed_readFields {members : List (Text × Json)} : ∀ (fields : List (Field × Shape))
    {values backs : List Value}, Surveys fields → lawfulFields fields = true →
      HoldFields fields values → (∀ entry ∈ fields.zip values, Found members entry) →
        readFields .text (Json.printedMembers members) fields = .ok backs →
          (backs.flatMap records).map Record.verdict = (values.flatMap records).map Record.verdict
  | [], values, backs, _, _, holds, _, read => by
    rw [holds]
    rw [readFields] at read
    cases read
    rfl
  | (field, shape) :: rest, values, backs, surveys, lawful, holds, found, read => by
    obtain ⟨value, others, rfl, here, more⟩ := holds
    obtain ⟨lawful, lawfulRest⟩ := lawful_cons.mp lawful
    obtain ⟨kind, kinds⟩ := List.forall_mem_cons.mp surveys
    rw [List.zip_cons_cons, List.forall_mem_cons] at found
    obtain ⟨back, backs, rfl, readRest, gives⟩ := readFields_cons.mp read
    rw [List.flatMap_cons, List.flatMap_cons, List.map_append, List.map_append,
      listed_readFields rest kinds lawfulRest more found.2 readRest]
    congr 1
    rcases kind with ⟨node, rfl, ofNode⟩ | ⟨initial, rfl⟩
    · obtain ⟨nodes, rfl, each⟩ := nodes_of_holds lawful here
      rw [records_map]
      cases omitted : field.omission.omits (.list (nodes.map .record)) with
      | true =>
        rw [gives_iff, readField, find?_printed_omitted found.1 omitted] at gives
        cases gives
        rw [List.map_eq_nil_iff.mp (Omission.omits_list omitted)]
        rfl
      | false =>
        rw [gives_iff, readField, find?_printed_written found.1 here omitted] at gives
        exact records_read ofNode each (Checked.under_eq_ok.mp gives)
    · obtain ⟨t, rfl⟩ := here
      rcases gives_text.mp gives with ⟨_, t, -, rfl⟩ | ⟨-, rfl⟩ <;> rfl

end Shape

/-! ### The nodes that failed -/

/-- The addresses of the nodes whose objects have an error, each once, in the order in which the
document first lists them. -/
def Json.failedNodes (tree : Json) : List Text :=
  ((tree.listed.filter failed).map address).eraseDups

theorem map_filter_eq {α β : Type} (f : α → β) (keeps : α → Bool) (items : List α) :
    (items.filter keeps).map f =
      ((items.map fun x => (f x, keeps x)).filter Prod.snd).map Prod.fst := by
  rw [List.filter_map, List.map_map]
  rfl

theorem Record.failedNodes_eq (r : Record) : r.failedNodes =
    (((r.listed.map verdict).filter Prod.snd).map Prod.fst).eraseDups := by
  rw [failedNodes, map_filter_eq]
  rfl

theorem Json.failedNodes_eq (tree : Json) : tree.failedNodes =
    (((tree.listed.map fun json => (json.address, json.failed)).filter Prod.snd).map
      Prod.fst).eraseDups := by
  rw [failedNodes, map_filter_eq]

namespace RecordClass

/-- A class of surveys. If it has a field for an error of its own, that is a text. -/
structure IsSurvey (cls : RecordClass) : Prop where
  has : cls.has .survey = true
  surveys : Surveys cls.fields
  apart : Field.Apart cls.fields
  error : Report.CarriesError cls ∨ cls.index? "error" = none

/-- A class of reports that carry a survey of a class. -/
structure IsReport (cls survey : RecordClass) : Prop where
  has : cls.has .report = true
  other : cls.has .survey = false
  carries : ∃ place, cls.index? "sys" = some place ∧
    cls.fields[place]? = some (Field.sparse "sys" (.record survey))

end RecordClass

theorem Shape.lawful_of_mem {fields : List (Field × Shape)} (lawful : lawfulFields fields = true) :
    ∀ e ∈ fields, e.2.lawful = true := by
  induction fields with
  | nil => exact List.forall_mem_nil _
  | cons e fields ih =>
    obtain ⟨here, later⟩ := lawful_cons.mp lawful
    exact List.forall_mem_cons.mpr ⟨here, ih later⟩

/-- What is put in place of something without items, and has none either, changes no items. -/
theorem flatMap_set {α β : Type} {f : α → List β} {items : List α} {place : Nat} {item : α}
    (old : ∀ x, items[place]? = some x → f x = []) (new : f item = []) :
    (items.set place item).flatMap f = items.flatMap f := by
  induction items generalizing place with
  | nil => rfl
  | cons first items ih =>
    cases place with
    | zero => rw [List.set_cons_zero, List.flatMap_cons, List.flatMap_cons, new, old first rfl]
    | succ place => rw [List.set_cons_succ, List.flatMap_cons, List.flatMap_cons, ih old]

namespace Record

/-- A change to one field leaves the others as they are. -/
theorem value_update (r : Record) {name other : Text} (different : name ≠ other) (json : Json) :
    (r.update [(other, json)]).value name = r.value name := by
  rw [value, value, get?, get?, update]
  dsimp only [List.foldl_cons, List.foldl_nil]
  cases here : r.cls.index? name with
  | none => rfl
  | some place =>
    cases there : r.cls.index? other with
    | none => rfl
    | some place' =>
      have apart : place' ≠ place := by
        rintro rfl
        obtain ⟨_, named, -⟩ := List.findIdx?_eq_some_iff_getElem.mp here
        obtain ⟨_, named', -⟩ := List.findIdx?_eq_some_iff_getElem.mp there
        exact different ((of_decide_eq_true named).symm.trans (of_decide_eq_true named'))
      simp only [Option.bind_some, List.getElem?_set_ne apart]

namespace Typed

variable {r survey back : Record} (typed : r.Typed)

include typed

theorem node_of_listed (surveys : Surveys r.cls.fields) :
    ∀ node ∈ r.listed, node.Typed ∧ node.cls.OfNode := by
  intro node member
  rw [listed_eq] at member
  obtain ⟨value, inside, member⟩ := List.mem_flatMap.mp member
  obtain ⟨⟨field, shape⟩, paired⟩ := typed.holds.exists_mem_zip inside
  have holds := holds_of_mem_zip typed.holds _ paired
  have own := (List.of_mem_zip paired).1
  rcases surveys _ own with ⟨cls, same, ofNode⟩ | ⟨initial, same⟩
  · obtain rfl : shape = .list (.record cls) := same
    have lawful := lawful_of_mem (lawful_record.mp typed.lawful).2 _ own
    obtain ⟨nodes, rfl, each⟩ := Value.nodes_of_holds lawful holds
    rw [Value.records_map] at member
    obtain ⟨rfl, whole⟩ := each node member
    exact ⟨whole, ofNode⟩
  · obtain rfl : shape = .text initial := same
    obtain ⟨t, rfl⟩ := holds
    cases member

/-- The document of a survey names the nodes that the survey names. -/
theorem failedNodes_printed (surveys : Surveys r.cls.fields) :
    r.toJson.printed.failedNodes = r.failedNodes := by
  obtain ⟨-, lawful⟩ := lawful_record.mp typed.lawful
  have listed : r.toJson.printed.listed = r.listed.map fun node => node.toJson.printed := by
    rw [toJson, Json.printed, Json.listed, listed_eq]
    exact listed_toFields _ surveys lawful typed.holds
  rw [failedNodes_eq, Json.failedNodes_eq, listed, List.map_map]
  have same : r.listed.map ((fun json => (json.address, json.failed)) ∘
      fun node => node.toJson.printed) = r.listed.map verdict := by
    refine List.map_congr_left fun node member => ?_
    obtain ⟨whole, ofNode⟩ := typed.node_of_listed surveys node member
    exact whole.verdict_printed ofNode
  rw [same]

/-- What is read back of a survey names the same nodes. -/
theorem failedNodes_back (surveys : Surveys r.cls.fields)
    (found : r.cls.read .text r.toJson.printed = .ok back) : back.failedNodes = r.failedNodes := by
  obtain ⟨names, lawful⟩ := lawful_record.mp typed.lawful
  obtain ⟨-, members, same, read⟩ := RecordClass.read_ok found
  obtain rfl := Json.object.inj same
  have written := found_toFields (namesApart names) (holds_of_mem_zip typed.holds)
  have listed := listed_readFields _ surveys lawful typed.holds written read
  rw [failedNodes_eq, failedNodes_eq, listed_eq, listed_eq, listed]

theorem failedNodes_update (error : Report.CarriesError r.cls ∨ r.cls.index? "error" = none)
    (json : Json) : (r.update [("error", json)]).failedNodes = r.failedNodes := by
  rw [failedNodes_eq, failedNodes_eq, listed_eq, listed_eq, update]
  dsimp only [List.foldl_cons, List.foldl_nil]
  rcases error with ⟨place, index, there⟩ | index
  · have text := typed.value_text index there
    rw [index]
    dsimp only
    rw [flatMap_set (fun old here => ?_) (Value.records_ofJson json)]
    rw [value, get?, index, Option.bind_some, here] at text
    obtain rfl : old = .text (r.text "error") := text
    rfl
  · rw [index]

theorem survey_of_report {cls : RecordClass} (report : r.cls.IsReport cls) :
    ∃ survey : Record, r.value "sys" = .record survey ∧ survey.cls = cls ∧ survey.Typed := by
  obtain ⟨place, index, there⟩ := report.carries
  have holds := typed.value_holds index there
  have lawful := lawful_of_mem (lawful_record.mp typed.lawful).2 _ (List.mem_of_getElem? there)
  obtain ⟨name, aspects, fields⟩ := cls
  obtain ⟨values, same, fits⟩ := holds
  exact ⟨_, same, rfl, lawful, fits⟩

/-- The survey of what is read back of a report is read back of the survey of the report. -/
theorem survey_back {cls : RecordClass} (report : r.cls.IsReport cls)
    (value : r.value "sys" = .record survey)
    (found : r.cls.read .text r.toJson.printed = .ok back) :
    ∃ again, back.value "sys" = .record again ∧
      cls.read .text survey.toJson.printed = .ok again := by
  obtain ⟨place, index, there⟩ := report.carries
  have written := typed.found index there
  have holds := typed.value_holds index there
  have gives := RecordClass.read_gives found index there
  rw [value] at written holds
  rw [gives_iff, readField, find?_printed_written written holds rfl] at gives
  have read := Checked.under_eq_ok.mp gives
  rw [RecordClass.shape_read, Checked.map_eq_ok, Value.toJson_record] at read
  obtain ⟨again, found, same⟩ := read
  exact ⟨again, same.symm, found⟩

end Typed

end Record

end ClusterHealth
