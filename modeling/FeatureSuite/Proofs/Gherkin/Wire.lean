import FeatureSuite.Gherkin.Wire
import FeatureSuite.Proofs.Json.Restoring

/-!
# Documents and pickles survive the wire

Every kind of node is given back by its reader from its dump. So dumping what was read is settled
after the first time, however the names of the fields were written and whatever other fields there
were.
-/

namespace FeatureSuite.Gherkin

open Json

/-! ## Documents -/

theorem Location.restores : Restores Location.read Location.dump :=
  .model ["line", "column"] (by decide) (fun _ => rfl) fun _ _ hfields => by
    obtain ⟨hline, hcolumn⟩ := hfields
    rw [required_of_get? restores_int hline, optional_of_get? restores_int hcolumn]
    rfl

theorem Tag.restores : Restores Tag.read Tag.dump :=
  .model ["name", "id", "location"] (by decide) (fun _ => rfl) fun _ _ hfields => by
    obtain ⟨hname, hid, hlocation⟩ := hfields
    rw [required_of_get? restores_text hname, defaulted_of_get? restores_text hid,
      optional_of_get? Location.restores hlocation]
    rfl

private theorem Comment.restores : Restores Comment.read Comment.dump :=
  .model ["location", "text"] (by decide) (fun _ => rfl) fun _ _ hfields => by
    obtain ⟨hlocation, htext⟩ := hfields
    rw [required_of_get? Location.restores hlocation, required_of_get? restores_text htext]
    rfl

private theorem TableCell.restores : Restores TableCell.read TableCell.dump :=
  .model ["value", "location"] (by decide) (fun _ => rfl) fun _ _ hfields => by
    obtain ⟨hvalue, hlocation⟩ := hfields
    rw [required_of_get? restores_text hvalue, optional_of_get? Location.restores hlocation]
    rfl

theorem TableRow.restores : Restores TableRow.read TableRow.dump :=
  .model ["id", "location", "cells"] (by decide) (fun _ => rfl) fun _ _ hfields => by
    obtain ⟨hid, hlocation, hcells⟩ := hfields
    rw [required_of_get? restores_text hid, required_of_get? Location.restores hlocation,
      list_of_get? TableCell.restores hcells]
    rfl

private theorem DataTable.restores : Restores DataTable.read DataTable.dump :=
  .model ["location", "rows"] (by decide) (fun _ => rfl) fun _ _ hfields => by
    obtain ⟨hlocation, hrows⟩ := hfields
    rw [optional_of_get? Location.restores hlocation, list_of_get? TableRow.restores hrows]
    rfl

private theorem DocString.restores : Restores DocString.read DocString.dump :=
  .model ["content", "location", "delimiter", "mediaType"]
    (by decide) (fun _ => rfl) fun _ _ hfields => by
    obtain ⟨hcontent, hlocation, hdelimiter, hmediaType⟩ := hfields
    rw [required_of_get? restores_text hcontent, optional_of_get? Location.restores hlocation,
      defaulted_of_get? restores_text hdelimiter, optional_of_get? restores_text hmediaType]
    rfl

theorem Step.restores : Restores Step.read Step.dump :=
  .model ["id", "location", "keyword", "text", "keywordType", "docString", "dataTable"]
    (by decide) (fun _ => rfl) fun _ _ hfields => by
    obtain ⟨hid, hlocation, hkeyword, htext, hkeywordType, hdocString, hdataTable⟩ := hfields
    rw [required_of_get? restores_text hid, required_of_get? Location.restores hlocation,
      required_of_get? restores_text hkeyword, required_of_get? restores_text htext,
      optional_of_get? restores_text hkeywordType, optional_of_get? DocString.restores hdocString,
      optional_of_get? DataTable.restores hdataTable]
    rfl

private theorem Examples.restores : Restores Examples.read Examples.dump :=
  .model ["id", "location", "keyword", "name", "description", "tags", "tableHeader", "tableBody"]
    (by decide) (fun _ => rfl) fun _ _ hfields => by
    obtain ⟨hid, hlocation, hkeyword, hname, hdescription, htags, htableHeader, htableBody⟩ :=
      hfields
    rw [required_of_get? restores_text hid, required_of_get? Location.restores hlocation,
      defaulted_of_get? restores_text hkeyword, defaulted_of_get? restores_text hname,
      defaulted_of_get? restores_text hdescription, list_of_get? Tag.restores htags,
      optional_of_get? TableRow.restores htableHeader, list_of_get? TableRow.restores htableBody]
    rfl

theorem Background.restores : Restores Background.read Background.dump :=
  .model ["id", "location", "keyword", "name", "description", "steps"]
    (by decide) (fun _ => rfl) fun _ _ hfields => by
    obtain ⟨hid, hlocation, hkeyword, hname, hdescription, hsteps⟩ := hfields
    rw [required_of_get? restores_text hid, required_of_get? Location.restores hlocation,
      defaulted_of_get? restores_text hkeyword, defaulted_of_get? restores_text hname,
      defaulted_of_get? restores_text hdescription, list_of_get? Step.restores hsteps]
    rfl

theorem Scenario.restores : Restores Scenario.read Scenario.dump :=
  .model ["id", "location", "keyword", "name", "description", "tags", "steps", "examples"]
    (by decide) (fun _ => rfl) fun _ _ hfields => by
    obtain ⟨hid, hlocation, hkeyword, hname, hdescription, htags, hsteps, hexamples⟩ := hfields
    rw [required_of_get? restores_text hid, required_of_get? Location.restores hlocation,
      defaulted_of_get? restores_text hkeyword, defaulted_of_get? restores_text hname,
      defaulted_of_get? restores_text hdescription, list_of_get? Tag.restores htags,
      list_of_get? Step.restores hsteps, list_of_get? Examples.restores hexamples]
    rfl

private theorem RuleChild.restores : Restores RuleChild.read RuleChild.dump :=
  .model ["background", "scenario"] (by decide) (fun _ => rfl) fun _ _ hfields => by
    obtain ⟨hbackground, hscenario⟩ := hfields
    rw [optional_of_get? Background.restores hbackground,
      optional_of_get? Scenario.restores hscenario]
    rfl

private theorem Rule.restores : Restores Rule.read Rule.dump :=
  .model ["id", "location", "keyword", "name", "description", "tags", "children"]
    (by decide) (fun _ => rfl) fun _ _ hfields => by
    obtain ⟨hid, hlocation, hkeyword, hname, hdescription, htags, hchildren⟩ := hfields
    rw [required_of_get? restores_text hid, required_of_get? Location.restores hlocation,
      defaulted_of_get? restores_text hkeyword, defaulted_of_get? restores_text hname,
      defaulted_of_get? restores_text hdescription, list_of_get? Tag.restores htags,
      list_of_get? RuleChild.restores hchildren]
    rfl

private theorem FeatureChild.restores : Restores FeatureChild.read FeatureChild.dump :=
  .model ["rule", "background", "scenario"] (by decide) (fun _ => rfl) fun _ _ hfields => by
    obtain ⟨hrule, hbackground, hscenario⟩ := hfields
    rw [optional_of_get? Rule.restores hrule, optional_of_get? Background.restores hbackground,
      optional_of_get? Scenario.restores hscenario]
    rfl

private theorem Feature.restores : Restores Feature.read Feature.dump :=
  .model ["location", "language", "keyword", "name", "description", "tags", "children"]
    (by decide) (fun _ => rfl) fun _ _ hfields => by
    obtain ⟨hlocation, hlanguage, hkeyword, hname, hdescription, htags, hchildren⟩ := hfields
    rw [required_of_get? Location.restores hlocation, defaulted_of_get? restores_text hlanguage,
      defaulted_of_get? restores_text hkeyword, defaulted_of_get? restores_text hname,
      defaulted_of_get? restores_text hdescription, list_of_get? Tag.restores htags,
      list_of_get? FeatureChild.restores hchildren]
    rfl

private theorem Document.restores : Restores Document.read Document.dump :=
  .model ["uri", "feature", "comments"] (by decide) (fun _ => rfl) fun _ _ hfields => by
    obtain ⟨huri, hfeature, hcomments⟩ := hfields
    rw [optional_of_get? restores_text huri, optional_of_get? Feature.restores hfeature,
      list_of_get? Comment.restores hcomments]
    rfl

/-! ## Pickles -/

private theorem PickleDocString.restores : Restores PickleDocString.read PickleDocString.dump :=
  .model ["content", "mediaType"] (by decide) (fun _ => rfl) fun _ _ hfields => by
    obtain ⟨hcontent, hmediaType⟩ := hfields
    rw [required_of_get? restores_text hcontent, optional_of_get? restores_text hmediaType]
    rfl

private theorem PickleTableCell.restores : Restores PickleTableCell.read PickleTableCell.dump :=
  .model ["value"] (by decide) (fun _ => rfl) fun _ _ hfields => by
    rw [required_of_get? restores_text hfields]
    rfl

private theorem PickleTableRow.restores : Restores PickleTableRow.read PickleTableRow.dump :=
  .model ["cells"] (by decide) (fun _ => rfl) fun _ _ hfields => by
    rw [list_of_get? PickleTableCell.restores hfields]
    rfl

private theorem PickleTable.restores : Restores PickleTable.read PickleTable.dump :=
  .model ["rows"] (by decide) (fun _ => rfl) fun _ _ hfields => by
    rw [list_of_get? PickleTableRow.restores hfields]
    rfl

private theorem PickleStepArgument.restores :
    Restores PickleStepArgument.read PickleStepArgument.dump :=
  .model ["docString", "dataTable"] (by decide) (fun _ => rfl) fun _ _ hfields => by
    obtain ⟨hdocString, hdataTable⟩ := hfields
    rw [optional_of_get? PickleDocString.restores hdocString,
      optional_of_get? PickleTable.restores hdataTable]
    rfl

private theorem PickleStep.restores : Restores PickleStep.read PickleStep.dump :=
  .model ["id", "text", "type", "astNodeIds", "argument"]
    (by decide) (fun _ => rfl) fun _ _ hfields => by
    obtain ⟨hid, htext, htype, hastNodeIds, hargument⟩ := hfields
    rw [required_of_get? restores_text hid, required_of_get? restores_text htext,
      optional_of_get? restores_text htype, list_of_get? restores_text hastNodeIds,
      optional_of_get? PickleStepArgument.restores hargument]
    rfl

private theorem PickleTag.restores : Restores PickleTag.read PickleTag.dump :=
  .model ["name", "astNodeId"] (by decide) (fun _ => rfl) fun _ _ hfields => by
    obtain ⟨hname, hastNodeId⟩ := hfields
    rw [required_of_get? restores_text hname, defaulted_of_get? restores_text hastNodeId]
    rfl

private theorem Pickle.restores : Restores Pickle.read Pickle.dump :=
  .model ["id", "uri", "name", "language", "steps", "tags", "astNodeIds"]
    (by decide) (fun _ => rfl) fun _ _ hfields => by
    obtain ⟨hid, huri, hname, hlanguage, hsteps, htags, hastNodeIds⟩ := hfields
    rw [required_of_get? restores_text hid, defaulted_of_get? restores_text huri,
      defaulted_of_get? restores_text hname, defaulted_of_get? restores_text hlanguage,
      list_of_get? PickleStep.restores hsteps, list_of_get? PickleTag.restores htags,
      list_of_get? restores_text hastNodeIds]
    rfl

/-! ## Kinds of nodes -/

/-- A kind of node with its reader and its dump. -/
structure WireKind where
  name : String
  Value : Type
  read : Reader Value
  dump : Value → Json

def wireKinds : List WireKind :=
  [ ⟨"Location", Location, Location.read, Location.dump⟩,
    ⟨"Tag", Tag, Tag.read, Tag.dump⟩,
    ⟨"Comment", Comment, Comment.read, Comment.dump⟩,
    ⟨"TableCell", TableCell, TableCell.read, TableCell.dump⟩,
    ⟨"TableRow", TableRow, TableRow.read, TableRow.dump⟩,
    ⟨"DataTable", DataTable, DataTable.read, DataTable.dump⟩,
    ⟨"DocString", DocString, DocString.read, DocString.dump⟩,
    ⟨"Step", Step, Step.read, Step.dump⟩,
    ⟨"Examples", Examples, Examples.read, Examples.dump⟩,
    ⟨"Background", Background, Background.read, Background.dump⟩,
    ⟨"Scenario", Scenario, Scenario.read, Scenario.dump⟩,
    ⟨"RuleChild", RuleChild, RuleChild.read, RuleChild.dump⟩,
    ⟨"Rule", Rule, Rule.read, Rule.dump⟩,
    ⟨"FeatureChild", FeatureChild, FeatureChild.read, FeatureChild.dump⟩,
    ⟨"Feature", Feature, Feature.read, Feature.dump⟩,
    ⟨"GherkinDocument", Document, Document.read, Document.dump⟩,
    ⟨"PickleDocString", PickleDocString, PickleDocString.read, PickleDocString.dump⟩,
    ⟨"PickleTableCell", PickleTableCell, PickleTableCell.read, PickleTableCell.dump⟩,
    ⟨"PickleTableRow", PickleTableRow, PickleTableRow.read, PickleTableRow.dump⟩,
    ⟨"PickleTable", PickleTable, PickleTable.read, PickleTable.dump⟩,
    ⟨"PickleStepArgument", PickleStepArgument, PickleStepArgument.read, PickleStepArgument.dump⟩,
    ⟨"PickleStep", PickleStep, PickleStep.read, PickleStep.dump⟩,
    ⟨"PickleTag", PickleTag, PickleTag.read, PickleTag.dump⟩,
    ⟨"Pickle", Pickle, Pickle.read, Pickle.dump⟩]

private theorem restores_of_mem_wireKinds :
    ∀ kind ∈ wireKinds, Restores kind.read kind.dump :=
  List.forall_iff_forall_mem.mp
    ⟨Location.restores, Tag.restores, Comment.restores, TableCell.restores, TableRow.restores,
      DataTable.restores, DocString.restores, Step.restores, Examples.restores, Background.restores,
      Scenario.restores, RuleChild.restores, Rule.restores, FeatureChild.restores, Feature.restores,
      Document.restores, PickleDocString.restores, PickleTableCell.restores,
      PickleTableRow.restores, PickleTable.restores, PickleStepArgument.restores,
      PickleStep.restores, PickleTag.restores, Pickle.restores⟩

private theorem redump?_eq (name : String) (data : Json) :
    redump? name data =
      (wireKinds.find? (name == ·.name)).map fun kind => (kind.read data).map kind.dump := by
  unfold redump?
  split
  -- The last case is a name that no kind of node has.
  case h_25 =>
    have hnone : wireKinds.find? (name == ·.name) = none := by simp_all [wireKinds]
    rw [hnone]
    rfl
  all_goals rfl

private theorem redump?_of_mem {kind : WireKind} (h : kind ∈ wireKinds) (data : Json) :
    redump? kind.name data = some ((kind.read data).map kind.dump) := by
  have hnames : (wireKinds.map (·.name)).Nodup := by decide
  have hsome : (wireKinds.find? (kind.name == ·.name)).isSome := by
    rw [List.find?_isSome]
    exact ⟨kind, h, by simp⟩
  obtain ⟨other, hother⟩ := Option.isSome_iff_exists.mp hsome
  have hname : kind.name = other.name := by simpa using List.find?_some hother
  have hsame : other = kind :=
    List.inj_on_of_nodup_map hnames (List.mem_of_find?_eq_some hother) h hname.symm
  rw [redump?_eq, hother, hsame]
  rfl

/-- Whatever a node is read from, its dump is read as the same node, so dumping what was read
changes nothing when it is done again. -/
theorem dump_reads_back {kind : WireKind} (hkind : kind ∈ wireKinds) {data : Json}
    {value : kind.Value} (hread : kind.read data = .valid value) :
    kind.read (kind.dump value) = .valid value ∧
      redump? kind.name data = some (.valid (kind.dump value)) ∧
        redump? kind.name (kind.dump value) = some (.valid (kind.dump value)) := by
  have hagain := (restores_of_mem_wireKinds kind hkind).read_dump value
  rw [redump?_of_mem hkind, redump?_of_mem hkind, hread, hagain]
  exact ⟨rfl, rfl, rfl⟩

/-- Names in both styles, lines that are no plain numbers, and fields that nothing reads. -/
def mixedData : Json :=
  .object
    [("feature", .object
      [("location", .object [("line", .string " 1.0 "), ("column", .null)]), ("mood", .int 7),
        ("children", .array [.object [("rule", .null), ("scenario", .object
          [("id", .string "3"), ("location", .object [("line", .real (.finite false 1 1))]),
            ("steps", .array [.object
              [("id", .string "1"), ("location", .object [("line", .bool true)]),
                ("keyword", .string "Given "), ("text", .string "a user"),
                ("keyword_type", .string "Context"), ("keywordType", .null),
                ("doc_string", .object
                  [("content", .string "x"), ("media_type", .string "json")])]])])]])]),
      ("id", .string "ignored")]

def mixedDocument : Document :=
  let doc : DocString := { content := "x", mediaType := some "json" }
  let step : Step :=
    { id := "1", location := { line := 1 }, keyword := "Given ", text := "a user"
      docString := some doc }
  let scenario : Scenario := { id := "3", location := { line := 2 }, steps := [step] }
  { feature := some
      { location := { line := 1 }, children := [{ scenario := some scenario }] } }

theorem dump_reads_back_of_mixed :
    Document.read mixedData = .valid mixedDocument ∧
      Document.read mixedDocument.dump = .valid mixedDocument ∧
        redump? "GherkinDocument" mixedDocument.dump = some (.valid mixedDocument.dump) := by
  let kind : WireKind := ⟨"GherkinDocument", Document, Document.read, Document.dump⟩
  have hkind : kind ∈ wireKinds := List.mem_of_getElem? (i := 15) rfl
  have hread : kind.read mixedData = .valid mixedDocument := by rfl
  obtain ⟨hagain, _, hsettled⟩ := dump_reads_back hkind hread
  exact ⟨hread, hagain, hsettled⟩

end FeatureSuite.Gherkin
