import Mathlib.Tactic.Push
import MeshLog.Run.Script
import MeshLog.Proofs.Files.Tree

/-!
# Reports that are kept

A run writes up to three reports, one after the other: the result table, the summary and the JSON
document. They never have the same content, as already their first characters differ
(`Run.nodup_encode_reportFiles`), so all of them are there at the end if and only if their paths
name different places (`Run.reports_held_iff`). The validation of a configuration compares the
paths of the result and the summary only, part by part: it keeps plain paths of these two apart, but
neither other spellings of one path nor the path of the JSON document
(`Run.result_lost_under_json`).
-/

namespace MeshLog

/-! ## Actions without failures -/

namespace Session

variable {session after : Session} {first second : List Action}

theorem performAll_append_eq :
    performAll (first ++ second) session = (after, none) ↔
      ∃ between, performAll first session = (between, none) ∧
        performAll second between = (after, none) := by
  induction first generalizing session with
  | nil => simp [performAll]
  | cons action rest ih =>
    rw [List.cons_append, performAll, performAll]
    cases session.perform action with
    | ok next => exact ih
    | error failure => simp

theorem tree_of_prints {lines : List String}
    (h : performAll (lines.map .print) session = (after, none)) : after.tree = session.tree := by
  induction lines generalizing session with
  | nil =>
    cases h
    rfl
  | cons line rest ih => exact @ih ⟨session.tree, session.printed ++ [line]⟩ h

theorem writeAll_of_writes {purpose : String} {files : List (String × String)}
    (h : performAll (files.map fun (path, text) => .write purpose path text) session =
      (after, none)) :
    session.tree.writeAll files = .ok after.tree := by
  induction files generalizing session with
  | nil =>
    cases h
    rfl
  | cons file rest ih =>
    obtain ⟨path, text⟩ := file
    rw [List.map_cons, performAll, perform, effect] at h
    rw [FileTree.writeAll]
    cases hwrite : session.tree.write path (Utf8.encode text.toList) with
    | ok tree =>
      rw [hwrite] at h
      exact ih h
    | error error =>
      rw [hwrite] at h
      cases h

end Session

/-- A script that ends with success has performed all of its actions. -/
theorem Script.performAll_of_success {actions : List Action} {tree : FileTree} {session : Session}
    (h : (Script.success actions).perform tree = (session, 0)) :
    Session.performAll actions ⟨tree, []⟩ = (session, none) := by
  unfold perform success at h
  dsimp only at h
  split at h
  next after heq =>
    rw [heq, (Prod.mk.inj h).1]
  next after failure heq => cases h

theorem FileTree.writeAll_append {tree after : FileTree} {first second : List (String × String)} :
    tree.writeAll (first ++ second) = .ok after ↔
      ∃ between, tree.writeAll first = .ok between ∧ between.writeAll second = .ok after := by
  induction first generalizing tree with
  | nil => simp [writeAll]
  | cons file rest ih =>
    rw [List.cons_append, writeAll_cons]
    simp only [writeAll_cons, ih]
    constructor
    · rintro ⟨next, hwrite, between, hrest, hsecond⟩
      exact ⟨between, ⟨next, hwrite, hrest⟩, hsecond⟩
    · rintro ⟨between, ⟨next, hwrite, hrest⟩, hsecond⟩
      exact ⟨next, hwrite, between, hrest, hsecond⟩

/-! ## First characters -/

/-- The first byte of a text in a file. -/
def lead? (text : String) : Option UInt8 := (Utf8.encode text.toList).head?

theorem lead?_eq {text : String} {c : Char} {b : UInt8} (h : text.toList.head? = some c)
    (hc : String.utf8EncodeChar c = [b]) : lead? text = some b := by
  obtain ⟨rest, hrest⟩ := List.head?_eq_some_iff.mp h
  rw [lead?, hrest, Utf8.encode, List.flatMap_cons, hc]
  rfl

theorem head?_intercalate {separator first : String} {rest : List String} {c : Char}
    (h : first.toList.head? = some c) :
    (separator.intercalate (first :: rest)).toList.head? = some c := by
  obtain ⟨behind, hfirst⟩ := List.head?_eq_some_iff.mp h
  rw [String.toList_intercalate, List.map_cons, hfirst]
  cases rest <;> simp [List.intercalate]

theorem head?_fileText {first : String} {rest : List String} {c : Char}
    (h : first.toList.head? = some c) : (fileText (first :: rest)).toList.head? = some c := by
  rw [fileText, String.toList_append, List.head?_append, head?_intercalate h]
  rfl

theorem JsonValue.lead?_object (fields : List (String × JsonValue)) :
    lead? (object fields).text = some 123 := by
  have hbrace : (object fields).text.toList.head? = some '\x7b' := by
    rw [text, String.toList_ofList, render, block]
    split_ifs <;> rfl
  exact lead?_eq hbrace (by decide)

theorem RunSummary.lead?_lines (summary : RunSummary) :
    lead? (fileText summary.lines) = some 70 := by
  have hname : (fileText summary.lines).toList.head? = some 'F' := by
    refine head?_fileText ?_
    rw [String.toList_append, List.head?_append]
    rfl
  exact lead?_eq hname (by decide)

/-- All result tables begin with the column of ids. -/
theorem Evaluation.lead?_resultLines {evaluation : Evaluation} {variant : Variant}
    (h : evaluation.layout = .ofVariant variant) :
    lead? (fileText evaluation.resultLines) = some 105 := by
  have hid : ∃ others, (ColumnLayout.ofVariant variant).columns = ⟨"id", .nodeId⟩ :: others := by
    cases variant <;> exact ⟨_, rfl⟩
  obtain ⟨others, hid⟩ := hid
  refine lead?_eq (head?_fileText (c := 'i') ?_) (by decide)
  rw [h, joinHeaders, hid, List.map_cons]
  exact head?_intercalate (by decide)

/-! ## The reports of a run -/

namespace Run

variable {config : RunConfig} {files : FileContents} {run : Run} {tree : FileTree}
  {session : Session}

/-- The reports that a run writes, in their order: paths with the texts that belong there. -/
def reportFiles (run : Run) : List (String × String) := run.tableFiles ++ run.jsonFile?.toList

/-- A run that succeeds has written its reports, one after the other. -/
theorem writeAll_reportFiles (h : run.script.perform tree = (session, 0)) :
    tree.writeAll run.reportFiles = .ok session.tree := by
  have hall := Script.performAll_of_success h
  obtain ⟨summarized, hsummarized, hjson⟩ := Session.performAll_append_eq.mp hall
  obtain ⟨written, hwritten, hsummary⟩ := Session.performAll_append_eq.mp hsummarized
  obtain ⟨shown, hconsole, htables⟩ := Session.performAll_append_eq.mp hwritten
  have hjson : summarized.tree.writeAll run.jsonFile?.toList = .ok session.tree := by
    have hactions : run.jsonActions = run.jsonFile?.toList.map fun (path, text) =>
        .write "Failed to write JSON report to " path text := by
      unfold jsonActions
      cases run.jsonFile? <;> rfl
    rw [hactions] at hjson
    exact Session.writeAll_of_writes hjson
  have hsummary : summarized.tree = written.tree := by
    unfold summaryActions at hsummary
    split at hsummary
    · exact Session.tree_of_prints hsummary
    · cases hsummary
      rfl
  have htables := Session.writeAll_of_writes htables
  rw [Session.tree_of_prints hconsole] at htables
  exact FileTree.writeAll_append.mpr ⟨written.tree, htables, hsummary ▸ hjson⟩

theorem ofConfig_eq_ok (h : ofConfig config files = .ok run) :
    run.config = config ∧ run.evaluation = .ofTables run.tables run.registry := by
  obtain ⟨registry, -, h⟩ := bind_eq_ok.mp h
  obtain ⟨tables, -, h⟩ := bind_eq_ok.mp h
  cases h
  exact ⟨rfl, rfl⟩

theorem leads_tableFiles (h : run.evaluation = .ofTables run.tables run.registry) :
    (run.tableFiles.map (lead? ·.2)).Sublist [some 105, some 70] := by
  have hlayout : run.evaluation.layout = .ofVariant run.tables.variant := by
    rw [h]
    rfl
  unfold tableFiles
  split
  next summary _ =>
    split_ifs
    · rw [List.map_cons, List.map_singleton, Evaluation.lead?_resultLines hlayout,
        summary.lead?_lines]
    · exact List.nil_sublist _
  next => exact List.nil_sublist _

theorem leads_jsonFile (run : Run) : (run.jsonFile?.toList.map (lead? ·.2)).Sublist [some 123] := by
  unfold jsonFile?
  cases run.config.output.json? with
  | none => exact List.nil_sublist _
  | some path =>
    show [lead? (JsonValue.object _).text].Sublist _
    rw [JsonValue.lead?_object]

/-- No two reports of a run have the same content. -/
theorem nodup_encode_reportFiles (h : run.evaluation = .ofTables run.tables run.registry) :
    (run.reportFiles.map fun file => Utf8.encode file.2.toList).Nodup := by
  have hleads : (run.reportFiles.map (lead? ·.2)).Sublist ([some 105, some 70] ++ [some 123]) := by
    rw [reportFiles, List.map_append]
    exact (leads_tableFiles h).append run.leads_jsonFile
  refine List.Nodup.of_map List.head? ?_
  rw [List.map_map]
  exact hleads.nodup (by decide)

/-- Result and summary of a run have different paths, if the configuration was validated. -/
theorem nodup_parts_tableFiles (hvalid : run.config.validate = .ok ()) :
    (run.tableFiles.map fun file => Path.parts file.1).Nodup := by
  obtain ⟨_, -, hvalid⟩ := bind_eq_ok.mp hvalid
  obtain ⟨_, -, hvalid⟩ := bind_eq_ok.mp hvalid
  obtain ⟨_, -, hvalid⟩ := bind_eq_ok.mp hvalid
  unfold RunConfig.checkOutput at hvalid
  unfold tableFiles
  split
  next =>
    split_ifs with hwrite
    · split_ifs at hvalid with hsame
      rw [hwrite, Bool.true_and, Path.same, beq_iff_eq] at hsame
      simpa using hsame
    · exact List.nodup_nil
  next => exact List.nodup_nil

/-- The reports of a run that succeeds are all kept, if and only if their paths name different
places. For plain paths it suffices that the JSON document has another path than the tables. -/
theorem reports_held_iff {base : RunConfig} {overrides : Overrides}
    (hconfig : base.complete overrides = .ok config) (hrun : ofConfig config files = .ok run)
    (hexit : run.script.perform tree = (session, 0)) :
    ((∀ report ∈ run.reportFiles, session.tree.Holds report) ↔
      (run.reportFiles.map fun report => tree.filePlace report.1).Nodup) ∧
    ((∀ report ∈ run.reportFiles, Path.IsPlain report.1) →
      (∀ table ∈ run.tableFiles, ∀ json ∈ run.jsonFile?, Path.same table.1 json.1 = false) →
      ∀ report ∈ run.reportFiles, session.tree.Holds report) := by
  obtain ⟨hsame, hevaluation⟩ := ofConfig_eq_ok hrun
  have hwritten := writeAll_reportFiles hexit
  refine ⟨FileTree.forall_holds_iff hwritten (nodup_encode_reportFiles hevaluation), ?_⟩
  intro hplain hjson
  have hvalid : run.config.validate = .ok () := by
    obtain ⟨_, hvalid, hsettings⟩ := bind_eq_ok.mp hconfig
    cases hsettings
    rw [hsame]
    exact hvalid
  have hparts : (run.reportFiles.map fun file => Path.parts file.1).Nodup := by
    rw [reportFiles, List.map_append, List.nodup_append]
    refine ⟨nodup_parts_tableFiles hvalid, ?_, ?_⟩
    · cases run.jsonFile? <;> simp
    · rintro _ htable _ hdocument rfl
      obtain ⟨table, htable, hpath⟩ := List.mem_map.mp htable
      obtain ⟨json, hdocument, hsamePath⟩ := List.mem_map.mp hdocument
      refine absurd (hjson table htable json (Option.mem_toList.mp hdocument)) ?_
      rw [Path.same, hpath, hsamePath, beq_self_eq_true]
      decide
  refine FileTree.holds_of_nodup hwritten (List.pairwise_map.mpr ?_)
  refine (List.pairwise_map.mp hparts).imp_of_mem fun {a b} ha hb hne heq => hne ?_
  obtain ⟨place, hplace⟩ := (FileTree.filePlace_writeAll hwritten).2 a ha
  exact (hplain a ha).parts_eq (hplain b hb) hplace (heq ▸ hplace)

/-- The configuration of a run in three phases with one node, and a JSON document in some file. -/
def singleConfig (json : String) : RunConfig :=
  { RunConfig.standard with
    variant := .hkV6
    nodes? := some ⟨⟨1, none⟩, []⟩
    output := { OutputConfig.standard with json? := some json } }

/-- A working directory with the log of this node. -/
def singleTree : FileTree :=
  .ofFiles ["work".toList] [("log-1.txt", Utf8.encode "[HK-P: 1] ps 3 |\n".toList)]

theorem reports_of_singleConfig :
    ∃ run session,
      (singleConfig "report.json").complete default = .ok (singleConfig "report.json") ∧
      ofConfig (singleConfig "report.json") singleTree.read = .ok run ∧
      run.script.perform singleTree = (session, 0) ∧
      run.reportFiles.map (·.1) = ["result.txt", "summary.txt", "report.json"] ∧
      ∀ report ∈ run.reportFiles, session.tree.Holds report := by
  have hconfig : (singleConfig "report.json").complete default =
      .ok (singleConfig "report.json") := by decide +kernel
  have hok : (ofConfig (singleConfig "report.json") singleTree.read).toOption.map (fun run =>
      ((run.script.perform singleTree).2, run.reportFiles.map (·.1))) =
      some (0, ["result.txt", "summary.txt", "report.json"]) := by decide +kernel
  obtain ⟨run, hrun, hreports⟩ := exists_eq_ok_of_toOption_map hok
  obtain ⟨hexit, hpaths⟩ := Prod.mk.inj hreports
  rcases hperform : run.script.perform singleTree with ⟨session, code⟩
  obtain rfl : code = 0 := by rwa [hperform] at hexit
  refine ⟨run, session, hconfig, hrun, hperform, hpaths, ?_⟩
  refine (reports_held_iff hconfig hrun hperform).1.mpr ?_
  have hplaces : ((run.reportFiles.map (·.1)).map singleTree.filePlace).Nodup := by
    rw [hpaths]
    decide +kernel
  rwa [List.map_map] at hplaces

/-- A JSON document in the file of the result is accepted, and the result is lost. -/
theorem result_lost_under_json :
    ∃ run session,
      (singleConfig "result.txt").complete default = .ok (singleConfig "result.txt") ∧
      ofConfig (singleConfig "result.txt") singleTree.read = .ok run ∧
      run.script.perform singleTree = (session, 0) ∧
      ∃ report ∈ run.reportFiles, ¬ session.tree.Holds report := by
  have hok : (ofConfig (singleConfig "result.txt") singleTree.read).toOption.map (fun run =>
      ((run.script.perform singleTree).2, run.reportFiles.map (·.1))) =
      some (0, ["result.txt", "summary.txt", "result.txt"]) := by decide +kernel
  obtain ⟨run, hrun, hreports⟩ := exists_eq_ok_of_toOption_map hok
  obtain ⟨hexit, hpaths⟩ := Prod.mk.inj hreports
  rcases hperform : run.script.perform singleTree with ⟨session, code⟩
  obtain rfl : code = 0 := by rwa [hperform] at hexit
  refine ⟨run, session, by decide +kernel, hrun, hperform, ?_⟩
  by_contra! hheld
  have hplaces := (FileTree.forall_holds_iff (writeAll_reportFiles hperform)
    (nodup_encode_reportFiles (ofConfig_eq_ok hrun).2)).mp hheld
  have hnodup : ["result.txt", "summary.txt", "result.txt"].Nodup := by
    rw [← hpaths]
    refine List.Nodup.of_map singleTree.filePlace ?_
    rwa [List.map_map]
  exact absurd hnodup (by decide)

/-- Spellings of one place, also from the root directory or through the directory above, are
different paths for the validation. -/
example : ∀ path ∈ ["./result.txt", "/work/result.txt", "../work/result.txt"],
    Path.same path "result.txt" = false ∧
      singleTree.filePlace path = .ok ["work".toList, "result.txt".toList] ∧
      singleTree.filePlace "result.txt" = .ok ["work".toList, "result.txt".toList] := by
  decide +kernel

end Run

end MeshLog
