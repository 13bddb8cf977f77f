import CodeCensus.Proofs.SuccessfulRuns
import CodeCensus.Proofs.TemplateViews

/-!
# Summaries show no details

With a summary only, a report is shown by its workspace, its figures and its recommendations. The sections that name
files, groups or languages stand behind a test that fails then. So two reports that agree on what is shown have
the same text, whatever they hold besides. A failed analysis is shown by its workspace and its error, and the
rest of the template is not reached.

Both follow from a look at the built-in templates: their trees are checked against what two such reports have in
common. A report may also hold too little to be shown. A metrics report without a number of functions has no
text, so nothing is lost where reports agree on having none.

## Contents
- `Value.reach?`, `Value.AgreeOn`, `Command.shownPaths` — what two reports have in common;
- `FileSystem.UsesBuiltin`, `FileSystem.reportText?` — a report with the built-in template;
- `Command.tree` and its checks — the built-in templates against what is known of reports;
- `fieldOf_value`, `eval_reach` — dotted names in a report;
- `summary_hides_details` — reports that agree on what is shown have the same text.
-/

namespace CodeCensus

open Template FileSystem

/-! ## What reports have in common -/

/-- The value that names lead to, one field after another. -/
def Value.reach? (v : Value) : List String → Option Value
  | [] => some v
  | name :: names => (v.get? name).bind fun inner => inner.reach? names

/-- The values have the same under each of the paths, or nothing. -/
def Value.AgreeOn (paths : List (List String)) (v w : Value) : Prop := ∀ path ∈ paths, v.reach? path = w.reach? path

/-- The fields that a summary of any report shows. -/
def shownFields : List String := ["success", "error", "workspace", "truncated", "summary", "recommendations"]

/-- What a summary shows of the complexity. -/
def shownComplexity : List String := ["totalFunctions", "averageComplexity"]

/-- What a summary shows of a report. -/
def Command.shownPaths (command : Command) : List (List String) :=
  shownFields.map (fun name => [name]) ++
    match command with
    | .duplicates => []
    | .metrics => shownComplexity.map fun name => ["complexity", name]

/-- The value is the report of a completed analysis. -/
def Command.Reports : Command → Value → Prop
  | .duplicates, report => ∃ r : DuplicateReport, report = r.toValue
  | .metrics, report => ∃ r : MetricsReport, report = r.toValue

namespace FileSystem

/-- The built-in template is used: the user has no directory of templates, or none of that name in it. -/
def UsesBuiltin (fs : FileSystem) (directory : Option Path) (name : String) : Prop :=
  ∃ notices found, fs.templateDirectory directory = .ok (notices, found) ∧
    (found.bind fun d => fs.templateBytes? d name) = none

/-- The text of a report, if it can be rendered. -/
def reportText? (fs : FileSystem) (directory : Option Path) (command : Command) (summaryOnly : Bool)
    (report : Value) : Option String :=
  (fs.renderReport command.name report summaryOnly directory).2.toOption

end FileSystem

/-! ## The built-in templates -/

/-- The built-in template of a command. -/
def Command.template : Command → List Part
  | .duplicates => duplicatesTemplate
  | .metrics => metricsTemplate

/-- The tree of the built-in template. -/
def Command.tree (command : Command) : List Piece := (buildTree command.template).toOption.getD []

theorem Command.buildTree_template (command : Command) : buildTree command.template = .ok command.tree := by
  have hbuilt : (buildTree command.template).toOption.isSome = true := by cases command <;> decide
  unfold Command.tree
  cases htree : buildTree command.template with
  | ok pieces => rfl
  | error fault => simp [htree, Except.toOption] at hbuilt

theorem FileSystem.reportText?_eq {fs : FileSystem} {directory : Option Path} {command : Command}
    (h : fs.UsesBuiltin directory (templateName command.name)) (summaryOnly : Bool) (report : Value) :
    fs.reportText? directory command summaryOnly report =
      (renderPieces (reportScope (templateName command.name) report summaryOnly) command.tree).toOption := by
  obtain ⟨notices, found, hdirectory, hnone⟩ := h
  have hbuiltin : builtinTemplate (templateName command.name) = .ok command.template := by cases command <;> rfl
  have hfound : fs.findTemplate found (templateName command.name) = .ok command.tree := by
    unfold findTemplate
    rw [hnone]
    simp [hbuiltin, command.buildTree_template, bind, Except.bind, Except.mapError]
  unfold reportText? renderReport
  rw [hdirectory]
  dsimp only
  rw [hfound]
  dsimp only
  cases renderPieces (reportScope (templateName command.name) report summaryOnly) command.tree <;> rfl

/-! ## Dotted names in a report -/

/-- The kinds of values. -/
def valueKinds : List Kind :=
  [.null, .bool, .int, .float, .text, .bytes, .date, .moment, .list, .tuple, .map, .set]

theorem ofValue_mem (v : Value) : Kind.ofValue v ∈ valueKinds := by
  cases v <;> simp [valueKinds, Kind.ofValue]

/-- No value has a member of that name. -/
def IsPlain (name : String) : Prop := ∀ k ∈ valueKinds, k.member? name = none

instance (name : String) : Decidable (IsPlain name) := inferInstanceAs (Decidable (∀ k ∈ valueKinds, _ = none))

theorem isPlain_of_shown : ∀ name ∈ shownFields ++ "complexity" :: shownComplexity, IsPlain name := by
  decide

/-- An entry of a value is reached by its name, unless the value has a member of that name. -/
theorem fieldOf_value {v : Value} {name : String} (hname : (Kind.ofValue v).member? name = none) :
    fieldOf (.value v) name = .ok (((v.get? name).map Thing.value).getD (.absent (.value v) (.text name))) := by
  simp [fieldOf, Thing.attribute?, Thing.plainAttribute?, Thing.kindOf, hname, present, Thing.isAbsent, Thing.entry?,
    bind, Except.bind, pure, Except.pure]

theorem IsPlain.fieldOf_eq {name : String} (h : IsPlain name) (v : Value) :
    fieldOf (.value v) name = .ok (((v.get? name).map Thing.value).getD (.absent (.value v) (.text name))) :=
  fieldOf_value (h _ (ofValue_mem v))

/-- Values that have the same under a name, or nothing, are alike there. -/
theorem IsPlain.outcomesAlike {name : String} (h : IsPlain name) {v w : Value} (hsame : v.get? name = w.get? name) :
    OutcomesAlike (fieldOf (.value v) name) (fieldOf (.value w) name) := by
  refine .inl ⟨_, _, h.fieldOf_eq v, h.fieldOf_eq w, ?_⟩
  rw [hsame]
  cases w.get? name with
  | none => exact .inr ⟨rfl, rfl⟩
  | some inner => exact .inl rfl

/-- Names that lead to a value stand for it. -/
theorem eval_reach {s : Scope} {e : Expr} {report v : Value} {path : List String}
    (hplain : ∀ name ∈ path, Kind.map.member? name = none) (he : e.eval s = .ok (.value report))
    (hpath : report.reach? path = some v) : (path.foldl Expr.field e).eval s = .ok (.value v) := by
  induction path generalizing e report with
  | nil =>
      obtain rfl := Option.some.inj hpath
      exact he
  | cons name names ih =>
      obtain ⟨inner, hinner, hrest⟩ := Option.bind_eq_some_iff.mp hpath
      -- only a map has entries
      have hkind : Kind.ofValue report = .map := by
        cases report with
        | map entries => rfl
        | _ => cases hinner
      have hname : (Kind.ofValue report).member? name = none := hkind ▸ hplain name List.mem_cons_self
      refine ih (fun n hn => hplain n (List.mem_cons_of_mem name hn)) ?_ hrest
      rw [Expr.eval, he, ok_bind, fieldOf_value hname, hinner]
      rfl

/-! ## What is known of reports -/

/-- What two reports have in common that have the same under some paths, when a summary is wanted. -/
def summaryView (paths : List (List String)) : View where
  hidden := ["report"]
  shared := paths.map fun path => "report" :: path
  facts := [(["summary_only"], .truth true)]

/-- What two reports of failed analyses have in common, whatever is wanted. -/
def failureView : View where
  hidden := ["report", "summary_only"]
  shared := [["report", "workspace"], ["report", "error"]]
  facts := [(["report", "success"], .truth false), (["report", "workspace"], .there), (["report", "error"], .there)]

/-- What is known of a metrics report that has no number of functions. -/
def uncountedView : View where
  hidden := []
  shared := []
  facts := [(["report", "success"], .truth true), (["report", "complexity", "totalFunctions"], .missing)]

/-- What is known of the report of a completed analysis. -/
def Command.contents (command : Command) : List (List String × Fact) :=
  [(["success"], .truth true), (["workspace"], .there), (["recommendations"], .listing)] ++
    match command with
    | .duplicates =>
      [(["truncated"], .there), (["summary", "totalFiles"], .whole), (["summary", "analyzedFiles"], .whole),
        (["summary", "duplicateBlocks"], .whole), (["summary", "duplicateLines"], .whole),
        (["summary", "duplicatePercentage"], .there), (["summary", "affectedFiles"], .whole)]
    | .metrics =>
      [(["summary", "totalFiles"], .whole), (["summary", "totalLines"], .whole),
        (["summary", "totalCodeLines"], .whole), (["summary", "totalCommentLines"], .whole),
        (["summary", "totalBlankLines"], .whole), (["summary", "totalSizeBytes"], .whole),
        (["summary", "largeFiles"], .there), (["summary", "veryLargeFiles"], .there),
        (["complexity", "totalFunctions"], .whole), (["complexity", "averageComplexity"], .there)]

/-- The same as a view, when a summary is wanted. -/
def Command.completedView (command : Command) : View where
  hidden := []
  shared := []
  facts := (["summary_only"], .truth true) :: command.contents.map fun e => ("report" :: e.1, e.2)

/-- What going over the built-in tree of a command finds out. -/
structure Command.TreeChecked (command : Command) : Prop where
  summary_clear : piecesClear (summaryView command.shownPaths) command.tree = true
  failure_clear : piecesClear failureView command.tree = true
  failure_backed : piecesBacked failureView command.tree = true
  completed_backed : piecesBacked command.completedView command.tree = true
  completed_plain : ∀ e ∈ command.contents, ∀ name ∈ e.1, Kind.map.member? name = none
  uncounted_stops : command = .metrics → piecesStop uncountedView command.tree = true

theorem Command.treeChecked (command : Command) : command.TreeChecked := by
  cases command <;> constructor <;> decide +kernel

/-! ## Summaries of two reports -/

section TwoReports

variable {name : String} {r r' : Value} {b b' : Bool}

/-- Reports that have the same in a field are alike there. -/
theorem outcomesAlike_field {field : String} (hfield : field ∈ shownFields)
    (h : r.reach? [field] = r'.reach? [field]) :
    OutcomesAlike ((dotted ["report", field]).eval (reportScope name r b))
      ((dotted ["report", field]).eval (reportScope name r' b')) := by
  have hsame : r.get? field = r'.get? field := by simpa [Value.reach?] using h
  exact (isPlain_of_shown field (List.mem_append_left _ hfield)).outcomesAlike hsame

/-- What a complexity has in a field is what the report has there. -/
theorem eval_complexity {c : Value} (hc : r.get? "complexity" = some c) (field : String) :
    (dotted ["report", "complexity", field]).eval (reportScope name r b) = fieldOf (.value c) field := by
  have hcomplexity := (isPlain_of_shown "complexity" (by decide)).fieldOf_eq r
  rw [hc] at hcomplexity
  show (fieldOf (.value r) "complexity" >>= fun x => fieldOf x field) = _
  rw [hcomplexity]
  rfl

/-- Reports that both have a complexity are alike where they have the same in it. -/
theorem outcomesAlike_complexity {c c' : Value} (hc : r.get? "complexity" = some c)
    (hc' : r'.get? "complexity" = some c') {field : String} (hfield : field ∈ shownComplexity)
    (h : r.reach? ["complexity", field] = r'.reach? ["complexity", field]) :
    OutcomesAlike ((dotted ["report", "complexity", field]).eval (reportScope name r b))
      ((dotted ["report", "complexity", field]).eval (reportScope name r' b')) := by
  have hsame : c.get? field = c'.get? field := by simpa [Value.reach?, hc, hc'] using h
  have hplain := isPlain_of_shown field (List.mem_append_right _ (List.mem_cons_of_mem _ hfield))
  rw [eval_complexity hc, eval_complexity hc']
  exact hplain.outcomesAlike hsame

theorem fits_summaryView (paths : List (List String)) (name : String) (r : Value) :
    (summaryView paths).Fits (reportScope name r true) := by
  intro path fact hfact
  obtain ⟨rfl, rfl⟩ := Prod.mk.inj (List.mem_singleton.mp hfact)
  exact ⟨_, rfl, rfl⟩

theorem agrees_summaryView {paths : List (List String)}
    (hshared : ∀ path ∈ paths, OutcomesAlike ((dotted ("report" :: path)).eval (reportScope name r true))
      ((dotted ("report" :: path)).eval (reportScope name r' true))) :
    (summaryView paths).Agrees (reportScope name r true) (reportScope name r' true) where
  same x hx := by
    have hrest : ∀ r : Value, Scope.thing (reportScope name r true) x =
        Scope.thing (("summary_only", .value (.bool true)) :: commonScope name) x := fun r =>
      @Scope.thing_append [("report", .value r)] x hx _
    rw [hrest, hrest]
  shared path hpath := by
    obtain ⟨inner, hinner, rfl⟩ := List.mem_map.mp hpath
    exact hshared inner hinner

/-! ## Failed analyses -/

theorem eval_success (hsucceeded : succeeded r = b') :
    ∃ x, (dotted ["report", "success"]).eval (reportScope name r b) = .ok x ∧ holds x = b' := by
  have hfield := (isPlain_of_shown "success" (by decide)).fieldOf_eq r
  refine ⟨_, hfield, ?_⟩
  unfold succeeded at hsucceeded
  cases hget : r.get? "success" <;> rw [hget] at hsucceeded <;> exact hsucceeded

theorem fits_failureView (hfailed : succeeded r = false) : failureView.Fits (reportScope name r b) := by
  intro path fact hfact
  simp only [failureView, List.mem_cons, Prod.mk.injEq, List.not_mem_nil, or_false] at hfact
  rcases hfact with ⟨rfl, rfl⟩ | ⟨rfl, rfl⟩ | ⟨rfl, rfl⟩
  · exact eval_success hfailed
  · exact ⟨_, (isPlain_of_shown "workspace" (by decide)).fieldOf_eq r⟩
  · exact ⟨_, (isPlain_of_shown "error" (by decide)).fieldOf_eq r⟩

theorem agrees_failureView (h : Value.AgreeOn [["workspace"], ["error"]] r r') :
    failureView.Agrees (reportScope name r b) (reportScope name r' b') where
  same x hx := by
    have hrest : ∀ (r : Value) (b : Bool), Scope.thing (reportScope name r b) x =
        Scope.thing (commonScope name) x := fun r b =>
      @Scope.thing_append [("report", .value r), ("summary_only", .value (.bool b))] x hx _
    rw [hrest, hrest]
  shared path hpath := by
    simp only [failureView, List.mem_cons, List.not_mem_nil, or_false] at hpath
    rcases hpath with rfl | rfl <;> exact outcomesAlike_field (by decide) (h _ (by simp))

/-- A failed analysis has a text, which tells its workspace and its error only. -/
theorem renderTree_failed {command : Command} (hr : succeeded r = false) (hr' : succeeded r' = false)
    (h : Value.AgreeOn [["workspace"], ["error"]] r r') :
    ∃ text, (renderPieces (reportScope name r b) command.tree).toOption = some text ∧
      (renderPieces (reportScope name r' b') command.tree).toOption = some text := by
  have hchecked := command.treeChecked
  have hfits : failureView.Fits (reportScope name r b) := fits_failureView hr
  have hfits' : failureView.Fits (reportScope name r' b') := fits_failureView hr'
  obtain ⟨text, htext⟩ := renderPieces_backed command.tree hfits hchecked.failure_backed
  have hsame := renderPieces_clear command.tree (agrees_failureView h) hfits hfits' hchecked.failure_clear
  rw [htext] at hsame ⊢
  exact ⟨text, rfl, hsame.symm⟩

/-! ## Metrics without a number of functions -/

theorem missing_totalFunctions (hnone : r.reach? ["complexity", "totalFunctions"] = none) :
    Fact.missing.HoldsOf ((dotted ["report", "complexity", "totalFunctions"]).eval (reportScope name r b)) := by
  intro x hx
  cases hget : r.get? "complexity" with
  | none =>
      have hcomplexity := (isPlain_of_shown "complexity" (by decide)).fieldOf_eq r
      have heval : (dotted ["report", "complexity", "totalFunctions"]).eval (reportScope name r b) =
          (fieldOf (.value r) "complexity" >>= fun x => fieldOf x "totalFunctions") := rfl
      rw [heval, hcomplexity, ok_bind, hget] at hx
      obtain ⟨fault, hfault⟩ := fieldOf_of_isAbsent (x := .absent (.value r) (.text "complexity")) rfl
        (show Kind.absent.member? "totalFunctions" = none by decide)
      cases hfault.symm.trans hx
  | some c =>
      have hc : c.get? "totalFunctions" = none := by simpa [Value.reach?, hget] using hnone
      have hfield := (isPlain_of_shown "totalFunctions" (by decide)).fieldOf_eq c
      rw [hc] at hfield
      rw [eval_complexity hget] at hx
      cases hfield.symm.trans hx
      rfl

/-- There is no summary of metrics without a number of functions. -/
theorem renderTree_uncounted (hr : succeeded r = true) (hnone : r.reach? ["complexity", "totalFunctions"] = none) :
    (renderPieces (reportScope name r b) Command.metrics.tree).toOption = none := by
  have hfits : uncountedView.Fits (reportScope name r b) := by
    intro path fact hfact
    simp only [uncountedView, List.mem_cons, Prod.mk.injEq, List.not_mem_nil, or_false] at hfact
    rcases hfact with ⟨rfl, rfl⟩ | ⟨rfl, rfl⟩
    · exact eval_success hr
    · exact missing_totalFunctions hnone
  exact renderPieces_stops hfits _ (Command.metrics.treeChecked.uncounted_stops rfl)

/-! ## Reports that agree -/

theorem Value.AgreeOn.succeeded_eq {paths : List (List String)} (h : Value.AgreeOn paths r r')
    (hmem : ["success"] ∈ paths) : succeeded r = succeeded r' := by
  have hsame : r.get? "success" = r'.get? "success" := by simpa [Value.reach?] using h _ hmem
  unfold succeeded
  rw [hsame]

theorem Command.mem_shownPaths {command : Command} {field : String} (hfield : field ∈ shownFields) :
    [field] ∈ command.shownPaths :=
  List.mem_append_left _ (List.mem_map.mpr ⟨field, hfield, rfl⟩)

/-- Reports that agree on what is shown are alike at it, if a number of functions is there. -/
theorem outcomesAlike_shown {command : Command} (h : Value.AgreeOn command.shownPaths r r')
    (hcounted : command = .metrics → r.reach? ["complexity", "totalFunctions"] ≠ none) {path : List String}
    (hpath : path ∈ command.shownPaths) :
    OutcomesAlike ((dotted ("report" :: path)).eval (reportScope name r b))
      ((dotted ("report" :: path)).eval (reportScope name r' b')) := by
  rcases List.mem_append.mp hpath with houter | hinner
  · obtain ⟨field, hfield, rfl⟩ := List.mem_map.mp houter
    exact outcomesAlike_field hfield (h _ hpath)
  · cases command with
    | duplicates => cases hinner
    | metrics =>
        obtain ⟨field, hfield, rfl⟩ := List.mem_map.mp hinner
        obtain ⟨v, hv⟩ := Option.ne_none_iff_exists'.mp (hcounted rfl)
        have hv' : r'.reach? ["complexity", "totalFunctions"] = some v :=
          (h ["complexity", "totalFunctions"] (by decide)) ▸ hv
        obtain ⟨c, hc, _⟩ := Option.bind_eq_some_iff.mp hv
        obtain ⟨c', hc', _⟩ := Option.bind_eq_some_iff.mp hv'
        exact outcomesAlike_complexity hc hc' hfield (h _ hpath)

/-- **Reports that agree on what is shown have the same summary**, or none. -/
theorem renderTree_agree {command : Command} (h : Value.AgreeOn command.shownPaths r r') :
    (renderPieces (reportScope name r true) command.tree).toOption =
      (renderPieces (reportScope name r' true) command.tree).toOption := by
  by_cases hcounted : command = .metrics → r.reach? ["complexity", "totalFunctions"] ≠ none
  · have hagrees : (summaryView command.shownPaths).Agrees (reportScope name r true) (reportScope name r' true) :=
      agrees_summaryView fun path hpath => outcomesAlike_shown h hcounted hpath
    exact renderPieces_clear command.tree hagrees (fits_summaryView _ name r) (fits_summaryView _ name r')
      command.treeChecked.summary_clear
  · -- both lack a number of functions: the analyses have failed, or there is no summary of either
    obtain ⟨rfl, hnone⟩ := Classical.not_imp.mp hcounted
    have hnone := not_not.mp hnone
    have hnone' : r'.reach? ["complexity", "totalFunctions"] = none :=
      (h ["complexity", "totalFunctions"] (by decide)) ▸ hnone
    have hsucceeded := h.succeeded_eq (Command.mem_shownPaths (by decide))
    cases hr : succeeded r with
    | true => rw [renderTree_uncounted hr hnone, renderTree_uncounted (hsucceeded ▸ hr) hnone']
    | false =>
        have hfew : Value.AgreeOn [["workspace"], ["error"]] r r' := by
          intro path hpath
          simp only [List.mem_cons, List.not_mem_nil, or_false] at hpath
          rcases hpath with rfl | rfl <;> exact h _ (Command.mem_shownPaths (by decide))
        obtain ⟨text, htext, htext'⟩ := @renderTree_failed name r r' true true .metrics hr (hsucceeded ▸ hr) hfew
        rw [htext, htext']

end TwoReports

/-! ## Completed analyses -/

theorem whole_int (n : Int) : Fact.whole.HoldsOf (.ok (.value (.int n))) := ⟨_, n, rfl, rfl⟩

theorem Command.Reports.contents {command : Command} {report : Value} (h : command.Reports report) :
    ∀ e ∈ command.contents, ∃ v, report.reach? e.1 = some v ∧ e.2.HoldsOf (.ok (.value v)) := by
  cases command with
  | duplicates =>
      obtain ⟨r, rfl⟩ := h
      simp only [Command.contents, List.cons_append, List.nil_append, List.forall_mem_cons]
      refine ⟨⟨.bool true, ?_, _, rfl, rfl⟩, ⟨.text r.workspace.text, ?_, _, rfl⟩,
        ⟨.texts r.advice, ?_, _, _, rfl, rfl⟩, ⟨.bool r.truncated, ?_, _, rfl⟩,
        ⟨.int r.summary.totalFiles, ?_, whole_int _⟩, ⟨.nat r.summary.analyzedFiles, ?_, whole_int _⟩,
        ⟨.nat r.summary.duplicateBlocks, ?_, whole_int _⟩, ⟨.int r.summary.duplicateLines, ?_, whole_int _⟩,
        ⟨r.summary.percentage.toValue, ?_, _, rfl⟩, ⟨.nat r.summary.affectedFiles, ?_, whole_int _⟩,
        fun _ hnil => absurd hnil List.not_mem_nil⟩
      all_goals simp [Value.reach?, DuplicateReport.toValue, DuplicateSummary.toValue]
  | metrics =>
      obtain ⟨r, rfl⟩ := h
      simp only [Command.contents, List.cons_append, List.nil_append, List.forall_mem_cons]
      refine ⟨⟨.bool true, ?_, _, rfl, rfl⟩, ⟨.text r.workspace.text, ?_, _, rfl⟩,
        ⟨.texts r.advice, ?_, _, _, rfl, rfl⟩,
        ⟨.nat r.aggregate.summary.totalFiles, ?_, whole_int _⟩, ⟨.int r.aggregate.summary.totalLines, ?_, whole_int _⟩,
        ⟨.int r.aggregate.summary.totalCodeLines, ?_, whole_int _⟩,
        ⟨.int r.aggregate.summary.totalCommentLines, ?_, whole_int _⟩,
        ⟨.int r.aggregate.summary.totalBlankLines, ?_, whole_int _⟩,
        ⟨.int r.aggregate.summary.totalSizeBytes, ?_, whole_int _⟩,
        ⟨.nat r.aggregate.summary.largeFiles, ?_, _, rfl⟩, ⟨.nat r.aggregate.summary.veryLargeFiles, ?_, _, rfl⟩,
        ⟨.int r.complexity.totalFunctions, ?_, whole_int _⟩, ⟨r.complexity.average.toValue, ?_, _, rfl⟩,
        fun _ hnil => absurd hnil List.not_mem_nil⟩
      all_goals simp [Value.reach?, MetricsReport.toValue, Summary.toValue, Complexity.toValue]

/-- A completed analysis has a summary. -/
theorem renderTree_completed {command : Command} {report : Value} (h : command.Reports report) (name : String) :
    ∃ text, renderPieces (reportScope name report true) command.tree = .ok text := by
  have hchecked := command.treeChecked
  have hfits : command.completedView.Fits (reportScope name report true) := by
    intro path fact hfact
    rcases List.mem_cons.mp hfact with hfirst | hcontent
    · obtain ⟨rfl, rfl⟩ := Prod.mk.inj hfirst
      exact ⟨_, rfl, rfl⟩
    · obtain ⟨e, he, heq⟩ := List.mem_map.mp hcontent
      obtain ⟨rfl, rfl⟩ := Prod.mk.inj heq
      obtain ⟨v, hv, hfact⟩ := h.contents e he
      have hreport : (Expr.named "report").eval (reportScope name report true) = .ok (.value report) := rfl
      have heval := eval_reach (hchecked.completed_plain e he) hreport hv
      exact heval ▸ hfact
  exact renderPieces_backed command.tree hfits hchecked.completed_backed

/-- **With a summary only, a report shows no details.** With the built-in template two reports that agree on what a
    summary shows have the same text, or none, whatever else is in them. A failed analysis has a text that tells its
    workspace and its error only, with a summary or without. And every completed analysis has a text. -/
theorem summary_hides_details {fs : FileSystem} {directory : Option Path} {command : Command}
    (hbuiltin : fs.UsesBuiltin directory (templateName command.name)) :
    (∀ r r' : Value, Value.AgreeOn command.shownPaths r r' →
        fs.reportText? directory command true r = fs.reportText? directory command true r') ∧
      (∀ r r' : Value, succeeded r = false → succeeded r' = false →
        Value.AgreeOn [["workspace"], ["error"]] r r' → ∀ b b' : Bool,
          ∃ text, fs.reportText? directory command b r = some text ∧
            fs.reportText? directory command b' r' = some text) ∧
      ∀ r : Value, command.Reports r → ∃ text, fs.reportText? directory command true r = some text := by
  refine ⟨?_, ?_, ?_⟩
  · intro r r' hagree
    rw [reportText?_eq hbuiltin, reportText?_eq hbuiltin]
    exact renderTree_agree hagree
  · intro r r' hr hr' hagree b b'
    rw [reportText?_eq hbuiltin, reportText?_eq hbuiltin]
    exact renderTree_failed hr hr' hagree
  · intro r hreports
    obtain ⟨text, htext⟩ := renderTree_completed hreports (templateName command.name)
    rw [reportText?_eq hbuiltin, htext]
    exact ⟨text, rfl⟩

/-- A search with a group and one without, and two failures of which one is told in short. -/
theorem summary_hides_details_of_group :
    let fs : FileSystem := ⟨.directory [], [], [], []⟩
    let copy (path : String) : Member := ⟨path, 3, .python, none, none⟩
    let group : DuplicateGroup := ⟨.exactFile, copy "a.py", copy "b.py", [], .int 1, 3, none, none⟩
    let r : DuplicateReport := ⟨⟨.root, ["w"]⟩, false, ⟨2, 2, 1, 3, .int 50, 2⟩, [group], [], [], ["Merge."]⟩
    let r' : DuplicateReport := { r with exact := [] }
    let failed := DuplicateReport.failureValue "w" "No such directory"
    let failed' := Value.ofFields [("error", .text "No such directory"), ("workspace", .text "w")]
    fs.UsesBuiltin none (templateName Command.duplicates.name) ∧
      Value.AgreeOn Command.duplicates.shownPaths r.toValue r'.toValue ∧
      (∃ text, fs.reportText? none .duplicates true r.toValue = some text ∧
        fs.reportText? none .duplicates true r'.toValue = some text) ∧
      succeeded failed = false ∧ succeeded failed' = false ∧
      Value.AgreeOn [["workspace"], ["error"]] failed failed' ∧
      ∃ text, fs.reportText? none .duplicates true failed = some text ∧
        fs.reportText? none .duplicates false failed' = some text := by
  intro fs copy group r r' failed failed'
  have hbuiltin : fs.UsesBuiltin none (templateName Command.duplicates.name) := ⟨[], none, rfl, rfl⟩
  have hagree : Value.AgreeOn Command.duplicates.shownPaths r.toValue r'.toValue := by
    simp [Value.AgreeOn, Command.shownPaths, shownFields, Value.reach?, DuplicateReport.toValue, r, r']
  have hfailed : succeeded failed = false := by
    simp [succeeded, failed, DuplicateReport.failureValue, Value.truthy]
  have hfailed' : succeeded failed' = false := by
    simp [succeeded, failed', Value.get?, Value.ofFields, Value.lookup?, Value.sameKey]
  have hfew : Value.AgreeOn [["workspace"], ["error"]] failed failed' := by
    simp [Value.AgreeOn, Value.reach?, failed, failed', DuplicateReport.failureValue]
  obtain ⟨hsummary, hfailure, hcompleted⟩ := summary_hides_details hbuiltin
  obtain ⟨text, htext⟩ := hcompleted r.toValue ⟨r, rfl⟩
  exact ⟨hbuiltin, hagree, ⟨text, htext, hsummary _ _ hagree ▸ htext⟩, hfailed, hfailed', hfew,
    hfailure failed failed' hfailed hfailed' hfew true false⟩

end CodeCensus
