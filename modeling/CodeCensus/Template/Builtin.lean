import CodeCensus.Template.Tree

/-!
# Built-in templates

The templates of the two reports. Each opens with the workspace, then says why the analysis failed or goes
on with the summary, the details unless only a summary is wanted, and the recommendations.

Contents: `duplicatesTemplate`, `metricsTemplate`, `builtinTemplates`.
-/

namespace CodeCensus
namespace Template

/-! ## Parts -/

/-- A variable and the fields after it. -/
def dotted : List String → Expr
  | [] => .constant .null
  | name :: fields => fields.foldl .field (.named name)

/-- A tag that shows a value. -/
def value (names : List String) : Part := .tag false false (.shown (dotted names))

/-- A tag that presents a value. -/
def presented (names : List String) (filter : Filter) : Part :=
  .tag false false (.shown (.filtered (dotted names) filter))

/-- A tag that shows a number with its digits grouped. -/
def count (names : List String) : Part := presented names .grouped

/-- A tag that shows where a member of the group lies. -/
def memberAt (index : Nat) : Part :=
  .tag false false (.shown (.filtered (.item (dotted ["group", "members"]) index) .location))

/-- A tag that opens a branch for a value that counts as true. -/
def whenTrue (names : List String) : Part := .tag false false (.branch false (dotted names))

/-- A tag that opens a branch for a value that counts as false. -/
def whenFalse (names : List String) : Part := .tag false false (.branch true (dotted names))

/-- A tag that opens a loop; blanks after it are dropped. -/
def forEach (name : String) (names : List String) : Part :=
  .tag false true (.loop [name] (dotted names))

/-- The end of a branch. -/
def endWhen : Part := .tag false false .endBranch

/-- The end of a loop. -/
def endEach : Part := .tag false false .endLoop

/-! ## Common sections -/

/-- The title and the workspace. -/
def opening (title : String) : List Part :=
  [.text ("# " ++ title ++ "\n\n**Workspace:** `"), value ["report", "workspace"], .text "`\n\n"]

/-- What is said of a failed analysis, and the start of what is said otherwise. -/
def failureSection : List Part :=
  [.tag false true (.branch true (dotted ["report", "success"])),
    .text "\n**Analysis failed:** ", value ["report", "error"], .text "\n",
    .tag true true .otherwise]

/-- The recommendations, and the end of the template. -/
def closing : List Part :=
  [.text "\n## Recommendations\n\n",
    forEach "item" ["report", "recommendations"],
    .text "\n- ", value ["item"], .text "\n",
    endEach,
    .text "\n",
    .tag true false .endBranch,
    .text "\n"]

/-! ## The duplicate report -/

/-- The summary of a duplicate report. -/
def duplicatesSummary : List Part :=
  [.text "\n",
    whenTrue ["report", "truncated"],
    .text "> Similarity comparisons were stopped early; similar duplicates are incomplete.\n\n",
    .tag false true .endBranch,
    .text "\n## Summary\n\n| Metric | Value |\n|--------|-------|\n| Files found | ",
    count ["report", "summary", "totalFiles"],
    .text " |\n| Files analyzed | ",
    count ["report", "summary", "analyzedFiles"],
    .text " |\n| Duplicate groups | ",
    count ["report", "summary", "duplicateBlocks"],
    .text " |\n| Duplicate lines | ",
    count ["report", "summary", "duplicateLines"],
    .text " |\n| Duplication | ",
    value ["report", "summary", "duplicatePercentage"],
    .text "% |\n| Affected files | ",
    count ["report", "summary", "affectedFiles"],
    .text " |\n"]

/-- The groups of exact duplicates. -/
def exactSection : List Part :=
  [whenTrue ["report", "exactDuplicates"],
    .text "\n## Exact Duplicates\n",
    .tag false false (.loop ["group"] (dotted ["report", "exactDuplicates"])),
    .text "\n### ", value ["loop", "index"], .text ". ", value ["group", "type"],
    .text " (", value ["group", "duplicateLines"], .text " lines)\n\n",
    forEach "member" ["group", "members"],
    .text "\n- `", presented ["member"] .location, .text "`\n",
    endEach,
    .text "\n",
    .tag true false (.branch false (dotted ["group", "content"])),
    .text "\n```\n", value ["group", "content"], .text "\n```\n",
    endWhen,
    .text "\n",
    .tag true false .endLoop,
    .text "\n",
    endWhen]

/-- The pairs of similar duplicates. -/
def similarSection : List Part :=
  [whenTrue ["report", "similarDuplicates"],
    .text ("\n## Similar Duplicates\n\n| Type | Similarity | Lines | First | Second |\n" ++
      "|------|------------|-------|-------|--------|\n"),
    forEach "group" ["report", "similarDuplicates"],
    .text "\n| ", value ["group", "type"],
    .text " | ", presented ["group", "similarity"] .percent,
    .text " | ", value ["group", "duplicateLines"],
    .text " | `", memberAt 0,
    .text "` | `", memberAt 1,
    .text "` |\n",
    endEach,
    .text "\n",
    endWhen]

/-- The template of the duplicate report. -/
def duplicatesTemplate : List Part :=
  opening "Duplicate Code Report" ++ failureSection ++ duplicatesSummary ++
    [whenFalse ["summary_only"], .text "\n"] ++ exactSection ++ [.text "\n"] ++ similarSection ++
    [.text "\n", endWhen] ++ closing

/-! ## The metrics report -/

/-- The summary of a metrics report. -/
def metricsSummary : List Part :=
  [.text "\n## Summary\n\n| Metric | Value |\n|--------|-------|\n| Files | ",
    count ["report", "summary", "totalFiles"],
    .text " |\n| Lines | ",
    count ["report", "summary", "totalLines"],
    .text " |\n| Code lines | ",
    count ["report", "summary", "totalCodeLines"],
    .text " |\n| Comment lines | ",
    count ["report", "summary", "totalCommentLines"],
    .text " |\n| Blank lines | ",
    count ["report", "summary", "totalBlankLines"],
    .text " |\n| Size | ",
    count ["report", "summary", "totalSizeBytes"],
    .text " bytes |\n| Large files | ",
    value ["report", "summary", "largeFiles"],
    .text " |\n| Very large files | ",
    value ["report", "summary", "veryLargeFiles"],
    .text " |\n| Functions | ",
    count ["report", "complexity", "totalFunctions"],
    .text " |\n| Complexity per function | ",
    value ["report", "complexity", "averageComplexity"],
    .text " |\n"]

/-- The table of languages. -/
def languagesSection : List Part :=
  [.text ("\n## Languages\n\n" ++
      "| Language | Files | Lines | Code | Comments | Functions | Classes | Avg complexity |\n" ++
      "|----------|-------|-------|------|----------|-----------|---------|----------------|\n"),
    .tag false true (.loop ["name", "stats"] (.filtered (dotted ["report", "languages"]) .sorted)),
    .text "\n| ", value ["name"],
    .text " | ", value ["stats", "files"],
    .text " | ", count ["stats", "lines"],
    .text " | ", count ["stats", "codeLines"],
    .text " | ", count ["stats", "commentLines"],
    .text " | ", value ["stats", "functions"],
    .text " | ", value ["stats", "classes"],
    .text " | ", value ["stats", "averageComplexity"],
    .text " |\n",
    endEach]

/-- The table of large files. -/
def largeFilesSection : List Part :=
  [whenTrue ["report", "largeFiles"],
    .text ("\n## Large Files\n\n| File | Lines | Size | Reason |\n" ++
      "|------|-------|------|--------|\n"),
    forEach "f" ["report", "largeFiles"],
    .text "\n| `", value ["f", "path"],
    .text "` | ", count ["f", "lines"],
    .text " | ", value ["f", "sizeKB"],
    .text "KB | ", value ["f", "reason"],
    .text " |\n",
    endEach,
    .text "\n",
    endWhen]

/-- The table of complex files. -/
def complexFilesSection : List Part :=
  [whenTrue ["report", "complexity", "highComplexityFiles"],
    .text ("\n## High Complexity Files\n\n| File | Complexity | Functions | Severity |\n" ++
      "|------|------------|-----------|----------|\n"),
    forEach "f" ["report", "complexity", "highComplexityFiles"],
    .text "\n| `", value ["f", "path"],
    .text "` | ", value ["f", "complexity"],
    .text " | ", value ["f", "functions"],
    .text " | ", value ["f", "severity"],
    .text " |\n",
    endEach,
    .text "\n",
    endWhen]

/-- The template of the metrics report. -/
def metricsTemplate : List Part :=
  opening "Code Metrics Report" ++ failureSection ++ metricsSummary ++
    [whenFalse ["summary_only"]] ++ languagesSection ++ [.text "\n"] ++ largeFilesSection ++
    [.text "\n"] ++ complexFilesSection ++ [.text "\n", endWhen] ++ closing

/-- The built-in templates by file name. -/
def builtinTemplates : List (String × List Part) :=
  [("duplicates.md.j2", duplicatesTemplate), ("metrics.md.j2", metricsTemplate)]

end Template
end CodeCensus
