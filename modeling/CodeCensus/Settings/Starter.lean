/-!
# The starting settings document

A settings document that says what every setting is for, with the default values.

Contents: `starterDocument`.
-/

namespace CodeCensus

/-- A rule between sections. -/
def starterRule : String := "# " ++ String.ofList (List.replicate 77 '=')

/-- The lines of the starting document. -/
def starterLines : List String :=
  [starterRule,
    "# Codebase Audit Configuration",
    starterRule,
    "# Thresholds for duplicate detection and code metrics.",
    "#",
    "# Use with:",
    "#   codebase-audit duplicates . --config this_file.yaml",
    "#   codebase-audit metrics . --config this_file.yaml",
    "#",
    "# Values given with --threshold KEY=VALUE on the command line win over",
    "# the values in this file.",
    "#",
    "# The directory skip-list and the language tables are fixed and cannot be",
    "# configured here.",
    starterRule,
    "",
    starterRule,
    "# DUPLICATE DETECTION",
    starterRule,
    "duplicates:",
    "  # Minimum consecutive code lines for a block (also the minimum file length)",
    "  minLines: 5",
    "",
    "  # Jaccard similarity (0.0 - 1.0) at or above which two files or blocks",
    "  # are reported as similar",
    "  similarityThreshold: 0.8",
    "",
    "  # Files and blocks with fewer tokens are not compared for similarity",
    "  minTokens: 10",
    "",
    "  # Files larger than this many bytes are skipped",
    "  maxFileSize: 1048576",
    "",
    starterRule,
    "# CODE METRICS",
    starterRule,
    "metrics:",
    "  # A file is \"large\" above either limit, \"very large\" above the higher one",
    "  largeFileLines: 500",
    "  veryLargeFileLines: 1000",
    "  largeFileSizeKB: 100",
    "  veryLargeFileSizeKB: 500",
    "",
    "  # Approximate cyclomatic complexity per file",
    "  highComplexity: 10",
    "  veryHighComplexity: 20",
    "",
    starterRule,
    "# RUN CONTROLS",
    starterRule,
    "run:",
    "  # Worker threads for per-file analysis and pair scans (default: CPU count)",
    "  workers:",
    "",
    "  # Seconds allowed for similarity comparisons; the report is marked",
    "  # truncated when the limit is hit (default: unlimited)",
    "  timeout:",
    "",
    "  # Skip file/block pairs whose token-set sizes already rule them out",
    "  pruneCandidates: true",
    ""]

/-- The starting document. -/
def starterDocument : String := String.intercalate "\n" starterLines

end CodeCensus
