import CodeCensus.Language.Table

/-!
# The two language tables

Duplicate detection knows programming languages only; every other file is left out. Metrics know every
file: markup, data and build files have entries of their own, whole names such as `Makefile` are
recognised, and what is left is `other`. Declaration patterns and complexity keywords belong to
programming languages.

Contents: `duplicateLanguages`, `metricsLanguages`.
-/

namespace CodeCensus

/-- A language of a table with its patterns and, possibly, its profile. -/
structure Registration where
  language : Language
  patterns : List String
  profile : Option Profile := none

/-- The table made by registering languages in order. -/
def LanguageTable.ofRegistrations (fallback : Language) (matchNames : Bool)
    (registrations : List Registration) : LanguageTable :=
  registrations.foldl (fun t r => t.register r.language r.patterns r.profile)
    (.empty fallback matchNames)

/-- A profile with comment marks only. -/
def commentProfile (marks : List String) : Option Profile := some { commentMarks := marks }

/-! ## Duplicate detection -/

namespace DuplicateTable

/-- Comment marks of the languages in the style of C. -/
def cStyle : List String := ["//", "/*", "*/"]

/-- Comment marks of Python: the number sign and both triple quotes. -/
def pythonMarks : List String := ["#", "\x22\x22\x22", "\x27\x27\x27"]

/-- The languages compared for duplication. -/
def registrations : List Registration := [
  ⟨.javascript, [".js", ".jsx", ".ts", ".tsx", ".mjs", ".cjs"],
    commentProfile ["//", "/*", "*/", "/**"]⟩,
  ⟨.python, [".py", ".pyx", ".pyi"], commentProfile pythonMarks⟩,
  ⟨.java, [".java"], commentProfile cStyle⟩,
  ⟨.csharp, [".cs"], commentProfile cStyle⟩,
  ⟨.cpp, [".cpp", ".cc", ".cxx", ".c", ".h", ".hpp"], commentProfile cStyle⟩,
  ⟨.go, [".go"], commentProfile cStyle⟩,
  ⟨.rust, [".rs"], commentProfile cStyle⟩,
  ⟨.php, [".php"], commentProfile ["//", "#", "/*", "*/"]⟩,
  ⟨.ruby, [".rb"], commentProfile ["#"]⟩,
  ⟨.swift, [".swift"], commentProfile cStyle⟩,
  ⟨.kotlin, [".kt", ".kts"], commentProfile cStyle⟩,
  ⟨.scala, [".scala"], commentProfile cStyle⟩]

end DuplicateTable

/-- The table of duplicate detection. -/
def duplicateLanguages : LanguageTable :=
  .ofRegistrations .unknown false DuplicateTable.registrations

/-! ## Metrics -/

namespace MetricsTable

/-- Comment marks with block comments, documentation comments and their inner lines. -/
def cBlock : List String := ["//", "/*", "*/", "/**", "*"]

/-- Comment marks with block comments and their inner lines. -/
def cLine : List String := ["//", "/*", "*/", "*"]

/-- Comment marks of markup. -/
def markup : List String := ["<!--", "-->", "<!"]

/-- Keywords shared by the languages in the style of C. -/
def cKeywords : List String :=
  ["if", "else", "for", "while", "do", "switch", "case", "catch", "finally", "&&", "||", "?"]

/-- Keywords of the web languages. -/
def webKeywords : List String := cKeywords ++ ["forEach", "map", "filter", "reduce"]

/-- An arrow function, plain or asynchronous, or a function expression. -/
def anyArrow : String := r"(?:\([^)]*\)\s*=>|async\s*\([^)]*\)\s*=>|function)"

/-- A plain arrow function or a function expression. -/
def plainArrow : String := r"(?:\([^)]*\)\s*=>|function)"

/-- Function declarations of JavaScript. -/
def javascriptFunction : String :=
  r"(?:function\s+\w+\s*\(" ++
  r"|const\s+\w+\s*=\s*" ++ anyArrow ++
  r"|let\s+\w+\s*=\s*" ++ anyArrow ++
  r"|var\s+\w+\s*=\s*" ++ plainArrow ++
  r"|\w+\s*:\s*" ++ anyArrow ++
  r"|async\s+function\s+\w+" ++
  r"|export\s+(?:async\s+)?function\s+\w+" ++
  r"|export\s+const\s+\w+\s*=\s*" ++ plainArrow ++ ")"

/-- Class declarations of JavaScript. -/
def javascriptClass : String :=
  r"(?:class\s+\w+|export\s+class\s+\w+|export\s+default\s+class\s+\w+)"

/-- Function declarations of TypeScript. -/
def typescriptFunction : String :=
  r"(?:function\s+\w+\s*\(" ++
  r"|const\s+\w+\s*:\s*[^=]*=\s*" ++ anyArrow ++
  r"|let\s+\w+\s*:\s*[^=]*=\s*" ++ plainArrow ++
  r"|var\s+\w+\s*:\s*[^=]*=\s*" ++ plainArrow ++
  r"|\w+\s*:\s*" ++ plainArrow ++
  r"|async\s+function\s+\w+" ++
  r"|export\s+(?:async\s+)?function\s+\w+" ++
  r"|export\s+const\s+\w+\s*:\s*[^=]*=\s*" ++ plainArrow ++
  r"|private\s+\w+\s*\(|public\s+\w+\s*\(|protected\s+\w+\s*\()"

/-- Class-like declarations of TypeScript. -/
def typescriptClass : String :=
  r"(?:class\s+\w+|export\s+class\s+\w+|export\s+default\s+class\s+\w+" ++
  r"|interface\s+\w+|type\s+\w+\s*=)"

/-- The parameter list and opening brace of a method. -/
def methodTail : String := r"(?:\w+\s+)*\w+\s*\([^)]*\)\s*" ++ "\\\x7b"

/-- A profile with all its parts. -/
def fullProfile (marks : List String) (function type : String) (keywords : List String) :
    Option Profile :=
  some ⟨marks, some function, some type, keywords⟩

/-- A profile with comment marks and keywords only. -/
def keywordProfile (marks keywords : List String) : Option Profile := some ⟨marks, none, none, keywords⟩

/-- The languages with declaration patterns or keywords. -/
def programming : List Registration := [
  ⟨.javascript, [".js", ".jsx", ".mjs", ".cjs", ".vue"],
    fullProfile cBlock javascriptFunction javascriptClass webKeywords⟩,
  ⟨.typescript, [".ts", ".tsx", ".d.ts"],
    fullProfile cBlock typescriptFunction typescriptClass webKeywords⟩,
  ⟨.python, [".py", ".pyx", ".pyi", ".pyc", ".pyo", ".pyw"],
    fullProfile DuplicateTable.pythonMarks r"def\s+\w+\s*\(" r"class\s+\w+"
      ["if", "elif", "else", "for", "while", "try", "except", "finally", "and", "or", "with"]⟩,
  ⟨.java, [".java", ".class", ".jar"],
    fullProfile cBlock (r"(?:public|private|protected)?\s*(?:static\s+)?" ++ methodTail)
      r"(?:public\s+)?(?:class|interface|enum)\s+\w+" cKeywords⟩,
  ⟨.csharp, [".cs", ".vb", ".fs", ".dll"],
    fullProfile cBlock (r"(?:public|private|protected|internal)?\s*(?:static\s+)?" ++ methodTail)
      r"(?:public\s+)?(?:class|interface|struct|enum)\s+\w+" cKeywords⟩,
  ⟨.cpp, [".cpp", ".cc", ".cxx", ".c", ".h", ".hpp", ".hxx", ".c++", ".h++"],
    fullProfile cLine methodTail r"(?:class|struct)\s+\w+"
      ["if", "else", "for", "while", "do", "switch", "case", "catch", "&&", "||", "?"]⟩,
  ⟨.go, [".go", ".mod", ".sum"],
    fullProfile cLine r"func\s+(?:\(\w+\s+\*?\w+\)\s+)?\w+\s*\("
      r"type\s+\w+\s+(?:struct|interface)"
      ["if", "else", "for", "switch", "case", "select", "&&", "||"]⟩,
  ⟨.rust, [".rs", ".toml"],
    fullProfile cLine r"fn\s+\w+\s*\(" r"(?:struct|enum|trait|impl)\s+\w+"
      ["if", "else", "for", "while", "loop", "match", "&&", "||"]⟩,
  ⟨.php, [".php", ".phtml", ".php3", ".php4", ".php5", ".phps"],
    fullProfile ["//", "#", "/*", "*/", "*"] r"function\s+\w+\s*\("
      r"(?:class|interface|trait)\s+\w+"
      ["if", "else", "elseif", "for", "while", "do", "switch", "case", "catch", "finally", "&&", "||",
        "?"]⟩,
  ⟨.ruby, [".rb", ".rbw", ".rake", ".gemspec"],
    fullProfile ["#", "=begin", "=end"] r"def\s+\w+" r"class\s+\w+"
      ["if", "else", "elsif", "for", "while", "case", "when", "rescue", "and", "or"]⟩,
  ⟨.swift, [".swift"],
    fullProfile cBlock r"func\s+\w+\s*\(" r"(?:class|struct|enum|protocol)\s+\w+"
      ["if", "else", "for", "while", "switch", "case", "catch", "&&", "||", "?"]⟩,
  ⟨.kotlin, [".kt", ".kts"],
    keywordProfile cBlock
      ["if", "else", "for", "while", "when", "try", "catch", "finally", "&&", "||", "?"]⟩,
  ⟨.scala, [".scala", ".sc"],
    keywordProfile cBlock
      ["if", "else", "for", "while", "match", "case", "try", "catch", "finally", "&&", "||"]⟩]

/-- Markup, data, build and other languages. -/
def others : List Registration := [
  ⟨.html, [".html", ".htm", ".xhtml", ".shtml"], commentProfile markup⟩,
  ⟨.css, [".css", ".scss", ".sass", ".less", ".styl", ".stylus"], commentProfile ["/*", "*/", "*"]⟩,
  ⟨.json, [".json", ".jsonc", ".json5"], none⟩,
  ⟨.yaml, [".yml", ".yaml"], commentProfile ["#"]⟩,
  ⟨.xml, [".xml", ".xsd", ".xsl", ".xslt", ".svg"], commentProfile markup⟩,
  ⟨.markdown, [".md", ".markdown", ".mdown", ".mkd", ".mdx"], commentProfile markup⟩,
  ⟨.shell, [".sh", ".bash", ".zsh", ".fish", ".bat", ".cmd", ".ps1"], commentProfile ["#"]⟩,
  ⟨.sql, [".sql", ".mysql", ".pgsql", ".sqlite"], commentProfile ["--", "/*", "*/", "*"]⟩,
  ⟨.r, [".r", ".R", ".rmd", ".Rmd"], none⟩,
  ⟨.matlab, [".m", ".mat"], none⟩,
  ⟨.perl, [".pl", ".pm", ".perl"], none⟩,
  ⟨.lua, [".lua"], none⟩,
  ⟨.dart, [".dart"], none⟩,
  ⟨.elixir, [".ex", ".exs"], none⟩,
  ⟨.erlang, [".erl", ".hrl"], none⟩,
  ⟨.haskell, [".hs", ".lhs"], none⟩,
  ⟨.clojure, [".clj", ".cljs", ".cljc"], none⟩,
  ⟨.fsharp, [".fs", ".fsi", ".fsx"], none⟩,
  ⟨.ocaml, [".ml", ".mli"], none⟩,
  ⟨.nim, [".nim", ".nims"], none⟩,
  ⟨.crystal, [".cr"], none⟩,
  ⟨.zig, [".zig"], none⟩,
  ⟨.assembly, [".asm", ".s"], none⟩,
  ⟨.makefile, ["Makefile", "makefile", ".mk"], commentProfile ["#"]⟩,
  ⟨.dockerfile, ["Dockerfile", ".dockerfile"], commentProfile ["#"]⟩,
  ⟨.config, [".conf", ".config", ".ini", ".cfg", ".properties", ".env"],
    commentProfile ["#", ";", "//"]⟩,
  ⟨.text, [".txt", ".log", ".readme"], none⟩]

end MetricsTable

/-- The table of code metrics. -/
def metricsLanguages : LanguageTable :=
  .ofRegistrations .other true (MetricsTable.programming ++ MetricsTable.others)

end CodeCensus
