/-!
# Languages

Every language tag that a language table can give to a file.

Contents: `Language`, `Language.tag`, `Language.all`, `Language.ofTag?`.
-/

namespace CodeCensus

/-- A programming, markup, data or configuration language. -/
inductive Language where
  | javascript | typescript | python | java | csharp | cpp | go | rust | php | ruby | swift | kotlin
  | scala | html | css | json | yaml | xml | markdown | shell | sql | r | matlab | perl | lua | dart
  | elixir | erlang | haskell | clojure | fsharp | ocaml | nim | crystal | zig | assembly | makefile
  | dockerfile | config | text | other | unknown
  deriving DecidableEq, Repr, Inhabited

namespace Language

/-- The tag of a language in reports. -/
def tag : Language → String
  | javascript => "javascript"
  | typescript => "typescript"
  | python => "python"
  | java => "java"
  | csharp => "csharp"
  | cpp => "cpp"
  | go => "go"
  | rust => "rust"
  | php => "php"
  | ruby => "ruby"
  | swift => "swift"
  | kotlin => "kotlin"
  | scala => "scala"
  | html => "html"
  | css => "css"
  | json => "json"
  | yaml => "yaml"
  | xml => "xml"
  | markdown => "markdown"
  | shell => "shell"
  | sql => "sql"
  | r => "r"
  | matlab => "matlab"
  | perl => "perl"
  | lua => "lua"
  | dart => "dart"
  | elixir => "elixir"
  | erlang => "erlang"
  | haskell => "haskell"
  | clojure => "clojure"
  | fsharp => "fsharp"
  | ocaml => "ocaml"
  | nim => "nim"
  | crystal => "crystal"
  | zig => "zig"
  | assembly => "assembly"
  | makefile => "makefile"
  | dockerfile => "dockerfile"
  | config => "config"
  | text => "text"
  | other => "other"
  | unknown => "unknown"

/-- Every language. -/
def all : List Language :=
  [javascript, typescript, python, java, csharp, cpp, go, rust, php, ruby, swift, kotlin, scala, html,
    css, json, yaml, xml, markdown, shell, sql, r, matlab, perl, lua, dart, elixir, erlang, haskell,
    clojure, fsharp, ocaml, nim, crystal, zig, assembly, makefile, dockerfile, config, text, other,
    unknown]

/-- The language with a given tag. -/
def ofTag? (tag : String) : Option Language := all.find? fun l => l.tag = tag

end Language
end CodeCensus
