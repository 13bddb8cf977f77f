/-!
# Paths

A path is an anchor and a list of names. Empty names and single dots are dropped when a path is read;
two leading slashes, and no more, are an anchor of their own.

Contents: `Anchor`, `Path`, `betweenSlashes`, `Path.parse`, `Path.text`, `Path.name`, `Path.suffix`,
`Path.relativeTo?`, `steps`.
-/

namespace CodeCensus

/-- Where a path starts. -/
inductive Anchor where
  | here
  | root
  | doubleRoot
  deriving DecidableEq, Repr

/-- The leading slashes of an anchor. -/
def Anchor.text : Anchor → String
  | here => ""
  | root => "/"
  | doubleRoot => "//"

/-- An anchor and the names below it. -/
structure Path where
  anchor : Anchor
  parts : List String
  deriving DecidableEq, Repr

instance : Inhabited Path := ⟨⟨.here, []⟩⟩

/-- What stands before, between and after the slashes of a path text. -/
def betweenSlashes (s : String) : List String := (s.toList.splitOn '/').map String.ofList

namespace Path

/-- The names of a path text: what stands between slashes, empty names and single dots left out. -/
def names (s : String) : List String :=
  (betweenSlashes s).filter fun part => part ≠ "" ∧ part ≠ "."

/-- The anchor of a path text. -/
def anchorOf (s : String) : Anchor :=
  match s.toList with
  | '/' :: '/' :: '/' :: _ => .root
  | '/' :: '/' :: _ => .doubleRoot
  | '/' :: _ => .root
  | _ => .here

/-- The path that a text names. -/
def parse (s : String) : Path := ⟨anchorOf s, names s⟩

/-- The text of a path; the empty relative path is a single dot. -/
def text (p : Path) : String :=
  if p.anchor = .here ∧ p.parts = [] then "."
  else p.anchor.text ++ String.intercalate "/" p.parts

/-- The path starts at a root. -/
def isAbsolute (p : Path) : Bool := p.anchor ≠ .here

/-- The last name, empty when there is none. -/
def name (p : Path) : String := p.parts.getLast?.getD ""

/-- The path without its last name. -/
def parent (p : Path) : Path := ⟨p.anchor, p.parts.dropLast⟩

/-- A name below a path. -/
def child (p : Path) (name : String) : Path := ⟨p.anchor, p.parts ++ [name]⟩

/-- The second path seen from the first: an absolute second path stands alone. -/
def join (p q : Path) : Path :=
  if q.isAbsolute then q else ⟨p.anchor, p.parts ++ q.parts⟩

/-- The suffix of a name: from its last dot on, when that dot is neither its first nor its last
    character. -/
def suffixOf (name : String) : String :=
  let cs := name.toList
  let tail := (cs.reverse.takeWhile (· ≠ '.')).reverse
  let dot := cs.length - tail.length
  if 1 < dot ∧ tail ≠ [] then String.ofList ('.' :: tail) else ""

/-- The suffix of the last name. -/
def suffix (p : Path) : String := suffixOf p.name

/-- What is left of the path below `base`, if it lies there. -/
def relativeTo? (p base : Path) : Option Path :=
  if p.anchor = base.anchor ∧ base.parts.isPrefixOf p.parts then
    some ⟨.here, p.parts.drop base.parts.length⟩
  else none

/-- The text of the path below `base`, or the whole path when it lies elsewhere. -/
def relativeText (p base : Path) : String := ((p.relativeTo? base).getD p).text

end Path

/-- The text of a path ends in a slash. -/
def endsInSlash (s : String) : Bool := s.toList.getLast? = some '/'

/-- The names of a path text one by one, single dots kept. -/
def rawNames (s : String) : List String := (betweenSlashes s).filter fun part => part ≠ ""

/-- The steps that a path text takes. A dot is a step that stays in a directory, and so is a slash at the
    end. -/
def steps (s : String) : List String := if endsInSlash s then rawNames s ++ ["."] else rawNames s

end CodeCensus
