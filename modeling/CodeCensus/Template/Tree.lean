import CodeCensus.Template.Read

/-!
# Templates as trees

The parts of a template with their blanks dropped and their branches and loops put together.

Contents: `Piece`, `trimParts`, `buildTree`.
-/

namespace CodeCensus
namespace Template

/-- A piece of a template. -/
inductive Piece where
  | text (content : String)
  | shown (e : Expr)
  | branch (negated : Bool) (test : Expr) (yes no : List Piece)
  | loop (names : List String) (range : Expr) (body : List Piece)
  deriving Repr

/-! ## Dropping blanks -/

/-- A text without the blanks at its start. -/
def trimStart (s : String) : String := String.ofList (s.toList.dropWhile Text.isBlank)

/-- A text without the blanks at its end. -/
def trimEnd (s : String) : String := String.ofList (s.toList.reverse.dropWhile Text.isBlank).reverse

/-- The parts start with a tag whose first edge is marked. -/
def startsTrimmed : List Part → Bool
  | .tag trimBefore _ _ :: _ => trimBefore
  | _ => false

/-- The parts with the blanks at marked edges dropped; `dropping` tells whether they follow a marked
    edge. -/
def trimParts (dropping : Bool) : List Part → List Part
  | [] => []
  | .text content :: rest =>
    let content := if dropping then trimStart content else content
    let content := if startsTrimmed rest then trimEnd content else content
    .text content :: trimParts false rest
  | .tag trimBefore trimAfter t :: rest => .tag trimBefore trimAfter t :: trimParts trimAfter rest

/-! ## Building trees -/

/-- A branch or loop that is not closed yet, with the pieces in front of it reversed. -/
inductive Opened where
  | branch (negated : Bool) (test : Expr) (before : List Piece)
  | otherwise (negated : Bool) (test : Expr) (yes : List Piece) (before : List Piece)
  | loop (names : List String) (range : Expr) (before : List Piece)

/-- What is open, the innermost first, and the pieces since, reversed. -/
structure Building where
  opened : List Opened
  pieces : List Piece

/-- Adds a piece. -/
def Building.push (b : Building) (p : Piece) : Building := { b with pieces := p :: b.pieces }

/-- Adds a tag. -/
def Building.pushTag (b : Building) (t : Tag) : Except TemplateFault Building :=
  match t, b.opened with
  | .shown e, _ => .ok (b.push (.shown e))
  | .remark _, _ => .ok b
  | .branch negated test, opened => .ok ⟨.branch negated test b.pieces :: opened, []⟩
  | .loop names range, opened => .ok ⟨.loop names range b.pieces :: opened, []⟩
  | .otherwise, .branch negated test before :: opened =>
    .ok ⟨.otherwise negated test b.pieces.reverse before :: opened, []⟩
  | .endBranch, .branch negated test before :: opened =>
    .ok ⟨opened, .branch negated test b.pieces.reverse [] :: before⟩
  | .endBranch, .otherwise negated test yes before :: opened =>
    .ok ⟨opened, .branch negated test yes b.pieces.reverse :: before⟩
  | .endLoop, .loop names range before :: opened =>
    .ok ⟨opened, .loop names range b.pieces.reverse :: before⟩
  | _, _ => .error .unbalanced

/-- Adds a part. -/
def Building.add (b : Building) : Part → Except TemplateFault Building
  | .text content => .ok (b.push (.text content))
  | .tag _ _ t => b.pushTag t

/-- The tree of a template. -/
def buildTree (parts : List Part) : Except TemplateFault (List Piece) := do
  let b ← (trimParts false parts).foldlM Building.add ⟨[], []⟩
  if b.opened.isEmpty then return b.pieces.reverse else throw .unbalanced

end Template
end CodeCensus
