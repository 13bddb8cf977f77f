import CodeCensus.Text.Blank
import CodeCensus.Text.WordChar

/-!
# Declaration patterns

Patterns that recognise function-like and class-like declarations in raw text. Choices are ordered and
repetitions are greedy; the first way to match in that order is the match. Matches are counted from
left to right without overlap.

Contents:
* `CharClass`, `Pattern` — what a pattern is made of;
* `Pattern.first?` — the first way to match at a cursor that a continuation accepts;
* `Pattern.count` — the number of matches in a text.
-/

namespace CodeCensus

/-- A set of characters. -/
inductive CharClass where
  | exactly (c : Char)
  | blank
  | word
  | listed (members : List Char)
  | unlisted (members : List Char)
  deriving DecidableEq, Repr

/-- The character belongs to the class. -/
def CharClass.accepts : CharClass → Char → Bool
  | exactly d, c => c = d
  | blank, c => Text.isBlank c
  | word, c => Text.isWordChar c
  | listed members, c => members.contains c
  | unlisted members, c => !members.contains c

/-- A pattern over characters. -/
inductive Pattern where
  | nothing
  | one (cls : CharClass)
  | run (cls : CharClass) (least : Nat)
  | sequence (first second : Pattern)
  | choice (first second : Pattern)
  | many (body : Pattern)
  deriving DecidableEq, Repr

/-- A position in a text: what is left of it, and how many characters that is. -/
structure Cursor where
  rest : List Char
  left : Nat

namespace Cursor

/-- The start of a text. -/
def ofChars (cs : List Char) : Cursor := ⟨cs, cs.length⟩

/-- The cursors after `0, 1, 2, ...` characters of the class, the last one first; `seen` holds those
    found so far. -/
def runCursors (cls : CharClass) (seen : List Cursor) : List Char → Nat → List Cursor
  | [], _ => ⟨[], 0⟩ :: seen
  | c :: rest, left =>
    if cls.accepts c then runCursors cls (⟨c :: rest, left⟩ :: seen) rest (left - 1)
    else ⟨c :: rest, left⟩ :: seen

end Cursor

namespace Pattern

/-- Repeats `step` greedily while it moves the cursor, then hands over to `accept`. -/
def repeatFrom (step : Cursor → (Cursor → Option Cursor) → Option Cursor) (s : Cursor)
    (accept : Cursor → Option Cursor) : Option Cursor :=
  match step s (fun t => if t.left < s.left then repeatFrom step t accept else none) with
  | some found => some found
  | none => accept s
termination_by s.left

/-- The first way to match at the cursor, in the pattern's order of preference, whose end `accept`
    takes. -/
def first? : Pattern → Cursor → (Cursor → Option Cursor) → Option Cursor
  | nothing, s, accept => accept s
  | one cls, s, accept =>
    match s.rest with
    | [] => none
    | c :: rest => if cls.accepts c then accept ⟨rest, s.left - 1⟩ else none
  | run cls least, s, accept =>
    let ends := Cursor.runCursors cls [] s.rest s.left
    (ends.take (ends.length - least)).findSome? accept
  | sequence p q, s, accept => p.first? s fun t => q.first? t accept
  | choice p q, s, accept =>
    match p.first? s accept with
    | some found => some found
    | none => q.first? s accept
  | many p, s, accept => repeatFrom p.first? s accept

/-- The end of the match at the cursor. A match of no characters is refused when `mustMove`. -/
def matchAt? (p : Pattern) (mustMove : Bool) (s : Cursor) : Option Cursor :=
  p.first? s fun t => if mustMove && t.left == s.left then none else some t

/-- Counts matches from the cursor on; after a match of no characters the next one has to move. -/
def countFrom (p : Pattern) : Nat → Bool → Cursor → Nat → Nat
  | 0, _, _, found => found
  | fuel + 1, mustMove, s, found =>
    match p.matchAt? mustMove s with
    | some t => countFrom p fuel (t.left == s.left) t (found + 1)
    | none =>
      match s.rest with
      | [] => found
      | _ :: rest => countFrom p fuel false ⟨rest, s.left - 1⟩ found

/-- The number of matches in a text, from left to right and without overlap. -/
def count (p : Pattern) (text : String) : Nat :=
  let s := Cursor.ofChars text.toList
  p.countFrom (2 * s.left + 2) false s 0

end Pattern
end CodeCensus
