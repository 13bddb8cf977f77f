import CodeCensus.Language.Pattern

/-!
# The notation of declaration patterns

Patterns are written in the usual notation: literal characters, `\s` for a blank, `\w` for a word
character, other escapes for the character itself, `[...]` and `[^...]` for listed and unlisted
characters, `(...)` and `(?:...)` for groups, `|` between choices, and `*`, `+`, `?` after an item.

Contents: `PatternFault` (what can be wrong with a notation), `Pattern.parse`.
-/

namespace CodeCensus

/-- What is wrong with a pattern's notation, and where. -/
inductive PatternFault where
  | unclosedGroup (position : Nat)
  | unclosedSet (position : Nat)
  | nothingToRepeat (position : Nat)
  | repeatedTwice (position : Nat)
  | unopenedGroup (position : Nat)
  | danglingEscape (position : Nat)
  deriving DecidableEq, Repr

/-- The wording of a fault. -/
def PatternFault.message : PatternFault → String
  | unclosedGroup p => "missing ), unterminated subpattern at position " ++ toString p
  | unclosedSet p => "unterminated character set at position " ++ toString p
  | nothingToRepeat p => "nothing to repeat at position " ++ toString p
  | repeatedTwice p => "multiple repeat at position " ++ toString p
  | unopenedGroup p => "unbalanced parenthesis at position " ++ toString p
  | danglingEscape p => "bad escape (end of pattern) at position " ++ toString p

namespace Pattern

/-- What is left of a notation, and its position. -/
structure Remaining where
  rest : List Char
  position : Nat

/-- The notation after `n` more characters. -/
def Remaining.skip (s : Remaining) (n : Nat) : Remaining := ⟨s.rest.drop n, s.position + n⟩

/-- The class that an escaped character stands for. -/
def escapeClass (c : Char) : CharClass :=
  if c = 's' then .blank else if c = 'w' then .word else .exactly c

/-- The members of a set up to its closing bracket; a bracket in first place is a member. -/
def setMembers (start : Nat) (members : List Char) :
    Nat → Remaining → Except PatternFault (List Char × Remaining)
  | 0, _ => .error (.unclosedSet start)
  | fuel + 1, s =>
    match s.rest with
    | [] => .error (.unclosedSet start)
    | '\\' :: c :: _ => setMembers start (c :: members) fuel (s.skip 2)
    | ']' :: _ =>
      if members.isEmpty then setMembers start [']'] fuel (s.skip 1)
      else .ok (members.reverse, s.skip 1)
    | c :: _ => setMembers start (c :: members) fuel (s.skip 1)

/-- The set whose opening bracket stands at the front. -/
def parseSet (s : Remaining) : Except PatternFault (CharClass × Remaining) :=
  match s.rest with
  | '[' :: '^' :: rest => do
    let (members, after) ← setMembers s.position [] (rest.length + 1) (s.skip 2)
    return (.unlisted members, after)
  | rest => do
    let (members, after) ← setMembers s.position [] (rest.length + 1) (s.skip 1)
    return (.listed members, after)

/-- A pattern repeated any number of times. -/
def star : Pattern → Pattern
  | one cls => run cls 0
  | p => many p

/-- A pattern repeated at least once. -/
def plus : Pattern → Pattern
  | one cls => run cls 1
  | p => sequence p (many p)

/-- Applies the repetition mark that follows an item, if any. -/
def parseRepeat (p : Pattern) (s : Remaining) : Except PatternFault (Pattern × Remaining) :=
  let closed (q : Pattern) : Except PatternFault (Pattern × Remaining) :=
    let after := s.skip 1
    match after.rest with
    | '*' :: _ | '+' :: _ => .error (.repeatedTwice after.position)
    | _ => .ok (q, after)
  match s.rest with
  | '*' :: _ => closed (star p)
  | '+' :: _ => closed (plus p)
  | '?' :: _ => closed (choice p nothing)
  | _ => .ok (p, s)

/-- Puts a pattern in front of another. -/
def followedBy : Pattern → Pattern → Pattern
  | nothing, q => q
  | p, nothing => p
  | p, q => sequence p q

mutual

/-- Choices separated by bars, up to a closing parenthesis or the end. -/
def parseChoices : Nat → Remaining → Except PatternFault (Pattern × Remaining)
  | 0, s => .ok (nothing, s)
  | fuel + 1, s => do
    let (first, after) ← parseItems fuel s
    match after.rest with
    | '|' :: _ =>
      let (second, last) ← parseChoices fuel (after.skip 1)
      return (choice first second, last)
    | _ => return (first, after)

/-- Items one after another, up to a bar, a closing parenthesis or the end. -/
def parseItems : Nat → Remaining → Except PatternFault (Pattern × Remaining)
  | 0, s => .ok (nothing, s)
  | fuel + 1, s =>
    match s.rest with
    | [] => .ok (nothing, s)
    | '|' :: _ => .ok (nothing, s)
    | ')' :: _ => .ok (nothing, s)
    | _ => do
      let (item, afterItem) ← parseItem fuel s
      let (repeated, afterRepeat) ← parseRepeat item afterItem
      let (others, last) ← parseItems fuel afterRepeat
      return (repeated.followedBy others, last)

/-- One item: a character, a class, a set or a group. -/
def parseItem : Nat → Remaining → Except PatternFault (Pattern × Remaining)
  | 0, s => .ok (nothing, s)
  | fuel + 1, s =>
    match s.rest with
    | [] => .ok (nothing, s)
    | '*' :: _ => .error (.nothingToRepeat s.position)
    | '+' :: _ => .error (.nothingToRepeat s.position)
    | '?' :: _ => .error (.nothingToRepeat s.position)
    | '(' :: '?' :: ':' :: _ => parseGroup fuel s.position (s.skip 3)
    | '(' :: _ => parseGroup fuel s.position (s.skip 1)
    | '[' :: _ => do
      let (cls, after) ← parseSet s
      return (one cls, after)
    | ['\\'] => .error (.danglingEscape s.position)
    | '\\' :: c :: _ => .ok (one (escapeClass c), s.skip 2)
    | '.' :: _ => .ok (one (.unlisted ['\n']), s.skip 1)
    | c :: _ => .ok (one (.exactly c), s.skip 1)

/-- The inside of a group that was opened at `start`, and its closing parenthesis. -/
def parseGroup : Nat → Nat → Remaining → Except PatternFault (Pattern × Remaining)
  | 0, _, s => .ok (nothing, s)
  | fuel + 1, start, s => do
    let (inner, after) ← parseChoices fuel s
    match after.rest with
    | ')' :: _ => return (inner, after.skip 1)
    | _ => throw (.unclosedGroup start)

end

/-- The pattern that a notation stands for. -/
def parse (notated : String) : Except PatternFault Pattern := do
  let cs := notated.toList
  let (p, after) ← parseChoices (4 * cs.length + 4) ⟨cs, 0⟩
  match after.rest with
  | [] => return p
  | _ => throw (.unopenedGroup after.position)

end Pattern
end CodeCensus
