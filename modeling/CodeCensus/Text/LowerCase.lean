import CodeCensus.Text.CaseTable

/-!
# Lower case

Every letter is replaced by its lower-case partner. Two letters need more: the dotted capital I becomes
two characters, and the capital sigma takes its final form at the end of a word, that is after a cased
character and before none.

Contents: `lowerChars`, `lower`.
-/

namespace CodeCensus
namespace Text

/-- The character carries case and is not passed over. -/
def isCased (c : Char) : Bool :=
  if c.toNat < 0x80 then c.isAlpha else memRanges casedRanges c

/-- The character is passed over when the neighbourhood of a letter is inspected. -/
def isCaseIgnorable (c : Char) : Bool := memRanges caseIgnorableRanges c

/-- The one-character lower-case partner; the character itself when it has none. -/
def lowerPartner (c : Char) : Char :=
  if c.toNat < 0x80 then c.toLower
  else
    let run? := caseRuns.find? fun run =>
      run.first ≤ c.toNat && c.toNat ≤ run.last && (c.toNat - run.first) % run.stride == 0
    match run? with
    | some run => Char.ofNat ((c.toNat : Int) + run.shift).toNat
    | none => c

/-- The nearest character that is not passed over carries case. -/
def startsCased (rest : List Char) : Bool :=
  match rest.dropWhile isCaseIgnorable with
  | [] => false
  | c :: _ => isCased c

/-- The lower case of one character, given whether a cased character comes before it and what comes
    after it. -/
def lowerAt (casedBefore : Bool) (c : Char) (rest : List Char) : List Char :=
  if c = 'Σ' then [if casedBefore && !startsCased rest then 'ς' else 'σ']
  else if c = 'İ' then ['i', Char.ofNat 0x307]
  else [lowerPartner c]

/-- Whether the nearest character before the next position, passed-over ones apart, carries case. -/
def casedAfter (casedBefore : Bool) (c : Char) : Bool :=
  if isCaseIgnorable c then casedBefore else isCased c

/-- Lower-cases the rest of a text; `done` holds the finished part reversed. -/
def lowerFrom (casedBefore : Bool) (done : List Char) : List Char → List Char
  | [] => done.reverse
  | c :: rest =>
    lowerFrom (casedAfter casedBefore c) ((lowerAt casedBefore c rest).reverse ++ done) rest

/-- The characters in lower case. -/
def lowerChars (cs : List Char) : List Char := lowerFrom false [] cs

/-- The text in lower case. -/
def lower (s : String) : String := String.ofList (lowerChars s.toList)

end Text
end CodeCensus
