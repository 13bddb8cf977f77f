import CodeCensus.Text.Printable

/-!
# Quoted texts

Texts and bytes as messages show them: in single quotes, unless the text holds single quotes and no
double ones; the quote in use, backslashes and line controls escaped by a backslash, and every other
character that does not print written by its number.

Contents: `quoteMark`, `escapeChar`, `quoted`, `quotedFront`.
-/

namespace CodeCensus
namespace Text

/-- The lower-case hexadecimal digits of `n`, padded with zeros to `width`. -/
def hexDigits (width n : Nat) : List Char :=
  let ds := Nat.toDigits 16 n
  List.replicate (width - ds.length) '0' ++ ds

/-- The quote around a text. -/
def quoteMark (cs : List Char) : Char :=
  if cs.contains '\x27' && !cs.contains '\x22' then '\x22' else '\x27'

/-- A character that does not print, written by its number. -/
def escapeNumber (c : Char) : List Char :=
  let n := c.toNat
  if n ≤ 0xff then '\\' :: 'x' :: hexDigits 2 n
  else if n ≤ 0xffff then '\\' :: 'u' :: hexDigits 4 n
  else '\\' :: 'U' :: hexDigits 8 n

/-- One character inside quotes. -/
def escapeChar (mark c : Char) : List Char :=
  if c = mark || c = '\\' then ['\\', c]
  else if c = '\n' then ['\\', 'n']
  else if c = '\r' then ['\\', 'r']
  else if c = '\t' then ['\\', 't']
  else if isPrintable c then [c]
  else escapeNumber c

/-- The text in quotes. -/
def quoted (s : String) : String :=
  let cs := s.toList
  let mark := quoteMark cs
  String.ofList (mark :: cs.flatMap (escapeChar mark) ++ [mark])

/-- The first `limit` characters of the text in quotes. -/
def quotedFront (limit : Nat) (s : String) : String := String.ofList ((quoted s).toList.take limit)

end Text
end CodeCensus
