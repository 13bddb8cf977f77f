import CodeCensus.Number.Text
import CodeCensus.Text.Quoted
import CodeCensus.Text.Utf8

/-!
# Messages about bytes that are no text

Contents: `Utf8Error.message`.
-/

namespace CodeCensus
namespace Text

/-- The offending bytes and where they stand. -/
def offence (position : Nat) : List UInt8 → String
  | [b] => "byte 0x" ++ String.ofList (hexDigits 2 b.toNat) ++ " in position " ++ natDigits position
  | bytes => "bytes in position " ++ natDigits position ++ "-" ++ natDigits (position + bytes.length - 1)

/-- The wording of an error. -/
def Utf8Error.message (e : Utf8Error) : String :=
  "'utf-8' codec can't decode " ++ offence e.position e.bytes ++ ": " ++ e.fault.message

end Text
end CodeCensus
