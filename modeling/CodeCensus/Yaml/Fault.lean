import CodeCensus.Number.Parse
import CodeCensus.Value.Basic

/-!
# Faults of a settings document

Why a document has no value: it cannot be read, it is malformed, or one of its scalars does not write what
its tag says.

Contents: `Yaml.Fault`, `Yaml.Fault.message`, `Yaml.ScanFault`.
-/

namespace CodeCensus
namespace Yaml

/-- Why a document has no value. -/
inductive Fault where
  | unreadable
  | malformed
  | badInteger (base : Nat) (digits : String)
  | badFloat (text : String)
  | emptyNumber
  | badTruth (text : String)
  | notTimestamp
  | badDate (reason : String)
  | badOffset (seconds : Int)
  | notText
  | intTooLarge
  | badCodePoint
  | hugeCodePoint
  | endless
  deriving DecidableEq, Repr

/-- The wording of a fault. -/
def Fault.message : Fault → String
  | unreadable => "unreadable document"
  | malformed => "malformed document"
  | badInteger base digits => notIntegerMessage base digits
  | badFloat text => notDoubleMessage text
  | emptyNumber => "string index out of range"
  | badTruth text => Text.quoted text
  | notTimestamp => "'NoneType' object has no attribute 'groupdict'"
  | badDate reason => reason
  | badOffset seconds =>
    let days := Int.fdiv seconds 86400
    let rest := Int.fmod seconds 86400
    let parts := (if days = 0 then [] else ["days=" ++ intText days]) ++
      (if rest = 0 then [] else ["seconds=" ++ intText rest])
    "offset must be a timedelta strictly between -timedelta(hours=24) and timedelta(hours=24), not " ++
      "datetime.timedelta(" ++ String.intercalate ", " parts ++ ")."
  | notText => "expected string or bytes-like object, got 'list'"
  | intTooLarge => "int too large to convert to float"
  | badCodePoint => "chr() arg not in range(0x110000)"
  | hugeCodePoint => "Python int too large to convert to C int"
  | endless => "maximum recursion depth exceeded"

/-- A fault of a scan with the index of the character at which it shows. -/
structure ScanFault where
  fault : Fault
  index : Nat
  deriving DecidableEq, Repr

end Yaml
end CodeCensus
