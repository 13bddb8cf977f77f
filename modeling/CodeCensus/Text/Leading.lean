/-!
# Leading texts

Contents: `startsWith`.
-/

namespace CodeCensus
namespace Text

/-- The text starts with the leading one. -/
def startsWith (text leading : String) : Bool := leading.toList.isPrefixOf text.toList

end Text
end CodeCensus
