import EmsCollector.Collector.ApiCommandParserProof.Forward
import EmsCollector.Collector.ApiCommandParserProof.Unicode
import EmsCollector.Misc.Words

/-!
# The text of a line of contact information

`rc setcontactinfo` joins the tokens of its text, converts them to UTF-16 and crops that to the 20
units of a line. The crop is within a character if the last unit is the first half of a pair.
-/

namespace EmsCollector.ApiCommandParser

open IStream (wordStep skipStep)

section Tokens

end Tokens

section Convert

end Convert

section Crop

end Crop

end EmsCollector.ApiCommandParser
