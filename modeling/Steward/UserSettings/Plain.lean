/-
Settings and documents in the data format, which is a part of the language that users write them in.
-/
import Steward.Document.Reader
import Steward.Json.Plain
import Steward.UserSettings.Environment

namespace Steward

/-- The reader of files that are written in the data format. -/
def Reader.plain : Reader where
  settings text := (Json.ofPlainText? text).bind UserSettings.ofJson?
  document text := (Json.ofPlainText? text).bind (Document.ofJson? Json.plainText?)

end Steward
