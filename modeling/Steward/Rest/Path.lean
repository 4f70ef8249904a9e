/-
Paths below the root of the web interface. Whatever is named in a path is one segment of it: all but
letters, digits and three marks is escaped.
-/
import Steward.Instance
import Steward.Text.Percent

namespace Steward.Rest

def segment (s : String) : String := Text.percentEncode ['-', '_', '.'] s

def collectionPath (node : String) (kind : Kind) : String := "/nodes/" ++ segment node ++ "/" ++ kind.collection

def instancePath (id : Identity) (tail : String) : String :=
  collectionPath id.node id.kind ++ "/" ++ Text.decimal id.id.toNat ++ "/" ++ tail

def taskPath (node task : String) : String := "/nodes/" ++ segment node ++ "/tasks/" ++ segment task ++ "/status"

/-- Answers with a number that no instance has. -/
def nextIdPath : String := "/cluster/nextid"

end Steward.Rest
