import EvidenceLedger.Json.Source
import EvidenceLedger.Json.Value

/-!
# The tree of a value

What a text holds that writes a value and nothing else. It has no flaws.
-/

namespace EvidenceLedger.Json

mutual

def toSource : Json → Source
  | .null => .null
  | .bool b => .bool b
  | .num n => if fitsWord n then .int n else .real
  | .str s => .str s
  | .arr items => .arr (itemsToSource items) none
  | .obj members => .obj (membersToSource members) none

def itemsToSource : List Json → List Source
  | [] => []
  | v :: rest => v.toSource :: itemsToSource rest

def membersToSource : List (String × Json) → List (Except Flaw String × Source)
  | [] => []
  | (k, v) :: rest => (.ok k, v.toSource) :: membersToSource rest

end

end EvidenceLedger.Json
