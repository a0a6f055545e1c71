import EvidenceLedger.Api.Request

/-!
# Routes

What can be asked of a node, and under which path. Paths match to the letter, without decoding
and without a slash at the end; only the hash at the end of a path may be any one segment that
is not empty. Each path is either one to get or one to post to.
-/

namespace EvidenceLedger.Api

/-- Something that can be asked of a node. -/
inductive Route where
  | chain
  | blocks
  | latest
  | commit
  | receive
  | sync
  | mempool
  | submit
  /-- Look a hash up, which is the last segment of the path as it was sent. -/
  | lookup (segment : List Char)
  | validate
  | verify
  | health
deriving DecidableEq

namespace Route

/-- The paths that match to the letter. -/
def fixedPaths : List (String × Route) :=
  [("/api/chain", .chain),
    ("/api/blocks", .blocks),
    ("/api/blocks/latest", .latest),
    ("/api/blocks/commit", .commit),
    ("/api/blocks/receive", .receive),
    ("/api/sync", .sync),
    ("/api/mempool", .mempool),
    ("/api/evidences", .submit),
    ("/api/validate", .validate),
    ("/api/verify", .verify),
    ("/health", .health)]

/-- What stands before the hash in the path that looks it up. -/
def lookupRoot : List Char :=
  "/api/evidences/hash/".toList

def ofPath? (path : List Char) : Option Route :=
  match fixedPaths.find? fun entry => entry.1.toList == path with
  | some (_, route) => some route
  | none =>
    let segment := path.drop lookupRoot.length
    if lookupRoot.isPrefixOf path && !segment.isEmpty && !segment.contains '/' then
      some (.lookup segment)
    else none

def isPost : Route → Bool
  | .commit | .receive | .sync | .submit | .verify => true
  | _ => false

/-- May the route be asked with this method? What can be got may also be asked for its head
alone. -/
def allows (route : Route) (method : String) : Bool :=
  if route.isPost then method == "POST" else method == "GET" || method == "HEAD"

end Route

end EvidenceLedger.Api
