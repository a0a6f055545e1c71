import EvidenceLedger.Api.Address
import EvidenceLedger.Api.Error
import EvidenceLedger.Api.MediaType
import EvidenceLedger.Chain.Wire
import EvidenceLedger.Text.Percent

/-!
# Requests

What a client asks of a node, and how the parts of a request are read. A body that has to be
JSON must say so, and only its first value counts. A query knows two names, each of which may
come once. The wish to synchronise is read on its own terms: it need not say what it is, may be
missing, and must not be followed by anything. How long a body may get is not decided here: a server
that takes in no more than so much turns a longer body down before it is read.

Evidence comes without an identifier and without a time. Seven of its fields must not be blank,
and all that are blank are reported together.
-/

namespace EvidenceLedger

open Json

/-- The fields of an artifact that must not be blank, with their names. -/
def Artifact.mandatory (a : Artifact) : List (String × String) :=
  [("homologationId", a.homologationId),
    ("testRunId", a.testRunId),
    ("artifactName", a.artifactName),
    ("artifactType", a.artifactType),
    ("hashAlgorithm", a.hashAlgorithm),
    ("hash", a.hash),
    ("createdBy", a.createdBy)]

def Artifact.blankFields (a : Artifact) : List String :=
  (a.mandatory.filter fun field => Text.isBlank field.2).map (·.1)

namespace Api

structure Request where
  method : String
  uri : String
  contentType : Option String
  body : Bytes
deriving DecidableEq

namespace Request

def address (r : Request) : Address :=
  .ofText r.uri

def path (r : Request) : List Char :=
  r.address.path

/-- The query of the request. None is as good as an empty one. -/
def query (r : Request) : Bytes :=
  Bytes.ofString (String.ofList (r.address.query.getD []))

/-- The request by which a publisher hands a block to a node. -/
def push (block : Block) : Request where
  method := "POST"
  uri := "/api/blocks/receive"
  contentType := some "application/json"
  body := (encode block).toBytes

end Request

/-- Read a body that has to be JSON. -/
def readBody {α : Type} (read : Reader α) (r : Request) : Except Failure α :=
  if r.contentType.any MediaType.isJson then
    (readFirst read r.body).mapError fun
      | .shape => .malformed .bodyShape
      | _ => .malformed .bodyNotJson
  else .error (.malformed .notDeclaredJson)

/-- Evidence as a client sends it. What is missing is blank. -/
def readArtifact : Reader Artifact :=
  RecordReader.read (Artifact.fieldsWith fun name => .default name Reader.text "")

/-- The draft that a client's evidence makes, unless a mandatory field is blank. -/
def toDraft (a : Artifact) : Except Failure EvidenceDraft :=
  match a.blankFields with
  | [] => .ok ⟨none, a, none⟩
  | names => .error (.blankFields names)

/-- The hash that a client wants to have verified. -/
def readHash : Reader String :=
  RecordReader.read (.default "hash" Reader.text "")

/-- The peer that a client wants the node to synchronise with. -/
def readSyncWish : Reader (Option String) :=
  RecordReader.read (.default "sourcePeerUrl" (Reader.nullable Reader.text) none)

/-- Is the byte one of the five blanks of a body? -/
def isBodyBlank (b : UInt8) : Bool :=
  b == 0x20 || b == 0x09 || b == 0x0A || b == 0x0C || b == 0x0D

def syncWish (body : Bytes) : Except Failure (Option String) :=
  if body.all isBodyBlank then .ok none
  else (readWhole readSyncWish body).mapError fun fault => .malformed (.syncBody fault)

/-- The value of a number in a query, if its name comes once, and nothing if it does not
come. -/
def queryNumber (name : String) (pairs : List (Bytes × Bytes)) : Except Failure (Option UInt64) :=
  match pairs.filter fun pair => pair.1 == Bytes.ofString name with
  | [] => .ok none
  | [(_, value)] =>
    match (Bytes.toString? value).bind (Text.unsigned? (UInt64.size - 1)) with
    | some n => .ok (some (UInt64.ofNat n))
    | none => .error (.malformed .query)
  | _ => .error (.malformed .query)

/-- The first height and the number of blocks that a query asks for. -/
def blockRange (query : Bytes) : Except Failure (UInt64 × UInt64) := do
  let pairs := Percent.formPairs query
  let start ← queryNumber "fromHeight" pairs
  let limit ← queryNumber "limit" pairs
  return (start.getD 0, limit.getD 100)

end Api

end EvidenceLedger
