/-!
# Addresses

Where a request goes. An address names a place on the node that it is sent to, by a path that
begins with a slash; or it is complete, with a scheme, a host and a place on that host; or it
names a host alone. The star names the node as a whole. A query may follow a path. A fragment
is for the client only: no node ever sees it.

Which host an address names makes no difference to the node that gets it: it looks at the path
and the query alone. In the written form the schemes of the web are in lower case, and the
path of a complete address is at least a slash.
-/

namespace EvidenceLedger.Api

structure Address where
  scheme : Option (List Char)
  /-- The host, with what may stand around it: a user before it and a port after it. -/
  host : List Char
  path : List Char
  query : Option (List Char)
deriving DecidableEq

namespace Address

/-- The schemes that are written in lower case, however they were sent. -/
def webSchemes : List (List Char) :=
  ["http".toList, "https".toList]

def spellScheme (scheme : List Char) : List Char :=
  let lower := scheme.map Char.toLower
  if webSchemes.contains lower then lower else scheme

/-- The scheme that an address begins with, and what follows it. -/
def splitScheme? (text : List Char) : Option (List Char × List Char) :=
  match text.dropWhile (· != ':') with
  | ':' :: '/' :: '/' :: rest => some (text.takeWhile (· != ':'), rest)
  | _ => none

/-- Does the character stand within a host? A path or a query ends it. -/
def isOfHost (c : Char) : Bool :=
  c != '/' && c != '?'

def pathOf (place : List Char) : List Char :=
  place.takeWhile (· != '?')

/-- The query that follows the path of a place, if one does. It may be empty. -/
def queryOf (place : List Char) : Option (List Char) :=
  match place.dropWhile (· != '?') with
  | [] => none
  | _ :: query => some query

/-- The address without a fragment that a text writes. -/
def ofPlain (text : List Char) : Address :=
  if text.head? = some '/' || text = ['*'] then ⟨none, [], pathOf text, queryOf text⟩
  else
    match splitScheme? text with
    | some (scheme, rest) =>
      let place := rest.dropWhile isOfHost
      let path := pathOf place
      ⟨some (spellScheme scheme), rest.takeWhile isOfHost, if path = [] then ['/'] else path,
        queryOf place⟩
    | none => ⟨none, text, [], none⟩

def ofText (s : String) : Address :=
  ofPlain (s.toList.takeWhile (· != '#'))

def toText (a : Address) : String :=
  String.ofList ((a.scheme.map (· ++ "://".toList)).getD [] ++ a.host ++ a.path ++
    (a.query.map ('?' :: ·)).getD [])

theorem pathOf_append_queryOf (place : List Char) :
    pathOf place ++ ((queryOf place).map ('?' :: ·)).getD [] = place := by
  unfold pathOf queryOf
  have whole := List.takeWhile_append_dropWhile (p := (· != '?')) (l := place)
  split
  · next ended => simpa [ended] using whole
  · next mark query found =>
    have isMark : mark = '?' := by
      have := List.head?_dropWhile_not (· != '?') place
      simpa [found] using this
    simpa [found, isMark] using whole

/-- What names a place on the node itself is written as it was sent. -/
theorem toText_ofPlain_of_slash (rest : List Char) :
    (ofPlain ('/' :: rest)).toText = String.ofList ('/' :: rest) := by
  simp [ofPlain, toText, pathOf_append_queryOf]

end Address

end EvidenceLedger.Api
