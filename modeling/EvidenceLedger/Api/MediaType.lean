/-!
# Media types

A media type is a type and a subtype with a slash between them, and parameters after
semicolons. A subtype may end in a plus sign and a suffix that names the format which it is
built on. Types and subtypes are tokens; the value of a parameter is a token or stands between
quotes. Blanks are allowed before a parameter and after a quoted value, and nowhere else.

A body is JSON if its type is an application's and its subtype or its suffix is `json`.
-/

namespace EvidenceLedger.MediaType

def isToken (c : Char) : Bool :=
  c.isAlphanum || "!#$%&'*+-.^_|~".toList.contains c || c == Char.ofNat 0x60

/-- What follows a quoted value: blanks, and the next parameter or the end. -/
def afterQuoted : List Char → Option (List Char)
  | [] => some []
  | c :: cs => if c = ';' then some cs else if c = ' ' then afterQuoted cs else none

/-- What follows the closing quote of a value. -/
def skipQuoted : List Char → Option (List Char)
  | [] => none
  | c :: cs =>
    if c = '"' then some cs
    else if ' ' ≤ c && c != Char.ofNat 0x7F then skipQuoted cs
    else none

/-- What follows the value of a parameter. The first character between the quotes may be a
quote itself. -/
def skipValue (cs : List Char) : Option (List Char) :=
  match cs with
  | '"' :: first :: rest =>
    if ' ' ≤ first && first != Char.ofNat 0x7F then (skipQuoted rest).bind afterQuoted else none
  | _ =>
    match cs.takeWhile isToken, cs.dropWhile isToken with
    | _, [] => some []
    | _ :: _, ';' :: rest => some rest
    | _, _ => none

/-- Are the characters parameters? Each takes at least one character, so that `limit` of them
fit into as many characters. -/
def areParameters (limit : Nat) (cs : List Char) : Bool :=
  match limit, cs with
  | _, [] => true
  | 0, _ => false
  | limit + 1, ' ' :: rest => areParameters limit rest
  | limit + 1, cs =>
    match cs.takeWhile isToken, cs.dropWhile isToken with
    | _ :: _, '=' :: rest =>
      match skipValue rest with
      | some rest => areParameters limit rest
      | none => false
    | _, _ => false

/-- A subtype and its suffix, which follows the last plus sign that does not stand first. -/
def splitSuffix (subtype : List Char) : List Char × Option (List Char) :=
  let suffix := (subtype.reverse.takeWhile (· != '+')).reverse
  let name := subtype.take (subtype.length - suffix.length - 1)
  if suffix.length < subtype.length && !name.isEmpty then (name, some suffix) else (subtype, none)

def isJson (mediaType : String) : Bool :=
  let cs := mediaType.toList
  let kind := (cs.takeWhile isToken).map Char.toLower
  match cs.dropWhile isToken with
  | '/' :: rest =>
    let (name, suffix) := splitSuffix ((rest.takeWhile isToken).map Char.toLower)
    let parametersFit := match rest.takeWhile isToken, rest.dropWhile isToken with
      | _, [] => true
      | _ :: _, ';' :: parameters =>
        parameters.all (fun c => ' ' ≤ c && c < Char.ofNat 0x7F) &&
          areParameters parameters.length parameters
      | _, _ => false
    kind == "application".toList && (name == "json".toList || suffix == some "json".toList) &&
      parametersFit
  | _ => false

end EvidenceLedger.MediaType
