import EvidenceLedger.Text.CaseTable

/-!
# Upper and lower case

The full case mappings: a character may map to several, as the sharp s does to two capital
letters. One mapping looks at the neighbourhood: a capital sigma becomes a final sigma at
the end of a word, which is where a cased letter stands before it and none after it, marks
and punctuation such as the apostrophe being looked through on both sides.
-/

namespace EvidenceLedger.Text

/-- The counterpart of `c`: from the expansions, else from the runs, else `c` itself. -/
def counterpart (expansions : List (Nat × List Nat)) (runs : List CaseRun) (c : Char) :
    List Char :=
  match expansions.lookup c.toNat with
  | some codes => codes.map Char.ofNat
  | none =>
    match runs.find? (·.covers c.toNat) with
    | some run => [Char.ofNat (run.image c.toNat)]
    | none => [c]

def upperOf (c : Char) : List Char :=
  counterpart upperExpansions upperRuns c

/-- The lower case of one character, wherever it stands. -/
def lowerOf (c : Char) : List Char :=
  counterpart lowerExpansions lowerRuns c

/-- The upper case of a text, character by character. -/
def toUpper (s : String) : String :=
  String.ofList (s.toList.flatMap upperOf)

/-- Is the first character that is not looked through a cased letter? -/
def meetsCased (cs : List Char) : Bool :=
  match cs.dropWhile caseIgnorable.contains with
  | [] => false
  | c :: _ => cased.contains c

/-- Does a word end between `before`, read backwards, and `after`? -/
def endsWord (before after : List Char) : Bool :=
  meetsCased before && !meetsCased after

/-- The lower case of the characters that follow `before`, which is read backwards. -/
def lowerFrom (before : List Char) : List Char → List Char
  | [] => []
  | c :: after =>
    let low := if c = 'Σ' then [if endsWord before after then 'ς' else 'σ'] else lowerOf c
    low ++ lowerFrom (c :: before) after

def toLower (s : String) : String :=
  String.ofList (lowerFrom [] s.toList)

@[simp] theorem lowerFrom_nil (before : List Char) : lowerFrom before [] = [] := rfl

@[simp] theorem toList_toUpper (s : String) : (toUpper s).toList = s.toList.flatMap upperOf := by
  simp [toUpper]

@[simp] theorem toList_toLower (s : String) : (toLower s).toList = lowerFrom [] s.toList := by
  simp [toLower]

end EvidenceLedger.Text
