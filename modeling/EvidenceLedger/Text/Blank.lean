import EvidenceLedger.Text.Ranges

/-!
# Blank text and trimming

White space is the Unicode property `White_Space`. It is wider than the six ASCII
characters, and it does not hold the zero-width space or the byte order mark, so a text of
those alone is not blank.

Trimming takes white space from both ends and from nowhere else. A text is blank when
nothing but white space is in it, which is when trimming leaves nothing.
-/

namespace EvidenceLedger.Text

/-- The code points with the property `White_Space`. -/
def spaces : Ranges :=
  [(0x9, 0xD), (0x20, 0x20), (0x85, 0x85), (0xA0, 0xA0), (0x1680, 0x1680), (0x2000, 0x200A),
    (0x2028, 0x2029), (0x202F, 0x202F), (0x205F, 0x205F), (0x3000, 0x3000)]

def isSpace (c : Char) : Bool :=
  spaces.contains c

/-- The characters from the first one that is not white space on. -/
def trimStart (cs : List Char) : List Char :=
  cs.dropWhile isSpace

/-- The characters up to the last one that is not white space. -/
def trimEnd (cs : List Char) : List Char :=
  (cs.reverse.dropWhile isSpace).reverse

/-- The text between the first and the last character that is not white space, both
included. -/
def trim (s : String) : String :=
  String.ofList (trimEnd (trimStart s.toList))

def isBlank (s : String) : Bool :=
  s.toList.all isSpace

@[simp] theorem trimStart_nil : trimStart [] = [] := rfl

@[simp] theorem trimEnd_nil : trimEnd [] = [] := rfl

@[simp] theorem toList_trim (s : String) : (trim s).toList = trimEnd (trimStart s.toList) := by
  simp [trim]

theorem trimStart_eq_nil_iff (cs : List Char) : trimStart cs = [] ↔ cs.all isSpace := by
  induction cs with
  | nil => simp
  | cons c rest ih => by_cases h : isSpace c <;> simp_all [trimStart]

end EvidenceLedger.Text
