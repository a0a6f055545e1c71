import EvidenceLedger.Text.Printable

/-!
# Quoted text

How a message shows a value that somebody sent: between double quotes, with everything
spelled out that would break the quotes or could not be seen. The quote, the backslash, the
line ends, the tab and the null character have escapes of their own; any other character
that does not show on its own is given by its code point. A single quote stays as it is.
-/

namespace EvidenceLedger.Text

/-- The code point of `c` between braces, in lower-case hexadecimal without padding. -/
def codeEscape (c : Char) : List Char :=
  '\\' :: 'u' :: '\x7b' :: Nat.toDigits 16 c.toNat ++ ['\x7d']

def quoteChar (c : Char) : List Char :=
  if c = '"' then ['\\', '"']
  else if c = '\\' then ['\\', '\\']
  else if c = '\n' then ['\\', 'n']
  else if c = '\r' then ['\\', 'r']
  else if c = '\t' then ['\\', 't']
  else if c = '\x00' then ['\\', '0']
  else if isExtender c then codeEscape c
  else if isPrintable c then [c]
  else codeEscape c

/-- The text between double quotes, every character written by `quoteChar`. -/
def quote (s : String) : String :=
  String.ofList ('"' :: s.toList.flatMap quoteChar ++ ['"'])

@[simp] theorem toList_quote (s : String) :
    (quote s).toList = '"' :: s.toList.flatMap quoteChar ++ ['"'] := by
  simp [quote]

end EvidenceLedger.Text
