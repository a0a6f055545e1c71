/-!
# Allowlists

Which nodes may seal blocks, and under which public key each of them does. A node has one key
at most: a later entry takes the place of an earlier one. The order in which entries were
made does not matter, so they are kept in the order of the node identifiers, and two lists
that allow the same are equal.
-/

namespace EvidenceLedger

/-- Are the entries in the order of their identifiers, with none twice? -/
def Allowlist.Ordered (entries : List (String × String)) : Prop :=
  entries.Pairwise fun a b => a.1 < b.1

/-- The nodes that may seal blocks, with their public keys as text. -/
structure Allowlist where
  entries : List (String × String)
  ordered : Allowlist.Ordered entries
deriving DecidableEq

namespace Allowlist

theorem ext {a b : Allowlist} (h : a.entries = b.entries) : a = b := by
  cases a
  cases b
  simp_all

def empty : Allowlist := ⟨[], .nil⟩

def insertEntry (node key : String) : List (String × String) → List (String × String)
  | [] => [(node, key)]
  | entry :: rest =>
    if node < entry.1 then (node, key) :: entry :: rest
    else if node = entry.1 then (node, key) :: rest
    else entry :: insertEntry node key rest

theorem mem_insertEntry {node key : String} {entries : List (String × String)}
    {e : String × String} (h : e ∈ insertEntry node key entries) : e = (node, key) ∨ e ∈ entries := by
  induction entries with
  | nil => simpa [insertEntry] using h
  | cons entry rest ih =>
    simp only [insertEntry] at h
    split at h
    · simpa using h
    · split at h
      · simp only [List.mem_cons] at h ⊢
        exact h.imp id .inr
      · simp only [List.mem_cons] at h ⊢
        rcases h with h | h
        · exact .inr (.inl h)
        · exact (ih h).imp id .inr

theorem ordered_insertEntry (node key : String) {entries : List (String × String)}
    (h : Ordered entries) : Ordered (insertEntry node key entries) := by
  induction entries with
  | nil => simp [insertEntry, Ordered]
  | cons entry rest ih =>
    have hrest : Ordered rest := (List.pairwise_cons.1 h).2
    have hentry := (List.pairwise_cons.1 h).1
    simp only [insertEntry]
    split
    · next hlt =>
      refine List.pairwise_cons.2 ⟨fun e he => ?_, h⟩
      rcases List.mem_cons.1 he with rfl | he
      · exact hlt
      · exact String.lt_trans hlt (hentry e he)
    · next hnlt =>
      split
      · next heq =>
        refine List.pairwise_cons.2 ⟨fun e he => ?_, hrest⟩
        simpa [heq] using hentry e he
      · next hne =>
        refine List.pairwise_cons.2 ⟨fun e he => ?_, ih hrest⟩
        rcases mem_insertEntry he with rfl | he
        · have := String.not_lt.1 hnlt
          show entry.1 < node
          grind
        · exact hentry e he

def insert (list : Allowlist) (node key : String) : Allowlist :=
  ⟨insertEntry node key list.entries, ordered_insertEntry node key list.ordered⟩

def find? (list : Allowlist) (node : String) : Option String :=
  (list.entries.find? fun entry => entry.1 == node).map (·.2)

@[simp] theorem find?_empty (node : String) : empty.find? node = none := rfl

/-- A node that was allowed has the key it was allowed under. -/
@[simp] theorem find?_insert_self (list : Allowlist) (node key : String) :
    (list.insert node key).find? node = some key := by
  suffices h : ∀ entries : List (String × String),
      (insertEntry node key entries).find? (·.1 == node) = some (node, key) by
    simp [find?, insert, h]
  intro entries
  induction entries with
  | nil => simp [insertEntry]
  | cons entry rest ih =>
    simp only [insertEntry]
    split
    · simp
    · split
      · simp
      · next hne => simpa [List.find?_cons, Ne.symm hne] using ih

/-- To allow one node leaves the keys of all others. -/
theorem find?_insert_of_ne (list : Allowlist) {node other : String} (key : String)
    (h : other ≠ node) : (list.insert node key).find? other = list.find? other := by
  suffices hs : ∀ entries : List (String × String),
      (insertEntry node key entries).find? (·.1 == other) = entries.find? (·.1 == other) by
    simp [find?, insert, hs]
  intro entries
  induction entries with
  | nil => simp [insertEntry, Ne.symm h]
  | cons entry rest ih =>
    simp only [insertEntry]
    split
    · simp [List.find?_cons, Ne.symm h]
    · split
      · next heq => simp [← heq, Ne.symm h]
      · simp [List.find?_cons, ih]

end Allowlist

end EvidenceLedger
