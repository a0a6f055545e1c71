import EvidenceLedger.Node.Allowlist

/-!
# Entries put in one after the other

An allowlist is known by the key that it has for every node. When entries are put in one after the
other, each node has the last key that was given for it, and nodes that were not mentioned keep
theirs. So it does not matter in which order entries are put in that are for different nodes, and
putting in the same entries again changes nothing.
-/

namespace EvidenceLedger.Allowlist

/-- A node has one entry at most, so the first one found is the one. -/
theorem find?_of_mem {list : Allowlist} {node key : String} (member : (node, key) ∈ list.entries) :
    list.find? node = some key := by
  obtain ⟨entries, ordered⟩ := list
  show (entries.find? fun entry => entry.1 == node).map (·.2) = some key
  induction entries with
  | nil => cases member
  | cons entry rest ih =>
    obtain ⟨lower, ordered⟩ := List.pairwise_cons.mp ordered
    rcases List.mem_cons.mp member with rfl | later
    · simp
    · have other : (entry.1 == node) = false :=
        beq_eq_false_iff_ne.mpr (String.ne_of_lt (lower _ later))
      simp only [List.find?_cons, other]
      exact ih ordered later

theorem insertEntry_perm {node key : String} {entries : List (String × String)}
    (new : node ∉ entries.map Prod.fst) :
    (insertEntry node key entries).Perm ((node, key) :: entries) := by
  induction entries with
  | nil => exact .refl _
  | cons entry rest ih =>
    rw [List.map_cons, List.mem_cons, not_or] at new
    rw [insertEntry]
    split
    · exact .refl _
    · rw [if_neg new.1]
      exact ((ih new.2).cons entry).trans (.swap _ _ _)

/-- New entries that are put in their places are all there, and so are the old ones. -/
theorem foldl_insert_perm {entries : List (String × String)} {list : Allowlist}
    (unique : ((list.entries ++ entries).map Prod.fst).Nodup) :
    (entries.foldl (fun list entry => list.insert entry.1 entry.2) list).entries.Perm
      (list.entries ++ entries) := by
  induction entries generalizing list with
  | nil =>
    rw [List.append_nil]
    exact .refl _
  | cons entry rest ih =>
    have new : entry.1 ∉ list.entries.map Prod.fst := by
      rw [List.map_append, List.map_cons] at unique
      intro known
      exact (List.nodup_append.mp unique).2.2 _ known _ List.mem_cons_self rfl
    have placed : (list.insert entry.1 entry.2).entries.Perm (entry :: list.entries) :=
      insertEntry_perm new
    have moved : ((list.insert entry.1 entry.2).entries ++ rest).Perm
        (list.entries ++ entry :: rest) :=
      (placed.append_right rest).trans List.perm_middle.symm
    have stillUnique := (moved.map Prod.fst).nodup_iff.mpr unique
    exact (ih stillUnique).trans moved

theorem nodup_nodes (list : Allowlist) : (list.entries.map Prod.fst).Nodup := by
  rw [List.Nodup, List.pairwise_map]
  refine list.ordered.imp fun {a b} less => ?_
  exact fun same => String.lt_irrefl b.1 (same ▸ less)

theorem nodup_entries (list : Allowlist) : list.entries.Nodup := by
  refine list.ordered.imp fun {a b} less => ?_
  rintro rfl
  exact String.lt_irrefl a.1 less

/-- The entries of an allowlist make it up again, in whichever order they are put in. -/
theorem foldl_insert_empty {entries : List (String × String)} {list : Allowlist}
    (shuffled : entries.Perm list.entries) :
    entries.foldl (fun list entry => list.insert entry.1 entry.2) empty = list := by
  have unique : ((empty.entries ++ entries).map Prod.fst).Nodup :=
    (shuffled.map Prod.fst).nodup_iff.mpr list.nodup_nodes
  have same := (foldl_insert_perm unique).trans shuffled
  refine ext (same.eq_of_pairwise ?_ (ordered _) list.ordered)
  intro a b _ _ less greater
  exact absurd (String.lt_trans less greater) (String.lt_irrefl _)

theorem mem_entries_iff {list : Allowlist} {node key : String} :
    (node, key) ∈ list.entries ↔ list.find? node = some key := by
  constructor
  · exact find?_of_mem
  · intro found
    obtain ⟨entry, isEntry, rfl⟩ := Option.map_eq_some_iff.mp found
    have matched := List.find?_some isEntry
    exact eq_of_beq matched ▸ List.mem_of_find?_eq_some isEntry

/-- Lists with the same keys are equal. -/
theorem ext_find? {a b : Allowlist} (same : ∀ node, a.find? node = b.find? node) : a = b := by
  have members (entry : String × String) : entry ∈ a.entries ↔ entry ∈ b.entries := by
    rw [mem_entries_iff, mem_entries_iff, same]
  have perm : a.entries.Perm b.entries :=
    (List.perm_ext_iff_of_nodup a.nodup_entries b.nodup_entries).mpr members
  refine ext (perm.eq_of_pairwise ?_ a.ordered b.ordered)
  intro x y _ _ less greater
  exact absurd (String.lt_trans less greater) (String.lt_irrefl _)

/-- A node has the last key that was put in for it, or else the key that it had. -/
theorem find?_foldl_insert (entries : List (String × String)) (list : Allowlist) (node : String) :
    (entries.foldl (fun list entry => list.insert entry.1 entry.2) list).find? node =
      ((entries.reverse.find? fun entry => entry.1 == node).map (·.2)).or (list.find? node) := by
  induction entries generalizing list with
  | nil => rfl
  | cons entry rest ih =>
    rw [List.foldl_cons, ih, List.reverse_cons, List.find?_append, Option.map_or, Option.or_assoc]
    congr 1
    by_cases same : entry.1 = node
    · subst same
      simp
    · simp [find?_insert_of_ne _ _ (Ne.symm same), same]

/-- Entries that were put in already change nothing. -/
theorem foldl_insert_again (entries : List (String × String)) (list : Allowlist) :
    entries.foldl (fun list entry => list.insert entry.1 entry.2)
        (entries.foldl (fun list entry => list.insert entry.1 entry.2) list) =
      entries.foldl (fun list entry => list.insert entry.1 entry.2) list := by
  apply ext_find?
  intro node
  rw [find?_foldl_insert, find?_foldl_insert, ← Option.or_assoc, Option.or_self]

end EvidenceLedger.Allowlist
