import EvidenceLedger.Text.Blank

/-!
# When trimming changes nothing, and when it leaves nothing

A text from which nothing has to be trimmed neither starts nor ends with white space. What trimming
leaves is such a text, so there is nothing to be trimmed from it again.
-/

namespace EvidenceLedger.Text

/-- There is no white space at either end. -/
structure Trimmed (cs : List Char) : Prop where
  first : ∀ c ∈ cs.head?, isSpace c = false
  last : ∀ c ∈ cs.getLast?, isSpace c = false

instance (cs : List Char) : Decidable (Trimmed cs) :=
  decidable_of_iff (cs.head?.all (!isSpace ·) ∧ cs.getLast?.all (!isSpace ·)) <| by
    simp only [Option.all_eq_true, Bool.not_eq_true']
    exact ⟨fun h => ⟨h.1, h.2⟩, fun h => ⟨h.first, h.last⟩⟩

theorem isSpace_of_mem_head?_trimStart {cs : List Char} {c : Char}
    (first : c ∈ (trimStart cs).head?) : isSpace c = false := by
  have found := List.head?_dropWhile_not isSpace cs
  rw [← trimStart, Option.mem_def.mp first] at found
  exact found

theorem trimStart_of_head? {cs : List Char} (first : ∀ c ∈ cs.head?, isSpace c = false) :
    trimStart cs = cs := by
  cases cs with
  | nil => rfl
  | cons c cs => rw [trimStart, List.dropWhile_cons, first c rfl, if_neg Bool.false_ne_true]

theorem trimEnd_of_getLast? {cs : List Char} (last : ∀ c ∈ cs.getLast?, isSpace c = false) :
    trimEnd cs = cs := by
  rw [← List.head?_reverse] at last
  rw [trimEnd, ← trimStart, trimStart_of_head? last, List.reverse_reverse]

theorem trimEnd_prefix (cs : List Char) : trimEnd cs <+: cs := by
  have ending : cs.reverse.dropWhile isSpace <:+ cs.reverse := List.dropWhile_suffix _
  rw [← List.reverse_prefix, List.reverse_reverse] at ending
  exact ending

/-- Nothing has to be trimmed from what trimming leaves. -/
theorem trimmed_trim (s : String) : Trimmed (trim s).toList := by
  rw [toList_trim]
  constructor
  · intro c first
    obtain ⟨rest, same⟩ := trimEnd_prefix (trimStart s.toList)
    have before : c ∈ (trimStart s.toList).head? := by
      rw [← same, List.head?_append, Option.mem_def.mp first]
      rfl
    exact isSpace_of_mem_head?_trimStart before
  · intro c last
    rw [trimEnd, List.getLast?_reverse] at last
    exact isSpace_of_mem_head?_trimStart last

theorem trim_of_trimmed {s : String} (trimmed : Trimmed s.toList) : trim s = s := by
  rw [trim, trimStart_of_head? trimmed.first, trimEnd_of_getLast? trimmed.last,
    String.ofList_toList]

/-- Trimmed texts with a mark between them are a trimmed text. -/
theorem Trimmed.append_cons {before after : List Char} {c : Char} (first : Trimmed before)
    (mark : isSpace c = false) (last : Trimmed after) : Trimmed (before ++ c :: after) := by
  constructor
  · intro d isFirst
    cases before with
    | nil =>
      obtain rfl := Option.some.inj isFirst
      exact mark
    | cons e before => exact first.first d isFirst
  · intro d isLast
    rw [List.getLast?_append, List.getLast?_cons, Option.some_or] at isLast
    cases ending : after.getLast? with
    | none =>
      rw [ending] at isLast
      obtain rfl := Option.some.inj isLast
      exact mark
    | some e =>
      rw [ending] at isLast
      obtain rfl := Option.some.inj isLast
      exact last.last e ending

/-- A text without white space stays as it is. -/
theorem trim_of_forall {s : String} (h : ∀ c ∈ s.toList, isSpace c = false) : trim s = s := by
  apply trim_of_trimmed
  constructor
  · intro c first
    exact h c (List.mem_of_mem_head? first)
  · intro c last
    exact h c (List.mem_of_mem_getLast? last)

/-- Nothing is left of a blank text. -/
theorem trim_of_isBlank {s : String} (h : isBlank s) : trim s = "" := by
  rw [trim, (trimStart_eq_nil_iff s.toList).mpr h]
  rfl

/-- Nothing but white space is trimmed away as a whole. -/
theorem trim_eq_empty_iff {s : String} : trim s = "" ↔ isBlank s = true := by
  constructor
  · intro empty
    have trimmed : trimEnd (trimStart s.toList) = [] := by
      rw [← toList_trim, empty]
      rfl
    have gone : trimStart s.toList = [] := by
      cases start : trimStart s.toList with
      | nil => rfl
      | cons c rest =>
        have first : c ∈ (trimStart s.toList).head? := by
          rw [start]
          rfl
        have notSpace : isSpace c = false := isSpace_of_mem_head?_trimStart first
        rw [start, trimEnd, List.reverse_eq_nil_iff, ← trimStart, trimStart_eq_nil_iff,
          List.all_reverse, List.all_cons, notSpace] at trimmed
        cases trimmed
    exact (trimStart_eq_nil_iff s.toList).mp gone
  · exact trim_of_isBlank

theorem trimStart_append_of_blank {before cs : List Char} (blank : before.all isSpace) :
    trimStart (before ++ cs) = trimStart cs :=
  List.dropWhile_append_of_pos (List.all_eq_true.mp blank)

theorem trimEnd_append_of_blank {cs after : List Char} (blank : after.all isSpace) :
    trimEnd (cs ++ after) = trimEnd cs := by
  rw [← List.all_reverse] at blank
  rw [trimEnd, List.reverse_append, ← trimStart, trimStart_append_of_blank blank, trimStart,
    trimEnd]

/-- White space around a text is trimmed away, whatever the text is. -/
theorem trim_padded {before after : String} (blankBefore : isBlank before = true)
    (blankAfter : isBlank after = true) (s : String) : trim (before ++ s ++ after) = trim s := by
  rw [trim, trim, String.toList_append, String.toList_append, List.append_assoc,
    trimStart_append_of_blank blankBefore, trimStart, trimStart, List.dropWhile_append]
  split
  · next gone =>
    have nothing : s.toList.dropWhile isSpace = [] := List.isEmpty_iff.mp gone
    have rest : trimStart after.toList = [] := (trimStart_eq_nil_iff _).mpr blankAfter
    rw [nothing, ← trimStart, rest]
  · rw [trimEnd_append_of_blank blankAfter]

end EvidenceLedger.Text
