/-!
# Texts between separators

A text that holds no separator ends where the first one stands, so two rows of such texts with
separators behind them or between them are equal only text by text.
-/

namespace EvidenceLedger.Text

/-- What stands before the first separator and what stands after it are determined. -/
theorem append_separator_inj {separator : Char} {a b s t : List Char} (ha : separator ∉ a)
    (hb : separator ∉ b) : a ++ separator :: s = b ++ separator :: t ↔ a = b ∧ s = t := by
  constructor
  · intro h
    induction a generalizing b with
    | nil =>
      cases b with
      | nil => simpa using h
      | cons c b =>
        simp only [List.nil_append, List.cons_append, List.cons.injEq] at h
        exact absurd (h.1 ▸ List.mem_cons_self) hb
    | cons c a ih =>
      cases b with
      | nil =>
        simp only [List.nil_append, List.cons_append, List.cons.injEq] at h
        exact absurd (h.1 ▸ List.mem_cons_self) ha
      | cons d b =>
        simp only [List.cons_append, List.cons.injEq] at h
        obtain ⟨rfl, rest⟩ := h
        obtain ⟨rfl, rfl⟩ :=
          ih (List.not_mem_of_not_mem_cons ha) (List.not_mem_of_not_mem_cons hb) rest
        exact ⟨rfl, rfl⟩
  · rintro ⟨rfl, rfl⟩
    rfl

/-- Rows of as many texts with the separator behind each are equal only text by text. -/
theorem flatMap_terminated_inj {separator : Char} {xs ys : List (List Char)} {s t : List Char}
    (hx : ∀ x ∈ xs, separator ∉ x) (hy : ∀ y ∈ ys, separator ∉ y)
    (length : xs.length = ys.length)
    (h : xs.flatMap (· ++ [separator]) ++ s = ys.flatMap (· ++ [separator]) ++ t) :
    xs = ys ∧ s = t := by
  induction xs generalizing ys with
  | nil =>
    obtain rfl := List.length_eq_zero_iff.mp length.symm
    exact ⟨rfl, by simpa using h⟩
  | cons x xs ih =>
    cases ys with
    | nil => simp at length
    | cons y ys =>
      simp only [List.flatMap_cons, List.append_assoc, List.singleton_append] at h
      obtain ⟨rfl, rest⟩ :=
        (append_separator_inj (hx x List.mem_cons_self) (hy y List.mem_cons_self)).mp h
      obtain ⟨rfl, rfl⟩ := ih (fun z member => hx z (List.mem_cons_of_mem x member))
        (fun z member => hy z (List.mem_cons_of_mem x member)) (by simpa using length) rest
      exact ⟨rfl, rfl⟩

/-- Texts with the separator between them can be told apart, but for the row that holds one empty
text and the row that holds none. -/
theorem intercalate_inj {separator : Char} {xs ys : List (List Char)}
    (hx : ∀ x ∈ xs, separator ∉ x) (hy : ∀ y ∈ ys, separator ∉ y) (notBlankX : xs ≠ [[]])
    (notBlankY : ys ≠ [[]]) (h : [separator].intercalate xs = [separator].intercalate ys) :
    xs = ys := by
  have split {zs : List (List Char)} (hz : ∀ z ∈ zs, separator ∉ z) (some : zs ≠ []) :
      ([separator].intercalate zs).splitOn separator = zs :=
    List.splitOn_intercalate separator hz some
  by_cases noX : xs = []
  · subst noX
    by_cases noY : ys = []
    · exact noY.symm
    · exact absurd (by rw [← split hy noY, ← h]; simp) notBlankY
  · by_cases noY : ys = []
    · subst noY
      exact absurd (by rw [← split hx noX, h]; simp) notBlankX
    · rw [← split hx noX, h, split hy noY]

/-- Between the separators stands only what stands in the texts. -/
theorem notMem_intercalate {separator c : Char} {xs : List (List Char)} (other : c ≠ separator)
    (h : ∀ x ∈ xs, c ∉ x) : c ∉ [separator].intercalate xs := by
  induction xs with
  | nil => simp
  | cons x xs ih =>
    have first : c ∉ x := h x List.mem_cons_self
    have rest := ih fun y member => h y (List.mem_cons_of_mem x member)
    cases xs with
    | nil => simpa using first
    | cons y ys => simp_all

end EvidenceLedger.Text
