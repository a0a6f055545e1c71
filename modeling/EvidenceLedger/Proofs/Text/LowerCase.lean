import EvidenceLedger.Proofs.Text.Trim
import EvidenceLedger.Text.Case

/-!
# Lower case is final

A text in lower case stays as it is when it is put into lower case again: the counterparts of
characters are their own counterparts, and none of them is the capital sigma, whose counterpart
depends on what stands next to it. No counterpart of a letter is white space either. So a trimmed
text is still trimmed in lower case.
-/

namespace EvidenceLedger.Text

/-- Is `c` its own counterpart, and no white space? -/
def isFinal (c : Char) : Bool :=
  lowerOf c == [c] && !isSpace c

theorem lowerOf_of_isFinal {c : Char} (final : isFinal c = true) : lowerOf c = [c] :=
  eq_of_beq (Bool.and_eq_true_iff.mp final).1

theorem isSpace_of_isFinal {c : Char} (final : isFinal c = true) : isSpace c = false :=
  (Bool.not_eq_true' _).mp (Bool.and_eq_true_iff.mp final).2

namespace CaseRun

/-- The last counterpart of a run. -/
def top (run : CaseRun) : Nat :=
  run.target + (run.last - run.first)

/-- Do the counterparts of `run` lie beside the interval from `low` to `high`? -/
def beside (run : CaseRun) (low high : Nat) : Bool :=
  Nat.blt high run.target || Nat.blt run.top low

/-- Is no counterpart of `run` in the run `other`? Where the two overlap, `other` holds every second
character, and the counterparts are the characters between them. -/
def clears (run other : CaseRun) : Bool :=
  run.beside other.first other.last ||
    (other.step == 2 && (run.step == 2 || run.first == run.last) &&
      (run.target + other.first) % 2 == 1)

variable {run other : CaseRun} {n : Nat}

theorem image_le_top (covered : run.covers n = true) :
    run.target ≤ run.image n ∧ run.image n ≤ run.top := by
  simp only [covers, Bool.and_eq_true, decide_eq_true_eq] at covered
  simp only [image, top]
  omega

theorem not_mem_of_beside {low high : Nat} (apart : run.beside low high = true)
    (covered : run.covers n = true) : ¬(low ≤ run.image n ∧ run.image n ≤ high) := by
  have bounds := image_le_top covered
  simp only [beside, Bool.or_eq_true, Nat.blt_eq] at apart
  omega

theorem covers_image_of_clears (clear : run.clears other = true) (covered : run.covers n = true) :
    other.covers (run.image n) = false := by
  rw [Bool.eq_false_iff]
  intro again
  simp only [covers, Bool.and_eq_true, decide_eq_true_eq, beq_iff_eq] at again
  simp only [clears, Bool.or_eq_true, Bool.and_eq_true, beq_iff_eq] at clear
  cases clear with
  | inl apart => exact not_mem_of_beside apart covered again.1
  | inr between =>
    obtain ⟨⟨second, every⟩, odd⟩ := between
    simp only [covers, Bool.and_eq_true, decide_eq_true_eq, beq_iff_eq] at covered
    rw [second] at again
    simp only [image] at again
    obtain every | single := every
    · rw [every] at covered
      omega
    · omega

end CaseRun

/-- The counterparts are characters that are not in the table themselves, and no white space. -/
theorem clears_lowerRuns : ∀ run ∈ lowerRuns,
    (lowerRuns.all run.clears && lowerExpansions.all (fun entry => run.beside entry.1 entry.1) &&
      spaces.all (fun range => run.beside range.1 range.2) && run.beside 0xD800 0xDFFF &&
      decide (run.top < 0x110000)) = true := by
  decide +kernel

theorem lowerOf_of_forall {c : Char} (expansions : ∀ entry ∈ lowerExpansions, entry.1 ≠ c.toNat)
    (runs : ∀ run ∈ lowerRuns, run.covers c.toNat = false) : lowerOf c = [c] := by
  have unlisted : lowerExpansions.lookup c.toNat = none := by
    rw [List.lookup_eq_none_iff]
    exact fun entry member => bne_iff_ne.mpr (expansions entry member).symm
  have uncovered : lowerRuns.find? (·.covers c.toNat) = none := by
    rw [List.find?_eq_none]
    exact fun run member => Bool.eq_false_iff.mp (runs run member)
  rw [lowerOf, counterpart, unlisted, uncovered]

theorem isFinal_image {run : CaseRun} {n : Nat} (member : run ∈ lowerRuns)
    (covered : run.covers n = true) : isFinal (Char.ofNat (run.image n)) = true := by
  have table := clears_lowerRuns run member
  simp only [Bool.and_eq_true, List.all_eq_true, decide_eq_true_eq] at table
  obtain ⟨⟨⟨⟨runs, expansions⟩, noSpace⟩, noSurrogate⟩, below⟩ := table
  have bounds := CaseRun.image_le_top covered
  have surrogates := CaseRun.not_mem_of_beside noSurrogate covered
  have isScalar : (run.image n).isValidChar := by
    simp only [Nat.isValidChar]
    omega
  have toNat : (Char.ofNat (run.image n)).toNat = run.image n := by
    rw [Char.ofNat, dif_pos isScalar]
    rfl
  rw [isFinal, Bool.and_eq_true]
  constructor
  · rw [beq_iff_eq]
    apply lowerOf_of_forall
    · intro entry isEntry same
      rw [toNat] at same
      exact CaseRun.not_mem_of_beside (expansions entry isEntry) covered
        ⟨Nat.le_of_eq same, Nat.le_of_eq same.symm⟩
    · intro other isRun
      rw [toNat]
      exact CaseRun.covers_image_of_clears (runs other isRun) covered
  · rw [Bool.not_eq_true', Bool.eq_false_iff]
    intro space
    rw [isSpace, Ranges.contains, toNat, Ranges.holds, List.any_eq_true] at space
    obtain ⟨range, isRange, inside⟩ := space
    rw [Bool.and_eq_true, decide_eq_true_eq, decide_eq_true_eq] at inside
    exact CaseRun.not_mem_of_beside (noSpace range isRange) covered inside

theorem isFinal_lowerExpansions : ∀ entry ∈ lowerExpansions, entry.2 ≠ [] ∧
    ∀ code ∈ entry.2, isFinal (Char.ofNat code) = true := by
  decide +kernel

/-- A character is its own counterpart, or its counterparts are final. -/
theorem lowerOf_cases (c : Char) :
    lowerOf c = [c] ∨ lowerOf c ≠ [] ∧ ∀ d ∈ lowerOf c, isFinal d = true := by
  rw [lowerOf, counterpart]
  split
  · next codes listed =>
    obtain ⟨_, _, same, _⟩ := List.lookup_eq_some_iff.mp listed
    have member : (c.toNat, codes) ∈ lowerExpansions :=
      same ▸ List.mem_append_right _ List.mem_cons_self
    obtain ⟨nonempty, final⟩ := isFinal_lowerExpansions _ member
    refine .inr ⟨mt List.map_eq_nil_iff.mp nonempty, fun d isCounterpart => ?_⟩
    obtain ⟨code, isCode, rfl⟩ := List.mem_map.mp isCounterpart
    exact final code isCode
  · split
    · next run found =>
      have covered : run.covers c.toNat = true :=
        @List.find?_some CaseRun (·.covers c.toNat) _ _ found
      refine .inr ⟨List.cons_ne_nil _ _, fun d member => ?_⟩
      rw [List.mem_singleton.mp member]
      exact isFinal_image (List.mem_of_find?_eq_some found) covered
    · exact .inl rfl

theorem ne_sigma_of_lowerOf {c : Char} (own : lowerOf c = [c]) : c ≠ 'Σ' := by
  rintro rfl
  exact absurd own (by decide +kernel)

/-- What a character becomes, whatever it stands next to: characters that are in lower case, and
no white space unless it was white space before. -/
theorem exists_lowerFrom_cons (before : List Char) (c : Char) (after : List Char) :
    ∃ low, lowerFrom before (c :: after) = low ++ lowerFrom (c :: before) after ∧ low ≠ [] ∧
      (∀ d ∈ low, lowerOf d = [d]) ∧ (isSpace c = false → ∀ d ∈ low, isSpace d = false) := by
  refine ⟨_, lowerFrom.eq_2 _ _ _, ?_⟩
  split
  · refine ⟨List.cons_ne_nil _ _, fun d member => ?_, fun _ d member => ?_⟩
    · rw [List.mem_singleton.mp member]
      split
      · decide +kernel
      · decide +kernel
    · rw [List.mem_singleton.mp member]
      split
      · decide
      · decide
  · obtain own | ⟨nonempty, final⟩ := lowerOf_cases c
    · rw [own]
      refine ⟨List.cons_ne_nil _ _, fun d member => ?_, fun noSpace d member => ?_⟩
      · exact List.mem_singleton.mp member ▸ own
      · exact List.mem_singleton.mp member ▸ noSpace
    · exact ⟨nonempty, fun d member => lowerOf_of_isFinal (final d member),
        fun _ d member => isSpace_of_isFinal (final d member)⟩

theorem lowerFrom_eq_nil_iff {before cs : List Char} : lowerFrom before cs = [] ↔ cs = [] := by
  cases cs with
  | nil => exact iff_of_true rfl rfl
  | cons c cs =>
    obtain ⟨low, same, nonempty, _⟩ := exists_lowerFrom_cons before c cs
    rw [same]
    exact iff_of_false (List.append_ne_nil_of_left_ne_nil nonempty _) (List.cons_ne_nil c cs)

/-- No text vanishes in lower case. -/
theorem toLower_eq_empty_iff {s : String} : toLower s = "" ↔ s = "" := by
  rw [toLower, String.ofList_eq_empty_iff, lowerFrom_eq_nil_iff, String.toList_eq_nil_iff]

theorem lowerOf_of_mem_lowerFrom {before cs : List Char} {d : Char}
    (member : d ∈ lowerFrom before cs) : lowerOf d = [d] := by
  induction cs generalizing before with
  | nil => cases member
  | cons c cs ih =>
    obtain ⟨low, same, _, own, _⟩ := exists_lowerFrom_cons before c cs
    rw [same, List.mem_append] at member
    cases member with
    | inl here => exact own d here
    | inr later => exact ih later

/-- Characters that are their own counterparts stay as they are. -/
theorem lowerFrom_of_forall (before : List Char) {cs : List Char}
    (own : ∀ c ∈ cs, lowerOf c = [c]) : lowerFrom before cs = cs := by
  induction cs generalizing before with
  | nil => rfl
  | cons c cs ih =>
    have first := own c List.mem_cons_self
    rw [lowerFrom, if_neg (ne_sigma_of_lowerOf first), first,
      ih (c :: before) fun d member => own d (List.mem_cons_of_mem c member)]
    rfl

/-- A text in lower case stays as it is. -/
theorem toLower_toLower (s : String) : toLower (toLower s) = toLower s := by
  rw [toLower, toList_toLower, lowerFrom_of_forall [] fun _ => lowerOf_of_mem_lowerFrom]
  rfl

theorem isSpace_of_mem_getLast?_lowerFrom {before cs : List Char}
    (last : ∀ c ∈ cs.getLast?, isSpace c = false) :
    ∀ d ∈ (lowerFrom before cs).getLast?, isSpace d = false := by
  induction cs generalizing before with
  | nil => exact last
  | cons c cs ih =>
    obtain ⟨low, same, _, _, noSpace⟩ := exists_lowerFrom_cons before c cs
    intro d isLast
    rw [same] at isLast
    cases cs with
    | nil =>
      rw [lowerFrom_nil, List.append_nil] at isLast
      exact noSpace (last c rfl) d (List.mem_of_mem_getLast? isLast)
    | cons next cs =>
      have goesOn : lowerFrom (c :: before) (next :: cs) ≠ [] :=
        mt lowerFrom_eq_nil_iff.mp (List.cons_ne_nil next cs)
      rw [List.getLast?_append, List.getLast?_eq_some_getLast goesOn, Option.some_or,
        ← List.getLast?_eq_some_getLast goesOn] at isLast
      exact ih (List.getLast?_cons_cons ▸ last) d isLast

/-- No white space comes up at the ends of a text in lower case. -/
theorem Trimmed.lowerFrom {cs : List Char} (trimmed : Trimmed cs) (before : List Char) :
    Trimmed (lowerFrom before cs) := by
  refine ⟨?_, isSpace_of_mem_getLast?_lowerFrom trimmed.last⟩
  cases cs with
  | nil => exact trimmed.first
  | cons c cs =>
    obtain ⟨low, same, nonempty, _, noSpace⟩ := exists_lowerFrom_cons before c cs
    intro d isFirst
    rw [same, List.head?_append, List.head?_eq_some_head nonempty, Option.some_or,
      ← List.head?_eq_some_head nonempty] at isFirst
    exact noSpace (trimmed.first c rfl) d (List.mem_of_mem_head? isFirst)

/-- Nothing has to be trimmed from the lower case of a trimmed text. -/
theorem trim_toLower_trim (s : String) : trim (toLower (trim s)) = toLower (trim s) := by
  apply trim_of_trimmed
  rw [toList_toLower]
  exact (trimmed_trim s).lowerFrom []

end EvidenceLedger.Text
