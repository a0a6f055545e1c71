import EvidenceLedger.Proofs.Ledger.Integrity
import EvidenceLedger.Proofs.Ledger.Replication
import Mathlib.Data.List.Basic

/-!
# Reading a chain in pages

Blocks are asked for by height and are cut out of the chain by index. The two agree, because
heights count from zero, so a request comes to the blocks whose heights lie in the range that it
names, whichever range that is. Neither end of the range need be a height of the chain: the end of
the range may even be greater than any word.

The indices at which to cut are worked out in words. Their sum stops at the greatest word and is
clipped at the end of the chain. `Ledger.cut?` does so and has no answer where the cut would not
lie inside the chain. That never happens, and what is cut out is what the ledger gives.
-/

namespace EvidenceLedger

/-- The sum of two words, or the greatest word if that is less. -/
def saturatingAdd (a b : UInt64) : UInt64 :=
  if a.toNat + b.toNat < UInt64.size then a + b else UInt64.ofNat (UInt64.size - 1)

theorem toNat_saturatingAdd (a b : UInt64) :
    (saturatingAdd a b).toNat = min (a.toNat + b.toNat) (UInt64.size - 1) := by
  rw [saturatingAdd]
  split
  · next fits =>
    rw [UInt64.toNat_add, Nat.mod_eq_of_lt fits]
    omega
  · next wraps =>
    rw [UInt64.toNat_ofNat_of_lt' (by decide)]
    omega

/-- The items from the index `start` on and before the index `stop`, unless one of the two lies
outside the list or `stop` lies before `start`. -/
def slice? {α : Type} (items : List α) (start stop : Nat) : Option (List α) :=
  if start ≤ stop ∧ stop ≤ items.length then some ((items.drop start).take (stop - start)) else none

/-- Rows of `width` items, one after the other, are the items from the first one on. -/
theorem flatMap_rows {α : Type} (items : List α) (width count : Nat) :
    (List.range count).flatMap (fun i => (items.drop (i * width)).take width) =
      items.take (count * width) := by
  induction count with
  | zero => rw [Nat.zero_mul, List.take_zero, List.range_zero, List.flatMap_nil]
  | succ count ih =>
    rw [List.range_succ, List.flatMap_append, ih, List.flatMap_singleton, Nat.succ_mul,
      List.take_add]

/-- How many rows of `width` items it takes to hold so many items. -/
def rowCount (items width : Nat) : Nat :=
  (items + width - 1) / width

section RowCount

variable {items width number : Nat}

theorem mul_lt_of_lt_rowCount (positive : 0 < width) (earlier : number < rowCount items width) :
    number * width < items := by
  have whole := (Nat.le_div_iff_mul_le positive).mp earlier
  rw [Nat.succ_mul] at whole
  omega

theorem le_rowCount_mul (positive : 0 < width) : items ≤ rowCount items width * width := by
  have rounded := Nat.lt_mul_div_succ (items + width - 1) positive
  rw [Nat.mul_succ, Nat.mul_comm] at rounded
  rw [rowCount]
  omega

theorem rowCount_mul_lt_add (positive : 0 < width) :
    rowCount items width * width < items + width := by
  have rounded := Nat.div_mul_le_self (items + width - 1) width
  rw [rowCount]
  omega

/-- Rows that are shorter than a bound, for items that fill no more than half of it, end below it.
One row by itself does, and where there are more the last one is no longer than all before it. -/
theorem rowCount_mul_lt {bound : Nat} (positive : 0 < width) (small : 2 * items ≤ bound)
    (narrow : width < bound) : rowCount items width * width < bound := by
  cases count : rowCount items width with
  | zero => omega
  | succ earlier =>
    have inside : earlier * width < items := mul_lt_of_lt_rowCount positive (by omega)
    rw [Nat.succ_mul]
    obtain rfl | later := Nat.eq_zero_or_pos earlier
    · omega
    · have short : width ≤ earlier * width := Nat.le_mul_of_pos_left _ later
      omega

end RowCount

namespace Numbered

variable {chain : List Block} {block : Block} {n : Nat}

theorem height_lt_of_mem_take (numbered : Numbered chain) (member : block ∈ chain.take n) :
    block.height.toNat < n := by
  obtain ⟨i, inside, rfl⟩ := List.mem_take_iff_getElem.mp member
  rw [numbered i _ (List.getElem?_eq_getElem _)]
  omega

theorem le_height_of_mem_drop (numbered : Numbered chain) (member : block ∈ chain.drop n) :
    n ≤ block.height.toNat := by
  obtain ⟨i, inside, rfl⟩ := List.mem_drop_iff_getElem.mp member
  rw [numbered (n + i) _ (List.getElem?_eq_getElem _)]
  omega

/-- The blocks below a height are those before the index of that height. -/
theorem filter_height_lt (numbered : Numbered chain) (n : Nat) :
    chain.filter (fun b => b.height.toNat < n) = chain.take n := by
  have before : (chain.take n).filter (fun b => b.height.toNat < n) = chain.take n :=
    List.filter_eq_self.mpr fun b member =>
      decide_eq_true (numbered.height_lt_of_mem_take member)
  have after : (chain.drop n).filter (fun b => b.height.toNat < n) = [] := by
    refine List.filter_eq_nil_iff.mpr fun b member => ?_
    rw [decide_eq_true_eq]
    exact Nat.not_lt_of_le (numbered.le_height_of_mem_drop member)
  calc chain.filter (fun b => b.height.toNat < n)
      = (chain.take n ++ chain.drop n).filter (fun b => b.height.toNat < n) := by
        rw [List.take_append_drop]
    _ = chain.take n := by rw [List.filter_append, before, after, List.append_nil]

/-- The blocks from a height on are those from the index of that height on. -/
theorem filter_le_height (numbered : Numbered chain) (n : Nat) :
    chain.filter (fun b => n ≤ b.height.toNat) = chain.drop n := by
  have before : (chain.take n).filter (fun b => n ≤ b.height.toNat) = [] := by
    refine List.filter_eq_nil_iff.mpr fun b member => ?_
    rw [decide_eq_true_eq]
    exact Nat.not_le_of_lt (numbered.height_lt_of_mem_take member)
  have after : (chain.drop n).filter (fun b => n ≤ b.height.toNat) = chain.drop n :=
    List.filter_eq_self.mpr fun b member =>
      decide_eq_true (numbered.le_height_of_mem_drop member)
  calc chain.filter (fun b => n ≤ b.height.toNat)
      = (chain.take n ++ chain.drop n).filter (fun b => n ≤ b.height.toNat) := by
        rw [List.take_append_drop]
    _ = chain.drop n := by rw [List.filter_append, before, after, List.nil_append]

/-- The blocks of a range of heights stand next to each other, from the index of the first height
on. -/
theorem filter_heights (numbered : Numbered chain) (start limit : Nat) :
    chain.filter (fun b => start ≤ b.height.toNat ∧ b.height.toNat < start + limit) =
      (chain.drop start).take limit := by
  have lower : Numbered (chain.take (start + limit)) :=
    numbered.of_prefix (List.take_prefix _ _)
  calc chain.filter (fun b => start ≤ b.height.toNat ∧ b.height.toNat < start + limit)
      = (chain.filter fun b => b.height.toNat < start + limit).filter
          (fun b => start ≤ b.height.toNat) := by simp only [List.filter_filter, Bool.decide_and]
    _ = (chain.take (start + limit)).drop start := by
        rw [numbered.filter_height_lt, lower.filter_le_height]
    _ = (chain.drop start).take limit := by rw [List.drop_take, Nat.add_sub_cancel_left]

end Numbered

namespace Ledger

variable {judge : Judge} {l : Ledger} {start limit size : UInt64}

/-- The blocks that a request for blocks cuts out of the chain, with the indices worked out in
words, unless the cut does not lie inside the chain. -/
def cut? (l : Ledger) (start limit : UInt64) : Option (List Block) :=
  if limit = 0 ∨ l.head.height < start then some []
  else slice? l.chain start.toNat (min (saturatingAdd start limit).toNat l.chain.length)

/-- The page with this number, if pages are as long as `size` says and are counted from zero. -/
def page (l : Ledger) (size : UInt64) (number : Nat) : List Block :=
  l.blocksFrom (UInt64.ofNat (number * size.toNat)) size

/-- Where the head says how long the chain is, blocks are asked for by their indices. -/
theorem blocksFrom_eq (counts : l.head.height.toNat + 1 = l.chain.length) (start limit : UInt64) :
    l.blocksFrom start limit = (l.chain.drop start.toNat).take limit.toNat := by
  rw [blocksFrom]
  split
  · next none =>
    obtain rfl | beyond := none
    · exact List.take_zero.symm
    · have past := UInt64.lt_iff_toNat_lt.mp beyond
      rw [List.drop_eq_nil_of_le (by omega), List.take_nil]
  · rfl

/-- The cut lies inside the chain, and what is cut out is what the ledger gives. -/
theorem cut?_eq_some (counts : l.head.height.toNat + 1 = l.chain.length)
    (room : l.chain.length < UInt64.size) (start limit : UInt64) :
    l.cut? start limit = some (l.blocksFrom start limit) := by
  rw [cut?, blocksFrom]
  split
  · rfl
  · next some =>
    have inside : start.toNat ≤ l.head.height.toNat :=
      UInt64.le_iff_toNat_le.mp (UInt64.not_lt.mp fun beyond => some (.inr beyond))
    rw [toNat_saturatingAdd, slice?, if_pos (by omega)]
    -- Clipping the end of the range at the end of the chain is what taking blocks does by itself.
    obtain long | short := Nat.le_total l.chain.length (start.toNat + limit.toNat)
    · rw [List.take_of_length_le (by rw [List.length_drop]; omega),
        List.take_of_length_le (by rw [List.length_drop]; omega)]
    · have stop : min (min (start.toNat + limit.toNat) (UInt64.size - 1)) l.chain.length =
          start.toNat + limit.toNat := by omega
      rw [stop, Nat.add_sub_cancel_left]

theorem page_eq (counts : l.head.height.toNat + 1 = l.chain.length) {number : Nat}
    (word : number * size.toNat < UInt64.size) :
    l.page size number = (l.chain.drop (number * size.toNat)).take size.toNat := by
  rw [page, blocksFrom_eq counts, UInt64.toNat_ofNat_of_lt' word]

/-- Reading page after page gives the chain, up to a page that is empty or that no word is the start
of. -/
theorem exists_pages (counts : l.head.height.toNat + 1 = l.chain.length)
    (room : l.chain.length < UInt64.size) (positive : 0 < size.toNat) :
    ∃ count,
      (∀ number < count, number * size.toNat < UInt64.size ∧ l.page size number ≠ []) ∧
      (count * size.toNat < UInt64.size → l.page size count = []) ∧
      (2 * l.chain.length ≤ UInt64.size → count * size.toNat < UInt64.size) ∧
      (List.range count).flatMap (l.page size) = l.chain := by
  have starts {number : Nat} (earlier : number < rowCount l.chain.length size.toNat) :
      number * size.toNat < UInt64.size :=
    Nat.lt_trans (mul_lt_of_lt_rowCount positive earlier) room
  refine ⟨rowCount l.chain.length size.toNat, fun number earlier => ⟨starts earlier, ?_⟩,
    fun word => ?_, fun small => ?_, ?_⟩
  · rw [page_eq counts (starts earlier), ne_eq, List.take_eq_nil_iff, List.drop_eq_nil_iff]
    have inside := mul_lt_of_lt_rowCount positive earlier
    omega
  · rw [page_eq counts word, List.drop_eq_nil_of_le (le_rowCount_mul positive), List.take_nil]
  · exact rowCount_mul_lt positive small size.toNat_lt
  · calc (List.range (rowCount l.chain.length size.toNat)).flatMap (l.page size)
        = (List.range (rowCount l.chain.length size.toNat)).flatMap
            fun number => (l.chain.drop (number * size.toNat)).take size.toNat :=
          List.flatMap_congr fun number member =>
            page_eq counts (starts (List.mem_range.mp member))
      _ = l.chain.take (rowCount l.chain.length size.toNat * size.toNat) := flatMap_rows _ _ _
      _ = l.chain := List.take_of_length_le (le_rowCount_mul positive)

/-- Ranges of blocks are exact. Take any ledger that operations lead to, a row of fewer blocks than
words of 64 bits. Whatever words a request for blocks names as the first height and as the greatest
number of blocks, the chain is cut where it has indices, and the request comes to those blocks of
the chain, in its order, whose height is at least the first one and less than the sum of the two,
which is taken without wrapping around.

Reading page after page of any size but zero, each page has blocks until all pages together are the
chain, every block once. The page after those is empty, unless no word is left to ask for it with;
one is left if the chain takes up no more than half of them. -/
theorem blocks_of_reachable (reachable : Reachable judge l)
    (room : l.chain.length < UInt64.size) :
    (∀ start limit : UInt64,
      l.cut? start limit = some (l.blocksFrom start limit) ∧
        l.blocksFrom start limit = l.chain.filter fun b =>
          start.toNat ≤ b.height.toNat ∧ b.height.toNat < start.toNat + limit.toNat) ∧
      ∀ size : UInt64, size ≠ 0 → ∃ count,
        (∀ number < count, number * size.toNat < UInt64.size ∧ l.page size number ≠ []) ∧
        (count * size.toNat < UInt64.size → l.page size count = []) ∧
        (2 * l.chain.length ≤ UInt64.size → count * size.toNat < UInt64.size) ∧
        (List.range count).flatMap (l.page size) = l.chain := by
  have numbered := numbered_of_reachable reachable (Nat.le_of_lt room)
  have counts := toNat_height_head numbered
  refine ⟨fun start limit => ⟨cut?_eq_some counts room start limit, ?_⟩, fun size some => ?_⟩
  · rw [blocksFrom_eq counts, numbered.filter_heights]
  · have positive : 0 < size.toNat :=
      Nat.pos_of_ne_zero fun zero => some (UInt64.toNat_inj.mp zero)
    exact exists_pages counts room positive

/-- The leader has sealed one block. From height one on it gives that block, however many are asked
for, and pages of one block give both blocks of its chain. -/
theorem blocks_of_sealed :
    let l := Sample.waiting.append Sample.sealedBlock []
    Reachable Sample.judge l ∧ l.chain.length < UInt64.size ∧
      l.cut? 1 (.ofNat (UInt64.size - 1)) = some [Sample.sealedBlock] ∧
      ∃ count, l.page 1 count = [] ∧ (List.range count).flatMap (l.page 1) =
        [Cryptography.standard.genesis, Sample.sealedBlock] := by
  intro l
  have room : l.chain.length < UInt64.size := by decide
  obtain ⟨ranges, pages⟩ := blocks_of_reachable Sample.reachable_sealed room
  obtain ⟨cut, blocks⟩ := ranges 1 (.ofNat (UInt64.size - 1))
  obtain ⟨count, _, empty, word, whole⟩ := pages 1 (by decide)
  exact ⟨Sample.reachable_sealed, room, cut.trans (congrArg some blocks), count,
    empty (word (by decide)), whole⟩

end Ledger

end EvidenceLedger
