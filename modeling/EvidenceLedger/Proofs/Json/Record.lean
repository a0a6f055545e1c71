import EvidenceLedger.Json.Reader
import EvidenceLedger.Proofs.Json.Scan

/-!
# Reading what was written

A reader and the written form of a value belong together if the reader gives the value back.
For records this is put together from their fields, as record readers are. The members of a
written record come in the order of its fields, so a group of fields takes its own members one
after the other, and lets those of the fields after it pass to them. That they do pass is all
that has to be known of the names: no two fields of a record share one.
-/

namespace EvidenceLedger.Json

variable {α β : Type}

/-- The reader gives `a` back from `v`, which has a written form that can be read. -/
structure Reader.Reads (read : Reader α) (v : Json) (a : α) : Prop where
  words : v.Words
  value : read v.toSource = .ok a

/-- What is written of a value is read as that value. -/
class LawfulWire (α : Type) [Wire α] : Prop where
  reads : ∀ a : α, Reader.Reads decode (encode a) a

namespace Reader

variable {read : Reader α} {write : α → Json}

theorem reads_text (s : String) : text.Reads (.str s) s where
  words := .str s
  value := by rw [toSource, text]

theorem reads_bool (b : Bool) : bool.Reads (.bool b) b where
  words := .bool b
  value := by rw [toSource, bool]

/-- A natural number that is not too large is read within the bound. -/
theorem between_toSource {n bound : Nat} (small : n ≤ bound) (fits : bound < UInt64.size) :
    (Json.num n).Words ∧ between 0 bound (Json.num n).toSource = .ok (n : Int) := by
  have isWord : fitsWord (n : Int) = true := by
    simp only [fitsWord, Bool.and_eq_true, decide_eq_true_eq]
    omega
  refine ⟨.num isWord, ?_⟩
  rw [toSource, if_pos isWord, between, if_pos (by omega)]

theorem reads_word64 (n : UInt64) : word64.Reads (Json.word64 n) n := by
  have size : n.toNat < UInt64.size := UInt64.toNat_lt_size n
  obtain ⟨words, inRange⟩ := @between_toSource n.toNat (UInt64.size - 1) (by omega) (by omega)
  refine ⟨words, ?_⟩
  rw [Json.word64, word64, inRange]
  simp [bind, Except.bind, pure, Except.pure]

theorem reads_word16 (n : UInt16) : word16.Reads (.num n.toNat) n := by
  have size : n.toNat < UInt16.size := UInt16.toNat_lt_size n
  obtain ⟨words, inRange⟩ := @between_toSource n.toNat (UInt16.size - 1) (by omega) (by decide)
  refine ⟨words, ?_⟩
  rw [word16, inRange]
  simp [bind, Except.bind, pure, Except.pure]

theorem reads_ofText {decode? : String → Option α} {s : String} {a : α}
    (h : decode? s = some a) : (ofText decode?).Reads (.str s) a where
  words := .str s
  value := by
    rw [toSource, ofText]
    simp only [text, h, bind, Except.bind]

theorem toSource_ne_null {v : Json} (h : v ≠ .null) : v.toSource ≠ .null := by
  cases v with
  | null => exact absurd rfl h
  | num n =>
    rw [toSource]
    split
    · exact Source.noConfusion
    · exact Source.noConfusion
  | bool _ | str _ | arr _ | obj _ =>
    rw [toSource]
    exact Source.noConfusion

theorem reads_nullable (h : ∀ a, read.Reads (write a) a) (notNull : ∀ a, write a ≠ .null)
    (o : Option α) : (nullable read).Reads (encodeOption write o) o := by
  cases o with
  | none => exact ⟨.null, by rw [encodeOption, toSource, nullable]⟩
  | some a =>
    refine ⟨(h a).words, ?_⟩
    have present := toSource_ne_null (notNull a)
    rw [encodeOption, nullable, (h a).value]
    · rfl
    · exact present

theorem reads_list (h : ∀ a, read.Reads (write a) a) (items : List α) :
    (list read).Reads (encodeList write items) items := by
  refine ⟨.arr ?_, ?_⟩
  · intro v member
    obtain ⟨a, _, rfl⟩ := List.mem_map.mp member
    exact (h a).words
  · have values : (items.map fun a => (write a).toSource).mapM read = .ok items := by
      induction items with
      | nil => rfl
      | cons a items ih =>
        rw [List.map_cons, List.mapM_cons, (h a).value, ih]
        rfl
    rw [encodeList, toSource, itemsToSource_eq_map, list, List.map_map]
    simp only [Function.comp_def, values]
    rfl

end Reader

namespace RecordReader

/-- The members come by one after the other, each is one of the fields, and they fill the slots. -/
inductive Fills (r : RecordReader α) : r.Slots → List (String × Json) → r.Slots → Prop where
  | nil (slots : r.Slots) : Fills r slots [] slots
  | cons {slots next final : r.Slots} {name : String} {v : Json} {members : List (String × Json)}
      (first : r.fill name v.toSource slots = some (.ok next))
      (others : Fills r next members final) :
      Fills r slots ((name, v) :: members) final

/-- The record is read from its members, which are some of its fields, and members with other names
than its fields have are left to others. -/
structure ReadsAmong (r : RecordReader α) (names : List String) (members : List (String × Json))
    (a : α) : Prop where
  words : ∀ m ∈ members, m.2.Words
  named : ∀ m ∈ members, m.1 ∈ names
  passes : ∀ name ∉ names, ∀ source slots, r.fill name source slots = none
  fills : ∃ slots, Fills r r.empty members slots ∧ r.finish slots = .ok a

/-- The record is read from its members, one for each of its fields. -/
def Reads (r : RecordReader α) (members : List (String × Json)) (a : α) : Prop :=
  r.ReadsAmong (members.map Prod.fst) members a

namespace Fills

variable {r : RecordReader α} {s : RecordReader β} {start slots final : r.Slots}
  {members others : List (String × Json)}

theorem append (first : Fills r start members slots) (second : Fills r slots others final) :
    Fills r start (members ++ others) final := by
  induction first with
  | nil _ => exact second
  | cons first _ ih => exact .cons first (ih second)

theorem map (f : α → β) (h : Fills r start members final) :
    @Fills β (r.map f) start members final := by
  induction h with
  | nil _ => exact .nil _
  | cons first _ ih => exact .cons first ih

theorem left (u : s.Slots) (h : Fills r start members final) :
    @Fills _ (r.pair s) (start, u) members (final, u) := by
  induction h with
  | nil _ => exact .nil _
  | cons first _ ih =>
    refine .cons ?_ ih
    simp only [pair, first]
    rfl

theorem right (u : s.Slots) (h : Fills r start members final)
    (passes : ∀ name ∈ members.map Prod.fst, ∀ source slots, s.fill name source slots = none) :
    @Fills _ (s.pair r) (u, start) members (u, final) := by
  induction h with
  | nil _ => exact .nil _
  | @cons slots next final name v members first _ ih =>
    refine .cons ?_ (ih fun other member => passes other (List.mem_cons_of_mem name member))
    simp only [pair, passes name List.mem_cons_self, first]
    rfl

/-- What fills the slots is what a reader of the whole object collects. -/
theorem foldlM_step (h : Fills r start members final) :
    (members.map fun m => ((.ok m.1 : Except Flaw String), m.2.toSource)).foldlM r.step start =
      .ok final := by
  induction h with
  | nil _ => rfl
  | cons first _ ih =>
    rw [List.map_cons, List.foldlM_cons]
    simp only [step, Reader.key, first, bind, Except.bind]
    exact ih

end Fills

namespace ReadsAmong

variable {r : RecordReader α} {names namesS : List String} {members others : List (String × Json)}
  {a : α}

theorem map (f : α → β) (h : r.ReadsAmong names members a) :
    (r.map f).ReadsAmong names members (f a) := by
  obtain ⟨slots, fills, finish⟩ := h.fills
  refine ⟨h.words, h.named, h.passes, slots, fills.map f, ?_⟩
  simp only [RecordReader.map, finish]
  rfl

theorem pair {s : RecordReader β} {b : β} (h : r.ReadsAmong names members a)
    (hs : s.ReadsAmong namesS others b) (distinct : ∀ name ∈ namesS, name ∉ names) :
    (r.pair s).ReadsAmong (names ++ namesS) (members ++ others) (a, b) := by
  obtain ⟨slots, fills, finish⟩ := h.fills
  obtain ⟨slotsS, fillsS, finishS⟩ := hs.fills
  have passes : ∀ name ∈ others.map Prod.fst, ∀ source slots, r.fill name source slots = none := by
    intro name isName
    obtain ⟨m, member, rfl⟩ := List.mem_map.mp isName
    exact h.passes m.1 (distinct m.1 (hs.named m member))
  refine ⟨?_, ?_, ?_, (slots, slotsS), ?_, ?_⟩
  · intro m member
    rcases List.mem_append.mp member with first | second
    · exact h.words m first
    · exact hs.words m second
  · intro m member
    rcases List.mem_append.mp member with first | second
    · exact List.mem_append_left _ (h.named m first)
    · exact List.mem_append_right _ (hs.named m second)
  · intro name unknown source slots
    rw [List.mem_append, not_or] at unknown
    simp only [RecordReader.pair, h.passes name unknown.1, hs.passes name unknown.2]
  · exact (fills.left s.empty).append (fillsS.right slots passes)
  · simp only [RecordReader.pair, finish, finishS]
    rfl

/-- Fields with other names after those of the record give the function in it its argument. -/
theorem and {r : RecordReader (α → β)} {f : α → β} {s : RecordReader α}
    (h : r.ReadsAmong names members f) (hs : s.ReadsAmong namesS others a)
    (distinct : ∀ name ∈ namesS, name ∉ names) :
    (r.and s).ReadsAmong (names ++ namesS) (members ++ others) (f a) :=
  (h.pair hs distinct).map fun fa : (α → β) × α => fa.1 fa.2

/-- A record is read from the object of its members. -/
theorem obj (h : r.ReadsAmong names members a) : Reader.Reads r.read (.obj members) a := by
  obtain ⟨slots, fills, finish⟩ := h.fills
  refine ⟨.obj h.words, ?_⟩
  rw [toSource, membersToSource_eq_map, RecordReader.read, fills.foldlM_step]
  exact finish

end ReadsAmong

namespace Reads

variable {r : RecordReader α} {members others : List (String × Json)} {a : α}

theorem field {read : Reader α} {v : Json} (h : read.Reads v a) (name : String)
    (absent short : Option α) : (field name read absent short).Reads [(name, v)] a where
  words := by
    intro m member
    obtain rfl := List.mem_singleton.mp member
    exact h.words
  named m member := List.mem_map_of_mem member
  passes := by
    intro key other source slots
    have differs : key ≠ name := by simpa using other
    exact if_neg differs
  fills := by
    refine ⟨some a, .cons ?_ (.nil _), rfl⟩
    simp only [RecordReader.field, if_true, h.value]
    rfl

/-- A field that has to be there. -/
theorem required {read : Reader α} {v : Json} (name : String) (h : read.Reads v a) :
    (required name read).Reads [(name, v)] a :=
  .field h name none none

/-- A field that may be null. -/
theorem optional {read : Reader α} {v : Json} {o : Option α} (name : String)
    (h : (Reader.nullable read).Reads v o) : (optional name read).Reads [(name, v)] o :=
  .field h name (some none) none

/-- A field with a value for when it is absent. -/
theorem default {read : Reader α} {v : Json} (name : String) (value : α) (h : read.Reads v a) :
    (default name read value).Reads [(name, v)] a :=
  .field h name (some value) (some value)

/-- A field that holds a text and has to be there. -/
theorem text (name value : String) :
    (RecordReader.required name Reader.text).Reads [(name, .str value)] value :=
  required name (Reader.reads_text value)

theorem map (f : α → β) (h : r.Reads members a) : (r.map f).Reads members (f a) :=
  ReadsAmong.map f h

/-- Fields with other names after those of the record give the function in it its argument. -/
theorem and {r : RecordReader (α → β)} {f : α → β} {s : RecordReader α} (h : r.Reads members f)
    (hs : s.Reads others a)
    (distinct : ∀ name ∈ others.map Prod.fst, name ∉ members.map Prod.fst) :
    (r.and s).Reads (members ++ others) (f a) := by
  rw [Reads, List.map_append]
  exact ReadsAmong.and h hs distinct

/-- A record is read from the object of its members. -/
theorem obj (h : r.Reads members a) : Reader.Reads r.read (.obj members) a :=
  ReadsAmong.obj h

end Reads

end RecordReader

/-- What is written of a value is read as that value from the bytes, whatever follows them. -/
theorem readFirst_toBytes {read : Reader α} {v : Json} {a : α} (h : read.Reads v a) {rest : Bytes}
    (ends : EndsNumeral rest) : readFirst read (v.toBytes ++ rest) = .ok a := by
  rw [readFirst, scan_toBytes h.words ends]
  exact h.value

/-- A text that holds what is written of a value and nothing else is read as that value. -/
theorem readWhole_toBytes {read : Reader α} {v : Json} {a : α} (h : read.Reads v a) :
    readWhole read v.toBytes = .ok a := by
  have scanned := scan_toBytes h.words EndsNumeral.nil
  rw [List.append_nil] at scanned
  simp only [readWhole, scanned, h.value, bind, Except.bind]
  rfl

end EvidenceLedger.Json
