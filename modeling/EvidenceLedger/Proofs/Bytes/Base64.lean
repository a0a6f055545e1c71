import EvidenceLedger.Bytes.Base64

/-!
# Reading base64 back

The base64 form of bytes is read as these bytes. What is split over two characters is put
together again, and the padding tells the three ways apart in which a text can end. Nothing else is
read as them, because padding is required and unused bits have to be zero.
-/

namespace EvidenceLedger.Bytes

theorem base64Value?_base64Char {n : Nat} (h : n < 64) : base64Value? (base64Char n) = some n := by
  revert n
  decide

theorem base64Char_ne_pad {n : Nat} (h : n < 64) : base64Char n ≠ '=' := by
  revert n
  decide

theorem oneByte?_base64Char (a : UInt8) :
    oneByte? (base64Char (a.toNat / 4)) (base64Char (a.toNat % 4 * 16)) = some [a] := by
  have low : a.toNat < 256 := UInt8.toNat_lt a
  have zeros : a.toNat % 4 * 16 % 16 = 0 := by omega
  have whole : a.toNat / 4 * 4 + a.toNat % 4 * 16 / 16 = a.toNat := by omega
  simp only [oneByte?, base64Value?_base64Char (show a.toNat / 4 < 64 by omega),
    base64Value?_base64Char (show a.toNat % 4 * 16 < 64 by omega), Option.bind_eq_bind,
    Option.bind_some, zeros, if_true, whole, UInt8.ofNat_toNat]

theorem twoBytes?_base64Char (a b : UInt8) :
    twoBytes? (base64Char (a.toNat / 4)) (base64Char (a.toNat % 4 * 16 + b.toNat / 16))
      (base64Char (b.toNat % 16 * 4)) = some [a, b] := by
  have lowA : a.toNat < 256 := UInt8.toNat_lt a
  have lowB : b.toNat < 256 := UInt8.toNat_lt b
  have zeros : b.toNat % 16 * 4 % 4 = 0 := by omega
  have first : a.toNat / 4 * 4 + (a.toNat % 4 * 16 + b.toNat / 16) / 16 = a.toNat := by omega
  have second : (a.toNat % 4 * 16 + b.toNat / 16) % 16 * 16 + b.toNat % 16 * 4 / 4 = b.toNat := by
    omega
  simp only [twoBytes?, base64Value?_base64Char (show a.toNat / 4 < 64 by omega),
    base64Value?_base64Char (show a.toNat % 4 * 16 + b.toNat / 16 < 64 by omega),
    base64Value?_base64Char (show b.toNat % 16 * 4 < 64 by omega), Option.bind_eq_bind,
    Option.bind_some, zeros, if_true, first, second, UInt8.ofNat_toNat]

theorem threeBytes?_base64Char (a b c : UInt8) :
    threeBytes? (base64Char (a.toNat / 4)) (base64Char (a.toNat % 4 * 16 + b.toNat / 16))
      (base64Char (b.toNat % 16 * 4 + c.toNat / 64)) (base64Char (c.toNat % 64)) =
        some [a, b, c] := by
  have lowA : a.toNat < 256 := UInt8.toNat_lt a
  have lowB : b.toNat < 256 := UInt8.toNat_lt b
  have lowC : c.toNat < 256 := UInt8.toNat_lt c
  have first : a.toNat / 4 * 4 + (a.toNat % 4 * 16 + b.toNat / 16) / 16 = a.toNat := by omega
  have second : (a.toNat % 4 * 16 + b.toNat / 16) % 16 * 16 +
      (b.toNat % 16 * 4 + c.toNat / 64) / 4 = b.toNat := by omega
  have third : (b.toNat % 16 * 4 + c.toNat / 64) % 4 * 64 + c.toNat % 64 = c.toNat := by omega
  simp only [threeBytes?, base64Value?_base64Char (show a.toNat / 4 < 64 by omega),
    base64Value?_base64Char (show a.toNat % 4 * 16 + b.toNat / 16 < 64 by omega),
    base64Value?_base64Char (show b.toNat % 16 * 4 + c.toNat / 64 < 64 by omega),
    base64Value?_base64Char (show c.toNat % 64 < 64 by omega), Option.bind_eq_bind,
    Option.bind_some, first, second, third, UInt8.ofNat_toNat]

theorem ofBase64Chars?_toBase64Chars (bytes : Bytes) :
    ofBase64Chars? (toBase64Chars bytes) = some bytes := by
  fun_induction toBase64Chars bytes with
  | case1 => rfl
  | case2 a => rw [ofBase64Chars?, oneByte?_base64Char]
  | case3 a b =>
    have notPad : base64Char (b.toNat % 16 * 4) ≠ '=' := base64Char_ne_pad (by omega)
    rw [ofBase64Chars?, twoBytes?_base64Char]
    exact notPad
  | case4 a b c rest ih =>
    have notPad : base64Char (c.toNat % 64) ≠ '=' := base64Char_ne_pad (by omega)
    simp [ofBase64Chars?, notPad, threeBytes?_base64Char, ih]

/-- The base64 form of bytes is read as these bytes. -/
@[simp] theorem ofBase64?_toBase64 (bytes : Bytes) : ofBase64? (toBase64 bytes) = some bytes := by
  rw [ofBase64?, toList_toBase64, ofBase64Chars?_toBase64Chars]

/-- The character with the value of a character of the alphabet is that character. -/
theorem eq_of_base64Value? {c : Char} {n : Nat} (value : base64Value? c = some n) :
    n < 64 ∧ c = base64Char n := by
  have upperA : 'A'.toNat = 65 := rfl
  have upperZ : 'Z'.toNat = 90 := rfl
  have lowerA : 'a'.toNat = 97 := rfl
  have lowerZ : 'z'.toNat = 122 := rfl
  have digit0 : '0'.toNat = 48 := rfl
  have digit9 : '9'.toNat = 57 := rfl
  have named {m : Nat} (same : m = c.toNat) : c = Char.ofNat m := by
    rw [same, Char.ofNat_toNat]
  unfold base64Value? at value
  simp only [Bool.and_eq_true, decide_eq_true_eq, Char.le_def, UInt32.le_iff_toNat_le,
    Char.toNat_val] at value
  split at value
  · obtain rfl := Option.some.inj value
    refine ⟨by omega, ?_⟩
    rw [base64Char, if_pos (by omega)]
    exact named (by omega)
  · split at value
    · obtain rfl := Option.some.inj value
      refine ⟨by omega, ?_⟩
      rw [base64Char, if_neg (by omega), if_pos (by omega)]
      exact named (by omega)
    · split at value
      · obtain rfl := Option.some.inj value
        refine ⟨by omega, ?_⟩
        rw [base64Char, if_neg (by omega), if_neg (by omega), if_pos (by omega)]
        exact named (by omega)
      · split at value
        · next plus =>
          obtain rfl := Option.some.inj value
          exact ⟨by decide, plus⟩
        · split at value
          · next slash =>
            obtain rfl := Option.some.inj value
            exact ⟨by decide, slash⟩
          · cases value

theorem eq_of_oneByte? {a b : Char} {bytes : Bytes} (read : oneByte? a b = some bytes) :
    toBase64Chars bytes = [a, b, '=', '='] := by
  simp only [oneByte?, Option.bind_eq_bind, Option.bind_eq_some_iff, Option.ite_none_right_eq_some,
    Option.some.injEq] at read
  obtain ⟨x, first, y, second, zeros, rfl⟩ := read
  obtain ⟨lowX, rfl⟩ := eq_of_base64Value? first
  obtain ⟨lowY, rfl⟩ := eq_of_base64Value? second
  have byte : (UInt8.ofNat (x * 4 + y / 16)).toNat = x * 4 + y / 16 :=
    UInt8.toNat_ofNat_of_lt' (show _ < 256 by omega)
  have high : (x * 4 + y / 16) / 4 = x := by omega
  have low : (x * 4 + y / 16) % 4 * 16 = y := by omega
  simp only [toBase64Chars, byte, high, low]

theorem eq_of_twoBytes? {a b c : Char} {bytes : Bytes} (read : twoBytes? a b c = some bytes) :
    toBase64Chars bytes = [a, b, c, '='] := by
  simp only [twoBytes?, Option.bind_eq_bind, Option.bind_eq_some_iff, Option.ite_none_right_eq_some,
    Option.some.injEq] at read
  obtain ⟨x, first, y, second, z, third, zeros, rfl⟩ := read
  obtain ⟨lowX, rfl⟩ := eq_of_base64Value? first
  obtain ⟨lowY, rfl⟩ := eq_of_base64Value? second
  obtain ⟨lowZ, rfl⟩ := eq_of_base64Value? third
  have byteA : (UInt8.ofNat (x * 4 + y / 16)).toNat = x * 4 + y / 16 :=
    UInt8.toNat_ofNat_of_lt' (show _ < 256 by omega)
  have byteB : (UInt8.ofNat (y % 16 * 16 + z / 4)).toNat = y % 16 * 16 + z / 4 :=
    UInt8.toNat_ofNat_of_lt' (show _ < 256 by omega)
  have one : (x * 4 + y / 16) / 4 = x := by omega
  have two : (x * 4 + y / 16) % 4 * 16 + (y % 16 * 16 + z / 4) / 16 = y := by omega
  have three : (y % 16 * 16 + z / 4) % 16 * 4 = z := by omega
  simp only [toBase64Chars, byteA, byteB, one, two, three]

theorem eq_of_threeBytes? {a b c d : Char} {bytes : Bytes}
    (read : threeBytes? a b c d = some bytes) (rest : Bytes) :
    toBase64Chars (bytes ++ rest) = a :: b :: c :: d :: toBase64Chars rest := by
  simp only [threeBytes?, Option.bind_eq_bind, Option.bind_eq_some_iff, Option.some.injEq] at read
  obtain ⟨x, first, y, second, z, third, w, fourth, rfl⟩ := read
  obtain ⟨lowX, rfl⟩ := eq_of_base64Value? first
  obtain ⟨lowY, rfl⟩ := eq_of_base64Value? second
  obtain ⟨lowZ, rfl⟩ := eq_of_base64Value? third
  obtain ⟨lowW, rfl⟩ := eq_of_base64Value? fourth
  have byteA : (UInt8.ofNat (x * 4 + y / 16)).toNat = x * 4 + y / 16 :=
    UInt8.toNat_ofNat_of_lt' (show _ < 256 by omega)
  have byteB : (UInt8.ofNat (y % 16 * 16 + z / 4)).toNat = y % 16 * 16 + z / 4 :=
    UInt8.toNat_ofNat_of_lt' (show _ < 256 by omega)
  have byteC : (UInt8.ofNat (z % 4 * 64 + w)).toNat = z % 4 * 64 + w :=
    UInt8.toNat_ofNat_of_lt' (show _ < 256 by omega)
  have one : (x * 4 + y / 16) / 4 = x := by omega
  have two : (x * 4 + y / 16) % 4 * 16 + (y % 16 * 16 + z / 4) / 16 = y := by omega
  have three : (y % 16 * 16 + z / 4) % 16 * 4 + (z % 4 * 64 + w) / 64 = z := by omega
  have four : (z % 4 * 64 + w) % 64 = w := by omega
  simp only [List.cons_append, List.nil_append, toBase64Chars, byteA, byteB, byteC, one, two, three, four]

theorem eq_of_ofBase64Chars? {cs : List Char} {bytes : Bytes}
    (read : ofBase64Chars? cs = some bytes) : cs = toBase64Chars bytes := by
  fun_induction ofBase64Chars? cs generalizing bytes with
  | case1 => 
    obtain rfl := Option.some.inj read
    rfl
  | case2 a b => exact (eq_of_oneByte? read).symm
  | case3 a b c _ => exact (eq_of_twoBytes? read).symm
  | case4 a b c d rest _ _ ih =>
    simp only [Option.bind_eq_bind, Option.bind_eq_some_iff, Option.some.injEq] at read
    obtain ⟨group, first, others, later, rfl⟩ := read
    rw [eq_of_threeBytes? first, ih later]
  | case5 => cases read

/-- A text is read as bytes exactly if it is their base64 form. -/
theorem ofBase64?_eq_some_iff {s : String} {bytes : Bytes} :
    ofBase64? s = some bytes ↔ s = toBase64 bytes := by
  constructor
  · intro read
    rw [toBase64, ← eq_of_ofBase64Chars? read, String.ofList_toList]
  · rintro rfl
    exact ofBase64?_toBase64 bytes

end EvidenceLedger.Bytes
