import PortableAirplay.Library.Bits

/-!
# Base64

The encoding of byte strings in letters of 6 bits. Three bytes are four numbers of 6 bits
(`sextets`), a shorter end is filled up with zero bits, and `=` fills the text up to a multiple
of four letters. As bit strings, the numbers are the bytes with less than a byte of zeros behind
them (`base64Numbers_bits`), and a byte string is known from its bits (`bitsOf_injective`).
-/

set_option autoImplicit false

namespace PortableAirplay.Library

/-- The letter of a number below 64. -/
def base64Letter (n : ℕ) : UInt8 :=
  if n < 26 then UInt8.ofNat (65 + n)
  else if n < 52 then UInt8.ofNat (97 + (n - 26))
  else if n < 62 then UInt8.ofNat (48 + (n - 52))
  else if n = 62 then 43
  else 47

/-- The four numbers of three bytes. -/
def sextets (a b c : UInt8) : List ℕ :=
  let n := a.toNat * 2 ^ 16 + b.toNat * 2 ^ 8 + c.toNat
  [n / 2 ^ 18, n / 2 ^ 12 % 2 ^ 6, n / 2 ^ 6 % 2 ^ 6, n % 2 ^ 6]

/-- The numbers of a byte string. -/
def base64Numbers : List UInt8 → List ℕ
  | [] => []
  | [a] => (sextets a 0 0).take 2
  | [a, b] => (sextets a b 0).take 3
  | a :: b :: c :: rest => sextets a b c ++ base64Numbers rest

/-- The encoding without padding. -/
def base64Letters (bytes : List UInt8) : List UInt8 := (base64Numbers bytes).map base64Letter

/-- The encoding, filled up with `=` to a multiple of four letters. -/
def base64Encode (bytes : List UInt8) : List UInt8 :=
  base64Letters bytes ++ List.replicate ((3 - bytes.length % 3) % 3) 61

/-- Letters and padding are neither blanks nor control characters. -/
theorem base64Encode_plain (bytes : List UInt8) (c : UInt8) (h : c ∈ base64Encode bytes) :
    ¬c.toNat < 43 := by
  rw [base64Encode, List.mem_append, base64Letters, List.mem_map] at h
  rcases h with ⟨n, -, rfl⟩ | hpadding
  · rw [base64Letter]
    split
    · rw [UInt8.toNat_ofNat']
      omega
    · split
      · rw [UInt8.toNat_ofNat']
        omega
      · split
        · rw [UInt8.toNat_ofNat']
          omega
        · split
          · decide
          · decide
  · rw [List.eq_of_mem_replicate hpadding]
    decide

/-! ## Bits -/

theorem byteBits_injective {a b : UInt8} (h : byteBits a = byteBits b) : a = b := by
  apply UInt8.toNat_inj.mp
  have hvalue := congrArg bitsNat h
  rwa [byteBits, byteBits, bitsNat_natBits, bitsNat_natBits, Nat.mod_eq_of_lt a.toNat_lt,
    Nat.mod_eq_of_lt b.toNat_lt] at hvalue

theorem bitsOf_injective {xs ys : List UInt8} (h : bitsOf xs = bitsOf ys) : xs = ys := by
  induction xs generalizing ys with
  | nil =>
      have hlen := congrArg List.length h
      rw [bitsOf_length, bitsOf_length, List.length_nil] at hlen
      exact (List.length_eq_zero_iff.mp (by omega)).symm
  | cons x xs ih =>
      cases ys with
      | nil =>
          have hlen := congrArg List.length h
          rw [bitsOf_length, bitsOf_length, List.length_nil, List.length_cons] at hlen
          omega
      | cons y ys =>
          rw [bitsOf_cons, bitsOf_cons] at h
          obtain ⟨hhead, htail⟩ := List.append_inj h (by rw [byteBits_length, byteBits_length])
          rw [byteBits_injective hhead, ih htail]

/-- Four numbers have the bits of the three bytes. -/
theorem sextets_bits (a b c : UInt8) :
    (sextets a b c).flatMap (natBits 6) = byteBits a ++ (byteBits b ++ byteBits c) := by
  have ha := a.toNat_lt
  have hb := b.toNat_lt
  have hc := c.toNat_lt
  rw [sextets]
  generalize hn : a.toNat * 2 ^ 16 + b.toNat * 2 ^ 8 + c.toNat = n
  have hsix : natBits 24 n = natBits 6 (n / 2 ^ 18) ++
      (natBits 6 (n / 2 ^ 12) ++ (natBits 6 (n / 2 ^ 6) ++ natBits 6 n)) := by
    rw [natBits_add 6 18, natBits_add 6 12, natBits_add 6 6]
  have height : natBits 24 n = byteBits a ++ (byteBits b ++ byteBits c) := by
    have hfirst : n / 2 ^ 16 = a.toNat := by omega
    have hsecond : n / 2 ^ 8 % 2 ^ 8 = b.toNat := by omega
    have hthird : n % 2 ^ 8 = c.toNat := by omega
    rw [natBits_add 8 16, natBits_add 8 8, hfirst, ← natBits_mod (Nat.le_refl 8) (n / 2 ^ 8),
      hsecond, ← natBits_mod (Nat.le_refl 8) n, hthird]
    rfl
  rw [← height, hsix, List.flatMap_cons, List.flatMap_cons, List.flatMap_cons, List.flatMap_cons,
    natBits_mod (Nat.le_refl 6), natBits_mod (Nat.le_refl 6), natBits_mod (Nat.le_refl 6),
    List.flatMap_nil, List.append_nil]

theorem flatMap_natBits_length (width : ℕ) (numbers : List ℕ) :
    (numbers.flatMap (natBits width)).length = width * numbers.length := by
  induction numbers with
  | nil => rfl
  | cons n numbers ih =>
      rw [List.flatMap_cons, List.length_append, natBits_length, ih, List.length_cons,
        Nat.mul_succ, Nat.add_comm]

/-- Numbers of a shorter end: what was cut off held only zeros. -/
theorem take_sextets_bits {a b c : UInt8} {k : ℕ} {bits : List Bool}
    (hbits : (sextets a b c).flatMap (natBits 6) = bits ++ natBits (6 * (4 - k)) 0) :
    ((sextets a b c).take k).flatMap (natBits 6) = bits := by
  have hlen : (sextets a b c).length = 4 := rfl
  have hsplit : ((sextets a b c).take k).flatMap (natBits 6) ++
      ((sextets a b c).drop k).flatMap (natBits 6) = bits ++ natBits (6 * (4 - k)) 0 := by
    rw [← List.flatMap_append, List.take_append_drop, hbits]
  refine (List.append_inj' hsplit ?_).1
  rw [flatMap_natBits_length, List.length_drop, hlen, natBits_length]

/-- **The numbers have the bits of the byte string,** with less than a byte of zeros behind
them. -/
theorem base64Numbers_bits (bytes : List UInt8) :
    ∃ pad < 8, (base64Numbers bytes).flatMap (natBits 6) = bitsOf bytes ++ natBits pad 0 := by
  induction bytes using base64Numbers.induct with
  | case1 => exact ⟨0, by decide, rfl⟩
  | case2 a =>
      refine ⟨4, by decide, ?_⟩
      apply take_sextets_bits
      rw [sextets_bits, bitsOf_cons, List.append_assoc]
      rfl
  | case3 a b =>
      refine ⟨2, by decide, ?_⟩
      apply take_sextets_bits
      rw [sextets_bits, bitsOf_cons, bitsOf_cons]
      simp only [List.append_assoc]
      rfl
  | case4 a b c rest ih =>
      obtain ⟨pad, hpad, hrest⟩ := ih
      refine ⟨pad, hpad, ?_⟩
      rw [base64Numbers, List.flatMap_append, sextets_bits, hrest, bitsOf_cons, bitsOf_cons,
        bitsOf_cons]
      simp only [List.append_assoc]

theorem sextets_lt (a b c : UInt8) : ∀ n ∈ sextets a b c, n < 64 := by
  have ha := a.toNat_lt
  have hb := b.toNat_lt
  have hc := c.toNat_lt
  simp only [sextets, List.forall_mem_cons]
  exact ⟨by omega, by omega, by omega, by omega, fun n hn => absurd hn List.not_mem_nil⟩

theorem base64Numbers_lt (bytes : List UInt8) : ∀ n ∈ base64Numbers bytes, n < 64 := by
  induction bytes using base64Numbers.induct with
  | case1 => exact fun n hn => absurd hn List.not_mem_nil
  | case2 a => exact fun n hn => sextets_lt a 0 0 n (List.mem_of_mem_take hn)
  | case3 a b => exact fun n hn => sextets_lt a b 0 n (List.mem_of_mem_take hn)
  | case4 a b c rest ih =>
      intro n hn
      rw [base64Numbers] at hn
      rcases List.mem_append.mp hn with hn | hn
      · exact sextets_lt a b c n hn
      · exact ih n hn

end PortableAirplay.Library
