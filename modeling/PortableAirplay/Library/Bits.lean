import PortableAirplay.Library.BigEndian

/-!
# Bit strings

Numbers as bit strings of a given width, most significant bit first, the bits of a
byte string, and the packing of a bit string into bytes with zeros behind it.
-/

set_option autoImplicit false

namespace PortableAirplay.Library

/-- The last `width` bits of a number. -/
def natBits : ℕ → ℕ → List Bool
  | 0, _ => []
  | width + 1, n => n.testBit width :: natBits width n

/-- The number that a bit string stands for. -/
def bitsNat (bits : List Bool) : ℕ := bits.foldl (fun v b => v * 2 + b.toNat) 0

/-- The bits of a byte. -/
def byteBits (b : UInt8) : List Bool := natBits 8 b.toNat

/-- The bits of a byte string. -/
def bitsOf (bytes : List UInt8) : List Bool := bytes.flatMap byteBits

/-- Bytes that hold `n` bits. -/
def bytesFor (n : ℕ) : ℕ := (n + 7) / 8

/-- The bytes of a bit string, filled up with zeros. -/
def packBits (bits : List Bool) : List UInt8 :=
  beBytes (bytesFor bits.length) (bitsNat bits * 2 ^ (8 * bytesFor bits.length - bits.length))

/-! ## Numbers -/

@[simp] theorem natBits_length (width n : ℕ) : (natBits width n).length = width := by
  induction width with
  | zero => rfl
  | succ width ih => rw [natBits, List.length_cons, ih]

theorem natBits_congr {width m n : ℕ} (h : ∀ i < width, m.testBit i = n.testBit i) :
    natBits width m = natBits width n := by
  induction width with
  | zero => rfl
  | succ width ih =>
      rw [natBits, natBits, h width (Nat.lt_succ_self width),
        ih fun i hi => h i (Nat.lt_succ_of_lt hi)]

theorem natBits_mod {width k : ℕ} (h : width ≤ k) (n : ℕ) :
    natBits width (n % 2 ^ k) = natBits width n := by
  apply natBits_congr
  intro i hi
  rw [Nat.testBit_mod_two_pow, decide_eq_true (Nat.lt_of_lt_of_le hi h), Bool.true_and]

/-- A number of `m + k` bits is its quotient and its remainder by `2 ^ k`. -/
theorem natBits_add (m k n : ℕ) : natBits (m + k) n = natBits m (n / 2 ^ k) ++ natBits k n := by
  induction m with
  | zero => rw [Nat.zero_add, natBits, List.nil_append]
  | succ m ih =>
      rw [Nat.succ_add, natBits, natBits, ih, List.cons_append, Nat.testBit_div_two_pow]

theorem bitsNat_foldl (bits : List Bool) (v : ℕ) :
    bits.foldl (fun v b => v * 2 + b.toNat) v = v * 2 ^ bits.length + bitsNat bits := by
  induction bits generalizing v with
  | nil => simp [bitsNat]
  | cons b bits ih =>
      simp only [List.foldl_cons, bitsNat, List.length_cons, Nat.zero_mul, Nat.zero_add]
      rw [ih (v * 2 + b.toNat), ih b.toNat, pow_succ]
      ring

theorem bitsNat_cons (b : Bool) (bits : List Bool) :
    bitsNat (b :: bits) = b.toNat * 2 ^ bits.length + bitsNat bits := by
  rw [bitsNat, List.foldl_cons, Nat.zero_mul, Nat.zero_add, bitsNat_foldl]

theorem bitsNat_lt (bits : List Bool) : bitsNat bits < 2 ^ bits.length := by
  induction bits with
  | nil => simp [bitsNat]
  | cons b bits ih =>
      rw [bitsNat_cons, List.length_cons, pow_succ]
      have hb : b.toNat ≤ 1 := Bool.toNat_le b
      have hmul : b.toNat * 2 ^ bits.length ≤ 1 * 2 ^ bits.length := Nat.mul_le_mul_right _ hb
      omega

@[simp] theorem bitsNat_natBits (width n : ℕ) : bitsNat (natBits width n) = n % 2 ^ width := by
  induction width with
  | zero => rw [natBits, pow_zero, Nat.mod_one]; rfl
  | succ width ih =>
      rw [natBits, bitsNat_cons, natBits_length, ih, Nat.mod_pow_succ,
        Nat.testBit_eq_decide_div_mod_eq]
      rcases Nat.mod_two_eq_zero_or_one (n / 2 ^ width) with hbit | hbit
      · rw [hbit]
        simp
      · rw [hbit]
        simp [Nat.add_comm]

/-- A bit string is the number it stands for, written with its own width. -/
theorem natBits_bitsNat (bits : List Bool) : natBits bits.length (bitsNat bits) = bits := by
  induction bits with
  | nil => rfl
  | cons b bits ih =>
      have hlt := bitsNat_lt bits
      have htail : natBits bits.length (bitsNat (b :: bits)) = bits := by
        rw [← natBits_mod (Nat.le_refl bits.length), bitsNat_cons, Nat.mul_comm,
          Nat.mul_add_mod, Nat.mod_eq_of_lt hlt, ih]
      have hhead : (bitsNat (b :: bits)).testBit bits.length = b := by
        rw [bitsNat_cons, Nat.mul_comm, Nat.testBit_two_pow_mul_add _ hlt]
        cases b <;> simp
      rw [List.length_cons, natBits, hhead, htail]

/-! ## Bytes -/

@[simp] theorem byteBits_length (b : UInt8) : (byteBits b).length = 8 := natBits_length 8 b.toNat

theorem bitsOf_cons (b : UInt8) (bytes : List UInt8) :
    bitsOf (b :: bytes) = byteBits b ++ bitsOf bytes := List.flatMap_cons

theorem bitsOf_append (xs ys : List UInt8) : bitsOf (xs ++ ys) = bitsOf xs ++ bitsOf ys :=
  List.flatMap_append

@[simp] theorem bitsOf_length (bytes : List UInt8) : (bitsOf bytes).length = 8 * bytes.length := by
  induction bytes with
  | nil => rfl
  | cons b bytes ih =>
      rw [bitsOf_cons, List.length_append, byteBits_length, ih, List.length_cons]
      omega

theorem natBits_getElem? {width i : ℕ} (h : i < width) (n : ℕ) :
    (natBits width n)[i]? = some (n.testBit (width - 1 - i)) := by
  induction width generalizing i with
  | zero => omega
  | succ width ih =>
      rw [natBits]
      cases i with
      | zero => rfl
      | succ i =>
          have hwidth : width + 1 - 1 - (i + 1) = width - 1 - i := by omega
          rw [List.getElem?_cons_succ, ih (by omega), hwidth]

/-- Bit `i` of a byte string is bit `7 - i % 8` of byte `i / 8`. -/
theorem bitsOf_getElem? {bytes : List UInt8} {i : ℕ} (h : i < 8 * bytes.length) :
    (bitsOf bytes)[i]? = some ((byteAt bytes (i / 8)).toNat.testBit (7 - i % 8)) := by
  induction bytes generalizing i with
  | nil =>
      rw [List.length_nil] at h
      omega
  | cons b bytes ih =>
      rw [bitsOf_cons]
      rw [List.length_cons] at h
      by_cases hi : i < 8
      · have hdiv : i / 8 = 0 := by omega
        have hmod : i % 8 = i := by omega
        rw [List.getElem?_append_left (by rwa [byteBits_length]), byteBits, natBits_getElem? hi,
          hdiv, hmod]
        rfl
      · have hdiv : i / 8 = (i - 8) / 8 + 1 := by omega
        have hmod : i % 8 = (i - 8) % 8 := by omega
        rw [List.getElem?_append_right (by rw [byteBits_length]; omega), byteBits_length,
          ih (by omega), hdiv, hmod]
        rfl

/-- The bits of a big-endian number. -/
theorem bitsOf_beBytes (width n : ℕ) : bitsOf (beBytes width n) = natBits (8 * width) n := by
  induction width generalizing n with
  | zero => rfl
  | succ width ih =>
      have hlast : bitsOf [UInt8.ofNat n] = natBits 8 n := by
        rw [bitsOf_cons, byteBits, UInt8.toNat_ofNat']
        exact (List.append_nil _).trans (natBits_mod (Nat.le_refl 8) n)
      rw [beBytes, bitsOf_append, ih, hlast, Nat.mul_succ, natBits_add]
      rfl

/-! ## Packing -/

theorem le_mul_bytesFor (n : ℕ) : n ≤ 8 * bytesFor n := by
  rw [bytesFor]
  omega

@[simp] theorem packBits_length (bits : List Bool) :
    (packBits bits).length = bytesFor bits.length := beBytes_length _ _

/-- **Packed bits are found again**, with zeros behind them. -/
theorem bitsOf_packBits (bits : List Bool) :
    bitsOf (packBits bits) =
      bits ++ natBits (8 * bytesFor bits.length - bits.length) 0 := by
  have hwidth : 8 * bytesFor bits.length =
      bits.length + (8 * bytesFor bits.length - bits.length) :=
    (Nat.add_sub_of_le (le_mul_bytesFor bits.length)).symm
  rw [packBits, bitsOf_beBytes]
  generalize 8 * bytesFor bits.length - bits.length = pad at hwidth ⊢
  have hzeros : natBits pad (bitsNat bits * 2 ^ pad) = natBits pad 0 := by
    rw [← natBits_mod (Nat.le_refl pad), Nat.mul_mod_left]
  rw [hwidth, natBits_add, Nat.mul_div_cancel _ (Nat.two_pow_pos pad), natBits_bitsNat, hzeros]

theorem bitsOf_packBits_take (bits : List Bool) :
    (bitsOf (packBits bits)).take bits.length = bits := by
  rw [bitsOf_packBits, List.take_left]

end PortableAirplay.Library
