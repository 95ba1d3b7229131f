import Mathlib.Data.List.Induction
import Mathlib.Data.Nat.Bitwise
import Mathlib.Tactic.Ring

/-!
# Big-endian numbers

`beNat` is the number a byte string stands for in network order and `beBytes`
the string of given width for a number. The other definitions are the ways C
code reads such numbers, each with its value.
-/

set_option autoImplicit false

namespace PortableAirplay.Library

/-- The number that a byte string stands for. -/
def beNat (bytes : List UInt8) : ℕ := bytes.foldl (fun v b => v * 256 + b.toNat) 0

/-- The last `width` base-256 digits of a number, most significant first. -/
def beBytes : ℕ → ℕ → List UInt8
  | 0, _ => []
  | width + 1, n => beBytes width (n / 256) ++ [UInt8.ofNat n]

theorem beNat_foldl (bytes : List UInt8) (v : ℕ) :
    bytes.foldl (fun v b => v * 256 + b.toNat) v = v * 256 ^ bytes.length + beNat bytes := by
  induction bytes generalizing v with
  | nil => simp [beNat]
  | cons b bytes ih =>
      simp only [List.foldl_cons, beNat, List.length_cons, Nat.zero_mul, Nat.zero_add]
      rw [ih (v * 256 + b.toNat), ih b.toNat, pow_succ]
      ring

@[simp] theorem beNat_nil : beNat [] = 0 := rfl

theorem beNat_cons (b : UInt8) (bytes : List UInt8) :
    beNat (b :: bytes) = b.toNat * 256 ^ bytes.length + beNat bytes := by
  rw [beNat, List.foldl_cons, Nat.zero_mul, Nat.zero_add, beNat_foldl]

theorem beNat_append (xs ys : List UInt8) :
    beNat (xs ++ ys) = beNat xs * 256 ^ ys.length + beNat ys := by
  rw [beNat, List.foldl_append, beNat_foldl]
  rfl

theorem beNat_lt (bytes : List UInt8) : beNat bytes < 256 ^ bytes.length := by
  induction bytes with
  | nil => simp
  | cons b bytes ih =>
      rw [beNat_cons, List.length_cons, pow_succ]
      have hb : b.toNat ≤ 255 := Nat.le_of_lt_succ b.toNat_lt
      have hmul : b.toNat * 256 ^ bytes.length ≤ 255 * 256 ^ bytes.length :=
        Nat.mul_le_mul_right _ hb
      omega

@[simp] theorem beBytes_length (width n : ℕ) : (beBytes width n).length = width := by
  induction width generalizing n with
  | zero => rfl
  | succ width ih => simp [beBytes, ih]

/-- **Reading back what was written.** -/
theorem beNat_beBytes (width n : ℕ) : beNat (beBytes width n) = n % 256 ^ width := by
  induction width generalizing n with
  | zero => simp [beBytes, Nat.mod_one]
  | succ width ih =>
      rw [beBytes, beNat_append, ih, pow_succ, Nat.mul_comm (256 ^ width) 256, Nat.mod_mul]
      simp [beNat]
      ring

/-- **Writing again what was read.** -/
theorem beBytes_beNat (bytes : List UInt8) : beBytes bytes.length (beNat bytes) = bytes := by
  induction bytes using List.reverseRecOn with
  | nil => rfl
  | append_singleton bytes b ih =>
      have hb := b.toNat_lt
      have hone : beNat [b] = b.toNat := by
        rw [beNat_cons, List.length_nil, pow_zero, Nat.mul_one, beNat_nil, Nat.add_zero]
      have hvalue : beNat (bytes ++ [b]) = beNat bytes * 256 + b.toNat := by
        rw [beNat_append, hone, List.length_singleton, pow_one]
      have hhigh : (beNat bytes * 256 + b.toNat) / 256 = beNat bytes := by omega
      have hlow : UInt8.ofNat (beNat bytes * 256 + b.toNat) = b := by
        apply UInt8.toNat_inj.mp
        rw [UInt8.toNat_ofNat']
        omega
      rw [List.length_append, List.length_singleton, beBytes, hvalue, hhigh, hlow, ih]

/-- Least significant byte first, the digits are the successive quotients. -/
theorem beBytes_reverse (width n : ℕ) :
    (beBytes width n).reverse = (List.range width).map fun i => UInt8.ofNat (n / 256 ^ i) := by
  induction width generalizing n with
  | zero => rfl
  | succ width ih =>
      rw [beBytes, List.reverse_append, ih, List.range_succ_eq_map, List.map_cons, List.map_map]
      have hdigits : (fun i => UInt8.ofNat (n / 256 / 256 ^ i)) =
          (fun i => UInt8.ofNat (n / 256 ^ i)) ∘ Nat.succ := by
        funext i
        simp only [Function.comp_apply, Nat.div_div_eq_div_mul, Nat.succ_eq_add_one, pow_succ,
          Nat.mul_comm]
      rw [hdigits, pow_zero, Nat.div_one]
      rfl

theorem beBytes_inj {width m n : ℕ} (hm : m < 256 ^ width) (hn : n < 256 ^ width)
    (h : beBytes width m = beBytes width n) : m = n := by
  have hnat := congrArg beNat h
  rwa [beNat_beBytes, beNat_beBytes, Nat.mod_eq_of_lt hm, Nat.mod_eq_of_lt hn] at hnat

/-! ## Fields of a packet -/

/-- A byte of a buffer. -/
def byteAt (data : List UInt8) (i : ℕ) : UInt8 := data.getD i 0

theorem window_succ {data : List UInt8} {i : ℕ} (h : i < data.length) (n : ℕ) :
    (data.drop i).take (n + 1) = byteAt data i :: (data.drop (i + 1)).take n := by
  rw [List.drop_eq_getElem_cons h, List.take_succ_cons, byteAt, List.getD_eq_getElem _ _ h]

theorem window_two {data : List UInt8} {i : ℕ} (h : i + 1 < data.length) :
    (data.drop i).take 2 = [byteAt data i, byteAt data (i + 1)] := by
  rw [window_succ (by omega), window_succ (by omega), List.take_zero]

theorem window_three {data : List UInt8} {i : ℕ} (h : i + 2 < data.length) :
    (data.drop i).take 3 = [byteAt data i, byteAt data (i + 1), byteAt data (i + 2)] := by
  rw [window_succ (by omega), window_succ (by omega), window_succ (by omega), List.take_zero]

theorem window_four {data : List UInt8} {i : ℕ} (h : i + 3 < data.length) :
    (data.drop i).take 4 =
      [byteAt data i, byteAt data (i + 1), byteAt data (i + 2), byteAt data (i + 3)] := by
  rw [window_succ (by omega), window_three (by omega)]

theorem byteAt_append_left {xs : List UInt8} {i : ℕ} (h : i < xs.length) (ys : List UInt8) :
    byteAt (xs ++ ys) i = byteAt xs i := by
  rw [byteAt, byteAt, List.getD_append _ _ _ _ h]

theorem byteAt_append_right {xs : List UInt8} {i : ℕ} (h : xs.length ≤ i) (ys : List UInt8) :
    byteAt (xs ++ ys) i = byteAt ys (i - xs.length) := by
  rw [byteAt, byteAt, List.getD_append_right _ _ _ _ h]

/-! ## Reading with shifts -/

/-- An `or` of a multiple of `2 ^ k` with a number below `2 ^ k` is their sum. -/
theorem or_eq_add {a b k : ℕ} (h : b < 2 ^ k) : a * 2 ^ k ||| b = a * 2 ^ k + b := by
  rw [Nat.mul_comm, Nat.two_pow_add_eq_or_of_lt h]

/-- One step of a loop `v = (v << 8) | *p++` that does not lose digits. -/
theorem toNat_shiftIn {v : UInt64} (h : v.toNat < 2 ^ 56) (b : UInt8) :
    (v <<< 8 ||| b.toUInt64).toNat = v.toNat * 256 + b.toNat := by
  have hb := b.toNat_lt
  have hshift : (v.toNat <<< 8) % 2 ^ 64 = v.toNat * 2 ^ 8 := by
    rw [Nat.shiftLeft_eq, Nat.mod_eq_of_lt (by omega)]
  simp only [UInt64.toNat_or, UInt64.toNat_shiftLeft, UInt8.toNat_toUInt64]
  simp only [UInt64.reduceToNat, Nat.reduceMod, hshift]
  exact or_eq_add hb

/-- The number in the `n` bytes from position `pos` on, by that loop. -/
def beField (data : List UInt8) (pos n : ℕ) : UInt64 :=
  ((data.drop pos).take n).foldl (fun v b => v <<< 8 ||| b.toUInt64) 0

/-- The loop computes the number that the bytes stand for if a word holds it. -/
theorem toNat_shiftIn_foldl (bytes : List UInt8) {v : UInt64}
    (h : (v.toNat + 1) * 256 ^ bytes.length ≤ 2 ^ 64) :
    (bytes.foldl (fun (v : UInt64) b => v <<< 8 ||| b.toUInt64) v).toNat =
      v.toNat * 256 ^ bytes.length + beNat bytes := by
  induction bytes generalizing v with
  | nil => simp
  | cons b bytes ih =>
      rw [List.length_cons, pow_succ] at h
      have hb := b.toNat_lt
      have hpos : 0 < 256 ^ bytes.length := Nat.pow_pos (by omega)
      have hsmall : v.toNat < 2 ^ 56 := by
        by_contra hlarge
        have hmul : (2 ^ 56 + 1) * (1 * 256) ≤ (v.toNat + 1) * (256 ^ bytes.length * 256) :=
          Nat.mul_le_mul (by omega) (Nat.mul_le_mul_right _ hpos)
        omega
      have hstep := toNat_shiftIn hsmall b
      have hroom : ((v <<< 8 ||| b.toUInt64).toNat + 1) * 256 ^ bytes.length ≤ 2 ^ 64 := by
        rw [hstep]
        calc (v.toNat * 256 + b.toNat + 1) * 256 ^ bytes.length
            ≤ ((v.toNat + 1) * 256) * 256 ^ bytes.length := Nat.mul_le_mul_right _ (by omega)
          _ = (v.toNat + 1) * (256 ^ bytes.length * 256) := by ring
          _ ≤ 2 ^ 64 := h
      rw [List.foldl_cons, ih hroom, hstep, beNat_cons, List.length_cons, pow_succ]
      ring

/-- `(uint16_t)a << 8 | b`. -/
def bigEndian16 (a b : UInt8) : UInt16 := a.toUInt16 <<< 8 ||| b.toUInt16

theorem toNat_bigEndian16 (a b : UInt8) : (bigEndian16 a b).toNat = beNat [a, b] := by
  have ha := a.toNat_lt
  have hb := b.toNat_lt
  have hshift : (a.toNat <<< 8) % 2 ^ 16 = a.toNat * 2 ^ 8 := by
    rw [Nat.shiftLeft_eq, Nat.mod_eq_of_lt (by omega)]
  simp only [bigEndian16, UInt16.toNat_or, UInt16.toNat_shiftLeft, UInt8.toNat_toUInt16]
  simp only [UInt16.reduceToNat, Nat.reduceMod, hshift]
  rw [or_eq_add hb]
  simp only [beNat, List.foldl_cons, List.foldl_nil]
  ring

/-- `(uint32_t)a << 24 | (uint32_t)b << 16 | (uint32_t)c << 8 | d`. -/
def bigEndian32 (a b c d : UInt8) : UInt32 :=
  a.toUInt32 <<< 24 ||| b.toUInt32 <<< 16 ||| c.toUInt32 <<< 8 ||| d.toUInt32

/-- `(uint32_t)a << 16 | (uint32_t)b << 8 | c`. -/
def bigEndian24 (a b c : UInt8) : UInt32 :=
  a.toUInt32 <<< 16 ||| b.toUInt32 <<< 8 ||| c.toUInt32

theorem toNat_bigEndian24 (a b c : UInt8) : (bigEndian24 a b c).toNat = beNat [a, b, c] := by
  have ha := a.toNat_lt
  have hb := b.toNat_lt
  have hc := c.toNat_lt
  have h1 : (a.toNat <<< 16) % 2 ^ 32 = (a.toNat * 2 ^ 8) * 2 ^ 8 := by
    rw [Nat.shiftLeft_eq, Nat.mod_eq_of_lt (by omega)]
    ring
  have h2 : (b.toNat <<< 8) % 2 ^ 32 = b.toNat * 2 ^ 8 := by
    rw [Nat.shiftLeft_eq, Nat.mod_eq_of_lt (by omega)]
  have hor : (a.toNat * 2 ^ 8) * 2 ^ 8 ||| b.toNat * 2 ^ 8 = (a.toNat * 2 ^ 8 + b.toNat) * 2 ^ 8 := by
    rw [mul_assoc, ← pow_add, or_eq_add (by omega)]
    ring
  simp only [bigEndian24, UInt32.toNat_or, UInt32.toNat_shiftLeft, UInt8.toNat_toUInt32]
  simp only [UInt32.reduceToNat, Nat.reduceMod, h1, h2, hor]
  rw [or_eq_add (by omega)]
  simp only [beNat, List.foldl_cons, List.foldl_nil]
  ring

theorem toNat_bigEndian32 (a b c d : UInt8) :
    (bigEndian32 a b c d).toNat = beNat [a, b, c, d] := by
  have ha := a.toNat_lt
  have hb := b.toNat_lt
  have hc := c.toNat_lt
  have hd := d.toNat_lt
  have h1 : (a.toNat <<< 24) % 2 ^ 32 = a.toNat * 2 ^ 24 := by
    rw [Nat.shiftLeft_eq, Nat.mod_eq_of_lt (by omega)]
  have h2 : (b.toNat <<< 16) % 2 ^ 32 = b.toNat * 2 ^ 16 := by
    rw [Nat.shiftLeft_eq, Nat.mod_eq_of_lt (by omega)]
  have h3 : (c.toNat <<< 8) % 2 ^ 32 = c.toNat * 2 ^ 8 := by
    rw [Nat.shiftLeft_eq, Nat.mod_eq_of_lt (by omega)]
  have hor1 : a.toNat * 2 ^ 24 ||| b.toNat * 2 ^ 16 = (a.toNat * 2 ^ 8 + b.toNat) * 2 ^ 16 := by
    rw [or_eq_add (by omega)]
    ring
  have hor2 : (a.toNat * 2 ^ 8 + b.toNat) * 2 ^ 16 ||| c.toNat * 2 ^ 8 =
      (a.toNat * 2 ^ 16 + b.toNat * 2 ^ 8 + c.toNat) * 2 ^ 8 := by
    rw [or_eq_add (by omega)]
    ring
  simp only [bigEndian32, UInt32.toNat_or, UInt32.toNat_shiftLeft, UInt8.toNat_toUInt32]
  simp only [UInt32.reduceToNat, Nat.reduceMod, h1, h2, h3, hor1, hor2]
  rw [or_eq_add (by omega)]
  simp only [beNat, List.foldl_cons, List.foldl_nil]
  ring

theorem bigEndian32_eq (a b c d : UInt8) :
    bigEndian32 a b c d = UInt32.ofNat (beNat [a, b, c, d]) := by
  rw [← toNat_bigEndian32, UInt32.ofNat_toNat]

/-- `p[0] = (uint8_t)(v >> 24); p[1] = (uint8_t)(v >> 16); p[2] = (uint8_t)(v >> 8);
p[3] = (uint8_t)v`. -/
def write32 (v : UInt32) : List UInt8 :=
  [(v >>> 24).toUInt8, (v >>> 16).toUInt8, (v >>> 8).toUInt8, v.toUInt8]

/-- The half word at offset `i`. -/
def read16 (data : List UInt8) (i : ℕ) : UInt16 :=
  bigEndian16 (byteAt data i) (byteAt data (i + 1))

theorem toNat_read16 {data : List UInt8} {i : ℕ} (h : i + 1 < data.length) :
    (read16 data i).toNat = beNat ((data.drop i).take 2) := by
  rw [read16, toNat_bigEndian16, window_two h]

/-- The word at offset `i`. -/
def read32 (data : List UInt8) (i : ℕ) : UInt32 :=
  bigEndian32 (byteAt data i) (byteAt data (i + 1)) (byteAt data (i + 2)) (byteAt data (i + 3))

@[simp] theorem write32_length (v : UInt32) : (write32 v).length = 4 := rfl

/-- **A word is read back as it was written.** -/
theorem read32_write32 (xs : List UInt8) {i : ℕ} (h : xs.length = i) (v : UInt32)
    (ys : List UInt8) : read32 (xs ++ write32 v ++ ys) i = v := by
  have hbyte : ∀ k < 4, byteAt (xs ++ write32 v ++ ys) (i + k) = byteAt (write32 v) k := by
    intro k hk
    rw [List.append_assoc, byteAt_append_right (by omega),
      byteAt_append_left (by rw [write32_length]; omega), h, Nat.add_sub_cancel_left]
  have hv := v.toNat_lt
  unfold read32
  rw [← Nat.add_zero i, hbyte 0 (by omega), Nat.add_zero, hbyte 1 (by omega),
    hbyte 2 (by omega), hbyte 3 (by omega)]
  apply UInt32.toNat_inj.mp
  rw [toNat_bigEndian32]
  simp only [byteAt, write32, List.getD_cons_zero, List.getD_cons_succ, beNat, List.foldl_cons,
    List.foldl_nil, UInt32.toNat_toUInt8, UInt32.toNat_shiftRight, Nat.shiftRight_eq_div_pow]
  simp only [UInt32.reduceToNat, Nat.reduceMod, Nat.reducePow]
  omega

/-! ## Words as big-endian numbers -/

theorem toNat_read32 {data : List UInt8} {i : ℕ} (h : i + 3 < data.length) :
    (read32 data i).toNat = beNat ((data.drop i).take 4) := by
  rw [read32, toNat_bigEndian32, window_four h]

theorem beBytes_read16 {data : List UInt8} {i : ℕ} (h : i + 1 < data.length) :
    beBytes 2 (read16 data i).toNat = (data.drop i).take 2 := by
  have hlength : ((data.drop i).take 2).length = 2 := by
    rw [List.length_take, List.length_drop]
    omega
  have hbytes := beBytes_beNat ((data.drop i).take 2)
  rwa [hlength, ← toNat_read16 h] at hbytes

theorem beBytes_read32 {data : List UInt8} {i : ℕ} (h : i + 3 < data.length) :
    beBytes 4 (read32 data i).toNat = (data.drop i).take 4 := by
  have hlength : ((data.drop i).take 4).length = 4 := by
    rw [List.length_take, List.length_drop]
    omega
  have hbytes := beBytes_beNat ((data.drop i).take 4)
  rwa [hlength, ← toNat_read32 h] at hbytes

theorem read16_beBytes {xs : List UInt8} {i : ℕ} (h : xs.length = i) (v : UInt16)
    (ys : List UInt8) : read16 (xs ++ (beBytes 2 v.toNat ++ ys)) i = v := by
  have hv := v.toNat_lt
  apply UInt16.toNat_inj.mp
  rw [toNat_read16, List.drop_left' h, List.take_left' (beBytes_length 2 _), beNat_beBytes]
  · omega
  · rw [List.length_append, List.length_append, beBytes_length]
    omega

theorem read32_beBytes {xs : List UInt8} {i : ℕ} (h : xs.length = i) (v : UInt32)
    (ys : List UInt8) : read32 (xs ++ (beBytes 4 v.toNat ++ ys)) i = v := by
  have hv := v.toNat_lt
  apply UInt32.toNat_inj.mp
  rw [toNat_read32, List.drop_left' h, List.take_left' (beBytes_length 4 _), beNat_beBytes]
  · omega
  · rw [List.length_append, List.length_append, beBytes_length]
    omega

end PortableAirplay.Library
