import PortableAirplay.Library.BigEndian

/-!
# Checked reads and sizes

A computation over a byte string that stops with a `Fault` where a C program would have
undefined or unintended behaviour: a read that is not inside the string, a size that
exceeds the size type or falls below zero, a division by zero. That a computation does
not stop is shown one operation at a time.
-/

set_option autoImplicit false

namespace PortableAirplay.Library

/-- Why a checked computation stops. -/
inductive Fault where
  | outside (pos n : ℕ)
  | overflow
  | underflow
  | zeroDivisor
  deriving DecidableEq

/-- A checked computation. -/
abbrev Checked (α : Type) := Except Fault α

/-- `n` bytes at position `pos`. -/
def loadBytes (data : List UInt8) (pos n : ℕ) : Checked (List UInt8) :=
  if pos + n ≤ data.length then .ok ((data.drop pos).take n) else .error (.outside pos n)

/-- The byte at position `pos`. -/
def loadByte (data : List UInt8) (pos : ℕ) : Checked UInt8 :=
  if pos < data.length then .ok (byteAt data pos) else .error (.outside pos 1)

/-- A sum in a size type with the largest value `limit`. -/
def sizeAdd (limit a b : ℕ) : Checked ℕ := if a + b ≤ limit then .ok (a + b) else .error .overflow

/-- A product in a size type with the largest value `limit`. -/
def sizeMul (limit a b : ℕ) : Checked ℕ := if a * b ≤ limit then .ok (a * b) else .error .overflow

/-- A difference of sizes. -/
def sizeSub (a b : ℕ) : Checked ℕ := if b ≤ a then .ok (a - b) else .error .underflow

/-- A quotient of sizes. -/
def sizeDiv (a b : ℕ) : Checked ℕ := if b = 0 then .error .zeroDivisor else .ok (a / b)

section Rules

variable {α β : Type} {data : List UInt8} {limit a b pos n : ℕ}

theorem ok_bind (x : α) (f : α → Checked β) : (Except.ok x : Checked α) >>= f = f x := rfl

theorem loadBytes_ok (h : pos + n ≤ data.length) :
    loadBytes data pos n = .ok ((data.drop pos).take n) := if_pos h

theorem loadByte_ok (h : pos < data.length) : loadByte data pos = .ok (byteAt data pos) := if_pos h

theorem sizeAdd_ok (h : a + b ≤ limit) : sizeAdd limit a b = .ok (a + b) := if_pos h

theorem sizeMul_ok (h : a * b ≤ limit) : sizeMul limit a b = .ok (a * b) := if_pos h

theorem sizeSub_ok (h : b ≤ a) : sizeSub a b = .ok (a - b) := if_pos h

theorem sizeDiv_ok (h : 0 < b) : sizeDiv a b = .ok (a / b) := if_neg (by omega)

/-- An element of an array that fits into the first `n` bytes is inside them. -/
theorem element_within {i count width start : ℕ} (hi : i < count)
    (hfits : start + count * width ≤ n) : start + i * width + width ≤ n := by
  have hle : (i + 1) * width ≤ count * width := Nat.mul_le_mul_right width hi
  rw [Nat.succ_mul] at hle
  omega

end Rules

end PortableAirplay.Library
