import PortableAirplay.Platform.Net
import Mathlib.Algebra.Group.Nat.Defs
import Mathlib.Data.List.Basic

/-!
# C strings

The parts of the C library and of `util/network_util.c` that the protocol code
uses on text. A C string is the list of its bytes before the terminating zero.
`isspace` and `tolower` are those of the C locale.
-/

set_option autoImplicit false

namespace PortableAirplay.Util

open PortableAirplay.Platform

/-- `isspace`: space, tab, line feed, vertical tab, form feed, carriage return. -/
def isSpace (c : UInt8) : Bool := c == 32 || (9 ≤ c && c ≤ 13)

/-- `isdigit`. -/
def isDigit (c : UInt8) : Bool := 48 ≤ c && c ≤ 57

/-- The value of a digit. -/
def digitValue (c : UInt8) : ℕ := c.toNat - 48

/-- `ascii_lower`. -/
def asciiLower (c : UInt8) : UInt8 := if 65 ≤ c && c ≤ 90 then c + 32 else c

/-- `net_ascii_casecmp` returns 0. -/
def netAsciiCaseEq (a b : CString) : Bool := a.map asciiLower == b.map asciiLower

/-- `strncmp(text, start, strlen(start)) == 0`. -/
def startsWith (text start : CString) : Bool := start.isPrefixOf text

/-- `strstr`: the text from the first occurrence of `key` on. -/
def strstr (key : CString) : CString → Option CString
  | [] => if key = [] then some [] else none
  | c :: text => if startsWith (c :: text) key then some (c :: text) else strstr key text

/-- `strchr`: the text from the first occurrence of `c` on. -/
def strchr (c : UInt8) : CString → Option CString
  | [] => none
  | d :: text => if d = c then some (d :: text) else strchr c text

/-- The text after the last occurrence of `c`. -/
def afterLast (c : UInt8) (text : CString) : Option CString :=
  if c ∈ text then some (text.reverse.takeWhile (· ≠ c)).reverse else none

/-- At most `fuel` decimal digits. -/
def decimalDigits : ℕ → ℕ → CString
  | 0, _ => []
  | fuel + 1, n =>
      if n < 10 then [UInt8.ofNat (48 + n)]
      else decimalDigits fuel (n / 10) ++ [UInt8.ofNat (48 + n % 10)]

/-- `%u` and `%zu`: the decimal digits of a number below `10 ^ 20`. -/
def decimal (n : ℕ) : CString := decimalDigits 20 n

theorem decimal_length_le (n : ℕ) : (decimal n).length ≤ 20 := by
  have hfuel : ∀ fuel m, (decimalDigits fuel m).length ≤ fuel := by
    intro fuel
    induction fuel with
    | zero => exact fun _ => Nat.le_refl 0
    | succ fuel ih =>
        intro m
        rw [decimalDigits]
        split
        · simp
        · rw [List.length_append, List.length_singleton]
          exact Nat.succ_le_succ (ih (m / 10))
  exact hfuel 20 n

/-- `snprintf` into a buffer of `capacity` bytes: what fits before the zero. -/
def snprintf (capacity : ℕ) (text : CString) : CString := text.take (capacity - 1)

theorem snprintf_length_le (capacity : ℕ) (text : CString) :
    (snprintf capacity text).length ≤ capacity - 1 := List.length_take_le ..

/-- The `%<width>s` conversion of `sscanf`: skips space and takes a word of at most
`width` bytes, with the rest of the input. -/
def scanWord (width : ℕ) (text : CString) : Option (CString × CString) :=
  let start := text.dropWhile isSpace
  let word := (start.takeWhile fun c => !isSpace c).take width
  if word = [] then none else some (word, start.drop word.length)

/-- The `%u` conversion of `sscanf`: an optional sign and digits, after space. A
value above `UINT32_MAX` is that of `strtoul` on a 64-bit target, truncated. -/
def scanUnsigned (text : CString) : Option (UInt32 × CString) :=
  let start := text.dropWhile isSpace
  let negative := start.head? = some 45
  let body := if negative ∨ start.head? = some 43 then start.drop 1 else start
  let digits := body.takeWhile isDigit
  if digits = [] then none
  else
    let value := digits.foldl (fun v c => v * 10 + digitValue c) 0
    let long := if value < 2 ^ 64 then (if negative then 2 ^ 64 - value else value) else 2 ^ 64 - 1
    some (UInt32.ofNat long, body.drop digits.length)

/-- `net_str_to_ipv4`: the four bytes of a dotted address. -/
def netStrToIpv4 (ip : CString) : Option (List UInt8) :=
  part 4 ip
where
  /-- `i` parts remain. -/
  part : ℕ → CString → Option (List UInt8)
  | 0, _ => none
  | i + 1, text =>
      let digits := text.takeWhile isDigit
      let value := digits.foldl (fun v c => v * 10 + digitValue c) 0
      let rest := text.drop digits.length
      if digits = [] ∨ 3 < digits.length ∨ 255 < value then none
      else if i = 0 then (if rest = [] then some [UInt8.ofNat value] else none)
      else if rest.head? = some 46 then
        (part i (rest.drop 1)).map fun bytes => UInt8.ofNat value :: bytes
      else none

end PortableAirplay.Util
