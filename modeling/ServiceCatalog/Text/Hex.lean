/-!
# Digits in other bases
-/

namespace ServiceCatalog.Text

/-- The value of a digit in base sixteen. -/
def hexValue? (c : Char) : Option Nat :=
  let n := c.toNat
  if 0x30 ≤ n ∧ n ≤ 0x39 then some (n - 0x30)
  else if 0x41 ≤ n ∧ n ≤ 0x46 then some (n - 0x41 + 10)
  else if 0x61 ≤ n ∧ n ≤ 0x66 then some (n - 0x61 + 10)
  else none

/-- The number that digits in base sixteen denote, the most significant first. -/
def hexNumber? (cs : List Char) : Option Nat :=
  cs.foldl (fun acc c => do return (← acc) * 16 + (← hexValue? c)) (some 0)

/-- A digit in base sixteen, lower case. -/
def hexDigit (n : Nat) : Char :=
  if n < 10 then Char.ofNat (0x30 + n) else Char.ofNat (0x61 + (n - 10))

/-- The last digits of a number in base sixteen, as many as asked for. -/
def hexPadded : (width : Nat) → Nat → List Char
  | 0, _ => []
  | width + 1, n => hexPadded width (n / 16) ++ [hexDigit (n % 16)]

/-- A digit has the value that it was made from. -/
theorem hexValue?_hexDigit {n : Nat} (h : n < 16) : hexValue? (hexDigit n) = some n := by
  have hall : ∀ n < 16, hexValue? (hexDigit n) = some n := by decide
  exact hall n h

/-- The last digits of a number denote it if there are no others. -/
theorem hexNumber?_hexPadded {width n : Nat} (h : n < Nat.pow 16 width) :
    hexNumber? (hexPadded width n) = some n := by
  induction width generalizing n with
  | zero =>
    have hzero : n = 0 := Nat.lt_one_iff.mp h
    rw [hzero]
    rfl
  | succ width ih =>
    have hdigit : hexValue? (hexDigit (n % 16)) = some (n % 16) :=
      hexValue?_hexDigit (Nat.mod_lt n (by decide))
    have hless : n < 16 * Nat.pow 16 width := Nat.mul_comm 16 _ ▸ h
    have houter := ih (Nat.div_lt_of_lt_mul hless)
    rw [hexNumber?] at houter ⊢
    rw [hexPadded, List.foldl_append, houter, List.foldl_cons, List.foldl_nil, hdigit]
    exact congrArg some (Nat.div_add_mod' n 16)

/-- An ASCII decimal digit. -/
def isDigit (c : Char) : Bool := 0x30 ≤ c.toNat && c.toNat ≤ 0x39

end ServiceCatalog.Text
