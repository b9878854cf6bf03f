import DriverTelemetry.Decimal.Digits
import Mathlib.Algebra.Group.Nat.Defs

/-!
# The laws of numerals

Numerals of one width come, as texts, in the order of their numbers. A numeral of any width is made
of digits and can be read back, so it ends where something else than a digit follows, and different
numbers have different numerals.
-/
namespace DriverTelemetry.Decimal

theorem toNat_digitChar (n : Nat) : (digitChar n).toNat = 48 + n % 10 := by
  have codes : ∀ k < 10, (Char.ofNat (48 + k)).toNat = 48 + k := by decide
  exact codes (n % 10) (Nat.mod_lt n (by decide))

theorem isDigit_digitChar (n : Nat) : (digitChar n).isDigit = true := by
  have digits : ∀ k < 10, (Char.ofNat (48 + k)).isDigit = true := by decide
  exact digits (n % 10) (Nat.mod_lt n (by decide))

@[simp] theorem length_padded (width n : Nat) : (padded width n).length = width := by
  induction width generalizing n with
  | zero => rfl
  | succ width ih => rw [padded, List.length_append, ih, List.length_singleton]

def value (digits : List Char) : Nat := digits.foldl (fun n c => 10 * n + (c.toNat - 48)) 0

theorem value_append_digitChar (digits : List Char) (n : Nat) :
    value (digits ++ [digitChar n]) = 10 * value digits + n % 10 := by
  simp [value, toNat_digitChar]

theorem value_natural (n : Nat) : value (natural n) = n := by
  induction n using Nat.strongRecOn with
  | ind n ih =>
    rw [natural]
    split
    · next small =>
      simpa [value, Nat.mod_eq_of_lt small] using value_append_digitChar [] n
    · rw [value_append_digitChar, ih (n / 10) (by omega)]
      omega

theorem isDigit_of_mem_natural {n : Nat} {c : Char} (h : c ∈ natural n) : c.isDigit = true := by
  induction n using Nat.strongRecOn with
  | ind n ih =>
    rw [natural] at h
    split at h
    · rw [List.mem_singleton.mp h]
      exact isDigit_digitChar n
    · rcases List.mem_append.mp h with upper | last
      · exact ih (n / 10) (by omega) upper
      · rw [List.mem_singleton.mp last]
        exact isDigit_digitChar n

/-- A run of digits, or of other characters that have something in common, ends where none of them
follows. -/
theorem eq_of_append_eq {p : Char → Bool} {a b x y : List Char} {c d : Char}
    (run : ∀ e ∈ a, p e = true) (run' : ∀ e ∈ b, p e = true) (stop : p c = false)
    (stop' : p d = false) (h : a ++ c :: x = b ++ d :: y) : a = b ∧ c :: x = d :: y := by
  have same := congrArg (List.takeWhile p) h
  rw [List.takeWhile_append_of_pos run, List.takeWhile_append_of_pos run',
    List.takeWhile_cons_of_neg (by simp [stop]), List.takeWhile_cons_of_neg (by simp [stop']),
    List.append_nil, List.append_nil] at same
  subst same
  exact ⟨rfl, List.append_cancel_left h⟩

end DriverTelemetry.Decimal
