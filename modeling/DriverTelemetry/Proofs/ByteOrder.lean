import Mathlib.Data.String.Basic

/-!
# The order of texts and of their bytes

Texts are compared character by character, by the codes of the characters. Written in UTF-8 they are
in the same order byte by byte. The first byte of a character tells by its mark how many bytes
follow, more of them for greater codes, and has what the bytes that follow leave of the code; these
have the rest in groups of six bits, the upper ones first. So where the bytes of two characters
first differ, the earlier character has the lesser byte.
-/
namespace DriverTelemetry.Text

def bytes (text : String) : List UInt8 := text.toUTF8.data.toList

def following (code : Nat) : Nat :=
  if code ≤ 127 then 0 else if code ≤ 2047 then 1 else if code ≤ 65535 then 2 else 3

/-- The mark of a first byte, by how many bytes follow it. -/
def mark : Nat → Nat
  | 0 => 0
  | 1 => 192
  | 2 => 224
  | _ => 240

/-- The first byte, which has of the code what the bytes that follow leave. -/
def leading (code : Nat) : Nat := code / 64 ^ following code + mark (following code)

/-- The lowest groups of six bits of a code, as many as are asked for. -/
def continuation (code : Nat) : Nat → List UInt8
  | 0 => []
  | count + 1 => UInt8.ofNat (code / 64 ^ count % 64 + 128) :: continuation code count

theorem toNat_lt (c : Char) : c.toNat < 1114112 := by
  rcases c.valid with low | ⟨-, high⟩
  · change c.toNat < 55296 at low
    omega
  · exact high

theorem utf8EncodeChar_eq (c : Char) : String.utf8EncodeChar c =
    UInt8.ofNat (leading c.toNat) :: continuation c.toNat (following c.toNat) := by
  have valid := toNat_lt c
  rw [String.utf8EncodeChar, Char.toNat_val]
  generalize c.toNat = code at valid
  unfold leading following
  split_ifs with one two three
  · simp [mark, continuation]
  · have share : code / 64 % 32 = code / 64 := Nat.mod_eq_of_lt (by omega)
    simp [mark, continuation, share]
  · have share : code / 4096 % 16 = code / 4096 := Nat.mod_eq_of_lt (by omega)
    simp [mark, continuation, share]
  · have share : code / 262144 % 8 = code / 262144 := Nat.mod_eq_of_lt (by omega)
    simp [mark, continuation, share]

section

variable {code code' : Nat}

theorem following_mono (h : code ≤ code') : following code ≤ following code' := by
  unfold following
  split_ifs <;> omega

/-- The marks keep the first bytes apart, whatever share of the code comes with them. -/
theorem leading_lt (h : following code < following code') (valid : code' < 1114112) :
    leading code < leading code' := by
  unfold leading
  unfold following at h ⊢
  split_ifs at h ⊢ <;> simp only [mark] <;> omega

theorem leading_lt_size (valid : code < 1114112) : leading code < UInt8.size := by
  change leading code < 256
  unfold leading following
  split_ifs <;> simp only [mark] <;> omega

theorem cons_lt_cons {a b : Nat} (size : a < UInt8.size) (size' : b < UInt8.size)
    {s t : List UInt8} (h : a < b ∨ a = b ∧ s < t) :
    UInt8.ofNat a :: s < UInt8.ofNat b :: t := by
  rw [List.cons_lt_cons_iff]
  rcases h with less | ⟨rfl, less⟩
  · exact .inl ((UInt8.ofNat_lt_iff_lt size size').mpr less)
  · exact .inr ⟨rfl, less⟩

/-- Whatever follows them, the groups of six bits are in the order of the numbers that they are the
groups of. -/
theorem continuation_lt {count : Nat} (h : code % 64 ^ count < code' % 64 ^ count)
    (s t : List UInt8) : continuation code count ++ s < continuation code' count ++ t := by
  induction count with
  | zero => omega
  | succ count ih =>
    have size (n : Nat) : n % 64 + 128 < UInt8.size := by
      change n % 64 + 128 < 256
      omega
    have below := Nat.mod_lt code (Nat.pow_pos (n := count) (show 0 < 64 by decide))
    have below' := Nat.mod_lt code' (Nat.pow_pos (n := count) (show 0 < 64 by decide))
    rw [Nat.mod_pow_succ, Nat.mod_pow_succ] at h
    refine cons_lt_cons (size _) (size _) ?_
    rcases Nat.lt_trichotomy (code / 64 ^ count % 64) (code' / 64 ^ count % 64) with
      less | same | more
    · exact .inl (by omega)
    · rw [same] at h ⊢
      exact .inr ⟨rfl, ih (by omega)⟩
    · -- the upper group alone would make the first number the greater one
      have step := Nat.mul_le_mul_left (64 ^ count) (Nat.succ_le_of_lt more)
      rw [Nat.mul_succ] at step
      omega

end

/-- Whatever follows them, the bytes of two characters are in the order of the characters. -/
theorem utf8EncodeChar_append_lt {c d : Char} (h : c < d) (s t : List UInt8) :
    String.utf8EncodeChar c ++ s < String.utf8EncodeChar d ++ t := by
  have less : c.toNat < d.toNat := h
  rw [utf8EncodeChar_eq, utf8EncodeChar_eq, List.cons_append, List.cons_append]
  refine cons_lt_cons (leading_lt_size (toNat_lt c)) (leading_lt_size (toNat_lt d)) ?_
  rcases (following_mono less.le).lt_or_eq with fewer | same
  · exact .inl (leading_lt fewer (toNat_lt d))
  rw [leading, leading, ← same]
  generalize following c.toNat = count
  rcases (Nat.div_le_div_right (c := 64 ^ count) less.le).lt_or_eq with below | share
  · exact .inl (by omega)
  · have whole := Nat.div_add_mod c.toNat (64 ^ count)
    have whole' := Nat.div_add_mod d.toNat (64 ^ count)
    rw [share] at whole ⊢
    exact .inr ⟨rfl, continuation_lt (by omega) s t⟩

theorem bytes_eq (text : String) : bytes text = text.toList.flatMap String.utf8EncodeChar := by
  rw [bytes, String.toUTF8_eq_toByteArray, ← String.utf8Encode_toList, List.utf8Encode,
    List.toList_data_toByteArray]

theorem bytes_lt {text other : String} (h : text < other) : bytes text < bytes other := by
  rw [String.lt_iff_toList_lt] at h
  rw [bytes_eq, bytes_eq]
  generalize text.toList = cs at h
  generalize other.toList = ds at h
  induction cs generalizing ds with
  | nil =>
    cases ds with
    | nil => cases h
    | cons d ds =>
      rw [List.flatMap_nil, List.flatMap_cons, utf8EncodeChar_eq]
      exact List.Lex.nil
  | cons c cs ih =>
    cases ds with
    | nil => cases h
    | cons d ds =>
      rw [List.flatMap_cons, List.flatMap_cons]
      rcases List.cons_lt_cons_iff.mp h with less | ⟨rfl, less⟩
      · exact utf8EncodeChar_append_lt less _ _
      · exact List.append_left_lt (ih ds less)

end DriverTelemetry.Text
