import Fleet.Instant.Rfc3339
import Mathlib.Data.Nat.Digits.Defs

/-!
# Numbers as digits

What a run of digits is worth, and that a number written in decimal is worth itself, with any zeros in
front of it. A number that fits a width is written in exactly that many digits.
-/

namespace Fleet.Text

/-! ## The value of a run -/

/-- The value of a run is the sum of its digits, each times its power of ten. -/
theorem ofDigits_eq_sum (digits : List Char) :
    ofDigits digits = Nat.ofDigits 10 (digits.map digitValue).reverse := by
  rw [Nat.ofDigits_eq_foldr, List.foldr_reverse, List.foldl_map]
  simp only [ofDigits, Nat.cast_id, Nat.add_comm]

theorem ofDigits_append (first second : List Char) :
    ofDigits (first ++ second) = 10 ^ second.length * ofDigits first + ofDigits second := by
  have hsplit : ofDigits (first ++ second) = Nat.ofDigitChars 10 second (ofDigits first) :=
    Nat.ofDigitChars_append 0
  rw [hsplit, Nat.ofDigitChars_eq_ofDigitChars_zero]
  rfl

theorem ofDigits_zeros (zeros : Nat) : ofDigits (List.replicate zeros '0') = 0 :=
  Nat.ofDigitChars_replicate_zero.trans (Nat.mul_zero _)

/-- Zeros in front of a number add nothing. -/
theorem ofDigits_zeros_append (zeros n : Nat) :
    ofDigits (List.replicate zeros '0' ++ Nat.toDigits 10 n) = n := by
  rw [ofDigits_append, ofDigits_zeros, ofDigits_toDigits, Nat.mul_zero, Nat.zero_add]

/-- A run of digits ends where something else follows. -/
theorem takeWhile_digits_append {digits rest : List Char} (hdigits : ∀ c ∈ digits, c.isDigit = true)
    (hrest : rest.takeWhile Char.isDigit = []) : (digits ++ rest).takeWhile Char.isDigit = digits := by
  rw [List.takeWhile_append_of_pos hdigits, hrest, List.append_nil]

theorem ofDigits_lt {digits : List Char} (hdigits : ∀ c ∈ digits, c.isDigit = true) :
    ofDigits digits < 10 ^ digits.length := by
  rw [ofDigits_eq_sum]
  refine lt_of_lt_of_eq (Nat.ofDigits_lt_base_pow_length (by decide) fun value hvalue => ?_) (by simp)
  obtain ⟨c, hc, rfl⟩ := List.mem_map.1 (List.mem_reverse.1 hvalue)
  have hbounds : 48 ≤ c.toNat ∧ c.toNat ≤ 57 := Char.isDigit_iff_toNat.1 (hdigits c hc)
  change c.toNat - 48 < 10
  omega

/-! ## Written numbers -/

theorem isDigit_of_mem_toDigits {n : Nat} {c : Char} (h : c ∈ Nat.toDigits 10 n) :
    c.isDigit = true :=
  Nat.isDigit_of_mem_toDigits (by decide) (by decide) h

theorem isBlank_eq_false_of_isDigit {c : Char} (h : c.isDigit = true) : isBlank c = false := by
  have hbounds : 48 ≤ c.toNat ∧ c.toNat ≤ 57 := Char.isDigit_iff_toNat.1 h
  simp only [isBlank, Bool.or_eq_false_iff, Bool.and_eq_false_iff, decide_eq_false_iff_not,
    beq_eq_false_iff_ne]
  omega

theorem exists_toDigits_eq_cons (n : Nat) :
    ∃ c digits, Nat.toDigits 10 n = c :: digits ∧ c.isDigit = true := by
  obtain ⟨c, digits, heq⟩ := List.exists_cons_of_ne_nil (Nat.toDigits_ne_nil (n := n) (b := 10))
  exact ⟨c, digits, heq, isDigit_of_mem_toDigits (n := n) (heq ▸ List.mem_cons_self)⟩

theorem isDigit_of_mem_zeros_append {zeros n : Nat} {c : Char}
    (h : c ∈ List.replicate zeros '0' ++ Nat.toDigits 10 n) : c.isDigit = true := by
  rcases List.mem_append.1 h with h | h
  · rw [List.eq_of_mem_replicate h]
    rfl
  · exact isDigit_of_mem_toDigits h

/-- Only zero is written with a leading zero. -/
theorem head?_toDigits {n : Nat} (h : 0 < n) : (Nat.toDigits 10 n).head? ≠ some '0' := by
  induction n using Nat.strongRecOn with
  | _ n ih =>
    rcases Nat.lt_or_ge n 10 with hsmall | hlarge
    · rw [Nat.toDigits_of_lt_base hsmall]
      simp only [List.head?_cons, ne_eq, Option.some.injEq, Nat.digitChar_eq_zero]
      omega
    · have hhead : (Nat.toDigits 10 (n / 10)).head?.isSome :=
        List.isSome_head?.2 Nat.toDigits_ne_nil
      rw [Nat.toDigits_of_base_le (by decide) hlarge, List.head?_append, Option.or_of_isSome hhead]
      exact ih (n / 10) (by omega) (by omega)

/-! ## Numbers of a width -/

section

variable {base width n : Nat}

/-- A number with zeros in front of it up to a width. -/
def fill (base width n : Nat) : List Char :=
  List.replicate (width - (Nat.toDigits base n).length) '0' ++ Nat.toDigits base n

theorem length_fill (hbase : 1 < base) (hwidth : 0 < width) (h : n < base ^ width) :
    (fill base width n).length = width := by
  have := (Nat.length_toDigits_le_iff hbase hwidth).2 h
  simp only [fill, List.length_append, List.length_replicate]
  omega

theorem fill_one (h : n < base) : fill base 1 n = [n.digitChar] := by
  simp [fill, Nat.toDigits_of_lt_base h]

/-- The last digit of a filled number is its remainder, and the others are its quotient, filled. -/
theorem fill_succ (hbase : 1 < base) (hwidth : 0 < width) :
    fill base (width + 1) n = fill base width (n / base) ++ [(n % base).digitChar] := by
  rcases Nat.lt_or_ge n base with hsmall | hlarge
  · have hzeros : List.replicate width '0' = List.replicate (width - 1) '0' ++ ['0'] := by
      rw [← List.replicate_succ', Nat.sub_add_cancel hwidth]
    simp [fill, Nat.toDigits_of_lt_base hsmall, Nat.div_eq_of_lt hsmall, Nat.mod_eq_of_lt hsmall, hzeros]
  · simp [fill, Nat.toDigits_of_base_le hbase hlarge]

end

end Fleet.Text
