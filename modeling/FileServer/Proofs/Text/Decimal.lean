import FileServer.Text.Blank
import FileServer.Text.Decimal

/-!
# What is printed is read back

A number that is printed in decimal is read as itself, whatever the bound that it keeps to
(`readNat_print`). Reading goes from the left and printing adds digits at the right, so the proof
follows the printed digits from their end: the last digit is read behind the number without it.
-/

namespace FileServer.Text.Decimal

/-- A number is printed by its digits. -/
theorem toList_print (n : Nat) : (print n).toList = Nat.toDigits 10 n := by
  rw [print, String.toList_ofList]

/-- A digit is read as what it was printed for. -/
theorem digit?_digitChar {d : Nat} (h : d < 10) : digit? d.digitChar = some d := by
  have hall : ∀ d < 10, digit? d.digitChar = some d := by decide
  exact hall d h

/-- What is read behind other digits continues their number. -/
theorem readDigits_append (bound value : Nat) (cs ds : List Char) :
    readDigits bound value (cs ++ ds)
      = (readDigits bound value cs).bind fun read => readDigits bound read ds := by
  induction cs generalizing value with
  | nil => rfl
  | cons c cs ih =>
      rw [List.cons_append, readDigits, readDigits]
      cases digit? c with
      | none => rfl
      | some d =>
          simp only [Option.bind_some]
          split
          · rfl
          · exact ih _

/-- The digits of a number are read as the number. -/
theorem readDigits_toDigits {bound n : Nat} (h : n ≤ bound) :
    readDigits bound 0 (Nat.toDigits 10 n) = some n := by
  induction n using Nat.strongRecOn with
  | ind n ih =>
      rw [Nat.toDigits_eq_if (by decide)]
      split
      · rename_i hlt
        rw [readDigits, digit?_digitChar hlt, Option.bind_some, if_neg (by omega), readDigits,
          Nat.mul_zero, Nat.zero_add]
      · -- The digits before the last one are those of a smaller number.
        have hdigit : n % 10 < 10 := Nat.mod_lt n (by decide)
        have hvalue : 10 * (n / 10) + n % 10 = n := Nat.div_add_mod n 10
        rw [readDigits_append, ih (n / 10) (by omega) (by omega), Option.bind_some, readDigits,
          digit?_digitChar hdigit, Option.bind_some, hvalue, if_neg (by omega), readDigits]

/-- What stands in a printed number is a digit. -/
theorem isDigit_of_mem_print {n : Nat} {c : Char} (h : c ∈ (print n).toList) :
    c.isDigit = true := by
  rw [toList_print] at h
  exact Nat.isDigit_of_mem_toDigits (by decide) (by decide) h

/-- A number has a digit. -/
theorem print_ne_nil (n : Nat) : (print n).toList ≠ [] := by
  rw [toList_print]
  exact Nat.toDigits_ne_nil

/-- A digit is no blank. -/
theorem isBlank_of_isDigit {c : Char} (h : c.isDigit = true) : isBlank c = false := by
  have hrange : 48 ≤ c.toNat ∧ c.toNat ≤ 57 := by
    simpa [Char.isDigit, UInt32.le_iff_toNat_le] using h
  simp [isBlank]
  omega

/-- **A printed number** is read as itself, if it keeps to the bound. -/
theorem readNat_print {bound n : Nat} (h : n ≤ bound) :
    readNat bound (print n).toList = some n := by
  obtain ⟨c, cs, hcs⟩ := List.exists_cons_of_ne_nil (print_ne_nil n)
  have hplus : c ≠ '+' := by
    rintro rfl
    have hdigit : '+'.isDigit = true := isDigit_of_mem_print (n := n) (hcs ▸ List.mem_cons_self)
    exact absurd hdigit (by decide)
  have hread := readDigits_toDigits h
  rw [← toList_print, hcs] at hread
  rw [hcs, readNat]
  · exact hread
  · intro rest heq
    exact hplus (List.cons.inj heq).1

end FileServer.Text.Decimal
