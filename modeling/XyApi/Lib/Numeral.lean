/-!
Numbers in decimal notation: different numbers have different texts.
-/

namespace XyApi.Lib

theorem natRepr_inj {m n : Nat} (h : m.repr = n.repr) : m = n := by
  have hDigits := congrArg String.toList h
  rw [Nat.toList_repr, Nat.toList_repr] at hDigits
  rw [← Nat.ofDigitChars_ten_toDigits (n := m), hDigits, Nat.ofDigitChars_ten_toDigits]

theorem natRepr_ne_negative (m n : Nat) : m.repr ≠ "-" ++ n.repr := by
  intro h
  have hMem : '-' ∈ m.repr.toList := by simp [h]
  rw [Nat.toList_repr] at hMem
  exact absurd (Nat.isDigit_of_mem_toDigits (by decide) (by decide) hMem) (by decide)

theorem intRepr_inj {a b : Int} (h : a.repr = b.repr) : a = b := by
  rw [Int.repr_eq_if, Int.repr_eq_if] at h
  split at h <;> split at h
  · have := natRepr_inj h
    omega
  · exact absurd h (natRepr_ne_negative _ _)
  · exact absurd h.symm (natRepr_ne_negative _ _)
  · have := natRepr_inj ((String.append_right_inj "-").mp h)
    omega

end XyApi.Lib
