import WhileLang.Value

namespace WhileLang

theorem digits_ne_nil (n : Nat) : n.repr.toList ≠ [] := by
  rw [Nat.toList_repr]
  exact Nat.toDigits_ne_nil

theorem isDigit_of_mem_digits {n : Nat} {c : Char} (h : c ∈ n.repr.toList) : c.isDigit := by
  rw [Nat.toList_repr] at h
  exact Nat.isDigit_of_mem_toDigits (by decide) (by decide) h

theorem decimal_eq (n : Int64) :
    ∃ k : Nat, (decimal n).toList = k.repr.toList ∨ (decimal n).toList = '-' :: k.repr.toList := by
  by_cases h : 0 ≤ n.toInt
  · have hn : (decimal n).toList = n.toInt.toNat.repr.toList := by
      rw [decimal, Int.repr_eq_if, if_pos h]
    exact ⟨_, Or.inl hn⟩
  · have hn : (decimal n).toList = '-' :: (-n.toInt).toNat.repr.toList := by
      rw [decimal, Int.repr_eq_if, if_neg h, String.toList_append]
      rfl
    exact ⟨_, Or.inr hn⟩

theorem decimal_head (n : Int64) :
    ∃ c cs, (decimal n).toList = c :: cs ∧ (c.isDigit ∨ c = '-') := by
  obtain ⟨k, h | h⟩ := decimal_eq n
  · obtain ⟨c, cs, hk⟩ := List.exists_cons_of_ne_nil (digits_ne_nil k)
    have hc : c.isDigit := by
      apply isDigit_of_mem_digits (n := k)
      rw [hk]
      exact List.mem_cons_self
    exact ⟨c, cs, h.trans hk, Or.inl hc⟩
  · exact ⟨'-', _, h, Or.inr rfl⟩

theorem digit_lt_letter {c d : Char} (hc : c.isDigit) (hd : d.isAlpha) : c.val < d.val := by
  have hdigit : (decide (48 ≤ c.val) && decide (c.val ≤ 57)) = true := hc
  have hletter : (decide (65 ≤ d.val ∧ d.val ≤ 90) ||
      (decide (97 ≤ d.val) && decide (d.val ≤ 122))) = true := hd
  simp only [Bool.or_eq_true, Bool.and_eq_true, decide_eq_true_eq] at hdigit hletter
  have hlt : c.val < 65 := UInt32.lt_of_le_of_lt hdigit.2 (by decide)
  rcases hletter with ⟨h, -⟩ | ⟨h, -⟩
  · exact UInt32.lt_of_lt_of_le hlt h
  · exact UInt32.lt_of_lt_of_le hlt (UInt32.le_trans (by decide) h)

end WhileLang
