/-! Powers of two and of ten. -/
namespace WitnessedTransfer

def pow2 (n : Nat) : Nat := Nat.pow 2 n

def pow10 (n : Nat) : Nat := Nat.pow 10 n

@[simp] theorem pow10_zero : pow10 0 = 1 := rfl

theorem pow10_succ (n : Nat) : pow10 (n + 1) = pow10 n * 10 := rfl

theorem pow10_pos (n : Nat) : 0 < pow10 n := by
  induction n with
  | zero => decide
  | succ n ih => rw [pow10_succ]; omega

end WitnessedTransfer
