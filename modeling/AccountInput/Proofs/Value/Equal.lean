import AccountInput.Value.Equal

namespace AccountInput
namespace Value

theorem equal_of_int? {v w : Value} {m n : Int} (left : v.int? = some m) (right : w.int? = some n) :
    v.equal w = (m == n) := by
  have order : (Numeric.whole m).equal (.whole n) = (m == n) := by
    rw [Numeric.equal, Numeric.order_whole]
    exact Bool.eq_iff_iff.mpr (by simp only [beq_iff_eq, Option.some.injEq, Std.LawfulEqCmp.compare_eq_iff_eq])
  cases v <;> cases left <;> cases w <;> cases right
  all_goals
    simp only [equal, agrees, leafEqual, numeric?]
    exact order

theorem equal_int (m n : Int) : (int m).equal (.int n) = (m == n) := equal_of_int? rfl rfl

theorem equal_int_self (n : Int) : (int n).equal (.int n) = true := (equal_int n n).trans (beq_self_eq_true n)

theorem equal_float (x : Double) (n : Int) : (float x).equal (.int n) = (x.orderRatio n 1 == some .eq) := by
  simp only [equal, agrees, leafEqual, numeric?]
  rfl

theorem equal_fp (x y : Fp) : (fp x).equal (.fp y) = (x == y) := by
  simp only [equal, agrees, leafEqual]

theorem equal_envelope (a b c d : Value) : (envelope a b).equal (.envelope c d) = (a.equal c && b.equal d) := by
  simp only [equal, agrees]

theorem equal_untimedRecord (s t : Schema) : (untimedRecord s).equal (.untimedRecord t) = (s == t) := by
  simp only [equal, agrees, leafEqual]

theorem equal_timedRecord (s t : Schema) (a b : Value) :
    (timedRecord s a).equal (.timedRecord t b) = (s == t && a.equal b) := by
  simp only [equal, agrees]

theorem equal_scheduleRecord (s t : Schema) (a b c d e a' b' c' d' e' : Value) :
    (scheduleRecord s a b c d e).equal (.scheduleRecord t a' b' c' d' e') =
      (s == t && a.equal a' && b.equal b' && c.equal c' && d.equal d' && e.equal e') := by
  simp only [equal, agrees]

end Value
end AccountInput
