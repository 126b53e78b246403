/-!
# Machine words

Lines are counted in 64-bit words. A sum that does not fit into a word wraps around; this is the
arithmetic of an optimised build, where a build that checks its sums stops.

* `Word.add` : sums of words without a sign.
* `Word.addSigned` : sums of words with a sign.
-/

namespace TextRepair.Word

def add (m n : Nat) : Nat :=
  (m + n) % UInt64.size

def addSigned (m n : Int) : Int :=
  (m + n).bmod UInt64.size

theorem add_le (m n : Nat) : add m n ≤ m + n :=
  Nat.mod_le _ _

theorem addSigned_of_lt {m n : Int} (hnonneg : 0 ≤ m + n) (hlt : m + n < (UInt64.size / 2 : Nat)) :
    addSigned m n = m + n := by
  unfold UInt64.size at hlt
  unfold addSigned UInt64.size
  apply Int.bmod_eq_of_le_mul_two <;> omega

end TextRepair.Word
