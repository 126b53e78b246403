import TextRepair.Edit.Script
import Mathlib.Data.List.TakeWhile

/-!
# Written numbers and headers

The decimal digits of a number read back as the number (`natBelow?_toDigits`), and from a header that was
written the old start is read, whatever the counts and the new start are (`ofHeader_header`): digits of a
number are followed by a comma, a space or nothing, none of which is a digit of any script.
-/

namespace TextRepair

namespace Text

theorem isDigit_eq_of_lt {c : Char} (hc : c.toNat < 128) : isDigit c = c.isDigit :=
  if_pos hc

theorem isDigit_of_mem_toDigits {n : Nat} {c : Char} (hc : c ∈ Nat.toDigits 10 n) :
    isDigit c = true := by
  have hdigit : c.isDigit = true := Nat.isDigit_of_mem_toDigits (by decide) (by decide) hc
  rw [isDigit_eq_of_lt ?_, hdigit]
  simp only [Char.isDigit, Bool.and_eq_true, decide_eq_true_eq] at hdigit
  exact Nat.lt_of_le_of_lt hdigit.2 (by decide)

theorem natBelow?_toDigits {bound n : Nat} (hn : n < bound) :
    natBelow? bound (Nat.toDigits 10 n) = some n := by
  have hall : (Nat.toDigits 10 n).all Char.isDigit = true :=
    List.all_eq_true.mpr fun c => Nat.isDigit_of_mem_toDigits (by decide) (by decide)
  have hvalue : (Nat.toDigits 10 n).foldl (fun m c => 10 * m + (c.toNat - '0'.toNat)) 0 = n :=
    Nat.ofDigitChars_toDigits (by decide) (by decide)
  rw [natBelow?, natOfDigits?, hall, hvalue]
  simp [hn]

end Text

namespace Diff

theorem after?_append (start cs : List Char) : after? start (start ++ cs) = some cs := by
  simp [after?]

theorem digits?_toDigits (n : Nat) {rest : List Char} (hrest : ∀ c ∈ rest.head?, Text.isDigit c = false) :
    digits? (Nat.toDigits 10 n ++ rest) = some (Nat.toDigits 10 n, rest) := by
  have hdigits : ∀ c ∈ Nat.toDigits 10 n, Text.isDigit c = true := fun _ => Text.isDigit_of_mem_toDigits
  have htake : rest.takeWhile Text.isDigit = [] := by
    cases rest with
    | nil => rfl
    | cons c rest => simp [hrest c rfl]
  have hdrop : rest.dropWhile Text.isDigit = rest := by
    cases rest with
    | nil => rfl
    | cons c rest => simp [hrest c rfl]
  simp [digits?, List.takeWhile_append_of_pos hdigits, List.dropWhile_append_of_pos hdigits, htake,
    hdrop]

theorem range?_range (start count : Nat) {rest : List Char}
    (hrest : ∀ c ∈ rest.head?, Text.isDigit c = false) :
    range? (EditScript.range start count ++ rest) = some (Nat.toDigits 10 start, rest) := by
  have hcomma : ∀ c ∈ (',' :: (Nat.toDigits 10 count ++ rest)).head?, Text.isDigit c = false := by
    simp [Text.isDigit]
  have hafter := after?_append [','] (Nat.toDigits 10 count ++ rest)
  rw [List.singleton_append] at hafter
  rw [EditScript.range, List.append_assoc, List.cons_append, range?, digits?_toDigits _ hcomma]
  simp [hafter, digits?_toDigits _ hrest]

theorem oldStart?_header (s : EditScript) : oldStart? s.header = some (Nat.toDigits 10 s.oldStart) := by
  have hold : range? (EditScript.range s.oldStart s.oldCount ++ (" +".toList ++
      (EditScript.range s.newStart s.newCount ++ " @@".toList))) = some (Nat.toDigits 10 s.oldStart, _) :=
    range?_range _ _ (by simp [Text.isDigit])
  have hnew : range? (EditScript.range s.newStart s.newCount ++ " @@".toList)
      = some (Nat.toDigits 10 s.newStart, _) :=
    range?_range _ _ (by simp [Text.isDigit])
  have hend : after? " @@".toList " @@".toList = some [] := rfl
  rw [oldStart?, EditScript.header, after?_append, Option.bind_eq_bind, Option.bind_some, hold]
  simp only [Option.bind_eq_bind, Option.bind_some, after?_append, hnew, hend]
  rfl

theorem ofHeader_header (number : Nat) {s : EditScript} (hstart : s.oldStart < UInt64.size) :
    Draft.ofHeader number s.header = .ok ⟨number, some s.oldStart, []⟩ := by
  rw [Draft.ofHeader, oldStart?_header]
  simp only [Text.natBelow?_toDigits hstart]

theorem exists_header_eq (s : EditScript) : ∃ rest, s.header = '@' :: '@' :: rest :=
  ⟨_, rfl⟩

theorem exists_header_eq_append (s : EditScript) : ∃ front, s.header = front ++ ['@'] :=
  ⟨"@@ -".toList ++ (EditScript.range s.oldStart s.oldCount ++ (" +".toList ++
    (EditScript.range s.newStart s.newCount ++ " @".toList))), by simp [EditScript.header]⟩

theorem feed_not_mem_range (start count : Nat) : '\n' ∉ EditScript.range start count := by
  have hdigits : ∀ n, '\n' ∉ Nat.toDigits 10 n := fun n hn =>
    absurd (Text.isDigit_of_mem_toDigits hn) (by decide)
  simp [EditScript.range, hdigits]

theorem feed_not_mem_header (s : EditScript) : '\n' ∉ s.header := by
  simp [EditScript.header, feed_not_mem_range]

end Diff

end TextRepair
