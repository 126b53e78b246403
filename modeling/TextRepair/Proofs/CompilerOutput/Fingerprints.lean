import TextRepair.Proofs.CompilerOutput.Command
import TextRepair.Proofs.Signature.Fingerprint

/-!
# Fingerprints of the diagnostics of commands

The codes that are read from compiler output are runs of word characters and digits, names of exceptions, or the one
code of a command that has failed without a diagnostic. None is empty and none has a bar, whatever stands in the
messages, so two diagnostics of any commands have one fingerprint if and only if they have the same code and their
messages the same words (`fingerprint_of_command`).

What is read from a line has a clear code reader by reader (`OutputLine.hasClearCode_ofChars`), and what is reported
for a line has its code from that line alone (`CompilerOutput.Reports.hasClearCode`).
-/

namespace TextRepair

namespace OutputLine

/-- The code that a line gives to its diagnostic is not empty and has no bar. -/
def HasClearCode : OutputLine → Prop
  | finding s | header s => s.HasClearCode
  | exception name _ => name ≠ "" ∧ '|' ∉ name.toList
  | _ => True

section

variable {cs : List Char}

theorem bar_notMem_of_forall {p : Char → Bool} (hp : p '|' = false) (hcs : ∀ c ∈ cs, p c = true) : '|' ∉ cs := by
  intro hmem
  rw [hcs '|' hmem] at hp
  cases hp

theorem clear_ofList (hne : cs ≠ []) (hbar : '|' ∉ cs) : String.ofList cs ≠ "" ∧ '|' ∉ (String.ofList cs).toList := by
  refine ⟨fun h => hne ?_, by rwa [String.toList_ofList]⟩
  simpa using congrArg String.toList h

theorem clear_of_bracketed {code : List Char} (hcode : (bracketed cs).1 = some code) : code ≠ [] ∧ '|' ∉ code := by
  unfold bracketed at hcode
  split at hcode
  · next rest =>
    simp only at hcode
    split at hcode
    · split_ifs at hcode with hempty
      rw [← Option.some.inj hcode]
      refine ⟨fun h => hempty (by simp [h]), ?_⟩
      exact bar_notMem_of_forall (by decide) fun c hc => List.mem_takeWhile_imp hc
    · cases hcode
  · cases hcode

theorem clear_of_digits? {digits : List Char × List Char} (hdigits : Diff.digits? cs = some digits) :
    '|' ∉ digits.1 := by
  have hnumber := (eq_of_digits? hdigits).1
  rw [isNumber, Bool.and_eq_true, List.all_eq_true] at hnumber
  exact bar_notMem_of_forall (by decide) hnumber.2

/-! ### Reader by reader -/

variable {s : Signature}

theorem hasClearCode_of_report? {severities : List String} (h : report? severities cs = some s) : s.HasClearCode := by
  obtain ⟨found, -, h⟩ := Option.bind_eq_some_iff.mp h
  obtain ⟨message, -, h⟩ := Option.bind_eq_some_iff.mp h
  rw [← Option.some.inj h]
  intro text htext
  obtain ⟨code, hcode, rfl⟩ := Option.map_eq_some_iff.mp htext
  obtain ⟨hne, hbar⟩ := clear_of_bracketed hcode
  exact clear_ofList hne hbar

theorem hasClearCode_of_located? (h : located? cs = some s) : s.HasClearCode := by
  obtain ⟨_, -, h⟩ := Option.bind_eq_some_iff.mp h
  obtain ⟨_, -, h⟩ := Option.bind_eq_some_iff.mp h
  obtain ⟨_, -, h⟩ := Option.bind_eq_some_iff.mp h
  obtain ⟨_, -, h⟩ := Option.bind_eq_some_iff.mp h
  obtain ⟨report, hreport, h⟩ := Option.bind_eq_some_iff.mp h
  rw [← Option.some.inj h]
  have hclear : report.HasClearCode := hasClearCode_of_report? hreport
  exact hclear

theorem hasClearCode_of_parenthesised? (h : parenthesised? cs = some s) : s.HasClearCode := by
  obtain ⟨_, -, h⟩ := Option.bind_eq_some_iff.mp h
  obtain ⟨_, -, h⟩ := Option.bind_eq_some_iff.mp h
  obtain ⟨_, -, h⟩ := Option.bind_eq_some_iff.mp h
  obtain ⟨_, -, h⟩ := Option.bind_eq_some_iff.mp h
  obtain ⟨_, -, h⟩ := Option.bind_eq_some_iff.mp h
  obtain ⟨_, -, h⟩ := Option.bind_eq_some_iff.mp h
  obtain ⟨_, -, h⟩ := Option.bind_eq_some_iff.mp h
  obtain ⟨code, hcode, h⟩ := Option.bind_eq_some_iff.mp h
  obtain ⟨_, -, h⟩ := Option.bind_eq_some_iff.mp h
  rw [← Option.some.inj h]
  intro text htext
  rw [← Option.mem_some.mp htext]
  refine clear_ofList (List.cons_ne_nil _ _) ?_
  simpa using clear_of_digits? hcode

theorem exists_of_splitShortest? {α : Type} {read? : List Char → Option α} {before : List Char}
    {found : List Char × α} (h : splitShortest? read? before cs = some found) : ∃ rest, read? rest = some found.2 := by
  fun_induction splitShortest? read? before cs with
  | case1 => cases h
  | case2 before c cs a ha =>
    rw [← Option.some.inj h]
    exact ⟨cs, ha⟩
  | case3 before c cs _ ih => exact ih h

theorem exists_of_afterFile? {α : Type} {read? : List Char → Option α} {found : List Char × α}
    (h : afterFile? read? cs = some found) : ∃ rest, read? rest = some found.2 := by
  unfold afterFile? at h
  split at h
  · cases h
  · split_ifs at h
    exact exists_of_splitShortest? h

theorem hasClearCode_of_finding? {m : OutputLine} (h : finding? cs = some m) : m.HasClearCode := by
  obtain ⟨⟨file, s⟩, hfound, rfl⟩ := Option.map_eq_some_iff.mp h
  rw [Option.orElse_eq_orElse, Option.orElse_eq_or, Option.or_eq_some_iff] at hfound
  have hs : s.HasClearCode := by
    rcases hfound with h | ⟨-, h⟩ <;> obtain ⟨rest, hrest⟩ := exists_of_afterFile? h
    · exact hasClearCode_of_located? hrest
    · exact hasClearCode_of_parenthesised? hrest
  exact hs

theorem hasClearCode_of_header? {m : OutputLine} (h : header? cs = some m) : m.HasClearCode := by
  obtain ⟨s, hs, rfl⟩ := Option.map_eq_some_iff.mp h
  split
  · trivial
  · exact hasClearCode_of_report? hs

theorem hasClearCode_of_exception? {m : OutputLine} (h : exception? cs = some m) : m.HasClearCode := by
  have hbar : '|' ∉ cs.takeWhile isNameChar :=
    bar_notMem_of_forall (by decide) fun c hc => List.mem_takeWhile_imp hc
  simp only [exception?, bind] at h
  cases hname : cs.takeWhile isNameChar with
  | nil =>
    rw [hname] at h
    cases h
  | cons first tail =>
    rw [hname] at h hbar
    obtain ⟨_, -, h⟩ := Option.bind_eq_some_iff.mp h
    obtain ⟨_, -, h⟩ := Option.bind_eq_some_iff.mp h
    have hclear (message : String) : (exception (String.ofList (first :: tail)) message).HasClearCode :=
      clear_ofList (List.cons_ne_nil first tail) hbar
    split at h
    · exact Option.some.inj h ▸ hclear _
    · exact Option.some.inj h ▸ hclear _
    · cases h

theorem hasClearCode_of_location? {m : OutputLine} (h : location? cs = some m) : m.HasClearCode := by
  obtain ⟨_, -, h⟩ := Option.bind_eq_some_iff.mp h
  obtain ⟨_, -, h⟩ := Option.bind_eq_some_iff.mp h
  obtain ⟨_, -, h⟩ := Option.bind_eq_some_iff.mp h
  simp only at h
  split_ifs at h
  exact Option.some.inj h ▸ trivial

theorem hasClearCode_of_frame? {m : OutputLine} (h : frame? cs = some m) : m.HasClearCode := by
  obtain ⟨_, -, h⟩ := Option.bind_eq_some_iff.mp h
  obtain ⟨_, -, h⟩ := Option.bind_eq_some_iff.mp h
  exact Option.some.inj h ▸ trivial

theorem hasClearCode_ofChars (cs : List Char) : (ofChars cs).HasClearCode := by
  simp only [ofChars, Option.orElse_eq_orElse, Option.orElse_eq_or]
  cases h : (location? cs).or ((finding? cs).or ((header? cs).or ((frame? cs).or (exception? cs)))) with
  | none => trivial
  | some m =>
    simp only [Option.or_eq_some_iff] at h
    rcases h with h | ⟨-, h | ⟨-, h | ⟨-, h | ⟨-, h⟩⟩⟩⟩
    · exact hasClearCode_of_location? h
    · exact hasClearCode_of_finding? h
    · exact hasClearCode_of_header? h
    · exact hasClearCode_of_frame? h
    · exact hasClearCode_of_exception? h

end

end OutputLine

namespace CompilerOutput

section

variable {lines : List OutputLine} {s : Signature} {i : Nat}

theorem Reports.hasClearCode (hs : Reports lines i s) (hlines : ∀ m ∈ lines, m.HasClearCode) : s.HasClearCode := by
  cases hs with
  | finding hline => exact hlines _ (List.mem_of_getElem? hline)
  | placed hline =>
    have hheader : Signature.HasClearCode _ := hlines _ (List.mem_of_getElem? hline)
    exact hheader
  | unplaced hline => exact hlines _ (List.mem_of_getElem? hline)
  | raised hline =>
    intro code hcode
    rw [← Option.mem_some.mp hcode]
    exact hlines _ (List.mem_of_getElem? hline)

theorem hasClearCode_of_mem_scan {text : String} (hs : s ∈ scan text) : s.HasClearCode := by
  obtain ⟨places, -, -, hall⟩ := yields_foldl (meanings text)
  obtain ⟨k, hk, rfl⟩ := List.getElem_of_mem hs
  have hplace : k < places.length := hall.length_eq ▸ hk
  have hreports := (List.forall₂_iff_get.mp hall).2 k hplace hk
  refine Reports.hasClearCode hreports fun m hm => ?_
  obtain ⟨line, -, rfl⟩ := List.mem_map.mp hm
  exact OutputLine.hasClearCode_ofChars _

theorem hasClearCode_of_mem_ofCommand {stdout stderr : String} {exitCode : Option Int}
    (hs : s ∈ ofCommand stdout stderr exitCode) : s.HasClearCode := by
  have hfound (hs : s ∈ signatures stdout stderr) : s.HasClearCode := by
    rw [signatures_eq, List.mem_eraseDups, List.mem_append] at hs
    exact hs.elim hasClearCode_of_mem_scan hasClearCode_of_mem_scan
  unfold ofCommand at hs
  simp only at hs
  split_ifs at hs
  · rcases List.mem_append.mp hs with hs | hs
    · exact hfound hs
    · -- the one diagnostic whose code is fixed
      rw [List.mem_singleton.mp hs]
      intro code hcode
      rw [← Option.mem_some.mp hcode]
      decide
  · exact hfound hs

end

end CompilerOutput

open Signature

/-- A diagnostic of some command, whatever it writes and however it ends. -/
def Signature.IsOfCommand (s : Signature) : Prop :=
  ∃ stdout stderr exitCode, s ∈ CompilerOutput.ofCommand stdout stderr exitCode

theorem Signature.IsOfCommand.hasClearCode {s : Signature} (hs : s.IsOfCommand) : s.HasClearCode := by
  obtain ⟨stdout, stderr, exitCode, hs⟩ := hs
  exact CompilerOutput.hasClearCode_of_mem_ofCommand hs

/-- Two diagnostics of commands have one fingerprint if and only if they have the same code, or both none, and their
messages have the same words. So a verdict about diagnostics of commands takes two for one in just these cases: the
target persists if it is there as often as before, and at least once; otherwise the candidate is good if no
diagnostic is there more often than before, and if one is, the new error is the first that is one too many. -/
theorem fingerprint_of_command {s target : Signature} (hs : s.IsOfCommand) (htarget : target.IsOfCommand) :
    (s.fingerprint = target.fingerprint ↔
      s.code = target.code ∧ Text.words s.message = Text.words target.message) ∧
    ∀ baseline after : List Signature, (∀ x ∈ baseline, x.IsOfCommand) → (∀ x ∈ after, x.IsOfCommand) →
      (judge target baseline after = .targetPersists ↔
        max 1 (countAlike baseline target) ≤ countAlike after target) ∧
      (judge target baseline after = .fixed ↔
        countAlike after target < max 1 (countAlike baseline target) ∧
        ∀ x ∈ after, countAlike after x ≤ countAlike baseline x) ∧
      (∀ x, judge target baseline after = .newError x ↔
        countAlike after target < max 1 (countAlike baseline target) ∧
        ∃ i, IsOneTooManyAt baseline after i x ∧ ∀ j < i, ∀ y, ¬IsOneTooManyAt baseline after j y) := by
  refine ⟨fingerprint_eq_iff hs.hasClearCode htarget.hasClearCode, fun baseline after hbaseline hafter => ?_⟩
  have hbaseline : ∀ x ∈ baseline, x.HasClearCode := fun x hx => (hbaseline x hx).hasClearCode
  have hafter : ∀ x ∈ after, x.HasClearCode := fun x hx => (hafter x hx).hasClearCode
  exact ⟨judge_eq_targetPersists_iff_alike htarget.hasClearCode hbaseline hafter,
    judge_eq_fixed_iff_alike htarget.hasClearCode hbaseline hafter,
    fun x => judge_eq_newError_iff_alike htarget.hasClearCode hbaseline hafter⟩

/-- Two runs of one command: the error has moved and is spaced otherwise, and its message has a bar. -/
theorem fingerprint_of_command_moved :
    let before : Signature := ⟨.error, some "TS1", "a | b", some "x.ts", some 3, some 5⟩
    let after : Signature := ⟨.error, some "TS1", "a |  b", some "x.ts", some 9, some 5⟩
    before.IsOfCommand ∧ after.IsOfCommand ∧ before.fingerprint = after.fingerprint ∧
      judge before [before] [after] = .targetPersists := by
  intro before after
  have hbefore : before.IsOfCommand := ⟨"x.ts(3,5): error TS1: a | b\n", "", some 1, by decide +kernel⟩
  have hafter : after.IsOfCommand := ⟨"x.ts(9,5): error TS1: a |  b\n", "", some 1, by decide +kernel⟩
  obtain ⟨hsame, hjudge⟩ := fingerprint_of_command hbefore hafter
  refine ⟨hbefore, hafter, hsame.mpr (by decide +kernel), ?_⟩
  obtain ⟨-, hjudge⟩ := fingerprint_of_command hafter hbefore
  obtain ⟨hpersists, -⟩ := hjudge [before] [after] (by simpa using hbefore) (by simpa using hafter)
  exact hpersists.mpr (by decide +kernel)

end TextRepair
