import TextRepair.Proofs.Document.Window
import TextRepair.Proofs.Programs
import TextRepair.Proofs.Signature.First
import TextRepair.Session.Collaborators

/-!
# The diagnosis by a check

`diagnoseBy` makes one check, and what it says depends on the report of that check alone
(`diagnoseBy_eq`). Main statement, `diagnoseBy_report`: it goes after the first blocking diagnostic of the
report, hands on the whole report and the evidence, and shows the lines around the target
(`Context.Describes`).
-/

namespace TextRepair

/-- The diagnosis that a report calls for. -/
def CheckReport.context? (report : CheckReport) (radius : Nat) (d : Document) (evidence : List String) :
    Option Context :=
  (Signature.first? report.signatures).map fun target =>
    { target
      baseline := report.signatures
      window := d.window (target.lineIndex?.getD 0) radius
      evidence }

section Diagnosis

variable {W : Type} (verify : Document → List String → StateM W (Answer CheckReport))
  (command : List String) (radius : Nat) (d : Document) (evidence : List String) (w : W)

theorem diagnoseBy_eq :
    diagnoseBy verify command radius d evidence w =
      ((verify d command w).1.map fun report => report.context? radius d evidence,
        (verify d command w).2) := by
  rw [diagnoseBy, bind_apply]
  cases (verify d command w).1 with
  | error e => rfl
  | ok report =>
    simp only [Except.map, CheckReport.context?]
    cases Signature.first? report.signatures <;> rfl

theorem diagnoseBy_world :
    (diagnoseBy verify command radius d evidence w).2 = (verify d command w).2 := by
  rw [diagnoseBy_eq]

end Diagnosis

/-- The context is the diagnosis of a report on the document: it has the first blocking diagnostic as its
target, and shows the lines around it. The first line stands in for an unknown one, and the last line for
one beyond the end. -/
structure Context.Describes (context : Context) (report : CheckReport) (radius : Nat) (d : Document)
    (evidence : List String) : Prop where
  target : Signature.IsFirst report.signatures context.target
  baseline : context.baseline = report.signatures
  evidence : context.evidence = evidence
  window : d.isEmpty = false →
    d.ShowsAround (min (context.target.lineIndex?.getD 0) (d.size - 1)) radius context.window
  empty : d.isEmpty = true → context.window = ""

theorem CheckReport.context?_eq_none_iff {report : CheckReport} {radius : Nat} {d : Document}
    {evidence : List String} :
    report.context? radius d evidence = none ↔ ∀ s ∈ report.signatures, s.isBlocking = false := by
  rw [context?, Option.map_eq_none_iff, Signature.first?_eq_none_iff]

theorem CheckReport.describes_of_context? {report : CheckReport} {radius : Nat} {d : Document}
    {evidence : List String} {context : Context}
    (h : report.context? radius d evidence = some context) :
    context.Describes report radius d evidence := by
  obtain ⟨target, htarget, rfl⟩ := Option.map_eq_some_iff.mp h
  refine ⟨Signature.first?_eq_some_iff.mp htarget, rfl, rfl, fun hne => ?_, fun hempty => ?_⟩
  · exact d.window_showsAround hne _ radius
  · exact if_pos hempty

/-- A check that gives a report gives a diagnosis: none if and only if nothing in the report blocks, and
otherwise one that describes the report. -/
theorem diagnoseBy_report {W : Type}
    (verify : Document → List String → StateM W (Answer CheckReport)) (command : List String)
    (radius : Nat) (d : Document) (evidence : List String) (w : W) (report : CheckReport)
    (hreport : (verify d command w).1 = .ok report) :
    ∃ answer, (diagnoseBy verify command radius d evidence w).1 = .ok answer ∧
      (answer = none ↔ ∀ s ∈ report.signatures, s.isBlocking = false) ∧
      ∀ context, answer = some context → context.Describes report radius d evidence := by
  refine ⟨report.context? radius d evidence, ?_, CheckReport.context?_eq_none_iff,
    fun context => CheckReport.describes_of_context?⟩
  rw [diagnoseBy_eq, hreport]
  rfl

/-- A check that reports the second of two errors first. -/
def reversedReport : CheckReport :=
  .ofSignatures [{ Signature.error "second" with line := some 4, column := some 1 },
    { Signature.error "first" with line := some 2, column := some 3 }]

theorem diagnoseBy_report_reversed : ∃ answer,
    (diagnoseBy (W := Unit) (fun _ _ => pure (.ok reversedReport)) ["check"] 1
      (.parse "a\nb\nc\nd\n") ["earlier: nope"] ()).1 = .ok answer ∧
    (answer = none ↔ ∀ s ∈ reversedReport.signatures, s.isBlocking = false) ∧
    ∀ context, answer = some context →
      context.Describes reversedReport 1 (.parse "a\nb\nc\nd\n") ["earlier: nope"] :=
  diagnoseBy_report _ _ _ _ _ _ reversedReport rfl

/-- The first error is the target, and its line is marked. -/
example : reversedReport.context? 1 (.parse "a\nb\nc\nd\n") ["earlier: nope"] = some
    { target := { Signature.error "first" with line := some 2, column := some 3 }
      baseline := reversedReport.signatures
      window := " 1 | a\n>2 | b\n 3 | c\n"
      evidence := ["earlier: nope"] } := by decide +kernel

end TextRepair
