import TextRepair.Apply
import TextRepair.Event
import TextRepair.Ledger
import TextRepair.Session.Config

/-!
# Failures

Everything that can fail, in one type for callers that use several parts of the library.
-/

namespace TextRepair

/-- A failure of some part. -/
inductive Failure where
  | options (e : OptionsError Float)
  | edit (e : EditError)
  | ledger (e : LedgerError)
  | call (e : CallError)
  | session (e : SessionError)
  | record (e : RecordError)
  | settings (text : String)
  | serialization (text : String)
  | io (text : String)
  deriving Repr

namespace Failure

/-- The text of a failure, which starts with the part that failed. -/
def message : Failure → String
  | options e => s!"patch error: {e.message Decimal.plain}"
  | edit e => s!"patch error: {e.message}"
  | ledger e => s!"ledger error: {e.message}"
  | call e => s!"collaborator error: {e.message}"
  | session e => s!"session error: {e.message}"
  | record e => s!"record error: {e.message}"
  | settings text => s!"config error: {text}"
  | serialization text => s!"serialization error: {text}"
  | io text => s!"io error: {text}"

end Failure

end TextRepair
