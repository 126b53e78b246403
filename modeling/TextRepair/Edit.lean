import TextRepair.Edit.Diff

/-!
# Edits

An edit is a list of hunks or a pair of snippets, the text before and the text after.
-/

namespace TextRepair

/-- A change to a document. -/
inductive Edit where
  | diff (hunks : List Hunk)
  | snippets (before after : String)
  deriving DecidableEq, Repr, Inhabited

/-- Why a text is not an edit. -/
inductive EditError where
  | malformed (e : MalformedEdit)
  | diff (e : DiffError)
  deriving DecidableEq, Repr

namespace EditError

def message : EditError → String
  | malformed e => e.message
  | diff e => e.message

end EditError

namespace Edit

/-- The lines of a snippet from the first to the last one with a visible character. -/
def snippetLines (snippet : String) : List String :=
  (Text.dropOuterBlank (Text.lines snippet)).map fun line =>
    String.ofList (Diff.stripReturns line.toList)

/-- The hunks of an edit; a pair of snippets is one hunk. -/
def hunks : Edit → List Hunk
  | diff hunks => hunks
  | snippets before after => [Hunk.replacing (snippetLines before) (snippetLines after)]

/-- Whether the edit is a pair of snippets. -/
def isSnippets : Edit → Bool
  | snippets .. => true
  | diff _ => false

/-- The edit of a diff text. -/
def ofDiff (raw : String) : Except EditError Edit :=
  (Diff.hunks raw).mapError .diff |>.map .diff

/-- The edit of a text that must have a hunk header. -/
def ofText (raw : String) : Except EditError Edit :=
  if Diff.isDiff raw then ofDiff raw else .error (.malformed .notDiff)

end Edit

end TextRepair
