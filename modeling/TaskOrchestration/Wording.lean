/-!
# The wording of error messages

Some messages of a backend are replaced by advice the operator can use. A rule applies to a message
only as a whole; of several rules for one message the last one added counts.
-/

namespace TaskOrchestration

/-- A message and the text that takes its place. -/
structure WordingRule where
  /-- The message, the whole of it. -/
  message : String
  /-- What is shown instead. -/
  replacement : String
  deriving DecidableEq, Repr

/-- Rules for the messages of a backend. -/
structure Wording where
  /-- The rules in the order in which they were added. -/
  rules : List WordingRule := []
  deriving DecidableEq, Repr

namespace Wording

/-- No rules at all. -/
def empty : Wording := {}

/-- The built-in rule: what to do about a repository that refers to content elsewhere. -/
def externalContentRule : WordingRule where
  message := "This repository uses features which are incompatible with 'mirror' sync. "
    ++ "Please sync without mirroring enabled."
  replacement := "Please disable 'mirror on sync' because the upstream repository refers to "
    ++ "external resources."

/-- The built-in rule alone. -/
def standard : Wording := ⟨[externalContentRule]⟩

/-- Adds rules. -/
def addAll (w : Wording) (rules : List WordingRule) : Wording := ⟨w.rules ++ rules⟩

/-- Adds a rule. -/
def add (w : Wording) (rule : WordingRule) : Wording := w.addAll [rule]

/-- The number of messages that are replaced. -/
def size (w : Wording) : Nat := (w.rules.map WordingRule.message).eraseDups.length

/-- Whether nothing is replaced. -/
def isEmpty (w : Wording) : Bool := w.rules.isEmpty

/-- The message as it is shown. -/
def apply (w : Wording) (message : String) : String :=
  match w.rules.reverse.find? fun r => r.message == message with
  | some rule => rule.replacement
  | none => message

@[simp] theorem apply_empty (message : String) : empty.apply message = message := rfl

/-- A rule that was added counts for its message, and no other message changes. -/
theorem apply_add (w : Wording) (rule : WordingRule) (message : String) :
    (w.add rule).apply message =
      if rule.message = message then rule.replacement else w.apply message := by
  by_cases h : rule.message = message <;> simp [add, addAll, apply, h]

end Wording

end TaskOrchestration
