import RowFactory.Command.Settings
import RowFactory.Command.Style

/-! # Reports

A command reports in lines while it works, so a report says what was done also when the command fails.
-/

namespace RowFactory.Command

inductive Channel where
  | output
  | messages
  deriving DecidableEq, Repr

structure Line where
  channel : Channel
  text : String
  deriving DecidableEq, Repr

abbrev Report := List Line

/-- The text of one channel; every line of it ends. -/
def Report.textOf (channel : Channel) (report : Report) : String :=
  String.join ((report.filter (·.channel = channel)).map fun line => line.text.push '\n')

abbrev Reporting (m : Type → Type) := ExceptT Failure (StateT Report m)

variable {m : Type → Type} [Monad m]

namespace Reporting

def line (channel : Channel) (text : String) : Reporting m Unit :=
  modify fun report => report ++ [⟨channel, text⟩]

def say (text : String) : Reporting m Unit := line .output text

def sayAll (texts : List String) : Reporting m Unit := texts.forM say

def warn (style : Style) (text : String) : Reporting m Unit := line .messages (style.warningLine text)

def complain (style : Style) (text : String) : Reporting m Unit := line .messages (style.errorLine text)

def silently {α : Type} (action : ExceptT Failure m α) : Reporting m α :=
  ExceptT.mk (StateT.lift action.run)

/-- A step that reports nothing and whose failures get a context. -/
def doing {α : Type} (context : String) (action : ExceptT Error m α) : Reporting m α :=
  silently (inContext context action)

end Reporting

end RowFactory.Command
