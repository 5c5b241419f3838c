import Lexis.Console.Style

/-!
# Messages

A message to the person at the terminal: one line that tells how serious the
matter is and then what it is.
-/

namespace Lexis.Console

/-- How serious a message is, the most serious first. -/
inductive Severity where
  | error | warning | info | debug
deriving DecidableEq, Repr, Ord

namespace Severity

/-- The word that stands for the severity. -/
def name : Severity → String
  | .error => "error"
  | .warning => "warning"
  | .info => "info"
  | .debug => "debug"

/-- The colour of the severity. -/
def color : Severity → Attribute
  | .error => .red
  | .warning => .yellow
  | .info => .green
  | .debug => .white

end Severity

/-- A message and its severity. -/
structure Message where
  /-- How serious the matter is. -/
  severity : Severity
  /-- What the matter is. -/
  text : String
deriving DecidableEq, Repr

namespace Message

/-- The line that shows the message, all of it in bold. -/
def line (m : Message) : Line :=
  [⟨"[" ++ m.severity.name ++ "]:", [m.severity.color, .bold]⟩, ⟨" ", []⟩, ⟨m.text, [.bold]⟩]

/-- The message with its escape sequences. -/
def render (m : Message) : String := m.line.render

/-- The line that a log has for the message. -/
def logged (m : Message) : String := m.render ++ "\n"

instance : ToString Message where
  toString := render

end Message

end Lexis.Console
