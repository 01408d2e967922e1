/-! # Lines of the journal

The program tells in a journal what it does. A line has a level, the part of the program that it
comes from, a message and named fields. What an operation writes is a function of the state before
it, so the operations themselves know nothing of the journal.

* **`Journal.Line`** — a line of the journal.
* **`Journal.Field`** — a named value behind the message of a line.
* **`Journal.Line.text`** — a line as it is read. -/

namespace PocketCalc.Journal

/-- **How much a line matters.** -/
inductive Level where
  /-- Every step. -/
  | trace
  /-- What helps to find a fault. -/
  | debug
  /-- What the user did. -/
  | info
  /-- What went wrong without stopping the program. -/
  | warning
  deriving DecidableEq, Repr

namespace Level

/-- The word for a level. -/
def word : Level → String
  | trace => "TRACE"
  | debug => "DEBUG"
  | info => "INFO"
  | warning => "WARN"

/-- How talkative a filter must be to show a level; errors come first, at one. -/
def verbosity : Level → Nat
  | trace => 5
  | debug => 4
  | info => 3
  | warning => 2

end Level

/-- **The part of the program that a line comes from.** -/
inductive Source where
  /-- The program's start. -/
  | program
  /-- The screen with its messages. -/
  | screen
  /-- The expression buffer. -/
  | buffer
  /-- The evaluation. -/
  | evaluation
  /-- The calculator. -/
  | calculator
  /-- The history. -/
  | history
  deriving DecidableEq, Repr

/-- The name by which a filter speaks of a part. -/
def Source.target : Source → List Char
  | program => "calculette".toList
  | screen => "calculette::app::etat".toList
  | buffer => "calculette::noyau::tampon".toList
  | evaluation => "calculette::noyau::eval".toList
  | calculator => "calculette::noyau::calculette".toList
  | history => "calculette::noyau::historique".toList

/-- **A named value of a line.** -/
inductive Field where
  /-- A value that is read behind the message. -/
  | shown (name : String) (value : List Char)
  /-- A value that only a machine could word, the cause of a failure: the line has it unread. -/
  | withheld (name : String)
  deriving DecidableEq, Repr

namespace Field

/-- The name of a field. -/
def name : Field → String
  | shown name _ => name
  | withheld name => name

/-- A field as it is read. -/
def text : Field → List Char
  | shown name value => ' ' :: name.toList ++ '=' :: value
  | withheld _ => []

end Field

/-- **A line of the journal.** -/
structure Line where
  /-- How much the line matters. -/
  level : Level
  /-- Where it comes from. -/
  source : Source
  /-- What happened. -/
  message : String
  /-- To what it happened. -/
  fields : List Field
  deriving DecidableEq, Repr

namespace Line

/-- **A line as it is read**: the message and behind it the fields. -/
def text (line : Line) : List Char := line.message.toList ++ line.fields.flatMap Field.text

/-- The name under which the message itself is a field. -/
def messageName : String := "message"

/-- The names of all that a line says. -/
def fieldNames (line : Line) : List String := messageName :: line.fields.map Field.name

end Line

end PocketCalc.Journal
