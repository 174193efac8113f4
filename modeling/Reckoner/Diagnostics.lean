/-
# Diagnostics of documents

Every line of a document that is not blank is calculated by itself, without variables and with the
default settings. A line that fails has one diagnostic: an error if its text cannot be read, a
warning if its value cannot be found. The place is that of the report, moved into the line as it was
written, and lines and characters count from zero.

A server runs in a host that keeps the texts of documents and tells it of events (`Host`). When a
document is opened, and when it is changed, the server reads its text from there and publishes its
diagnostics.
-/

import Reckoner.Calculation

namespace Reckoner

/-- How grave a diagnostic is. -/
inductive Severity where
  | error
  | warning
  deriving DecidableEq

/-- What is wrong with one line of a document. -/
structure Diagnostic where
  line : Nat
  start : Nat
  stop : Nat
  severity : Severity
  kind : Kind
  message : String
  deriving DecidableEq

/-- A report as a diagnostic of a line of `length` characters. -/
def Report.diagnostic (report : Report) (line length : Nat) : Diagnostic where
  line := line
  start := Position.clamp length report.span.start
  stop := Position.clamp length (max report.span.start report.span.stop)
  severity := if report.kind.isEvaluation then .warning else .error
  kind := report.kind
  message := report.message

/-- The diagnostics of one line. -/
def diagnoseLine (limits : Limits) (line : Nat) (text : String) : List Diagnostic :=
  if Text.isBlankText text.toList then []
  else match Calculation.run limits {} [] text with
    | .ok _ => []
    | .error e => (e.report?.map fun r => r.diagnostic line text.length).toList

/-- A document as lines without the carriage returns at their ends. -/
def documentLines (text : String) : List String :=
  (Text.feedLines text.toList).map fun line =>
    String.ofList (Text.dropEndWhile (· == '\r') line)

/-- The diagnostics of a document. -/
def diagnose (limits : Limits) (text : String) : List Diagnostic :=
  (documentLines text).zipIdx.flatMap fun p => diagnoseLine limits p.2 p.1

/-! ### Sessions -/

/-- What happens to a document: it is opened, or changed, and in both cases it has a text then. -/
inductive DocumentEvent where
  | opened (name text : String)
  | changed (name text : String)
  deriving DecidableEq

/-- The name of the document of an event. -/
def DocumentEvent.name : DocumentEvent → String
  | opened name _ | changed name _ => name

/-- The text that the document of an event has then. -/
def DocumentEvent.text : DocumentEvent → String
  | opened _ text | changed _ text => text

/-- What a server runs in: it keeps the documents, and calls the server's handlers. -/
structure Host (σ : Type) where
  /-- What is kept after an event. -/
  receive : σ → DocumentEvent → σ
  /-- The text of the document of a name. -/
  textOf : σ → String → String
  /-- The calls of handlers that events lead to, each with what is kept when it is made. -/
  calls : σ → List DocumentEvent → List (σ × DocumentEvent)

namespace Host

variable {σ : Type}

/-- The diagnostics of a document, as they are published. -/
def validate (host : Host σ) (limits : Limits) (kept : σ) (name : String) :
    String × List Diagnostic :=
  (name, diagnose limits (host.textOf kept name))

/-- What is published about documents in the course of a session: both handlers validate the
document of their event. -/
def published (host : Host σ) (limits : Limits) (kept : σ) (events : List DocumentEvent) :
    List (String × List Diagnostic) :=
  (host.calls kept events).map fun call => host.validate limits call.1 call.2.name

/-- The calls of a host that calls a handler for each event, once it has received it. -/
def callEach (receive : σ → DocumentEvent → σ) :
    σ → List DocumentEvent → List (σ × DocumentEvent)
  | _, [] => []
  | kept, event :: events =>
    (receive kept event, event) :: callEach receive (receive kept event) events

/-- A host that keeps the current text of each document. -/
def memory : Host Bindings where
  receive kept event := kept.set event.name event.text
  textOf kept name := (kept.find? name).getD ""
  calls := callEach fun kept event => kept.set event.name event.text

end Host
end Reckoner
