/-!
# Event: one line of the log

An event has a level, an origin within the program, a message and fields.  Its line is the
level, the origin's path, the message and the fields in order.
-/

namespace Rollout.Log

/-- How serious an event is, the gravest first. -/
inductive Level where
  | error
  | warn
  | info
  | debug
  | trace
deriving DecidableEq, Repr, Inhabited

/-- The name of a level in capitals, as log lines show it. -/
def Level.name : Level → String
  | error => "ERROR"
  | warn => "WARN"
  | info => "INFO"
  | debug => "DEBUG"
  | trace => "TRACE"

/-- Every level once, the gravest first. -/
def Level.all : List Level := [error, warn, info, debug, trace]

/-- The name of a level in small letters, as users write it. -/
def Level.word : Level → String
  | error => "error"
  | warn => "warn"
  | info => "info"
  | debug => "debug"
  | trace => "trace"

/-- How much a level lets through: higher numbers let through more. -/
def Level.verbosity : Level → Nat
  | error => 1
  | warn => 2
  | info => 3
  | debug => 4
  | trace => 5

/-- The part of the program an event comes from. -/
inductive Origin where
  /-- The program as a whole. -/
  | program
  /-- The outer loop of a run. -/
  | run
  /-- A pass over the plan. -/
  | pass
  /-- The status tracker. -/
  | tracker
  /-- The execution of shell commands. -/
  | command
deriving DecidableEq, Repr, Inhabited

/-- The path that log lines and log filters know an origin by. -/
def Origin.path : Origin → String
  | program => "deployplan"
  | run => "deployplan::engine::runtime"
  | pass => "deployplan::engine::pass"
  | tracker => "deployplan::status::memory"
  | command => "deployplan::exec::command"

/-- One line of the log. -/
structure Event where
  level : Level
  origin : Origin
  message : String
  fields : List (String × String) := []
deriving DecidableEq, Repr, Inhabited

/-- The event as text. -/
def Event.line (e : Event) : String :=
  e.level.name ++ " " ++ e.origin.path ++ ": " ++ e.message ++
    String.join (e.fields.map fun f => " " ++ f.1 ++ "=" ++ f.2)

end Rollout.Log
