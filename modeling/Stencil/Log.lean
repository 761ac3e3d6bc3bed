/-! # Log events

What happens along the way is reported as a list of events.  An event has a
level and the component that reports it; which events are shown is decided by
the command line.
-/

namespace Stencil

/-- How important an event is, most important first. -/
inductive Level where
  | error
  | warn
  | info
  | debug
  | trace
  deriving DecidableEq, Repr

/-- The parts of the program that report events. -/
inductive Component where
  | compiler
  | registry
  | settings
  | host
  | commands
  deriving DecidableEq, Repr

/-- The name under which a component reports. -/
def Component.name : Component → List Char
  | .compiler => "mythtpl_templates::compiler".toList
  | .registry => "mythtpl_templates::registry".toList
  | .settings => "mythtpl_conf".toList
  | .host => "mythtpl::host".toList
  | .commands => "mythtpl::commands".toList

/-- The name of a level in log lines. -/
def Level.name : Level → List Char
  | .error => "ERROR".toList
  | .warn => "WARN".toList
  | .info => "INFO".toList
  | .debug => "DEBUG".toList
  | .trace => "TRACE".toList

/-- Position of a level in the order of importance, from one. -/
def Level.rank : Level → Nat
  | .error => 1
  | .warn => 2
  | .info => 3
  | .debug => 4
  | .trace => 5

/-- Something worth reporting. -/
structure Event where
  level : Level
  component : Component
  message : List Char
  deriving DecidableEq, Repr

end Stencil
