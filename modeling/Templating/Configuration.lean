import Templating.Operation

/-!
# Configurations

Everything a processor is configured with: how variables are written in content,
the operations in the order of their registration, and the sizes of a run.
-/

namespace Templating

structure Configuration where
  /-- How a variable appears in content, with a placeholder for its name. -/
  variableFormat : String
  operations : List OperationSettings
  /-- How many bytes of a source are held at once. -/
  bufferSize : Nat
  /-- How many bytes are written between two flushes. -/
  flushThreshold : Nat
  deriving BEq

namespace Configuration

def defaultSize : Nat := 8 * 1024 * 1024

def defaultFormat : String := String.ofList placeholder

def validate (c : Configuration) : Except ConfigError Unit := do
  if c.bufferSize = 0 then throw (.zeroSize .bufferSize)
  if c.flushThreshold = 0 then throw (.zeroSize .flushThreshold)
  if !hasPlaceholder c.variableFormat.toList then throw (.variableFormat c.variableFormat)
  c.operations.forM OperationSettings.validate

end Configuration

end Templating
