import PromptWeave.Bundle
import PromptWeave.Mode
import PromptWeave.Tags.Basic
import PromptWeave.Text.Quoted

/-! What an evaluation tells about itself while it runs.

An event is a step of the evaluation of a node. A notice is a line for the log. A report is
either of them: events are reported where somebody records them, notices where a log is kept. -/

namespace PromptWeave

/-- A step in the evaluation of a node. -/
inductive Event where
  /-- The node is disabled; nothing was evaluated. -/
  | disabled
  /-- The node is locked; the stored bundle was returned. -/
  | cacheHit (wire : Text)
  /-- The template of a channel was resolved to a text. -/
  | resolved (channel : Channel) (text : Text)
  /-- The tags of a channel were merged, and repeated ones removed. -/
  | combined (channel : Channel) (mode : Mode) (tags : Tags)
  /-- The node sends a bundle. -/
  | finished (wire : Text)
deriving DecidableEq

/-- The text that tells of an event. -/
def Event.message : Event → Text
  | .disabled => "Node disabled, returning empty bundle".toList
  | .cacheHit wire => "Node locked, reusing cached output ".toList ++ Text.quoted wire
  | .resolved channel text =>
    "Resolved ".toList ++ channel.label ++ " template: ".toList ++ Text.quoted text
  | .combined channel mode tags =>
    mode.name ++ " ".toList ++ channel.label ++ " -> ".toList ++ Text.ofNat tags.size ++
      " tags: ".toList ++ tags.join
  | .finished wire => "Output bundle: ".toList ++ Text.quoted wire

/-- How much a line of the log matters. -/
inductive Level where
  | trace
  | debug
  | warn
deriving DecidableEq

/-- Something worth a line in the log. -/
inductive Notice where
  /-- A template was resolved. -/
  | templateResolved (template text : Text)
  /-- The connected inputs of a request were counted. -/
  | inputsCollected (count : Nat)
  /-- No node of the given type is known. -/
  | unknownNodeType (id : Text)
  /-- A step in the evaluation of a node was taken. -/
  | observed (event : Event)
deriving DecidableEq

namespace Notice

/-- How much a notice matters. -/
def level : Notice → Level
  | .templateResolved .. => .trace
  | .inputsCollected _ => .debug
  | .unknownNodeType _ => .warn
  | .observed _ => .debug

/-- The line for a notice. -/
def message : Notice → Text
  | .templateResolved template text =>
    "Resolved template ".toList ++ Text.quoted template ++ " -> ".toList ++ Text.quoted text
  | .inputsCollected count => "Collected ".toList ++ Text.ofNat count ++ " upstream inputs".toList
  | .unknownNodeType id => "Unknown node type '".toList ++ id ++ "'".toList
  | .observed event => event.message

end Notice

/-- What an evaluation leaves behind besides its result. -/
inductive Report where
  | event (event : Event)
  | notice (notice : Notice)
deriving DecidableEq

end PromptWeave
