import PromptWeave.Node.Output
import PromptWeave.Node.State
import PromptWeave.Observer
import PromptWeave.Tags.Combine
import PromptWeave.Tags.Dedupe
import PromptWeave.Template.Basic

/-! The evaluation of a chain node.

A disabled node sends nothing, and a locked one sends what is stored. Otherwise each channel is
evaluated on its own, the positive one first: its template is resolved, the tags of the resolved
text are merged with those of the inputs, and repeated tags are removed. -/

namespace PromptWeave

namespace Chain

/-- The values of a channel in the bundles of the inputs: trimmed, without the blank ones. -/
def channelValues (bundles : List Bundle) (channel : Channel) : List Text :=
  (bundles.map fun b => Text.trim (b.channel channel)).filter (· ≠ [])

/-- The tags of each value. -/
def channelTags (bundles : List Bundle) (channel : Channel) : List Tags :=
  (channelValues bundles channel).map Tags.parse

/-- Evaluates one channel from its template and the tags of the inputs. -/
def evaluateChannel (observer : Observer) (state : State) (channel : Channel) (template : Text)
    (inputs : List Tags) : Draw Text := do
  let text ← Template.resolve template
  observer.see (.resolved channel text)
  let merged ← Tags.combine state.mode (Tags.parse text) inputs state.switchIndex
  let tags := merged.dedupe
  observer.see (.combined channel state.mode tags)
  return tags.join

/-- The bundle that a locked node sends: the stored output if it carries both channels, and
otherwise the stored texts of both. -/
def cachedBundle (state : State) : Bundle :=
  match Wire.decode state.cachedOutput with
  | .plain _ => ⟨state.cachedOutput, state.cachedNegative⟩
  | wire => wire.bundle

/-- The node sends its stored output. -/
def isCacheHit (state : State) : Bool :=
  state.locked && !state.cachedOutput.isEmpty

/-- Evaluates both channels. -/
def evaluateChannels (observer : Observer) (state : State) (inputs : Inputs) : Draw Output := do
  let bundles := inputs.wires.map fun wire => (Wire.decode wire).bundle
  let positive ← evaluateChannel observer state .positive inputs.text
    (channelTags bundles .positive)
  let negative ← evaluateChannel observer state .negative inputs.negText
    (channelTags bundles .negative)
  let output := Output.ofBundle ⟨positive, negative⟩
  observer.see (.finished output.wire)
  return output

/-- Evaluates a chain node. -/
def evaluate (observer : Observer) (state : State) (inputs : Inputs) : Draw Output :=
  if state.disabled then do
    observer.see .disabled
    return .disabled
  else if isCacheHit state then do
    let output := Output.ofBundle (cachedBundle state)
    observer.see (.cacheHit output.wire)
    return output
  else evaluateChannels observer state inputs

end Chain

end PromptWeave
