import PromptWeave.Bundle
import PromptWeave.Json.Record
import PromptWeave.Mode
import PromptWeave.Tags.Basic

/-! How modes, channels, bundles and tag sequences are written as JSON. -/

namespace PromptWeave

/-- Modes are written as their names. -/
def Mode.shape : Json.Shape Mode :=
  .named Mode.all Mode.name

/-- Channels are written as their names. -/
def Channel.shape : Json.Shape Channel :=
  .named Channel.all Channel.name

/-- Bundles are written as objects, with both channels. -/
def Bundle.record : Json.Record Bundle where
  name := "Bundle".toList
  fields := [⟨"positive".toList, .text⟩, ⟨"negative".toList, .text⟩]
  ofRow := fun (p, n, ()) => ⟨p, n⟩
  toRow b := (b.positive, b.negative, ())

/-- Tag sequences are written as lists of texts. -/
def Tags.shape : Json.Shape Tags :=
  (Json.Shape.text.list).map Tags.ofList Tags.toList

end PromptWeave
