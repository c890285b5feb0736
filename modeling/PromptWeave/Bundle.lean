import PromptWeave.Text.Basic

/-! The two channels of a prompt: what the picture is to show, and what it is not to show. -/

namespace PromptWeave

/-- One of the two channels of a prompt. -/
inductive Channel where
  | positive
  | negative
deriving DecidableEq, Inhabited

namespace Channel

/-- Both channels, the positive one first. -/
def all : List Channel := [.positive, .negative]

/-- The word for a channel in messages. -/
def label : Channel → Text
  | .positive => "positive".toList
  | .negative => "negative".toList

/-- The name of a channel in data. -/
def name : Channel → Text
  | .positive => "Positive".toList
  | .negative => "Negative".toList

end Channel

/-- The texts of both channels. -/
structure Bundle where
  positive : Text := []
  negative : Text := []
deriving DecidableEq, Inhabited

namespace Bundle

/-- The text of one channel. -/
def channel (bundle : Bundle) : Channel → Text
  | .positive => bundle.positive
  | .negative => bundle.negative

/-- Both channels are empty. -/
def isEmpty (bundle : Bundle) : Bool :=
  bundle.positive.isEmpty && bundle.negative.isEmpty

/-- A bundle as a person reads it: the positive text, and the negative one on a line of its own
if there is one. -/
def display (bundle : Bundle) : Text :=
  if bundle.negative = [] then bundle.positive
  else bundle.positive ++ "\nNegative: ".toList ++ bundle.negative

end Bundle

end PromptWeave
