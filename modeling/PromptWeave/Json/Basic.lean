import PromptWeave.Number.Shortest
import PromptWeave.Text.Basic

/-! JSON values. -/

namespace PromptWeave

namespace Json

/-- A number: an integer between -2 ^ 63 and 2 ^ 64 - 1, or a floating-point number. -/
inductive Number where
  | integer (value : Int)
  | float (value : Binary64)
deriving DecidableEq

/-- Floating-point numbers are written with the point at its place from 0.00001 up to 16 digits
before the point. -/
def Number.layout : Decimal.Layout := ⟨-5, 15⟩

/-- A number as it is written. -/
def Number.text : Number → Text
  | integer n => Text.ofInt n
  | float x => x.text layout

end Json

/-- A JSON value. The members of an object stand in the order in which they are written. -/
inductive Json where
  | null
  | flag (value : Bool)
  | number (value : Json.Number)
  | text (value : Text)
  | array (items : List Json)
  | object (members : List (Text × Json))

namespace Json

/-- The members of an object. -/
abbrev Members := List (Text × Json)

namespace Members

/-- Gives a value to a key of members that are sorted by their keys. An earlier value of the key
is replaced. -/
def insert (key : Text) (value : Json) : Members → Members
  | [] => [(key, value)]
  | (k, v) :: rest =>
    if k = key then (key, value) :: rest
    else if Text.before key k then (key, value) :: (k, v) :: rest
    else (k, v) :: insert key value rest

/-- The value of a key. -/
def get? (members : Members) (key : Text) : Option Json :=
  (members.find? fun member => member.1 = key).map Prod.snd

end Members

end Json

end PromptWeave
