import PromptWeave.Bundle
import PromptWeave.Json.Record
import PromptWeave.Text.Blank

/-! The texts that nodes send each other.

A node sends both channels as one text, its wire. A bundle without negative text is sent as its
positive text, so that nodes that know texts only can read it; any other bundle is sent as a JSON
object. A third form, in which a separator stands between the channels, is still read. Reading
never fails: a text of neither form is a positive text. -/

namespace PromptWeave

/-- A wire that was read, by its form. -/
inductive Wire where
  /-- A JSON object. -/
  | structured (bundle : Bundle)
  /-- Two texts with a separator between them. -/
  | separated (bundle : Bundle)
  /-- A positive text. -/
  | plain (text : Text)
deriving DecidableEq

namespace Wire

/-- The wire is of one of the two forms that hold both channels. -/
def isBundle : Wire → Bool
  | plain _ => false
  | _ => true

/-- The bundle that a wire carries. -/
def bundle : Wire → Bundle
  | structured b => b
  | separated b => b
  | plain text => { positive := text }

/-- The version that is written into objects. -/
def version : Nat := 1

/-- The text between the channels of a separated wire. -/
def separator : Text := "\u001eneg\u001e".toList

/-- The key of the version. -/
def versionKey : Text := "pc_bundle".toList

/-- The key of the positive text. -/
def positiveKey : Text := "pos".toList

/-- The key of the negative text. -/
def negativeKey : Text := "neg".toList

/-- The objects that carry bundles: a version, which may be any number of 32 bits, and the texts
of the channels. -/
def record : Json.Record (Nat × Bundle) where
  name := "Wire".toList
  fields := [
    ⟨versionKey, .natural "u32".toList (UInt32.size - 1)⟩,
    ⟨positiveKey, .text⟩,
    ⟨negativeKey, .text⟩]
  ofRow := fun (v, p, n, ()) => (v, ⟨p, n⟩)
  toRow := fun (v, b) => (v, b.positive, b.negative, ())
  unknown := .refused

/-- The bundle of an object. Lists are not taken for objects here. -/
def readStructured? (wire : Text) : Option Bundle :=
  if (Text.trimStart wire).head? = some '{' then
    match record.shape.parse wire with
    | .ok (_, b) => some b
    | .error _ => none
  else none

/-- Reads a wire. -/
def decode (wire : Text) : Wire :=
  match readStructured? wire with
  | some b => structured b
  | none =>
    match Text.cut? separator wire with
    | some (p, n) => separated ⟨p, n⟩
    | none => plain wire

/-- The object that carries a bundle. Its keys are sorted. -/
def object (b : Bundle) : Json :=
  .object [
    (negativeKey, .text b.negative),
    (versionKey, .number (.integer version)),
    (positiveKey, .text b.positive)]

/-- Writes a wire. A positive text that would be read as a bundle is put into an object too. -/
def encode (b : Bundle) : Text :=
  if b.negative = [] ∧ (decode b.positive).isBundle = false then b.positive
  else (object b).compact

/-- Writes a wire with a separator. -/
def encodeSeparated (b : Bundle) : Text :=
  b.positive ++ separator ++ b.negative

end Wire

end PromptWeave
