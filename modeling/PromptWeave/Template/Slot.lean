import PromptWeave.Draw.Basic
import PromptWeave.Text.Blank

/-! The places of a template.

Reading a template gives a list of places, each of which is filled with a fixed text or with one
of several options. Filling the places is the only part of resolution that makes choices. -/

namespace PromptWeave

/-- A place in a template. -/
inductive Slot where
  /-- The place always holds the same text. -/
  | fixed (text : Text)
  /-- The place holds one of the options. -/
  | options (texts : List Text)
deriving DecidableEq

/-- One of several options. Where there are none, nothing is asked and nothing is taken. -/
def choose (options : List Text) : Draw (Option Text) :=
  if options = [] then pure none
  else do
    let i ← Draw.pick options.length
    return options[i]?

namespace Slot

/-- The options of a group, which stand between bars. -/
def optionsOf (group : Text) : List Text :=
  Text.trimmedPieces '|' group

/-- The place that a part of a template describes: a choice if a bar occurs in it. -/
def ofPart (part : Text) : Slot :=
  if '|' ∈ part then options (optionsOf part) else fixed part

/-- The text that fills a place, if any. -/
def fill : Slot → Draw (Option Text)
  | fixed text => pure (some text)
  | options texts => choose texts

/-- The number of possibilities that filling a place chooses among, if it asks at all. -/
def count? : Slot → Option Nat
  | fixed _ => none
  | options texts => if texts = [] then none else some texts.length

/-- The texts that fill places in order. Places that stay empty are left out. -/
def fillAll : List Slot → Draw (List Text)
  | [] => pure []
  | slot :: slots => do
    let text? ← slot.fill
    let texts ← fillAll slots
    return text?.toList ++ texts

/-- Fills places and writes the texts with commas between them. -/
def assemble (slots : List Slot) : Draw Text := do
  let texts ← fillAll slots
  return [',', ' '].intercalate texts

end Slot

end PromptWeave
