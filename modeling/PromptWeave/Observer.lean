import PromptWeave.Draw.Basic

/-! Who looks at the events of evaluations, and what becomes of them. -/

namespace PromptWeave

/-- Who looks at the events of evaluations: the reports that are left of each event. -/
structure Observer where
  reports : Event → List Report

namespace Observer

/-- Events are lines of the log. -/
def log : Observer := ⟨fun event => [.notice (.observed event)]⟩

/-- Nobody looks. -/
def silent : Observer := ⟨fun _ => []⟩

/-- Events are kept. -/
def recording : Observer := ⟨fun event => [.event event]⟩

/-- Shows an event to an observer. -/
def see (observer : Observer) (event : Event) : Draw Unit :=
  Draw.reportAll (observer.reports event)

end Observer

end PromptWeave
