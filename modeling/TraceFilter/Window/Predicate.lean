/-
Module: TraceFilter.Window.Predicate
Purpose: The predicate that a window puts on stored spans.
Main exports: Window.predicate, Window.render
-/
import TraceFilter.Spans.Rendering
import TraceFilter.Spans.StatementName
import TraceFilter.Window.Basic

namespace TraceFilter

/-- The predicate of a window: the start lies in the time range, and the duration meets the bounds
that are set. -/
def Window.predicate (window : Window) : Predicate :=
  [⟨.startTs, .between window.startTs window.endTs⟩]
    ++ (window.minDuration.map fun bound => (⟨.duration, .atLeast bound⟩ : Condition)).toList
    ++ (window.maxDuration.map fun bound => (⟨.duration, .atMost bound⟩ : Condition)).toList

/-- Renders the predicate of a window on the span table under another name, if one is given; an
empty name is as good as none. -/
def Window.render (window : Window) (alias? : Option String) : Rendered :=
  window.predicate.render
    (((alias?.filter (!·.isEmpty)).map statementName).getD SpanTable.name)

end TraceFilter
