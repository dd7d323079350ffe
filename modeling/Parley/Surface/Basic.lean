import Parley.Surface.Event
import Parley.Surface.Page

/-!
# Surfaces

A surface stands between a conversation and its player. It is told what to show, and it turns input
events into selections. Between two resets it reports one selection at most.
-/

namespace Parley

/-- What a conversation needs of the place where it is shown. -/
class Surface (σ : Type) where
  /-- The page as it was built since the last reset. -/
  page : σ → Page
  /-- Forgets the page and takes input again. -/
  reset : σ → σ
  addText : σ → String → σ
  addChoice : σ → String → ChoiceHandle → σ
  addPresent : σ → List Item → PresentHandle → σ
  /-- Takes one event, and reports the selection that it completes. -/
  respond : σ → InputEvent → Option Selection × σ

end Parley
