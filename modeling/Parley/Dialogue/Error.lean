import Parley.Dialogue.Item
import Parley.Dialogue.Key

/-!
# What can go wrong in a conversation
-/

namespace Parley

/-- Why a selection is not one that the surface may report. -/
inductive Violation where
  | afterEnd
  | nothingShown
  | otherEpisode (selected live : Nat)
  | choiceOutOfRange (index count : Nat)
  | notOffered (item : Item)
  | nothingToPresent
  /-- A violation in the words of whoever found it. -/
  | reported (reason : String)
deriving DecidableEq

/-- The wording of a violation. -/
def Violation.message : Violation → String
  | .afterEnd => "selection after the session ended"
  | .nothingShown => "selection while no node is presenting"
  | .otherEpisode selected live =>
    "selection for episode " ++ Decimal.ofNat selected ++ " but episode " ++ Decimal.ofNat live
      ++ " is live"
  | .choiceOutOfRange index count =>
    "choice " ++ Decimal.ofNat index ++ " out of " ++ Decimal.ofNat count
  | .notOffered item => "'" ++ item.name ++ "' was not offered"
  | .nothingToPresent => "nothing can be presented here"
  | .reported reason => reason

/-- The errors of a conversation. None of them goes away by trying again. -/
inductive DialogueError where
  /-- A visit named a node that the graph does not have. -/
  | unknownNode (key : Key)
  /-- A node asked for a collection that the host does not have. -/
  | unsupportedCollection (kind : String)
  /-- A random visit found no key to draw. -/
  | frontierExhausted
  /-- The surface reported a selection that the live episode does not offer. -/
  | protocolViolation (violation : Violation)
  /-- There is no character at that position. -/
  | unknownNpc (index : Nat)
  /-- The session was ended and no new one was started. -/
  | sessionEnded
deriving DecidableEq

/-- The wording of an error. -/
def DialogueError.message : DialogueError → String
  | .unknownNode key => "no node '" ++ key.name ++ "' in the conversation graph"
  | .unsupportedCollection kind => "invalid choice type '" ++ kind ++ "'"
  | .frontierExhausted => "ran out of choices in frontier"
  | .protocolViolation violation => "backend protocol violation: " ++ violation.message
  | .unknownNpc index => "nobody to talk to at position " ++ Decimal.ofNat index
  | .sessionEnded => "conversation session has ended"

end Parley
