/-!
# Faults of patterns

Why a text is not a pattern.
-/

namespace Parley.Pattern

/-- The faults of a text read as a pattern. -/
inductive Fault where
  | captureNameDuplicate
  | captureNameEmpty
  | captureNameInvalid
  | captureNameUnfinished
  | classEscapeInvalid
  | classRangeInvalid
  | classRangeLiteral
  | classUnclosed
  | decimalInvalid
  | escapeHexEmpty
  | escapeHexInvalid
  | escapeHexInvalidDigit
  | escapeUnfinished
  | escapeUnrecognized
  | flagDangling
  | flagDuplicate
  | flagUnfinished
  | flagUnrecognized
  | groupUnclosed
  | groupUnopened
  | nestTooDeep
  | repetitionCountInvalid
  | repetitionCountUnclosed
  | repetitionMissing
  | wordBoundaryUnclosed
  | wordBoundaryUnrecognized
  | propertyInvalid
  | propertyUnknown
  | backReference
  | lookAround
  /-- Only bytes that are no characters could match. -/
  | notText
  /-- A class of bytes that holds a character beyond ASCII. -/
  | notAscii
  /-- The automaton of the pattern would take too much memory. -/
  | tooLarge
deriving DecidableEq

/-- The wording of a fault. -/
def Fault.reason : Fault → String
  | .captureNameDuplicate => "duplicate capture group name"
  | .captureNameEmpty => "empty capture group name"
  | .captureNameInvalid => "invalid capture group character"
  | .captureNameUnfinished => "unclosed capture group name"
  | .classEscapeInvalid => "invalid escape sequence found in character class"
  | .classRangeInvalid => "invalid character class range, the start must be <= the end"
  | .classRangeLiteral => "invalid range boundary, must be a literal"
  | .classUnclosed => "unclosed character class"
  | .decimalInvalid => "decimal literal invalid"
  | .escapeHexEmpty => "hexadecimal literal empty"
  | .escapeHexInvalid => "hexadecimal literal is not a Unicode scalar value"
  | .escapeHexInvalidDigit => "invalid hexadecimal digit"
  | .escapeUnfinished => "incomplete escape sequence, reached end of pattern prematurely"
  | .escapeUnrecognized => "unrecognized escape sequence"
  | .flagDangling => "dangling flag negation operator"
  | .flagDuplicate => "duplicate flag"
  | .flagUnfinished => "expected flag but got end of regex"
  | .flagUnrecognized => "unrecognized flag"
  | .groupUnclosed => "unclosed group"
  | .groupUnopened => "unopened group"
  | .nestTooDeep => "exceed the maximum number of nested parentheses/brackets (250)"
  | .repetitionCountInvalid =>
    "invalid repetition count range, the start must be <= the end"
  | .repetitionCountUnclosed => "unclosed counted repetition"
  | .repetitionMissing => "repetition operator missing expression"
  | .wordBoundaryUnclosed =>
    "special word boundary assertion is unclosed or contains an invalid character"
  | .wordBoundaryUnrecognized => "unrecognized special word boundary assertion"
  | .propertyInvalid => "invalid Unicode character class"
  | .propertyUnknown => "Unicode property not found"
  | .backReference => "backreferences are not supported"
  | .lookAround => "look-around, including look-ahead and look-behind, is not supported"
  | .notText => "pattern can match invalid UTF-8"
  | .notAscii => "Unicode not allowed here"
  | .tooLarge => "Compiled regex exceeds size limit of 10485760 bytes."

/-- The report of a fault, with the pattern that has it if the fault lies in how it is written. -/
def Fault.report (fault : Fault) (pattern : String) : String :=
  match fault with
  | .tooLarge => fault.reason
  | _ => "regex parse error:\n    " ++ pattern ++ "\nerror: " ++ fault.reason

end Parley.Pattern
