import Parley.Pattern.Expr

/-!
# Searching a text

A search reads the text once, from left to right, and follows all ways through the pattern at the
same time. A part of the pattern that asks for a character is *armed* while some way waits in front
of it. With each character the armed parts that it fits are passed, and what stands behind them is
entered at the gap behind the character. The pattern itself is entered at every gap, and it occurs
in the text when some way leaves it.

What a part asks for is looked up per place: before the search, each set is turned into the list of
the characters of the text that fit, and each condition into the list of the gaps that meet it.
-/

namespace Parley.Pattern

/-- A pattern in the course of a search through one text. In joined parts `live` tells whether
something inside is armed. -/
inductive Progress where
  /-- Nothing, at any gap. -/
  | done
  /-- One character; `fits` tells which characters of the text will do. -/
  | one (fits : Array Bool) (armed : Bool)
  /-- A condition; `holds` tells which gaps of the text meet it. -/
  | look (holds : Array Bool)
  | seq (live : Bool) (a b : Progress)
  | alt (live : Bool) (a b : Progress)
  /-- Any number of repetitions. -/
  | loop (live : Bool) (e : Progress)

namespace Progress

/-- Whether something is armed. -/
def isLive : Progress → Bool
  | .done => false
  | .one _ armed => armed
  | .look _ => false
  | .seq live _ _ => live
  | .alt live _ _ => live
  | .loop live _ => live

/-- Two parts one behind the other. -/
def andThen (a b : Progress) : Progress := .seq (a.isLive || b.isLive) a b

/-- Either of two parts. -/
def orElse (a b : Progress) : Progress := .alt (a.isLive || b.isLive) a b

/-- A part repeated any number of times. -/
def repeated (e : Progress) : Progress := .loop e.isLive e

/-- A part repeated a number of times, by halves that are the same value. -/
def copies (e : Progress) : Nat → Progress
  | 0 => .done
  | 1 => e
  | n + 2 =>
    let half := copies e ((n + 2) / 2)
    if n % 2 = 0 then half.andThen half else e.andThen (half.andThen half)
termination_by n => n
decreasing_by omega

/-- Enters a part at a gap: arms what waits for the next character, and tells whether some way
leads through without one. -/
def enter (gap : Nat) : Progress → Progress × Bool
  | .done => (.done, true)
  | .one fits _ => (.one fits true, false)
  | .look holds => (.look holds, holds.getD gap false)
  | .seq _ a b =>
    let (a, through) := a.enter gap
    if through then
      let (b, out) := b.enter gap
      (a.andThen b, out)
    else (a.andThen b, false)
  | .alt _ a b =>
    let (a, outA) := a.enter gap
    let (b, outB) := b.enter gap
    (a.orElse b, outA || outB)
  | .loop _ e => ((e.enter gap).1.repeated, true)

/-- Reads the character behind a gap, and enters the part at the next gap if `entered`; tells
whether some way leaves the part there. -/
def step (gap : Nat) (entered : Bool) : Progress → Progress × Bool
  | .done => (.done, entered)
  | .one fits armed => (.one fits entered, armed && fits.getD gap false)
  | .look holds => (.look holds, entered && holds.getD (gap + 1) false)
  | .seq live a b =>
    if live then
      let (a, through) := a.step gap entered
      let (b, out) := b.step gap through
      (a.andThen b, out)
    else if entered then (Progress.seq live a b).enter (gap + 1)
    else (.seq live a b, false)
  | .alt live a b =>
    if live then
      let (a, outA) := a.step gap entered
      let (b, outB) := b.step gap entered
      (a.orElse b, outA || outB)
    else if entered then (Progress.alt live a b).enter (gap + 1)
    else (.alt live a b, false)
  | .loop live e =>
    if live then
      let (e, again) := e.step gap entered
      if again && !entered then ((e.enter (gap + 1)).1.repeated, true)
      else (e.repeated, again || entered)
    else if entered then (Progress.loop live e).enter (gap + 1)
    else (.loop live e, false)

/-- Reads the characters from a gap on, and tells whether some way leaves the part. -/
def finds : (characters : Nat) → (gap : Nat) → Progress → Bool
  | 0, _, _ => false
  | n + 1, gap, p =>
    let (p, out) := p.step gap true
    out || finds n (gap + 1) p

end Progress

/-- A pattern before a search. After as many repetitions as the text has gaps, further ones reach
nothing new, so that no more of them are made. -/
def Expr.prepare (text : List Char) (gs : List Gap) : Expr → Progress
  | .empty => .done
  | .one set => .one (text.map set.contains).toArray false
  | .look condition => .look (gs.map condition.holds).toArray
  | .seq a b => (a.prepare text gs).andThen (b.prepare text gs)
  | .alt a b => (a.prepare text gs).orElse (b.prepare text gs)
  | .repeat e min max =>
    let once := e.prepare text gs
    let least := once.copies (Nat.min min gs.length)
    match max with
    | none => least.andThen once.repeated
    | some max =>
      least.andThen ((Progress.done.orElse once).copies (Nat.min (max - min) gs.length))
  | .capture e => e.prepare text gs

/-- Whether an expression occurs in a text. -/
def Expr.occursIn (e : Expr) (text : String) : Bool :=
  let cs := text.toList
  let (start, out) := (e.plain.prepare cs (gaps cs)).enter 0
  out || start.finds cs.length 0

end Parley.Pattern
