import Mathlib.Tactic.Lemma
import Parley.Surface.Terminal

/-!
# Drawing

What reaches an output. A write that succeeds adds its whole text (`write_ok`), so lines that are
all written stand on the output one after the other (`writeLines_ok`). A terminal that is drawn
without a failure has written the whole screen (`drawTo_ok`); in memory no write fails (`draw_eq`).
The mark of a terminal that lags behind is gone after any draw, also after one that fails
(`drawTo_terminal`).
-/

namespace Parley

open Terminal (linesText)

/-! ## Lines as text -/

/-- The text of no lines is empty. -/
lemma Terminal.linesText_nil : linesText [] = "" := rfl

/-- The text of the first line stands before that of the others. -/
lemma Terminal.linesText_cons (line : String) (rest : List String) :
    linesText (line :: rest) = line ++ "\n" ++ linesText rest := by
  rw [linesText, List.map_cons, String.join_cons, linesText]

/-- Lines that are put together have their texts put together. -/
lemma Terminal.linesText_append (above below : List String) :
    linesText (above ++ below) = linesText above ++ linesText below := by
  induction above with
  | nil => rw [List.nil_append, linesText_nil, String.empty_append]
  | cons line rest ih =>
    rw [List.cons_append, linesText_cons, linesText_cons, ih, ← String.append_assoc]

/-! ## Writing -/

namespace Output

variable (out : Output)

/-- A write that succeeds adds the whole text. -/
lemma write_ok (text : String) (taken : (out.write text).1 = .ok ()) :
    (out.write text).2.text = out.text ++ text := by
  rw [write] at taken ⊢
  split
  · rfl
  · rfl
  · next answers =>
    -- the next answer is a failure, which is not what the write reported
    rw [answers] at taken
    cases taken

/-- Without answers to come every write succeeds. -/
lemma write_answerless (answerless : out.answers = []) (text : String) :
    out.write text = (.ok (), { out with text := out.text ++ text }) := by
  rw [write, answerless]

/-- Lines that are all written stand on the output one after the other. -/
lemma writeLines_ok (lines : List String) (taken : (out.writeLines lines).1 = .ok ()) :
    (out.writeLines lines).2.text = out.text ++ linesText lines := by
  induction lines generalizing out with
  | nil => rw [writeLines, Terminal.linesText_nil, String.append_empty]
  | cons line rest ih =>
    have first := out.write_ok (line ++ "\n")
    rw [writeLines, writeLine] at taken ⊢
    generalize out.write (line ++ "\n") = written at first taken ⊢
    obtain ⟨result, behind⟩ := written
    cases result with
    | error e => cases taken
    | ok =>
      have here : behind.text = out.text ++ (line ++ "\n") := first rfl
      dsimp only at taken ⊢
      rw [ih behind taken, here, Terminal.linesText_cons, String.append_assoc]

/-- Without answers to come every line is written. -/
lemma writeLines_answerless (answerless : out.answers = []) (lines : List String) :
    out.writeLines lines = (.ok (), { out with text := out.text ++ linesText lines }) := by
  induction lines generalizing out with
  | nil => rw [writeLines, Terminal.linesText_nil, String.append_empty]
  | cons line rest ih =>
    have later := ih { out with text := out.text ++ (line ++ "\n") } answerless
    have whole : out.text ++ (line ++ "\n") ++ linesText rest =
        out.text ++ (line ++ "\n" ++ linesText rest) :=
      String.append_assoc
    rw [whole] at later
    rw [writeLines, writeLine, write_answerless out answerless, Terminal.linesText_cons]
    exact later

end Output

/-! ## Drawing a terminal -/

namespace Terminal

variable {t : Terminal} {out : Output}

/-- A terminal that was drawn, whatever became of it, does not lag behind and is as it was. -/
lemma drawTo_terminal (t : Terminal) (out : Output) :
    (t.drawTo out).2.2 = { t with dirty := false } := by
  rw [drawTo]
  split
  · dsimp only
    cases out.writeLines (screen t.page t.mode) with
    | mk result behind => cases result <;> rfl
  · next clean =>
    rw [Bool.not_eq_true] at clean
    rw [← clean]

/-- A terminal that does not lag behind writes nothing. -/
lemma drawTo_clean (clean : t.dirty = false) : t.drawTo out = (.ok (), out, t) := by
  rw [drawTo, clean, if_neg Bool.false_ne_true]

/-- A draw that succeeds has written the whole screen. -/
lemma drawTo_ok (dirty : t.dirty = true) (drawn : (t.drawTo out).1 = .ok ()) :
    (t.drawTo out).2.1.text = out.text ++ linesText (screen t.page t.mode) := by
  have lines := out.writeLines_ok (screen t.page t.mode)
  rw [drawTo, if_pos dirty] at drawn ⊢
  dsimp only at drawn ⊢
  generalize out.writeLines (screen t.page t.mode) = written at lines drawn ⊢
  obtain ⟨result, behind⟩ := written
  cases result with
  | error e => cases drawn
  | ok =>
    -- the flush at the end adds the empty text
    have flushed := behind.write_ok "" drawn
    rw [String.append_empty] at flushed
    exact flushed.trans (lines rfl)

/-- In memory a terminal that lags behind is drawn whole. -/
lemma draw_eq (t : Terminal) : t.draw =
    (if t.dirty then linesText (screen t.page t.mode) else "", { t with dirty := false }) := by
  have terminal := t.drawTo_terminal .memory
  have text : (t.drawTo .memory).2.1.text =
      if t.dirty then linesText (screen t.page t.mode) else "" := by
    split
    · next dirty =>
      rw [drawTo, if_pos dirty, Output.writeLines_answerless .memory rfl]
      exact String.append_empty.trans String.empty_append
    · next clean =>
      rw [drawTo_clean (Bool.not_eq_true _ ▸ clean)]
      rfl
  rw [← terminal, ← text]
  rfl

end Terminal

end Parley
