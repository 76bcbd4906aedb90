import OverlayControl.Service
import OverlayControl.Text.WordChar

/-!
# Verdicts on replies

A structured reply succeeds exactly when its status is not negative. A reply in plain text succeeds
when its status is zero and, unless its text is what was asked for, the text does not start with a
phrase of failure: `error`, or `fail` with `ed` or `ure` after it or neither. The phrase may be in
any case, and ends at the edge of a word.

* `Pattern`, `Pattern.ends` — patterns, and where one may end that starts at a place of a text;
* `denied`, `succeeded` — the verdicts.
-/

namespace OverlayControl.Verdict

/-- A pattern for the start of a text. -/
inductive Pattern
  /-- A word in small letters, which stands for any case of it. -/
  | word (w : String)
  /-- One pattern and then another. -/
  | seq (p q : Pattern)
  /-- One pattern or another. -/
  | either (p q : Pattern)
  /-- A pattern or nothing. -/
  | optional (p : Pattern)

/-- A place in a text. -/
structure Cursor where
  /-- The character before it, if there is one. -/
  before : Option Char
  /-- What comes after it. -/
  rest : List Char

/-- Passes over a word. The case of letters makes no difference; that of ASCII is enough for words
whose letters are not the other case of any other letter. -/
def Cursor.pass : List Char → Cursor → Option Cursor
  | [], k => some k
  | w :: ws, ⟨_, c :: cs⟩ => if c.toLower = w then pass ws ⟨some c, cs⟩ else none
  | _ :: _, ⟨_, []⟩ => none

/-- Whether a place is the edge of a word: on one side of it only there is a word character. -/
def Cursor.atEdge (k : Cursor) : Bool :=
  k.before.any Text.isWordChar != k.rest.head?.any Text.isWordChar

/-- The places where a pattern may end that starts at a place. -/
def Pattern.ends : Pattern → Cursor → List Cursor
  | word w, k => (k.pass w.toList).toList
  | seq p q, k => (p.ends k).flatMap q.ends
  | either p q, k => p.ends k ++ q.ends k
  | optional p, k => p.ends k ++ [k]

/-- Whether a text starts with a pattern that may end at the edge of a word. -/
def Pattern.starts (p : Pattern) (text : List Char) : Bool :=
  (p.ends ⟨none, text⟩).any Cursor.atEdge

/-- The phrases of failure. -/
def failures : List Pattern :=
  [.word "error", .seq (.word "fail") (.optional (.either (.word "ed") (.word "ure")))]

/-- Whether a text, blanks around it aside, starts with a phrase of failure. -/
def denied (text : String) : Bool := failures.any fun p => p.starts (Text.trimChars text.toList)

/-- Whether a reply counts as success; `returnsText` tells that its text is what was asked for. -/
def succeeded (r : Reply) (returnsText : Bool) : Bool :=
  if r.structured then 0 ≤ r.status else r.status == 0 && (returnsText || !denied r.text)

end OverlayControl.Verdict
