import StageCues.Scanner.State

/-!
# Scanner — one turn

What the scanner does with one character, mode by mode, and what it does at the end of the text.
Letters are compared in upper case, except that the case of the letters of a frame token decides
between a frame, an empty frame and the end of a frame.  A parameter is delivered one turn late:
the character after it is looked at and then read again.
-/

namespace StageCues.Scanner

open Text

/-- Between tokens: the character selects a mode, or is told in upper case. -/
def onRest (s : Scanner) (c : Char) : Scanner :=
  match Mode.ofLeading? (upper c) with
  | none => (s.keep (.strangeCharacter c s.pos)).tell (upper c)
  | some .quotation => (s.tell [c]).enter .quotation
  | some m => s.enter m

/-- After a C. -/
def onLetterC (s : Scanner) (c : Char) : Scanner :=
  (if upper c = ['L'] then s.tellLine "CueList" else s).enter .rest

/-- A new frame is added and awaits its time. -/
def addFrame (s : Scanner) (empty : Bool) : Scanner :=
  let frames := s.frames ++ [.leaf (.newKeyFrame 0 empty)]
  let s := { s with frames := frames }.await 1 (.frame s.frames.length)
  (s.keep (.frameAdded frames.length s.pos)).enter .waitNumber

/-- The captions told at the end of a frame: those of its channel writes, then its own. -/
def closingCaptions (f : Node) : List (Except Fault Text) :=
  (f.childrenOf .channelData).map Node.caption ++ [f.caption]

/-- No caption fails but at a number that is too long. -/
theorem failsByLength_closingCaptions {f : Node} {x : Except Fault Text}
    (h : x ∈ closingCaptions f) : FailsByLength x := by
  rcases List.mem_append.mp h with h | h
  · obtain ⟨w, -, rfl⟩ := List.mem_map.mp h
    exact w.kind.failsByLength_caption _
  · obtain rfl := List.mem_singleton.mp h
    exact f.kind.failsByLength_caption _

/-- A frame is closed, and that is told. -/
def closeFrame (s : Scanner) (i : Nat) : Scanner :=
  { s with frames := s.frames.modify i Node.close }.tellLine "\nEnd of the KeyFrame."

/-- The last open frame is closed and told. -/
def endFrame (s : Scanner) : Except Halt Scanner :=
  match s.openFrame with
  | .error h => .error h
  | .ok i =>
    (fun t => t.enter .rest) <$>
      (s.closeFrame i).tellLines ((s.closeFrame i).frames[i]?.elim [] closingCaptions)

/-- After a K: a capital K starts a frame, a capital F alone an empty one, and small letters end
the last open one. -/
def onLetterK (s : Scanner) (c : Char) : Except Halt Scanner :=
  if upper c ≠ ['F'] then .ok ((s.keep (.strangeToken c s.pos)).enter .rest)
  else if s.previous.isUpper then do
    s.requireClosed
    return (s.tellLine "\nNEW KeyFrame!").addFrame false
  else if c.isUpper then do
    s.requireClosed
    return (s.tellLine "\nEmpty KeyFrame.").addFrame true
  else s.endFrame

/-- A new channel write is added to the last open frame and awaits its channel and its value. -/
def addWrite (s : Scanner) : Except Halt Scanner :=
  match s.openFrame with
  | .error h => .error h
  | .ok i =>
    let j := match s.frames[i]? with
      | some f => f.children.length
      | none => 0
    let frames := s.frames.modify i fun f => f.push (.leaf (.newChannelData 0 0))
    .ok (({ s with frames := frames }.await 2 (.write i j)).enter .waitNumber)

/-- After a B. -/
def onLetterB (s : Scanner) (c : Char) : Except Halt Scanner :=
  if upper c = ['P'] then (s.tell "\nLoading channel data...").addWrite
  else .ok (s.enter .rest)

/-- After a W. -/
def onLetterW (s : Scanner) (c : Char) : Scanner :=
  (if upper c = ['B'] then s.tell "<waitBeatSignal />"
    else if upper c = ['M'] then s.tell "<waitMilliSeconds />"
    else s).enter .rest

/-- A new iteration is added. -/
def addIteration (s : Scanner) (k : Kind) : Scanner :=
  { s with iterations := s.iterations ++ [.leaf k] }

/-- After an F. -/
def onLetterF (s : Scanner) (c : Char) : Scanner :=
  (if upper c = ['I'] then (s.tell "ForIteration").addIteration (.fresh .forIteration)
    else if upper c = ['T'] then s.tell "FadeTime"
    else s).enter .rest

/-- After an I. -/
def onLetterI (s : Scanner) (c : Char) : Scanner :=
  (if upper c = ['I'] then (s.tell "InfiniteIteration").addIteration (.fresh .infiniteIteration)
    else s).enter .rest

/-- Inside quoted text, which is told as it is. -/
def onQuotation (s : Scanner) (c : Char) : Scanner :=
  (s.tell [c]).enter (if upper c = ['"'] then .rest else .quotation)

/-- After a zero outside of any parameter. -/
def onNumber (s : Scanner) (c : Char) : Scanner :=
  match Mode.ofMarker? (upper c) with
  | none => (s.tell " ").enter .rest
  | some (marker, m) => ((s.tell " ").tell [marker]).enter m

/-- Among the digits of a number outside of any parameter. -/
def onDigits (s : Scanner) (c : Char) : Scanner :=
  if upper c = [';'] then s.enter .rest else s.tell (upper c)

/-- The head of the document takes the next parameters; a missing head is made from the kind. -/
def withHead (s : Scanner) (k : Kind) : Except Halt (Scanner × Node) :=
  match s.document with
  | none => .error (s.misread .noDocument)
  | some d =>
    let head := d.head.getD (.leaf k)
    .ok ({ s with document := some { d with head := some head } }, head)

/-- After an X: a new document, or a parameter or two for its head.  A head for a schema file takes
two texts at a time, every other head one. -/
def onCommand (s : Scanner) (c : Char) : Except Halt Scanner :=
  if upper c = ['!'] then
    .ok ({ s.tellLine "Document" with document := some .blank }.enter .rest)
  else if upper c = ['@'] then do
    let (s, _) ← (s.tellLine "Head").withHead (.newPredefinedHead 0)
    return (s.await 1 .head).enter .waitNumber
  else if upper c = ['+'] then do
    let (s, head) ← (s.tellLine "Title").withHead .newLinkedHead
    return (s.await (if head.cls.isA .linkedHead then 2 else 1) .head).enter .waitText
  else .ok (s.enter .rest)

/-- Collecting a numeric parameter, which ends before a semicolon; one that does not start with a
zero is none. -/
def onWaitNumber (s : Scanner) (c : Char) : Scanner :=
  let s := if upper c = [';'] then s.markStart.enter .gotNumber
    else (s.gather c).enter .waitNumber
  if !s.awaiting.literal.startsNumber then
    (s.keep (.malformedNumber s.awaiting.literal.text s.pos)).enter .noNumber
  else s

/-- Collecting a text parameter, which ends before a semicolon outside of double quotes. -/
def onWaitText (s : Scanner) (c : Char) : Scanner :=
  if upper c = [';'] ∧ s.awaiting.literal.quoted = false then s.markStart.enter .gotText
  else (s.gather c).enter .waitText

/-- The cursor goes back; a fault if that is before the mark. -/
def goBack (s : Scanner) (count : Int) : Except Halt Scanner :=
  match s.cursor.back? count with
  | none => .error ⟨.rewound, s⟩
  | some cursor => .ok { s with cursor := cursor }

/-- The address that takes the current parameter: the target, or else the last open frame. -/
def recipient (s : Scanner) : Except Halt Address :=
  match s.awaiting.target with
  | some a => .ok a
  | none => (s.openFrame).map .frame

/-- The current parameter is delivered, and the character after it is read again; `again` is the
mode for a further parameter. -/
def deliver (s : Scanner) (p : Parameter) (again : Mode) : Except Halt Scanner := do
  let target ← s.recipient
  let after := if s.awaiting.hasMore then again else .rest
  let s ← ({ s.give p target with awaiting := s.awaiting.delivered }).goBack 1
  return s.enter after

/-- A numeric parameter is complete; one that has too many digits stops the scan. -/
def onGotNumber (s : Scanner) : Except Halt Scanner :=
  match s.awaiting.literal.asNumber s.honourRadix with
  | .error f => .error ⟨f, s⟩
  | .ok n => s.deliver (.number n) .waitNumber

/-- A text parameter is complete. -/
def onGotText (s : Scanner) : Except Halt Scanner :=
  s.deliver (.text s.awaiting.literal.asText) .waitText

/-- There is no numeric parameter: the characters taken for one are read again as tokens, and
nothing is awaited any more. -/
def onNoNumber (s : Scanner) : Except Halt Scanner := do
  let s ← (s.tellLine "There is no parameter.").goBack 2
  return { s with awaiting := .idle }.enter .rest

/-- What the scanner does with a character in its mode. -/
def react (s : Scanner) (c : Char) : Except Halt Scanner :=
  match s.mode with
  | .rest => .ok (s.onRest c)
  | .letterC => .ok (s.onLetterC c)
  | .letterK => s.onLetterK c
  | .letterB => s.onLetterB c
  | .letterW => .ok (s.onLetterW c)
  | .letterF => .ok (s.onLetterF c)
  | .letterI => .ok (s.onLetterI c)
  | .quotation => .ok (s.onQuotation c)
  | .number => .ok (s.onNumber c)
  | .hexDigits | .decDigits | .binDigits => .ok (s.onDigits c)
  | .command => s.onCommand c
  | .waitNumber => .ok (s.onWaitNumber c)
  | .waitText => .ok (s.onWaitText c)
  | .gotNumber => s.onGotNumber
  | .gotText => s.onGotText
  | .noNumber => s.onNoNumber

/-- What the scanner does at the end of the text in a pending mode. -/
def settle (s : Scanner) : Except Halt Scanner :=
  match s.mode with
  | .gotNumber => s.onGotNumber
  | .gotText => s.onGotText
  | .noNumber => s.onNoNumber
  | _ => .ok s

/-- The scanner one character further. -/
def next (s : Scanner) : Scanner := { s with cursor := s.cursor.next }

/-- Whether nothing is left to do. -/
def isDone (s : Scanner) : Bool := s.cursor.atEnd && !s.mode.isPending

/-- One turn: the character at the cursor is handled, or the end of the text is, and the cursor
advances. -/
def turn (s : Scanner) : Except Halt Scanner :=
  if s.cursor.atEnd then next <$> s.settle
  else match s.cursor.read with
    | .error f => .error ⟨f, s⟩
    | .ok c => (fun t => { t with previous := c }.next) <$> s.react c

end StageCues.Scanner
