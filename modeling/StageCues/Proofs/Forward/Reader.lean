import StageCues.Reading

/-!
# Forward — a reader that never goes back

The scanner looks at the character after a literal and reads it again, and it gives the characters
of a missing number back.  `Forward.read` is what it amounts to: a recursion on the text that is
left, which takes a token with all its parameters at once and never returns to what it has passed.

* `Forward.token` is the table of the tokens of two characters: what a token does to what was read,
  and which parameters it asks for.
* `Forward.numbers` and `Forward.texts` take the parameters.  A number that is missing ends the
  parameters of its token, and reading goes on in front of the character that is not a zero; one
  with too many digits ends all reading.
* `Forward.read` goes through the whole text; of the text that was read it keeps the length only,
  to say where a misreading is.
-/

namespace StageCues

open Text

namespace Reading

/-- What an empty text says. -/
def blank : Reading := ⟨[], none, [], []⟩

/-- The reading with more told. -/
def tell (r : Reading) (u : Text) : Reading := { r with trace := r.trace ++ u }

@[simp] theorem tell_nil (r : Reading) : r.tell [] = r := by
  unfold tell
  rw [List.append_nil]

@[simp] theorem tell_tell (r : Reading) (u v : Text) : (r.tell u).tell v = r.tell (u ++ v) := by
  unfold tell
  rw [List.append_assoc]

/-- The reading with the lines told in order, or the fault of the first that cannot be put down. -/
def tellLines (r : Reading) : List (Except Fault Text) → Except Fault Reading
  | [] => .ok r
  | .error f :: _ => .error f
  | .ok t :: rest => (r.tell (line t)).tellLines rest

/-- Lines that can all be put down are told, and the others after them. -/
theorem tellLines_append (r : Reading) (us : List Text) (lines : List (Except Fault Text)) :
    r.tellLines (us.map .ok ++ lines) = (r.tell (us.flatMap line)).tellLines lines := by
  induction us generalizing r with
  | nil => simp
  | cons u us ih =>
      rw [List.map_cons, List.cons_append, tellLines, ih, tell_tell, List.flatMap_cons]

/-- The reading with one more iteration. -/
def iterate (r : Reading) (c : NodeClass) : Reading :=
  { r with iterations := r.iterations ++ [Node.leaf (.fresh c)] }

/-- The reading after the node at the address receives a parameter. -/
def give (r : Reading) (p : Parameter) : Address → Reading
  | .frame i => { r with frames := r.frames.modify i fun f => f.receive p }
  | .write i j =>
    { r with frames := r.frames.modify i fun f =>
        { f with children := f.children.modify j fun w => w.receive p } }
  | .head =>
    { r with document := r.document.map fun d =>
        { d with head := d.head.map fun h => h.receive p } }

end Reading

/-- The parameters a token asks for. -/
inductive Wanted where
  | nothing
  | numbers (count : Nat) (target : Address)
  | texts (count : Nat) (target : Address)

namespace Forward

/-! ### Parameters -/

/-- The text up to the first semicolon, and the text after it. -/
def cutNumber : Text → Option (Text × Text)
  | [] => none
  | c :: t => if c = ';' then some ([], t) else (cutNumber t).map fun p => (c :: p.1, p.2)

/-- The text up to the first semicolon outside of double quotes, and the text after it; `quoted`
says that the text starts inside of them. -/
def cutText (quoted : Bool) : Text → Option (Text × Text)
  | [] => none
  | c :: t =>
    if c = ';' ∧ quoted = false then some ([], t)
    else (cutText (if c = '"' then !quoted else quoted) t).map fun p => (c :: p.1, p.2)

/-- So many numbers for the element, and the text behind them. -/
def numbers (honourRadix : Bool) (a : Address) :
    Nat → Reading → Text → Except Fault (Reading × Text)
  | 0, r, t => .ok (r, t)
  | _ + 1, r, [] => .ok (r, [])
  | n + 1, r, c :: t =>
    if c ≠ '0' then .ok (r.tell (line "There is no parameter."), c :: t)
    else match cutNumber (c :: t) with
      | none => .ok (r, [])
      | some (l, rest) =>
        match readNumber honourRadix l with
        | .error f => .error f
        | .ok v => numbers honourRadix a n (r.give (.number v) a) rest

/-- So many texts for the element, and the text behind them. -/
def texts (a : Address) : Nat → Reading → Text → Reading × Text
  | 0, r, t => (r, t)
  | n + 1, r, t =>
    match cutText false t with
    | none => (r, [])
    | some (l, rest) => texts a n (r.give (.text (stripQuotes l)) a) rest

/-- The parameters a token asks for, and the text behind them. -/
def parameters (honourRadix : Bool) : Wanted → Reading → Text → Except Fault (Reading × Text)
  | .nothing, r, t => .ok (r, t)
  | .numbers n a, r, t => numbers honourRadix a n r t
  | .texts n a, r, t => .ok (texts a n r t)

/-! ### Tokens -/

/-- A new frame, which wants its time. -/
def startFrame (r : Reading) (empty : Bool) (told : Text) : Reading × Wanted :=
  ({ r with frames := r.frames ++ [Node.leaf (.newKeyFrame 0 empty)] }.tell (line told),
    .numbers 1 (.frame r.frames.length))

/-- The frame at the position is closed, and its writes and the frame itself are told. -/
def endFrame (r : Reading) (i : Nat) : Except Fault Reading :=
  let frames := r.frames.modify i Node.close
  let captions : List (Except Fault Text) := frames[i]?.elim [] fun f =>
    (f.childrenOf .channelData).map Node.caption ++ [f.caption]
  ({ r with frames := frames }.tell (line "\nEnd of the KeyFrame.")).tellLines captions

/-- The token `KF`: only in small letters it ends a frame, otherwise it starts one, and that is an
empty one if the `K` alone is small. -/
def frame (r : Reading) (x y : Char) (pos : Int) : Except Fault (Reading × Wanted) :=
  match CueList.lastOpenIndex r.frames with
  | .error f => .error f
  | .ok none =>
    if x.isUpper then .ok (startFrame r false "\nNEW KeyFrame!")
    else if y.isUpper then .ok (startFrame r true "\nEmpty KeyFrame.")
    else .error (.misread .noOpenFrame pos)
  | .ok (some i) =>
    if x.isUpper || y.isUpper then .error (.misread .frameAlreadyOpen pos)
    else (·, .nothing) <$> endFrame r i

/-- The token `BP`: a channel write in the open frame, which wants its channel and its value. -/
def write (r : Reading) (pos : Int) : Except Fault (Reading × Wanted) :=
  match CueList.lastOpenIndex r.frames with
  | .error f => .error f
  | .ok none => .error (.misread .noOpenFrame pos)
  | .ok (some i) =>
    let j := match r.frames[i]? with
      | some f => f.children.length
      | none => 0
    let frames := r.frames.modify i fun f => f.push (.leaf (.newChannelData 0 0))
    .ok ({ r with frames := frames }.tell "\nLoading channel data...", .numbers 2 (.write i j))

/-- The tokens `X@` and `X+`: the head of the document, made from the kind if it is missing, wants
what is given for it. -/
def head (r : Reading) (k : Kind) (told : Text) (wanted : Node → Wanted) (pos : Int) :
    Except Fault (Reading × Wanted) :=
  match r.document with
  | none => .error (.misread .noDocument pos)
  | some d =>
    let n := d.head.getD (.leaf k)
    .ok ({ r with document := some { d with head := some n } }.tell (line told), wanted n)

/-- The table of tokens: what a token of two characters does, and what it asks for. -/
def token (r : Reading) (x y : Char) (pos : Int) : Except Fault (Reading × Wanted) :=
  match upper x with
  | ['C'] => .ok (if upper y = ['L'] then r.tell (line "CueList") else r, .nothing)
  | ['K'] => if upper y = ['F'] then frame r x y pos else .ok (r, .nothing)
  | ['B'] => if upper y = ['P'] then write r pos else .ok (r, .nothing)
  | ['W'] =>
    .ok (if upper y = ['B'] then r.tell "<waitBeatSignal />"
      else if upper y = ['M'] then r.tell "<waitMilliSeconds />"
      else r, .nothing)
  | ['F'] =>
    .ok (if upper y = ['I'] then (r.iterate .forIteration).tell "ForIteration"
      else if upper y = ['T'] then r.tell "FadeTime"
      else r, .nothing)
  | ['I'] =>
    .ok (if upper y = ['I'] then (r.iterate .infiniteIteration).tell "InfiniteIteration"
      else r, .nothing)
  | ['X'] =>
    if upper y = ['!'] then
      .ok ({ r with document := some .blank }.tell (line "Document"), .nothing)
    else if upper y = ['@'] then
      head r (.newPredefinedHead 0) "Head" (fun _ => .numbers 1 .head) pos
    else if upper y = ['+'] then
      head r .newLinkedHead "Title"
        (fun n => .texts (if n.cls.isA .linkedHead then 2 else 1) .head) pos
    else .ok (r, .nothing)
  | _ => .ok (r, .nothing)

/-- Whether a token of two characters starts with the character. -/
def begins (x : Char) : Bool :=
  [['C'], ['K'], ['B'], ['W'], ['F'], ['I'], ['X']].contains (upper x)

/-- How the radix marker of a number outside of any parameter is told. -/
def marker? : Text → Option Char
  | ['H'] | ['X'] => some 'H'
  | ['D'] => some 'D'
  | ['B'] => some 'B'
  | _ => none

/-! ### The whole text -/

theorem length_of_cutNumber {t l rest : Text} (h : cutNumber t = some (l, rest)) :
    rest.length < t.length := by
  induction t generalizing l with
  | nil => cases h
  | cons c t ih =>
      unfold cutNumber at h
      split at h
      · cases h
        exact Nat.lt_succ_self _
      · cases ht : cutNumber t with
        | none => rw [ht] at h; cases h
        | some p =>
            rw [ht] at h
            cases h
            exact Nat.lt_succ_of_lt (ih ht)

theorem length_of_cutText {quoted : Bool} {t l rest : Text}
    (h : cutText quoted t = some (l, rest)) : rest.length < t.length := by
  induction t generalizing quoted l with
  | nil => cases h
  | cons c t ih =>
      unfold cutText at h
      split at h
      · cases h
        exact Nat.lt_succ_self _
      · cases ht : cutText (if c = '"' then !quoted else quoted) t with
        | none => rw [ht] at h; cases h
        | some p =>
            rw [ht] at h
            cases h
            exact Nat.lt_succ_of_lt (ih ht)

theorem length_of_numbers {honourRadix : Bool} {a : Address} {n : Nat} {r r' : Reading}
    {t rest : Text} (h : numbers honourRadix a n r t = .ok (r', rest)) :
    rest.length ≤ t.length := by
  induction n generalizing r t with
  | zero =>
      cases h
      exact Nat.le_refl _
  | succ n ih =>
      cases t with
      | nil =>
          cases h
          exact Nat.le_refl _
      | cons c t =>
          unfold numbers at h
          split at h
          · cases h
            exact Nat.le_refl _
          · split at h
            · cases h
              exact Nat.zero_le _
            · next hcut =>
              split at h
              · cases h
              · exact Nat.le_trans (ih h) (Nat.le_of_lt (length_of_cutNumber hcut))

theorem length_texts_le (a : Address) (n : Nat) (r : Reading) (t : Text) :
    (texts a n r t).2.length ≤ t.length := by
  induction n generalizing r t with
  | zero => exact Nat.le_refl _
  | succ n ih =>
      unfold texts
      split
      · exact Nat.zero_le _
      · next h => exact Nat.le_trans (ih _ _) (Nat.le_of_lt (length_of_cutText h))

/-- Parameters are taken from the front of a text. -/
theorem length_of_parameters {honourRadix : Bool} {w : Wanted} {r r' : Reading} {t rest : Text}
    (h : parameters honourRadix w r t = .ok (r', rest)) : rest.length ≤ t.length := by
  cases w with
  | nothing =>
      cases h
      exact Nat.le_refl _
  | numbers n a => exact length_of_numbers h
  | texts n a =>
      obtain ⟨-, rfl⟩ := Prod.mk.inj (Except.ok.inj h)
      exact length_texts_le a n r t

/-- What is left behind the first character that fails the test. -/
theorem length_drop_dropWhile_le (p : Char → Bool) (t : Text) :
    ((t.dropWhile p).drop 1).length ≤ t.length :=
  Nat.le_trans ((List.drop_sublist _ _).length_le) (List.dropWhile_suffix p).length_le

/-- Reads the text that is left of a text of the given size.  A double quote is told with all that
follows up to the next one; a zero with what follows it up to the next semicolon; any other
character that begins no token is told in upper case.  A token without its second character says
nothing. -/
def read (honourRadix : Bool) (size : Nat) (r : Reading) : Text → Except Fault Reading
  | [] => .ok r
  | x :: t =>
    if x = '"' then
      read honourRadix size
        (r.tell (x :: (t.takeWhile (· ≠ '"') ++ (t.dropWhile (· ≠ '"')).take 1)))
        ((t.dropWhile (· ≠ '"')).drop 1)
    else match t with
      | [] => .ok (if x = '0' || begins x then r else r.tell (upper x))
      | y :: t =>
        if x = '0' then
          match marker? (upper y) with
          | none => read honourRadix size (r.tell " ") t
          | some m =>
            read honourRadix size (r.tell (' ' :: m :: uppercase (t.takeWhile (· ≠ ';'))))
              ((t.dropWhile (· ≠ ';')).drop 1)
        else if begins x then
          match token r x y (size - t.length - 1) with
          | .error f => .error f
          | .ok (r, w) =>
            match _ : parameters honourRadix w r t with
            | .error f => .error f
            | .ok (r, rest) => read honourRadix size r rest
        else read honourRadix size (r.tell (upper x)) (y :: t)
termination_by t => t.length
decreasing_by
  all_goals simp only [List.length_cons]
  · exact Nat.lt_succ_of_le (length_drop_dropWhile_le _ _)
  · omega
  · have := length_drop_dropWhile_le (· ≠ ';') t
    omega
  · have := length_of_parameters ‹_›
    omega
  · omega

section

variable (honourRadix : Bool) (size : Nat) (r : Reading) (t : Text)

@[simp] theorem read_nil : read honourRadix size r [] = .ok r := by
  rw [read]

theorem read_quote :
    read honourRadix size r ('"' :: t) =
      read honourRadix size
        (r.tell ('"' :: (t.takeWhile (· ≠ '"') ++ (t.dropWhile (· ≠ '"')).take 1)))
        ((t.dropWhile (· ≠ '"')).drop 1) := by
  rw [read.eq_def]
  exact if_pos rfl

/-- The first character of a token or of a number says nothing alone. -/
theorem read_single {x : Char} (hq : x ≠ '"') (h : x = '0' ∨ begins x = true) :
    read honourRadix size r [x] = .ok r := by
  rw [read.eq_def]
  exact (if_neg hq).trans (congrArg Except.ok (if_pos (by simpa using h)))

theorem read_number (y : Char) :
    read honourRadix size r ('0' :: y :: t) =
      match marker? (upper y) with
      | none => read honourRadix size (r.tell " ") t
      | some m =>
        read honourRadix size (r.tell (' ' :: m :: uppercase (t.takeWhile (· ≠ ';'))))
          ((t.dropWhile (· ≠ ';')).drop 1) := by
  rw [read.eq_def]
  exact (if_neg (by decide)).trans (if_pos rfl)

theorem read_token {x : Char} (y : Char) (hq : x ≠ '"') (h0 : x ≠ '0') (h : begins x = true) :
    read honourRadix size r (x :: y :: t) =
      match token r x y (size - t.length - 1) with
      | .error f => .error f
      | .ok (r, w) =>
        match parameters honourRadix w r t with
        | .error f => .error f
        | .ok (r, rest) => read honourRadix size r rest := by
  rw [read.eq_def]
  refine (if_neg hq).trans ((if_neg h0).trans ((if_pos h).trans ?_))
  split
  · rfl
  · split <;> next e => rw [e]

/-- A character that begins nothing is told in upper case. -/
theorem read_stray {x : Char} (hq : x ≠ '"') (h0 : x ≠ '0') (h : begins x = false) :
    read honourRadix size r (x :: t) = read honourRadix size (r.tell (upper x)) t := by
  cases t with
  | nil =>
      rw [read.eq_def, read_nil]
      exact (if_neg hq).trans (congrArg Except.ok (if_neg (by simp [h0, h])))
  | cons y t =>
      rw [read.eq_def]
      exact (if_neg hq).trans ((if_neg h0).trans (if_neg (by simp [h])))

end

end Forward

end StageCues
