import Mathlib.Algebra.Ring.Int.Defs
import StageCues.Node.Kind

/-!
# Built — what elements have received

An element takes parameters in any order, numbers and texts between one another, and numbers never
get in the way of texts.  What becomes of them is known from the lists of both, class by class: from
the first number and the last later one (`receiveAll_channelData`, `receiveAll_predefined`), the
last number (`receiveAll_keyFrame`, `receiveAll_delay`, `receiveAll_linked`), the sum of the numbers
(`receiveAll_forIteration`), the first text and the last later one (`receiveAll_linked`), or the
last text (`receiveAll_predefined`).  An element of another class stays as it is.

`NewElement` are the elements as they are made, with the attributes that can be given for them; what
one is after it has received parameters is `NewElement.after` (`receiveAll_kind`).
-/

namespace StageCues

/-- The number that a parameter is. -/
def Parameter.number? : Parameter → Option Int
  | .number n => some n
  | .text _ => none

/-- The text that a parameter is. -/
def Parameter.text? : Parameter → Option Text
  | .number _ => none
  | .text t => some t

/-- The numbers among the parameters. -/
def numbersIn (ps : List Parameter) : List Int := ps.filterMap Parameter.number?

/-- The texts among the parameters. -/
def textsIn (ps : List Parameter) : List Text := ps.filterMap Parameter.text?

section

variable (ps : List Parameter) (n : Int) (u : Text)

@[simp] theorem numbersIn_number : numbersIn (.number n :: ps) = n :: numbersIn ps := rfl

@[simp] theorem numbersIn_text : numbersIn (.text u :: ps) = numbersIn ps := rfl

@[simp] theorem textsIn_number : textsIn (.number n :: ps) = textsIn ps := rfl

@[simp] theorem textsIn_text : textsIn (.text u :: ps) = u :: textsIn ps := rfl

end

namespace Kind

/-- The kind after it receives parameters, one after the other. -/
def receiveAll (k : Kind) (ps : List Parameter) : Kind := ps.foldl receive k

variable {v : SchemaVersion} {i : Int} {t p : Text} {ps : List Parameter}

@[simp] theorem receiveAll_nil (k : Kind) : k.receiveAll [] = k := rfl

@[simp] theorem receiveAll_cons (k : Kind) (q : Parameter) (ps : List Parameter) :
    k.receiveAll (q :: ps) = (k.receive q).receiveAll ps := rfl

theorem receiveAll_append (k : Kind) (ps qs : List Parameter) :
    k.receiveAll (ps ++ qs) = (k.receiveAll ps).receiveAll qs := List.foldl_append

/-- Receiving parameters never changes the class. -/
@[simp] theorem cls_receiveAll (k : Kind) (ps : List Parameter) :
    (k.receiveAll ps).cls = k.cls := by
  induction ps generalizing k with
  | nil => rfl
  | cons q ps ih => rw [receiveAll_cons, ih, cls_receive]

/-- Receiving parameters neither opens nor closes. -/
@[simp] theorem isClosed?_receiveAll (k : Kind) (ps : List Parameter) :
    (k.receiveAll ps).isClosed? = k.isClosed? := by
  induction ps generalizing k with
  | nil => rfl
  | cons q ps ih => rw [receiveAll_cons, ih, isClosed?_receive]

/-- A kind without a use for any parameter stays as it is. -/
theorem receiveAll_of_ignores {k : Kind} (h : ∀ q, k.receive q = k) (ps : List Parameter) :
    k.receiveAll ps = k := by
  induction ps with
  | nil => rfl
  | cons q ps ih => rw [receiveAll_cons, h, ih]

/-! ### Channel writes, times and loops -/

section

variable {c w time m start target direction : Int} {empty closed : Bool}

/-- A channel write that has its channel keeps it, and its value is the last number. -/
theorem receiveAll_channelled {count : Int} (h : 0 < count) :
    (channelData c w count).receiveAll ps =
      .channelData c (((numbersIn ps).getLast?.map (· % 256)).getD w)
        (count + (numbersIn ps).length) := by
  induction ps generalizing w count with
  | nil => exact congrArg (channelData c w) (Int.add_zero count).symm
  | cons q ps ih =>
      cases q with
      | number n =>
          have hcount : count ≠ 0 := by omega
          have hstep : (channelData c w count).receive (.number n) =
              .channelData c (n % 256) (count + 1) := by
            simp only [receive, if_neg hcount]
          rw [receiveAll_cons, hstep, ih (by omega), numbersIn_number, List.getLast?_cons,
            List.length_cons]
          congr 1
          · cases (numbersIn ps).getLast? <;> rfl
          · omega
      | text u =>
          rw [numbersIn_text]
          exact ih h

/-- **What a new channel write has received.**  Its channel is sixteen bits of the first number, its
value eight bits of the last later one. -/
theorem receiveAll_channelData : (newChannelData c w).receiveAll ps =
    .channelData (((numbersIn ps).head?.map (· % 65536)).getD c)
      (((numbersIn ps).tail.getLast?.map (· % 256)).getD w) (numbersIn ps).length := by
  induction ps with
  | nil => rfl
  | cons q ps ih =>
      cases q with
      | number n =>
          refine (receiveAll_channelled Int.one_pos).trans ?_
          rw [numbersIn_number, List.length_cons]
          congr 1
          omega
      | text u =>
          rw [numbersIn_text]
          exact ih

/-- The time of a frame is the last number. -/
theorem receiveAll_keyFrame : (keyFrame time empty closed).receiveAll ps =
    .keyFrame ((numbersIn ps).getLast?.getD time) empty closed := by
  induction ps generalizing time with
  | nil => rfl
  | cons q ps ih =>
      cases q with
      | number n =>
          rw [numbersIn_number, List.getLast?_cons]
          exact ih
      | text u =>
          rw [numbersIn_text]
          exact ih

/-- A wait that has received a number waits for so many milliseconds. -/
theorem receiveAll_delay : (delay m w).receiveAll ps =
    ((numbersIn ps).getLast?.map fun n => newDelay (some n)).getD (.delay m w) := by
  induction ps generalizing m w with
  | nil => rfl
  | cons q ps ih =>
      cases q with
      | number n =>
          rw [numbersIn_number, List.getLast?_cons]
          refine ih.trans ?_
          cases (numbersIn ps).getLast? <;> rfl
      | text u =>
          rw [numbersIn_text]
          exact ih

/-- All numbers are added to the target of a counted loop. -/
theorem receiveAll_forIteration : (forIteration start target direction closed).receiveAll ps =
    .forIteration start (target + (numbersIn ps).sum) direction closed := by
  induction ps generalizing target with
  | nil => rw [numbersIn, List.filterMap_nil, List.sum_nil, Int.add_zero, receiveAll_nil]
  | cons q ps ih =>
      cases q with
      | number n =>
          rw [numbersIn_number, List.sum_cons, ← Int.add_assoc]
          exact ih
      | text u =>
          rw [numbersIn_text]
          exact ih

end

/-! ### Heads -/

/-- A head for a built-in schema that has its version keeps it. -/
theorem receiveAll_versioned : (predefinedHead v i t true).receiveAll ps =
    .predefinedHead v ((numbersIn ps).getLast?.getD i) ((textsIn ps).getLast?.getD t) true := by
  induction ps generalizing i t with
  | nil => rfl
  | cons q ps ih =>
      cases q with
      | number n =>
          rw [numbersIn_number, List.getLast?_cons]
          exact ih
      | text u =>
          rw [textsIn_text, List.getLast?_cons]
          exact ih

/-- **What a new head for a built-in schema has received.**  Its version is the first number, its id
the last of the later ones, and its title the last text. -/
theorem receiveAll_predefined : (newPredefinedHead i).receiveAll ps =
    .predefinedHead (.ofNumber ((numbersIn ps).head?.getD 0)) ((numbersIn ps).tail.getLast?.getD i)
      ((textsIn ps).getLast?.getD []) (!(numbersIn ps).isEmpty) := by
  have huntitled : ∀ t : Text, (predefinedHead .empty i t false).receiveAll ps =
      .predefinedHead (.ofNumber ((numbersIn ps).head?.getD 0))
        ((numbersIn ps).tail.getLast?.getD i) ((textsIn ps).getLast?.getD t)
        (!(numbersIn ps).isEmpty) := by
    induction ps with
    | nil => exact fun _ => rfl
    | cons q ps ih =>
        intro t
        cases q with
        | number n => exact receiveAll_versioned
        | text u =>
            rw [textsIn_text, List.getLast?_cons]
            exact ih u
  exact huntitled []

/-- A head for a schema file that has its title keeps it. -/
theorem receiveAll_titled : (linkedHead v t p true).receiveAll ps =
    .linkedHead (((numbersIn ps).getLast?.map .ofNumber).getD v) t
      ((textsIn ps).getLast?.getD p) true := by
  induction ps generalizing v p with
  | nil => rfl
  | cons q ps ih =>
      cases q with
      | number n =>
          rw [numbersIn_number, List.getLast?_cons]
          refine ih.trans ?_
          cases (numbersIn ps).getLast? <;> rfl
      | text u =>
          rw [textsIn_text, List.getLast?_cons]
          exact ih

/-- **What a new head for a schema file has received.**  Its version is the last number, its title
the first text, and its path the last of the later ones. -/
theorem receiveAll_linked : newLinkedHead.receiveAll ps =
    .linkedHead (.ofNumber ((numbersIn ps).getLast?.getD 0)) ((textsIn ps).head?.getD [])
      ((textsIn ps).tail.getLast?.getD []) (!(textsIn ps).isEmpty) := by
  have hany : ∀ n : Int, (linkedHead (.ofNumber n) .blank .blank false).receiveAll ps =
      .linkedHead (.ofNumber ((numbersIn ps).getLast?.getD n)) ((textsIn ps).head?.getD [])
        ((textsIn ps).tail.getLast?.getD []) (!(textsIn ps).isEmpty) := by
    induction ps with
    | nil => exact fun _ => rfl
    | cons q ps ih =>
        intro n
        cases q with
        | number m =>
            rw [numbersIn_number, List.getLast?_cons]
            exact ih m
        | text u =>
            refine receiveAll_titled.trans ?_
            rw [numbersIn_text]
            cases (numbersIn ps).getLast? <;> rfl
  exact hany 0

end Kind

/-! ### New elements -/

/-- The version of a head. -/
def Kind.version? : Kind → Option SchemaVersion
  | .head version _ | .predefinedHead version .. | .linkedHead version .. => some version
  | _ => none

/-- An element as it is made, with the attributes that can be given for it. -/
inductive NewElement where
  | element
  | complex (closed : Bool)
  | body (closed : Bool)
  | iteration (closed : Bool)
  | infiniteIteration (closed : Bool)
  | forIteration (start target direction : Int)
  | keyFrame (time : Int) (empty : Bool)
  /-- A wait for so many milliseconds, or for a beat. -/
  | delay (ms : Option Int)
  | channelData (channel value : Int)
  | head
  | predefinedHead (id : Int)
  | linkedHead

namespace NewElement

/-- The kind of a new element. -/
def kind : NewElement → Kind
  | element => .element
  | complex closed => .complex closed
  | body closed => .body closed
  | iteration closed => .iteration closed
  | infiniteIteration closed => .infiniteIteration closed
  | forIteration start target direction => .forIteration start target direction false
  | keyFrame time empty => .newKeyFrame time empty
  | delay ms => .newDelay ms
  | channelData channel value => .newChannelData channel value
  | head => .head .empty .blank
  | predefinedHead id => .newPredefinedHead id
  | linkedHead => .newLinkedHead

/-- What an element is that was new before it received the parameters.  Also known are how many
numbers a channel write has received, and whether a head has received its version or its title. -/
def after (ps : List Parameter) : NewElement → Kind
  | forIteration start target direction =>
    .forIteration start (target + (numbersIn ps).sum) direction false
  | keyFrame time empty => .keyFrame ((numbersIn ps).getLast?.getD time) empty empty
  | delay ms => .newDelay ((numbersIn ps).getLast?.or ms)
  | channelData channel value =>
    .channelData (((numbersIn ps).head?.map (· % 65536)).getD channel)
      (((numbersIn ps).tail.getLast?.map (· % 256)).getD value) (numbersIn ps).length
  | predefinedHead id =>
    .predefinedHead (.ofNumber ((numbersIn ps).head?.getD 0)) ((numbersIn ps).tail.getLast?.getD id)
      ((textsIn ps).getLast?.getD []) (!(numbersIn ps).isEmpty)
  | linkedHead =>
    .linkedHead (.ofNumber ((numbersIn ps).getLast?.getD 0)) ((textsIn ps).head?.getD [])
      ((textsIn ps).tail.getLast?.getD []) (!(textsIn ps).isEmpty)
  | e => e.kind

/-- The number of the version that a new head has after it received the parameters; no other element
has a version. -/
def versionAfter (ps : List Parameter) : NewElement → Option Int
  | head => some 0
  | predefinedHead _ => some ((numbersIn ps).head?.getD 0)
  | linkedHead => some ((numbersIn ps).getLast?.getD 0)
  | _ => none

/-- An element of every class can be made, and nothing but elements. -/
theorem exists_kind_iff {c : NodeClass} :
    (∃ e : NewElement, e.kind.cls = c) ↔ c.isElement = true := by
  constructor
  · rintro ⟨e, rfl⟩
    cases e with
    | delay ms => cases ms <;> rfl
    | _ => rfl
  · intro h
    cases c with
    | plain | cueList => cases h
    | element => exact ⟨element, rfl⟩
    | complex => exact ⟨complex false, rfl⟩
    | body => exact ⟨body false, rfl⟩
    | iteration => exact ⟨iteration false, rfl⟩
    | forIteration => exact ⟨forIteration 0 0 0, rfl⟩
    | infiniteIteration => exact ⟨infiniteIteration false, rfl⟩
    | keyFrame => exact ⟨keyFrame 0 false, rfl⟩
    | delay => exact ⟨delay none, rfl⟩
    | channelData => exact ⟨channelData 0 0, rfl⟩
    | head => exact ⟨head, rfl⟩
    | predefinedHead => exact ⟨predefinedHead 0, rfl⟩
    | linkedHead => exact ⟨linkedHead, rfl⟩

/-- New elements are elements. -/
theorem isElement_kind (e : NewElement) : e.kind.cls.isElement = true :=
  exists_kind_iff.mp ⟨e, rfl⟩

/-- **What a new element has received.** -/
theorem receiveAll_kind (e : NewElement) (ps : List Parameter) :
    e.kind.receiveAll ps = e.after ps := by
  cases e with
  | element | complex | body | iteration | infiniteIteration | head =>
      exact Kind.receiveAll_of_ignores (fun _ => rfl) ps
  | forIteration => exact Kind.receiveAll_forIteration
  | keyFrame => exact Kind.receiveAll_keyFrame
  | delay ms =>
      have hdelay : (NewElement.delay ms).kind.receiveAll ps =
          ((numbersIn ps).getLast?.map fun n => .newDelay (some n)).getD (.newDelay ms) := by
        cases ms <;> exact Kind.receiveAll_delay
      refine hdelay.trans ?_
      rw [after]
      cases (numbersIn ps).getLast? <;> rfl
  | channelData => exact Kind.receiveAll_channelData
  | predefinedHead => exact Kind.receiveAll_predefined
  | linkedHead => exact Kind.receiveAll_linked

/-- A version that was received has the number that it was received as, whether it has a name or
not. -/
theorem version?_after (e : NewElement) (ps : List Parameter) :
    (e.after ps).version?.map SchemaVersion.number = e.versionAfter ps := by
  cases e with
  | delay ms =>
      rw [after]
      cases (numbersIn ps).getLast?.or ms <;> rfl
  | predefinedHead id => exact congrArg some (SchemaVersion.number_ofNumber _)
  | linkedHead => exact congrArg some (SchemaVersion.number_ofNumber _)
  | _ => rfl

/-- Receiving parameters neither opens a new element nor closes it. -/
theorem isClosed?_after (e : NewElement) (ps : List Parameter) :
    (e.after ps).isClosed? = e.kind.isClosed? := by
  rw [← receiveAll_kind, Kind.isClosed?_receiveAll]

end NewElement

end StageCues
