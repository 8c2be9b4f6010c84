import StageCues.Fault
import StageCues.Node.SchemaVersion

/-!
# Node — kinds

What a node is, apart from its children: its class and the attributes of that class.  An attribute
that is meant to be a number is one: a whole number, without a bound.  A title and a path are meant
to be texts, and are whenever they are read; but one that is set by hand is kept, written and shown
whatever plain value it is.  Three kinds also remember that they have received their first
parameter, because the first one means something else than the later ones; this memory can be set
like an attribute, but no comparison looks at it.
-/

namespace StageCues

/-- The class of a node with its attributes. -/
inductive Kind where
  | plain
  | cueList
  | element
  | complex (closed : Bool)
  | body (closed : Bool)
  | iteration (closed : Bool)
  | infiniteIteration (closed : Bool)
  /-- A counted loop; direction zero counts up. -/
  | forIteration (start target direction : Int) (closed : Bool)
  | keyFrame (time : Int) (empty closed : Bool)
  /-- A wait, always closed; mode zero waits for a beat. -/
  | delay (mode ms : Int)
  /-- A channel write, and how many numbers it has received. -/
  | channelData (channel value received : Int)
  | head (version : SchemaVersion) (title : PlainValue)
  | predefinedHead (version : SchemaVersion) (id : Int) (title : PlainValue) (versioned : Bool)
  | linkedHead (version : SchemaVersion) (title path : PlainValue) (titled : Bool)
  deriving DecidableEq, Repr

/-- A value for an element. -/
inductive Parameter where
  | number (n : Int)
  | text (t : Text)
  deriving DecidableEq, Repr

/-- The operation that takes a parameter in. -/
def Parameter.operation : Parameter → Operation
  | .number _ => .receiveNumber
  | .text _ => .receiveText

/-- A new value for one attribute. -/
inductive Assignment where
  | closed (b : Bool)
  | channel (n : Int)
  | value (n : Int)
  | delay (n : Int)
  | empty (b : Bool)
  | mode (n : Int)
  | ms (n : Int)
  | start (n : Int)
  | target (n : Int)
  | direction (n : Int)
  | version (n : Int)
  | title (t : PlainValue)
  | id (n : Int)
  | path (t : PlainValue)
  | received (n : Int)
  | versioned (b : Bool)
  | titled (b : Bool)
  deriving DecidableEq, Repr

/-- The name of the attribute an assignment is for. -/
def Assignment.slot : Assignment → Text
  | .closed _ => "_closed"
  | .channel _ => "channel"
  | .value _ => "value"
  | .delay _ => "delay"
  | .empty _ => "empty"
  | .mode _ => "mode"
  | .ms _ => "ms"
  | .start _ => "iter"
  | .target _ => "target"
  | .direction _ => "direction"
  | .version _ => "schema_version"
  | .title _ => "title"
  | .id _ => "schema_id"
  | .path _ => "schema_path"
  | .received _ => "_received"
  | .versioned _ => "_versioned"
  | .titled _ => "_titled"

namespace Kind

/-- The class of a kind. -/
def cls : Kind → NodeClass
  | .plain => .plain
  | .cueList => .cueList
  | .element => .element
  | .complex _ => .complex
  | .body _ => .body
  | .iteration _ => .iteration
  | .infiniteIteration _ => .infiniteIteration
  | .forIteration .. => .forIteration
  | .keyFrame .. => .keyFrame
  | .delay .. => .delay
  | .channelData .. => .channelData
  | .head .. => .head
  | .predefinedHead .. => .predefinedHead
  | .linkedHead .. => .linkedHead

/-- A channel write as the reader makes it. -/
def newChannelData (channel value : Int) : Kind := .channelData channel value 0

/-- A keyframe as the reader makes it: an empty one is closed from the start. -/
def newKeyFrame (time : Int) (empty : Bool) : Kind := .keyFrame time empty empty

/-- A wait for so many milliseconds, or for a beat. -/
def newDelay : Option Int → Kind
  | none => .delay 0 0
  | some ms => .delay 1 ms

/-- A head for a built-in schema that has received nothing. -/
def newPredefinedHead (id : Int) : Kind := .predefinedHead .empty id .blank false

/-- A head for a schema file that has received nothing. -/
def newLinkedHead : Kind := .linkedHead .empty .blank .blank false

/-- A new node of the class with every attribute at its default. -/
def fresh : NodeClass → Kind
  | .plain => .plain
  | .cueList => .cueList
  | .element => .element
  | .complex => .complex false
  | .body => .body false
  | .iteration => .iteration false
  | .infiniteIteration => .infiniteIteration false
  | .forIteration => .forIteration 0 0 0 false
  | .keyFrame => newKeyFrame 0 false
  | .delay => newDelay none
  | .channelData => newChannelData 0 0
  | .head => .head .empty .blank
  | .predefinedHead => newPredefinedHead 0
  | .linkedHead => newLinkedHead

/-- Whether a complex element is closed; other kinds are neither open nor closed. -/
def isClosed? : Kind → Option Bool
  | .complex closed | .body closed | .iteration closed | .infiniteIteration closed
  | .forIteration _ _ _ closed | .keyFrame _ _ closed => some closed
  | .delay .. => some true
  | _ => none

/-- The kind after it is closed. -/
def close : Kind → Kind
  | .complex _ => .complex true
  | .body _ => .body true
  | .iteration _ => .iteration true
  | .infiniteIteration _ => .infiniteIteration true
  | .forIteration start target direction _ => .forIteration start target direction true
  | .keyFrame time empty _ => .keyFrame time empty true
  | k => k

/-- The kind after it receives a parameter.  A channel write takes a channel of sixteen bits first
and values of eight bits after it; a keyframe and a wait take every number as their time; a counted
loop adds every number to its target; a built-in schema takes its version first and its id after
it, and every text as its title; a schema file takes every number as its version, its title first
and its path after it.  A kind without a use for a parameter ignores it. -/
def receive : Kind → Parameter → Kind
  | .channelData channel value received, .number n =>
    .channelData (if received = 0 then n % 65536 else channel)
      (if received = 0 then value else n % 256) (received + 1)
  | .keyFrame _ empty closed, .number n => .keyFrame n empty closed
  | .delay _ _, .number n => .delay 1 n
  | .forIteration start target direction closed, .number n =>
    .forIteration start (target + n) direction closed
  | .predefinedHead _ id title false, .number n => .predefinedHead (.ofNumber n) id title true
  | .predefinedHead version _ title true, .number n => .predefinedHead version n title true
  | .predefinedHead version id _ versioned, .text t => .predefinedHead version id t versioned
  | .linkedHead _ title path titled, .number n => .linkedHead (.ofNumber n) title path titled
  | .linkedHead version _ path false, .text t => .linkedHead version t path true
  | .linkedHead version title _ true, .text t => .linkedHead version title t true
  | k, _ => k

/-- The kind without its memory of received parameters, with its version known by its number alone,
and with its title and its path as they count. -/
def forget : Kind → Kind
  | .channelData channel value _ => .channelData channel value 0
  | .head version title => .head (.ofNumber version.number) title.counted
  | .predefinedHead version id title _ =>
    .predefinedHead (.ofNumber version.number) id title.counted false
  | .linkedHead version title path _ =>
    .linkedHead (.ofNumber version.number) title.counted path.counted false
  | k => k

/-- Whether two kinds have the same class and the same attributes. -/
def alike (k l : Kind) : Bool := k.forget = l.forget

/-- The kind with a new value for one of its attributes, taken as it is; none if its class has no
such attribute. -/
def assign? : Kind → Assignment → Option Kind
  | .complex _, .closed b => some (.complex b)
  | .body _, .closed b => some (.body b)
  | .iteration _, .closed b => some (.iteration b)
  | .infiniteIteration _, .closed b => some (.infiniteIteration b)
  | .forIteration start target direction _, .closed b =>
    some (.forIteration start target direction b)
  | .forIteration _ target direction closed, .start n =>
    some (.forIteration n target direction closed)
  | .forIteration start _ direction closed, .target n =>
    some (.forIteration start n direction closed)
  | .forIteration start target _ closed, .direction n =>
    some (.forIteration start target n closed)
  | .keyFrame time empty _, .closed b => some (.keyFrame time empty b)
  | .keyFrame _ empty closed, .delay n => some (.keyFrame n empty closed)
  | .keyFrame time _ closed, .empty b => some (.keyFrame time b closed)
  | .delay mode ms, .closed _ => some (.delay mode ms)
  | .delay _ ms, .mode n => some (.delay n ms)
  | .delay mode _, .ms n => some (.delay mode n)
  | .channelData _ value received, .channel n => some (.channelData n value received)
  | .channelData channel _ received, .value n => some (.channelData channel n received)
  | .channelData channel value _, .received n => some (.channelData channel value n)
  | .head _ title, .version n => some (.head (.other n) title)
  | .head version _, .title t => some (.head version t)
  | .predefinedHead _ id title versioned, .version n =>
    some (.predefinedHead (.other n) id title versioned)
  | .predefinedHead version _ title versioned, .id n =>
    some (.predefinedHead version n title versioned)
  | .predefinedHead version id _ versioned, .title t =>
    some (.predefinedHead version id t versioned)
  | .predefinedHead version id title _, .versioned b => some (.predefinedHead version id title b)
  | .linkedHead _ title path titled, .version n =>
    some (.linkedHead (.other n) title path titled)
  | .linkedHead version _ path titled, .title t => some (.linkedHead version t path titled)
  | .linkedHead version title _ titled, .path t => some (.linkedHead version title t titled)
  | .linkedHead version title path _, .titled b => some (.linkedHead version title path b)
  | _, _ => none

theorem alike_refl (k : Kind) : k.alike k = true := by simp [alike]

theorem alike_symm {k l : Kind} (h : k.alike l = true) : l.alike k = true := by
  simp only [alike, decide_eq_true_eq] at h ⊢
  exact h.symm

theorem alike_trans {k l m : Kind} (h₁ : k.alike l = true) (h₂ : l.alike m = true) :
    k.alike m = true := by
  simp only [alike, decide_eq_true_eq] at h₁ h₂ ⊢
  exact h₁.trans h₂

/-- Receiving a parameter never changes the class. -/
@[simp] theorem cls_receive (k : Kind) (p : Parameter) : (k.receive p).cls = k.cls := by
  unfold receive
  split <;> rfl

/-- Receiving a parameter neither opens nor closes. -/
@[simp] theorem isClosed?_receive (k : Kind) (p : Parameter) :
    (k.receive p).isClosed? = k.isClosed? := by
  unfold receive
  split <;> rfl

/-- Closing never changes the class. -/
@[simp] theorem cls_close (k : Kind) : k.close.cls = k.cls := by cases k <;> rfl

/-- A complex element is closed once it has been closed. -/
theorem isClosed?_close (k : Kind) : k.close.isClosed? = k.isClosed?.map fun _ => true := by
  cases k <;> rfl

/-- Closing more than once is closing. -/
@[simp] theorem close_close (k : Kind) : k.close.close = k.close := by cases k <;> rfl

/-- Closing changes nothing else: an element that was open is the same when it is opened again. -/
theorem assign?_close {k : Kind} (h : k.isClosed? = some false) :
    k.close.assign? (.closed false) = some k := by
  cases k with
  | complex _ | body _ | iteration _ | infiniteIteration _ | forIteration _ _ _ _
  | keyFrame _ _ _ =>
    cases h
    rfl
  | _ => cases h

/-- Exactly the complex elements are open or closed. -/
theorem isClosed?_isSome (k : Kind) : k.isClosed?.isSome = k.cls.isComplex := by
  cases k <;> rfl

end Kind

end StageCues
