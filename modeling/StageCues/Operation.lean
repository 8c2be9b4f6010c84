import StageCues.Node.Settled
import StageCues.Value

/-!
# Operations — and who lacks them

Nodes of different classes and documents can be asked different things, and some attributes take no
new value.  This module names what can be asked, says which operations are called by a name and
which have a sign of their own, and words every refusal.
-/

namespace StageCues

/-- What an operation is asked of. -/
inductive Owner where
  | node (cls : NodeClass)
  | document
  | nothing
  deriving DecidableEq, Repr

namespace Owner

/-- The name of an owner in messages. -/
def name : Owner → Text
  | .node cls => cls.name
  | .document => "Document"
  | .nothing => "NoneType"

/-- Whether the owner is a complex element. -/
def isComplex : Owner → Bool
  | .node cls => cls.isComplex
  | _ => false

end Owner

/-- The operations that not every owner has. -/
inductive Operation where
  | isClosed
  | close
  | write
  | equals
  | append
  | adopt
  | extend
  | receiveNumber
  | receiveText
  | lastOpen
  | closeLastOpen
  | writeCount
  | summary
  | draw
  | parent
  | isLastChild
  | index
  | descendants
  /-- Reading the child at a position. -/
  | child
  /-- Looking for a node among the children. -/
  | contains
  /-- Counting the children. -/
  | length
  /-- Selecting children by one class or by several. -/
  | select (several : Bool)
  /-- Selecting descendants by one class or by several. -/
  | selectDeep (several : Bool)
  deriving DecidableEq, Repr

namespace Operation

/-- The name of an operation in messages; none for one that is written with a sign. -/
def name? : Operation → Option Text
  | .isClosed => some "is_closed"
  | .close => some "finish"
  | .write => some "write"
  | .equals => some "equals"
  | .append => some "append"
  | .adopt => some "append_child"
  | .extend => some "extend"
  | .receiveNumber => some "add_num_param"
  | .receiveText => some "add_str_param"
  | .lastOpen => some "last_open"
  | .closeLastOpen => some "close_last"
  | .writeCount => some "channel_count"
  | .summary => some "dump_text"
  | .draw => some "dump"
  | .parent => some "parent"
  | .isLastChild => some "is_last"
  | .index => some "index"
  | .descendants => some "descendants"
  | .child | .contains | .length | .select _ | .selectDeep _ => none

/-- What classes are given as. -/
def selector (several : Bool) : Text := if several then "'tuple'" else "'type'"

/-- The wording of an operation that the owner with the name lacks. -/
def absence (owner : Text) : Operation → Text
  | .child => "'" ++ owner ++ "' object is not subscriptable"
  | .contains => "argument of type '" ++ owner ++ "' is not iterable"
  | .length => "object of type '" ++ owner ++ "' has no len()"
  | .select several =>
    "unsupported operand type(s) for /: '" ++ owner ++ "' and " ++ selector several
  | .selectDeep several =>
    "unsupported operand type(s) for //: '" ++ owner ++ "' and " ++ selector several
  | o => "'" ++ owner ++ "' object has no attribute '" ++ o.name?.getD [] ++ "'"

end Operation

/-- Why an attribute does not take a new value. -/
inductive Refusal where
  /-- There is no such attribute. -/
  | absent
  /-- The class settles what the name stands for. -/
  | settled
  /-- What the name stands for follows from something else. -/
  | derived
  /-- The name is kept for links from outside. -/
  | reserved
  /-- The class can only be exchanged for another class. -/
  | noClass (given : ValueSort)
  /-- All attributes at once can only be exchanged for a table. -/
  | noTable (given : ValueSort)
  deriving DecidableEq, Repr

namespace Refusal

/-- The name of the owner that reserves names for links from outside. -/
def reserver : Owner → Text
  | .node _ => NodeClass.plain.name
  | o => o.name

/-- The wording of a refusal. -/
def message (owner : Owner) (slot : Text) : Refusal → Text
  | .absent => "'" ++ owner.name ++ "' object has no attribute '" ++ slot ++ "'"
  | .settled => "'" ++ owner.name ++ "' object attribute '" ++ slot ++ "' is read-only"
  | .derived => "property '" ++ slot ++ "' of '" ++ owner.name ++ "' object has no setter"
  | .reserved => "attribute '" ++ slot ++ "' of '" ++ reserver owner ++ "' objects is not writable"
  | .noClass given => slot ++ " must be set to a class, not '" ++ given.name ++ "' object"
  | .noTable given => slot ++ " must be set to a dictionary, not a '" ++ given.name ++ "'"

/-- Why a name that is no attribute of a node of the class takes no new value. -/
def ofNode (cls : NodeClass) (slot : Text) (given : ValueSort) : Refusal :=
  if slot = "parent" then .derived
  else if slot = "__class__" then .noClass given
  else if slot = "__weakref__" then .reserved
  else if cls.settles slot then .settled
  else .absent

/-- Why a name takes no new value in a document; documents take almost every name. -/
def ofDocument? (slot : Text) (given : ValueSort) : Option Refusal :=
  if slot = "__class__" then some (.noClass given)
  else if slot = "__dict__" then some (.noTable given)
  else if slot = "__weakref__" then some .reserved
  else none

end Refusal

end StageCues
