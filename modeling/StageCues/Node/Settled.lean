import StageCues.Node.Class

/-!
# Node — settled names

What the members of a class can be asked, and what they are made of, is settled by their class: a
member has it without being given it, and cannot be given another.  Nodes are lists, so the names of
what every list can be asked are among them.
-/

namespace StageCues.NodeClass

/-- The names that are settled for every object whatever. -/
def objectNames : List String :=
  ["__delattr__", "__dir__", "__doc__", "__eq__", "__format__", "__ge__", "__getattribute__",
   "__getstate__", "__gt__", "__hash__", "__init__", "__init_subclass__", "__le__", "__lt__",
   "__module__", "__ne__", "__new__", "__reduce__", "__reduce_ex__", "__repr__", "__setattr__",
   "__sizeof__", "__slots__", "__str__", "__subclasshook__"]

/-- The names that are settled for every list. -/
def listNames : List String :=
  ["__add__", "__class_getitem__", "__contains__", "__delitem__", "__getitem__", "__iadd__",
   "__imul__", "__iter__", "__len__", "__mul__", "__reversed__", "__rmul__", "__setitem__",
   "append", "clear", "copy", "count", "extend", "index", "insert", "pop", "remove", "reverse",
   "sort"]

/-- The names that a class settles on top of those of the classes above it. -/
def ownNames : NodeClass → List String
  | .plain =>
    ["__bool__", "__floordiv__", "__truediv__", "body_equals", "descendants", "dump", "equals",
     "is_last"] ++ listNames ++ objectNames
  | .cueList => ["channel_count", "close_last", "dump_text", "last_open", "write"]
  | .element => ["add_num_param", "add_str_param", "repr_head", "write"]
  | .complex => ["append_child", "finish", "is_closed"]
  | .delay => ["BEAT_SIGNAL", "MILLISECONDS"]
  | .forIteration => ["DECREMENT", "INCREMENT"]
  | .body | .iteration | .infiniteIteration | .keyFrame | .channelData | .head | .predefinedHead
  | .linkedHead => []

/-- Whether the class, or one above it, settles what the name stands for. -/
def settles (c : NodeClass) (name : Text) : Bool :=
  c.lineage.any fun d => d.ownNames.contains (String.ofList name)

end StageCues.NodeClass
