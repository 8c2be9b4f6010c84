import StageCues.Text.Basic

/-!
# Node — classes

The fourteen classes of nodes.  Every class but the plain node has one class above it, so that a
search for a class also finds the members of the classes below it.
-/

namespace StageCues

/-- The class of a node. -/
inductive NodeClass where
  | plain
  | cueList
  | element
  | complex
  | body
  | iteration
  | forIteration
  | infiniteIteration
  | keyFrame
  | delay
  | channelData
  | head
  | predefinedHead
  | linkedHead
  deriving DecidableEq, Repr

namespace NodeClass

/-- The name of a class. -/
def name : NodeClass → Text
  | .plain => "Node"
  | .cueList => "CueList"
  | .element => "Element"
  | .complex => "ComplexElement"
  | .body => "Body"
  | .iteration => "Iteration"
  | .forIteration => "ForIteration"
  | .infiniteIteration => "InfiniteIteration"
  | .keyFrame => "KeyFrame"
  | .delay => "Delay"
  | .channelData => "ChannelData"
  | .head => "Head"
  | .predefinedHead => "PredefinedSchemaHead"
  | .linkedHead => "LinkedSchemaHead"

/-- Every class, once. -/
def all : List NodeClass :=
  [.plain, .cueList, .element, .complex, .body, .iteration, .forIteration, .infiniteIteration,
   .keyFrame, .delay, .channelData, .head, .predefinedHead, .linkedHead]

/-- The class with the given name. -/
def ofName? (n : Text) : Option NodeClass := all.find? fun c => c.name = n

/-- A class and the classes above it, nearest first. -/
def lineage : NodeClass → List NodeClass
  | .plain => [.plain]
  | .cueList => [.cueList, .plain]
  | .element => [.element, .plain]
  | .complex => [.complex, .element, .plain]
  | .body => [.body, .complex, .element, .plain]
  | .iteration => [.iteration, .complex, .element, .plain]
  | .forIteration => [.forIteration, .iteration, .complex, .element, .plain]
  | .infiniteIteration => [.infiniteIteration, .iteration, .complex, .element, .plain]
  | .keyFrame => [.keyFrame, .complex, .element, .plain]
  | .delay => [.delay, .complex, .element, .plain]
  | .channelData => [.channelData, .element, .plain]
  | .head => [.head, .element, .plain]
  | .predefinedHead => [.predefinedHead, .head, .element, .plain]
  | .linkedHead => [.linkedHead, .head, .element, .plain]

/-- Whether every member of `c` is a member of `d`. -/
def isA (c d : NodeClass) : Bool := c.lineage.contains d

/-- Whether members of the class are open or closed, and can be given children by the reader. -/
def isComplex (c : NodeClass) : Bool := c.isA .complex

/-- Whether the class is one of cue elements, which receive parameters. -/
def isElement (c : NodeClass) : Bool := c.isA .element

end NodeClass

end StageCues
