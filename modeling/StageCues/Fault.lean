import StageCues.Operation
import StageCues.Text.Encoding
import StageCues.Text.Quoted

/-!
# Faults — causes and wording

Everything that can go wrong, by cause, and the one function that words it.  A misreading belongs
to the cue text itself; the other causes belong to a number that goes beyond the limit of base ten,
to the tree of nodes, to the channel output, or to the file that holds the text.
-/

namespace StageCues

open Text

/-- What makes a cue text unreadable. -/
inductive Misreading where
  /-- A channel write or a frame end, and no frame to take it. -/
  | noOpenFrame
  /-- A frame start inside a frame. -/
  | frameAlreadyOpen
  /-- A head before any document. -/
  | noDocument
  deriving DecidableEq, Repr

/-- The bare wording of a misreading. -/
def Misreading.message : Misreading → Text
  | .noOpenFrame => "no open keyframe"
  | .frameAlreadyOpen => "keyframe already open"
  | .noDocument => "no document"

/-- Why a file cannot be opened. -/
inductive FileTrouble where
  | missing
  | denied
  | notDirectory
  | isDirectory
  | nameTooLong
  deriving DecidableEq, Repr

namespace FileTrouble

/-- The number of the trouble in messages. -/
def number : FileTrouble → Int
  | .missing => 2
  | .denied => 13
  | .notDirectory => 20
  | .isDirectory => 21
  | .nameTooLong => 36

/-- The wording of the trouble in messages. -/
def wording : FileTrouble → Text
  | .missing => "No such file or directory"
  | .denied => "Permission denied"
  | .notDirectory => "Not a directory"
  | .isDirectory => "Is a directory"
  | .nameTooLong => "File name too long"

end FileTrouble

/-- Where a text must not hold the null character. -/
inductive NullFree where
  /-- The name of a file to be opened. -/
  | fileName
  /-- A setting of how a file is read. -/
  | setting
  /-- A path that is looked up before anything else is done. -/
  | path
  deriving DecidableEq, Repr

/-- The wording of a null character in such a text. -/
def NullFree.message : NullFree → Text
  | .fileName => "embedded null byte"
  | .setting => "embedded null character"
  | .path => "stat: embedded null character in path"

/-- Everything that can go wrong. -/
inductive Fault where
  /-- The cue text cannot be read any further than the position. -/
  | misread (cause : Misreading) (pos : Int)
  /-- A numeral in base ten that has too many digits to be read. -/
  | tooManyDigits (count : Nat)
  /-- A number that has too many digits to be put down in base ten. -/
  | tooLong
  /-- The cursor was asked to go back further than the start of the current token. -/
  | rewound
  /-- A cursor position without a character. -/
  | outsideText
  /-- A child position without a child. -/
  | outsideChildren
  /-- A channel the universe does not have. -/
  | outsideUniverse
  /-- A position that no list can have. -/
  | outsideMemory
  /-- A child for a channel write. -/
  | childOfChannel
  /-- A child for an iteration that is no complex element. -/
  | childOfIteration (owner : Owner)
  /-- A question about the parent of a node without one. -/
  | noParent
  /-- An operation of which the name was given to a value of the sort. -/
  | notCallable (given : ValueSort)
  /-- A search among children for a node that is none of them. -/
  | notAChild (label : Text)
  /-- A drawing style that does not exist. -/
  | unknownStyle (name : Text)
  /-- A channel output that cannot set channels. -/
  | unplayable
  /-- An operation asked of something that does not have it. -/
  | lacks (owner : Owner) (operation : Operation)
  /-- A new value for something that takes none. -/
  | unassignable (owner : Owner) (slot : Text) (why : Refusal)
  /-- A file that cannot be opened. -/
  | file (trouble : FileTrouble) (name : Text)
  /-- The null character in a text that must not hold it. -/
  | nullCharacter (place : NullFree)
  /-- A line end mode that does not exist. -/
  | unknownNewline (name : Text)
  /-- An encoding that does not exist. -/
  | unknownEncoding (name : Text)
  /-- Bytes that stand for no character. -/
  | undecodable (encoding : Encoding) (damage : Damage)
  /-- Damaged bytes under a policy that knows only how to write text. -/
  | writeOnlyPolicy
  /-- Damaged bytes under a policy that does not exist. -/
  | unknownPolicy (name : Text)
  /-- A scan that was given too few steps. -/
  | outOfSteps
  deriving DecidableEq, Repr

/-- The wording of a reason for damage. -/
def DamageReason.message : DamageReason → Text
  | .startByte => "invalid start byte"
  | .continuationByte => "invalid continuation byte"
  | .endOfData => "unexpected end of data"
  | .beyondAscii => "ordinal not in range(128)"

/-- Where the damage is: one byte is shown with its value, several with their first and last
position. -/
def Damage.place (d : Damage) : Text :=
  match d.bytes with
  | [b] => "byte 0x" ++ codeHex 2 b.toNat ++ " in position " ++ decimal d.start
  | bs => "bytes in position " ++ decimal d.start ++ "-" ++ decimal (d.start + bs.length - 1)

/-- The fault of reading at a position without an element: positions have sixty-four bits, one of
them for the sign. -/
def Fault.atPosition (i : Int) (absent : Fault) : Fault :=
  if -0x8000000000000000 ≤ i ∧ i < 0x8000000000000000 then absent else .outsideMemory

/-- The fault of damaged bytes that a policy does not get past. -/
def DamagePolicy.fault (policy : DamagePolicy) (encoding : Encoding) (d : Damage) : Fault :=
  match policy with
  | .writeOnly => .writeOnlyPolicy
  | .unknown name => .unknownPolicy name
  | .refuse | .mark | .drop | .spell => .undecodable encoding d

/-- The wording of the limit of base ten. -/
def limitExceeded : Text :=
  "Exceeds the limit (" ++ decimal digitLimit ++ " digits) for integer string conversion"

/-- The wording of how the limit of base ten is changed. -/
def limitAdvice : Text := "; use sys.set_int_max_str_digits() to increase the limit"

/-- Whether the fault is that a number goes beyond the limit of base ten, one way or the other. -/
def Fault.isOverlong : Fault → Bool
  | .tooManyDigits _ | .tooLong => true
  | _ => false

/-- The wording of a fault. -/
def Fault.message : Fault → Text
  | .misread cause pos => cause.message ++ " (at position " ++ decimal pos ++ ")"
  | .tooManyDigits count =>
    limitExceeded ++ ": value has " ++ decimal count ++ " digits" ++ limitAdvice
  | .tooLong => limitExceeded ++ limitAdvice
  | .rewound => "can't rewind past the start of the current token"
  | .outsideText => "string index out of range"
  | .outsideChildren => "list index out of range"
  | .outsideUniverse => "bytearray index out of range"
  | .outsideMemory => "cannot fit 'int' into an index-sized integer"
  | .childOfChannel => "ChannelData can't have child elements"
  | .childOfIteration owner => "an iteration can only contain complex elements, not " ++ owner.name
  | .noParent => Operation.child.absence Owner.nothing.name
  | .notCallable given => "'" ++ given.name ++ "' object is not callable"
  | .notAChild label => label ++ " is not in list"
  | .unknownStyle name => quoted name
  | .unplayable => []
  | .lacks owner operation => operation.absence owner.name
  | .unassignable owner slot why => why.message owner slot
  | .file trouble name =>
    "[Errno " ++ decimal trouble.number ++ "] " ++ trouble.wording ++ ": " ++ quoted name
  | .nullCharacter place => place.message
  | .unknownNewline name => "illegal newline value: " ++ name
  | .unknownEncoding name => "unknown encoding: " ++ name
  | .undecodable encoding damage =>
    "'" ++ encoding.name ++ "' codec can't decode " ++ damage.place ++ ": " ++
      damage.reason.message
  | .writeOnlyPolicy => "don't know how to handle UnicodeDecodeError in error callback"
  | .unknownPolicy name => "unknown error handler name '" ++ DamagePolicy.shortName name ++ "'"
  | .outOfSteps => "the scan did not end"

end StageCues
