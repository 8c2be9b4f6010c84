import StageCues.Reading

/-!
# Folders — reading files by name

A folder holds files by name.  A path is looked up part by part: an empty part or a single point
stays where it is, two points and a slash at the front lead outside, and a file has no parts below
it.  Nothing is known about files outside, except that a name may be too long for any folder.  A cue
file is read in one go, and of two troubles the one met first wins: a null character among the
settings, opening the file, then its line end mode, then its encoding, then its bytes, then the cue
text.
-/

namespace StageCues

open Text

/-- The files of a folder, by name. -/
structure Folder where
  files : List (Text × Bytes)

/-- What a path leads to. -/
inductive Place where
  | folder
  | outside
  | file (content : Bytes)

namespace Folder

/-- The file with the name. -/
def file? (f : Folder) (name : Text) : Option Bytes :=
  (f.files.find? fun e => e.1 = name).map Prod.snd

/-- The bytes that the name of a file may take. -/
def nameLimit : Nat := 255

/-- The bytes that a path may take. -/
def pathLimit : Nat := 4095

/-- Where one part of a path leads. -/
def enter (f : Folder) (place : Place) (part : Text) : Except FileTrouble Place :=
  match place with
  | .file _ => .error .notDirectory
  | .folder =>
    if part = [] ∨ part = ['.'] then .ok .folder
    else if part = ['.', '.'] then .ok .outside
    else if nameLimit < utf8Length part then .error .nameTooLong
    else match f.file? part with
      | some content => .ok (.file content)
      | none => .error .missing
  | .outside =>
    if part = [] ∨ part = ['.'] ∨ part = ['.', '.'] then .ok .outside
    else if nameLimit < utf8Length part then .error .nameTooLong
    else .error .missing

/-- Where the parts of a path lead. -/
def walk (f : Folder) : Place → List Text → Except FileTrouble Place
  | place, [] => .ok place
  | place, part :: parts =>
    match f.enter place part with
    | .error t => .error t
    | .ok next => f.walk next parts

/-- Where a path leads.  The empty path leads nowhere. -/
def place (f : Folder) (path : Text) : Except FileTrouble Place :=
  if pathLimit < utf8Length path then .error .nameTooLong
  else match path with
    | [] => .error .missing
    | '/' :: rest => f.walk .outside (splitAt '/' rest)
    | _ => f.walk .folder (splitAt '/' path)

/-- The content of the file a path leads to. -/
def read (f : Folder) (path : Text) : Except Fault Bytes :=
  if hasNull path then .error (.nullCharacter .fileName)
  else match f.place path with
    | .error trouble => .error (.file trouble path)
    | .ok (.file content) => .ok content
    | .ok _ => .error (.file .isDirectory path)

end Folder

/-- How a file is to be read, each setting by its name. -/
structure FileSettings where
  encoding : Text
  damage : Text
  newline : Option Text

namespace FileSettings

/-- The settings where nothing is chosen. -/
def usual : FileSettings := ⟨"utf-8", "strict", none⟩

/-- The settings for a choice of each.  Of the encoding, an empty choice is none. -/
def ofChoices (encoding damage newline : Option Text) : FileSettings where
  encoding := match encoding with
    | none | some [] => usual.encoding
    | some name => name
  damage := damage.getD usual.damage
  newline := newline

/-- Whether a setting holds the null character. -/
def holdsNull (f : FileSettings) : Bool :=
  hasNull f.encoding || hasNull f.damage || hasNull (f.newline.getD [])

end FileSettings

/-- The text of the file a path leads to, the content of the file being given. -/
def fileText (settings : FileSettings) (content : Except Fault Bytes) : Except Fault Text := do
  if settings.holdsNull then throw (.nullCharacter .setting)
  let bytes ← content
  let mode ← match NewlineMode.ofName? settings.newline with
    | some mode => .ok mode
    | none => .error (.unknownNewline (settings.newline.getD []))
  let coding ← match Encoding.ofName? settings.encoding with
    | some coding => .ok coding
    | none => .error (.unknownEncoding settings.encoding)
  decodeFile coding (.ofName settings.damage) mode bytes

/-- Reads the cue file with the content. -/
def Reading.ofFile (settings : FileSettings) (honourRadix : Bool) (content : Except Fault Bytes) :
    Except Fault Reading := do
  Reading.ofSource honourRadix (← fileText settings content)

end StageCues
