import StageCues.Folder
import StageCues.Text.Styling
import StageCues.Version

/-!
# The command line

The program reads one cue file and tells what it says: the compact text, the trace, and a summary
of the frames; on request the tree of nodes as well, and its notes on the error channel.  What it
tells loses its style sequences; the tree and the notes keep them.  Of the faults of a scan it words
the misreadings only.  A number that cannot be read or put down ends the program, and what was told
before stays told.
-/

namespace StageCues

open Text

/-- What the command line asks for. -/
structure Invocation where
  file : Text
  encoding : Text
  honourRadix : Bool
  tree : Bool
  verbose : Bool
  deriving DecidableEq, Repr

namespace Invocation

/-- What the arguments read so far ask for. -/
structure Draft where
  files : List Text
  encoding : Text
  honourRadix : Bool
  tree : Bool
  verbose : Bool

/-- What no arguments ask for. -/
def Draft.initial : Draft := ⟨[], "utf-8", true, false, false⟩

/-- The draft after an option without a value; none if there is no such option. -/
def Draft.flag? (d : Draft) (name : Text) : Option Draft :=
  if name = "--radix" then some { d with honourRadix := true }
  else if name = "--no-radix" then some { d with honourRadix := false }
  else if name = "--tree" then some { d with tree := true }
  else if name = "--verbose" then some { d with verbose := true }
  else none

/-- The value of an option that is given behind an equals sign. -/
def inlineEncoding? (arg : Text) : Option Text :=
  let front : Text := "--encoding="
  if front.isPrefixOf arg then some (arg.drop front.length) else none

/-- The draft after all arguments; none if they are misused.  Options may stand before and after
the file; `--` ends them, and a lone dash is a file. -/
def Draft.read? : Draft → List Text → Option Draft
  | d, [] => some d
  | d, arg :: args =>
    if arg = "--" then some { d with files := d.files ++ args }
    else if arg = "--encoding" then
      match args with
      | [] => none
      | value :: rest => Draft.read? { d with encoding := value } rest
    else match inlineEncoding? arg, arg with
      | some value, _ => Draft.read? { d with encoding := value } args
      | none, '-' :: '-' :: _ =>
        match d.flag? arg with
        | some e => Draft.read? e args
        | none => none
      | none, '-' :: c :: cs =>
        if (c :: cs).all (· = 'v') then Draft.read? { d with verbose := true } args else none
      | none, _ => Draft.read? { d with files := d.files ++ [arg] } args

/-- A path in its shortest spelling: without empty parts, single points and a slash at the end.
One or two slashes at the front stay. -/
def tidyPath (path : Text) : Text :=
  let parts := (splitAt '/' path).filter fun p => !p.isEmpty && p ≠ ['.']
  let front : Text := match path with
    | '/' :: '/' :: '/' :: _ => "/"
    | '/' :: '/' :: _ => "//"
    | '/' :: _ => "/"
    | _ => []
  let tidy := front ++ joinWith "/" parts
  if tidy.isEmpty then ['.'] else tidy

/-- What the arguments ask for; none if they are misused. -/
def ofArgs? (args : List Text) : Option Invocation :=
  match Draft.initial.read? args with
  | some ⟨[file], encoding, honourRadix, tree, verbose⟩ =>
    some ⟨tidyPath file, encoding, honourRadix, tree, verbose⟩
  | _ => none

end Invocation

/-- What a run of the program leaves behind; `uncaught` is a fault the program does not word
itself. -/
structure Outcome where
  exitCode : Nat
  stdout : Text
  stderr : Text
  uncaught : Option Fault

namespace Command

/-- The line between the parts of the report. -/
def rule : Text := List.replicate 75 '-'

/-- The text as it is told, with a line end. -/
def told (t : Text) : Text := line (unstyled t)

/-- The report up to the trace. -/
def opening (compactText : Text) : Text :=
  told "Raw object code:" ++ told compactText ++ told [] ++ told "Interpreted symbols:"

/-- The lines up to the first that cannot be put down, and why that one cannot. -/
def linesBeforeFault : List (Except Fault Text) → Text × Option Fault
  | [] => ([], none)
  | .error f :: _ => ([], some f)
  | .ok t :: rest => (line t ++ (linesBeforeFault rest).1, (linesBeforeFault rest).2)

/-- The report from the trace on, as far as it goes, and why it goes no further. -/
def closing (r : Reading) (tree : Bool) : Text × Option Fault :=
  let counted := told r.trace ++ told [] ++
    told ("Count of KeyFrames:" ++ decimal r.frames.length) ++ told rule ++ told "Dump:"
  match CueList.summary r.frames with
  | .error f => (counted, some f)
  | .ok summary =>
    let drawn := if tree then linesBeforeFault (r.cueList.drawLines .round) else ([], none)
    (counted ++ told summary ++ textIf tree (told rule) ++ drawn.1, drawn.2)

/-- The line that tells which file is read. -/
def greeting (i : Invocation) : Text :=
  line ("INFO - cueread.cli - cueread " ++ versionText ++ " reading " ++ i.file)

/-- The lines of the notes. -/
def noteLines (notes : List Note) : Text :=
  notes.flatMap fun n => line ("DEBUG - cueread.tokenizer - " ++ n.message)

/-- Whether the program words the fault itself: that of a file, or a misreading. -/
def isReported : Fault → Bool
  | .file .. | .undecodable .. | .misread .. => true
  | _ => false

/-- A run of the program that has looked up its file, given the content. -/
def report (i : Invocation) (content : Except Fault Bytes) : Outcome :=
  let greeted := textIf i.verbose (greeting i)
  match fileText { FileSettings.usual with encoding := i.encoding } content with
  | .error f =>
    if isReported f then
      ⟨1, [], greeted ++ told ("Can't read " ++ i.file ++ ": " ++ f.message), none⟩
    else ⟨1, [], greeted, some f⟩
  | .ok t =>
    match Scanner.scan i.honourRadix (compact t) with
    | .error h =>
      let noted := greeted ++ textIf i.verbose (noteLines h.scanner.notes)
      if isReported h.fault then
        ⟨1, opening (compact t), noted ++ told ("Error: " ++ h.fault.message), none⟩
      else ⟨1, opening (compact t), noted, some h.fault⟩
    | .ok s =>
      let (report, unworded) := closing (.ofScanner s) i.tree
      ⟨if unworded.isSome then 1 else 0, opening (compact t) ++ report,
        greeted ++ textIf i.verbose (noteLines s.notes), unworded⟩

/-- A run of the program, given the content of its file. -/
def run (i : Invocation) (content : Except Fault Bytes) : Outcome :=
  if hasNull i.file then ⟨1, [], [], some (.nullCharacter .path)⟩ else report i content

end Command

end StageCues
