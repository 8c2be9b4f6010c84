import StageCues.Text.Upper

/-!
# Scanner — modes

Where the scanner stands between two characters.  A token starts with a character that selects a
mode, in either letter case; the next character completes the token.
-/

namespace StageCues

/-- Where the scanner stands between two characters. -/
inductive Mode where
  /-- Between tokens. -/
  | rest
  | letterC
  | letterK
  | letterB
  | letterW
  | letterF
  | letterI
  /-- Inside quoted text. -/
  | quotation
  /-- After the zero of a number outside of any parameter. -/
  | number
  | hexDigits
  | decDigits
  | binDigits
  | command
  /-- Collecting a numeric parameter. -/
  | waitNumber
  /-- Collecting a text parameter. -/
  | waitText
  /-- A numeric parameter is complete. -/
  | gotNumber
  /-- A text parameter is complete. -/
  | gotText
  /-- There is no numeric parameter. -/
  | noNumber
  deriving DecidableEq, Repr

namespace Mode

/-- The name of a mode. -/
def name : Mode → Text
  | .rest => "Default"
  | .letterC => "LetterC"
  | .letterK => "LetterK"
  | .letterB => "LetterB"
  | .letterW => "LetterW"
  | .letterF => "LetterF"
  | .letterI => "LetterI"
  | .quotation => "QuotationMark"
  | .number => "Number"
  | .hexDigits => "NumberHex"
  | .decDigits => "NumberDec"
  | .binDigits => "NumberBin"
  | .command => "Command"
  | .waitNumber => "WaitParamNum"
  | .waitText => "WaitParamStr"
  | .gotNumber => "ReceivedParamNum"
  | .gotText => "ReceivedParamStr"
  | .noNumber => "NoNumParam"

/-- The mode selected by the first character of a token, given in upper case. -/
def ofLeading? : Text → Option Mode
  | ['C'] => some .letterC
  | ['K'] => some .letterK
  | ['B'] => some .letterB
  | ['W'] => some .letterW
  | ['F'] => some .letterF
  | ['I'] => some .letterI
  | ['"'] => some .quotation
  | ['0'] => some .number
  | ['X'] => some .command
  | _ => none

/-- The mode selected by a radix marker, given in upper case, and how the marker is told. -/
def ofMarker? : Text → Option (Char × Mode)
  | ['H'] => some ('H', .hexDigits)
  | ['X'] => some ('H', .hexDigits)
  | ['D'] => some ('D', .decDigits)
  | ['B'] => some ('B', .binDigits)
  | _ => none

/-- Whether the end of the text still has to be told to the mode. -/
def isPending : Mode → Bool
  | .gotNumber | .gotText | .noNumber => true
  | _ => false

end Mode

end StageCues
