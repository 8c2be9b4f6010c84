import StageCues.Text.Numeral

/-!
# Text — encodings

A file holds bytes.  An encoding cuts them into pieces, each a character or a stretch of damaged
bytes, and a policy says what becomes of the damage: it is refused, replaced by a mark, spelt, or
left out.  A damaged stretch in UTF-8 is the longest start of a well-formed sequence, and at least
one byte.

Only UTF-8, Latin-1 and ASCII are covered, under every name they go by: all other encodings are left
out, and their names count as unknown.  Of the two policies that can put surrogates in the place of
damaged bytes, `surrogatepass` is taken to refuse them and `surrogateescape` counts as unknown,
because a text here has no surrogates.
-/

namespace StageCues

open Text

/-- The content of a file. -/
abbrev Bytes := List UInt8

/-- What is wrong with a stretch of bytes. -/
inductive DamageReason where
  | startByte
  | continuationByte
  | endOfData
  | beyondAscii
  deriving DecidableEq, Repr

/-- A stretch of bytes that stands for no character, and the position of its first byte. -/
structure Damage where
  start : Nat
  bytes : Bytes
  reason : DamageReason
  deriving DecidableEq, Repr

/-- What one stretch of bytes stands for. -/
inductive Piece where
  | char (c : Char)
  | damaged (d : Damage)
  deriving DecidableEq, Repr

/-- What becomes of damaged bytes. -/
inductive DamagePolicy where
  /-- They end the reading. -/
  | refuse
  /-- A mark stands for a whole damaged stretch. -/
  | mark
  /-- They are left out. -/
  | drop
  /-- Each byte is spelt with its value. -/
  | spell
  /-- The policy knows only how to write text, not how to read it. -/
  | writeOnly
  /-- There is no policy of the name. -/
  | unknown (name : Text)
  deriving DecidableEq, Repr

namespace DamagePolicy

/-- The policies with a name, each name in its only spelling. -/
def named : List (String × DamagePolicy) :=
  [("strict", .refuse), ("surrogatepass", .refuse), ("replace", .mark), ("ignore", .drop),
   ("backslashreplace", .spell), ("xmlcharrefreplace", .writeOnly), ("namereplace", .writeOnly)]

/-- The policy with the given name.  That a name is unknown matters only where bytes are damaged. -/
def ofName (name : Text) : DamagePolicy :=
  (named.lookup (String.ofList name)).getD (.unknown name)

/-- The mark put in place of damaged bytes. -/
def replacement : Char := '\uFFFD'

/-- The beginning of a text that fits into so many bytes; a character that is cut leaves a mark. -/
def beginning (room : Nat) : Text → Text
  | [] => []
  | c :: cs =>
    if c.utf8Size ≤ room then c :: beginning (room - c.utf8Size) cs
    else if room = 0 then [] else [replacement]

/-- The name of a policy in messages, of which no more than four hundred bytes are shown. -/
def shortName (name : Text) : Text := beginning 400 name

/-- The spelling of a damaged byte. -/
def spelling (b : UInt8) : Text := '\\' :: 'x' :: codeHex 2 b.toNat

/-- What is put in place of a damaged stretch, unless the policy does not get past it. -/
def mend? (policy : DamagePolicy) (d : Damage) : Option Text :=
  match policy with
  | .mark => some [replacement]
  | .drop => some []
  | .spell => some (d.bytes.flatMap spelling)
  | .refuse | .writeOnly | .unknown _ => none

/-- The text the pieces stand for, or the first damage that the policy does not get past. -/
def resolve (policy : DamagePolicy) : List Piece → Except Damage Text
  | [] => .ok []
  | .char c :: ps => (c :: ·) <$> policy.resolve ps
  | .damaged d :: ps =>
    match policy.mend? d with
    | some t => (t ++ ·) <$> policy.resolve ps
    | none => .error d

end DamagePolicy

/-- The encodings of a file. -/
inductive Encoding where
  | utf8
  | latin1
  | ascii
  deriving DecidableEq, Repr

namespace Encoding

/-- The name an encoding has in messages. -/
def name : Encoding → Text
  | .utf8 => "utf-8"
  | .latin1 => "latin-1"
  | .ascii => "ascii"

/-- The main spelling of the name: small letters, with an underscore for every run of characters
that are neither letters, digits nor points. -/
def mainSpelling : Encoding → String
  | .utf8 => "utf_8"
  | .latin1 => "latin_1"
  | .ascii => "ascii"

/-- The other names, spelt in the same way. -/
def otherSpellings : Encoding → List String
  | .utf8 => ["u8", "utf", "utf8", "utf8_ucs2", "utf8_ucs4", "cp65001"]
  | .latin1 =>
    ["8859", "cp819", "csisolatin1", "ibm819", "iso8859", "iso8859_1", "iso_8859_1",
     "iso_8859_1_1987", "iso_ir_100", "l1", "latin", "latin1"]
  | .ascii =>
    ["646", "ansi_x3.4_1968", "ansi_x3_4_1968", "ansi_x3.4_1986", "cp367", "csascii",
     "ibm367", "iso646_us", "iso_646.irv_1991", "iso_ir_6", "us", "us_ascii"]

/-- Whether the character is kept in a spelling. -/
def isKept (c : Char) : Bool := c.isAlphanum || c = '.'

/-- The spelling of a name; `gap` says that the last character was not kept. -/
def spell (gap : Bool) : Text → Text
  | [] => []
  | c :: cs =>
    if isKept c then
      if gap then '_' :: c.toLower :: spell false cs else c.toLower :: spell false cs
    else spell true cs

/-- The spelling with underscores for its points. -/
def undotted (spelling : Text) : Text := spelling.map fun c => if c = '.' then '_' else c

/-- Whether the spelling stands for the encoding.  Points may stand for underscores, but not in the
main spelling. -/
def isSpelt (e : Encoding) (spelling : Text) : Bool :=
  e.mainSpelling = String.ofList spelling ||
    e.otherSpellings.contains (String.ofList spelling) ||
    e.otherSpellings.contains (String.ofList (undotted spelling))

/-- The encoding with the given name, however it is spelt; `locale` leaves the choice to the place,
which is UTF-8. -/
def ofName? (n : Text) : Option Encoding :=
  if n = "locale" then some utf8
  else [utf8, latin1, ascii].find? fun e => e.isSpelt (spell false (n.dropWhile (!isKept ·)))

/-- A sequence whose first bytes have been read: where it starts, those bytes, the bits they
gave, how many bytes are owed, and the range the next one must lie in. -/
structure Partial where
  start : Nat
  bytes : Bytes
  bits : Nat
  owed : Nat
  low : Nat
  high : Nat
  deriving Repr

/-- What a byte between characters gives: at once a piece, or the start of a longer sequence. -/
def lead (pos : Nat) (b : UInt8) : Piece ⊕ Partial :=
  let n := b.toNat
  if n < 0x80 then .inl (.char (Char.ofNat n))
  else if 0xC2 ≤ n ∧ n ≤ 0xDF then .inr ⟨pos, [b], n - 0xC0, 1, 0x80, 0xBF⟩
  else if n = 0xE0 then .inr ⟨pos, [b], 0, 2, 0xA0, 0xBF⟩
  else if n = 0xED then .inr ⟨pos, [b], 0xD, 2, 0x80, 0x9F⟩
  else if 0xE1 ≤ n ∧ n ≤ 0xEF then .inr ⟨pos, [b], n - 0xE0, 2, 0x80, 0xBF⟩
  else if n = 0xF0 then .inr ⟨pos, [b], 0, 3, 0x90, 0xBF⟩
  else if 0xF1 ≤ n ∧ n ≤ 0xF3 then .inr ⟨pos, [b], n - 0xF0, 3, 0x80, 0xBF⟩
  else if n = 0xF4 then .inr ⟨pos, [b], 4, 3, 0x80, 0x8F⟩
  else .inl (.damaged ⟨pos, [b], .startByte⟩)

/-- The pieces of UTF-8 bytes from the position on, with a sequence already begun or not. -/
def utf8Pieces (pos : Nat) : Option Partial → Bytes → List Piece
  | none, [] => []
  | some p, [] => [.damaged ⟨p.start, p.bytes, .endOfData⟩]
  | none, b :: bs =>
    match lead pos b with
    | .inl piece => piece :: utf8Pieces (pos + 1) none bs
    | .inr p => utf8Pieces (pos + 1) (some p) bs
  | some p, b :: bs =>
    if p.low ≤ b.toNat ∧ b.toNat ≤ p.high then
      let bits := p.bits * 64 + (b.toNat - 0x80)
      if p.owed ≤ 1 then .char (Char.ofNat bits) :: utf8Pieces (pos + 1) none bs
      else utf8Pieces (pos + 1) (some ⟨p.start, p.bytes ++ [b], bits, p.owed - 1, 0x80, 0xBF⟩) bs
    else
      .damaged ⟨p.start, p.bytes, .continuationByte⟩ ::
        match lead pos b with
        | .inl piece => piece :: utf8Pieces (pos + 1) none bs
        | .inr q => utf8Pieces (pos + 1) (some q) bs

/-- The pieces of ASCII bytes from the position on. -/
def asciiPieces (pos : Nat) : Bytes → List Piece
  | [] => []
  | b :: bs =>
    (if b.toNat < 0x80 then .char (Char.ofNat b.toNat)
      else .damaged ⟨pos, [b], .beyondAscii⟩) :: asciiPieces (pos + 1) bs

/-- The pieces of a file's bytes. -/
def pieces : Encoding → Bytes → List Piece
  | .utf8, bs => utf8Pieces 0 none bs
  | .latin1, bs => bs.map fun b => .char (Char.ofNat b.toNat)
  | .ascii, bs => asciiPieces 0 bs

end Encoding

end StageCues
