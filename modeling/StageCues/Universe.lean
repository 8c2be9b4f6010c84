import StageCues.CueList

/-!
# Universes — sending channel writes

A channel output is anything that can set a channel to a value.  A cue list is played to an output
by sending the channel writes of its frames in order, without waiting.  A universe is the output
that keeps its 512 levels; it ignores channels it does not have and bounds the values.
-/

namespace StageCues

open Text

/-- A channel output with states `σ`. -/
structure Output (σ : Type) where
  setChannel : σ → Int → Int → Except Fault σ

namespace Output

variable {σ : Type}

/-- Sends the writes in order. -/
def send (o : Output σ) : σ → List (Int × Int) → Except Fault σ
  | s, [] => .ok s
  | s, w :: ws =>
    match o.setChannel s w.1 w.2 with
    | .error f => .error f
    | .ok t => o.send t ws

/-- Sends the channel writes of all frames, and counts them. -/
def play (o : Output σ) (frames : List Node) (s : σ) : Except Fault (σ × Nat) :=
  match o.send s (CueList.writes frames) with
  | .error f => .error f
  | .ok t => .ok (t, (CueList.writes frames).length)

/-- The output that keeps every write. -/
def recorder : Output (List (Int × Int)) := ⟨fun ws channel value => .ok (ws ++ [(channel, value)])⟩

/-- The output that cannot set any channel. -/
def mute : Output Unit := ⟨fun _ _ _ => .error .unplayable⟩

end Output

/-- The number of channels in a universe. -/
def channelsPerUniverse : Nat := 512

/-- The levels of the channels of a universe, from channel 1 on. -/
structure Universe where
  levels : Vector UInt8 channelsPerUniverse
  deriving DecidableEq

namespace Universe

/-- The universe with every level at zero. -/
def dark : Universe := ⟨Vector.replicate channelsPerUniverse 0⟩

/-- A value as a level: no less than zero and no more than 255. -/
def level (value : Int) : UInt8 := UInt8.ofNat (max 0 (min 255 value)).toNat

/-- The universe after one write; a channel it does not have changes nothing. -/
def set (u : Universe) (channel value : Int) : Universe :=
  if h : 1 ≤ channel ∧ channel ≤ channelsPerUniverse then
    ⟨u.levels.set (channel - 1).toNat (level value) (by omega)⟩
  else u

/-- The level of a channel.  Channels from zero down count from the last one. -/
def get (u : Universe) (channel : Int) : Except Fault UInt8 :=
  match signedGet? u.levels.toList (channel - 1) with
  | some l => .ok l
  | none => .error (.atPosition (channel - 1) .outsideUniverse)

/-- The universe as a channel output. -/
def output : Output Universe := ⟨fun u channel value => .ok (u.set channel value)⟩

/-- The channels with a level above zero, in ascending order. -/
def lit (u : Universe) : List (Nat × UInt8) :=
  (u.levels.toList.zipIdx 1).filterMap fun l => if l.1 = 0 then none else some (l.2, l.1)

/-- The label of a universe. -/
def label (u : Universe) : Text :=
  "<DmxUniverse (" ++ decimal u.lit.length ++ " channels set)>"

/-- A channel the universe does not have is ignored. -/
theorem set_of_outside {u : Universe} {channel : Int} (value : Int)
    (h : ¬ (1 ≤ channel ∧ channel ≤ channelsPerUniverse)) : u.set channel value = u := by
  simp only [set, dif_neg h]

end Universe

end StageCues
