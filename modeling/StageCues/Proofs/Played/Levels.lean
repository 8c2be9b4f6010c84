import StageCues.Universe

/-!
# Played — levels of a universe

What a universe shows after a cue list was played to it: on each of its channels the last write for
that channel counts, however many there were before it and in whichever frames they stand
(`Universe.play_lastValue`).

* `CueList.writeNodes` are the nodes that are played: the channel writes among the children of the
  frames.  Each of them sends its channel and its value, and nothing else is sent
  (`CueList.map_channelWrite?_writeNodes`).
* `Universe.get_set` is what one write does to the levels, `Universe.get_setAll` what many do.
-/

namespace StageCues

variable {c : Int}

/-! ### The nodes that are played -/

/-- The nodes of the class are those with a channel and a value. -/
theorem Node.isSome_channelWrite? (n : Node) :
    n.channelWrite?.isSome = n.cls.isA .channelData := by
  obtain ⟨k, cs⟩ := n
  cases k <;> rfl

/-- Nodes of the class are kept just as nodes with a channel and a value are. -/
theorem Node.map_channelWrite?_filter (ns : List Node) :
    (ns.filter fun n => n.cls.isA .channelData).map Node.channelWrite? =
      (ns.filterMap Node.channelWrite?).map some := by
  induction ns with
  | nil => rfl
  | cons n ns ih =>
      have hn := n.isSome_channelWrite?
      cases hw : n.channelWrite? with
      | none => simp [← hn, hw, ih]
      | some w => simp [← hn, hw, ih]

namespace CueList

/-- The channel writes that are children of the frames, in order. -/
def writeNodes (frames : List Node) : List Node := frames.flatMap fun f => f.childrenOf .channelData

/-- The value of the last channel write for the channel among the children of the frames. -/
def lastValue? (frames : List Node) (channel : Int) : Option Int :=
  ((writeNodes frames).filterMap Node.channelWrite?).reverse.lookup channel

/-- Every node that is played has a channel and a value. -/
theorem map_channelWrite?_writeNodes (frames : List Node) :
    (writeNodes frames).map Node.channelWrite? = (writes frames).map some := by
  simp only [writeNodes, writes, List.map_flatMap, Node.childrenOf, Node.map_channelWrite?_filter]

theorem length_writeNodes (frames : List Node) :
    (writeNodes frames).length = (writes frames).length := by
  simpa using congrArg List.length (map_channelWrite?_writeNodes frames)

theorem filterMap_writeNodes (frames : List Node) :
    (writeNodes frames).filterMap Node.channelWrite? = writes frames := by
  have h := congrArg (List.filterMap id) (map_channelWrite?_writeNodes frames)
  simpa [List.filterMap_map, Function.comp_def] using h

end CueList

/-! ### One write, and many -/

namespace Universe

/-- A level is the value within its bounds. -/
theorem toNat_level (value : Int) : ((level value).toNat : Int) = max 0 (min 255 value) := by
  unfold level
  rw [UInt8.toNat_ofNat']
  omega

theorem index_lt (h : 1 ≤ c ∧ c ≤ channelsPerUniverse) : (c - 1).toNat < channelsPerUniverse := by
  omega

/-- A channel of the universe has a level. -/
theorem get_of_mem (u : Universe) (h : 1 ≤ c ∧ c ≤ channelsPerUniverse) :
    u.get c = .ok (u.levels.get ⟨(c - 1).toNat, index_lt h⟩) := by
  have hc : 0 ≤ c - 1 := by omega
  have hlt : (c - 1).toNat < u.levels.toList.length := Vector.length_toList ▸ index_lt h
  have hget : signedGet? u.levels.toList (c - 1) =
      some (u.levels.get ⟨(c - 1).toNat, index_lt h⟩) := by
    rw [signedGet?, if_pos hc, List.getElem?_eq_getElem hlt, Vector.getElem_toList]
    rfl
  rw [get, hget]

/-- **What one write does**: it sets the channel it is for, if the universe has that, and no
other. -/
theorem get_set (u : Universe) (h : 1 ≤ c ∧ c ≤ channelsPerUniverse) (channel value : Int) :
    (u.set channel value).get c = if channel = c then .ok (level value) else u.get c := by
  by_cases hc : 1 ≤ channel ∧ channel ≤ channelsPerUniverse
  · have hindex : (channel - 1).toNat = (c - 1).toNat ↔ channel = c := by omega
    have hget : ∀ (v : Vector UInt8 channelsPerUniverse) (i : Fin channelsPerUniverse),
        v.get i = v[i.val] := fun _ _ => rfl
    rw [get_of_mem _ h, get_of_mem _ h, set, dif_pos hc]
    simp only [hget, Vector.getElem_set, hindex]
    split <;> rfl
  · rw [set_of_outside value hc, if_neg]
    rintro rfl
    exact hc h

/-- The universe after the writes in order. -/
def setAll (u : Universe) (ws : List (Int × Int)) : Universe :=
  ws.foldl (fun u w => u.set w.1 w.2) u

/-- Sending writes to a universe never fails. -/
theorem send_eq (u : Universe) (ws : List (Int × Int)) : output.send u ws = .ok (u.setAll ws) := by
  induction ws generalizing u with
  | nil => rfl
  | cons w ws ih => exact ih (u.set w.1 w.2)

/-- **What many writes do**: of those for one channel the last one counts. -/
theorem get_setAll (u : Universe) (h : 1 ≤ c ∧ c ≤ channelsPerUniverse) (ws : List (Int × Int)) :
    (u.setAll ws).get c =
      match ws.reverse.lookup c with
      | some value => .ok (level value)
      | none => u.get c := by
  induction ws generalizing u with
  | nil => rfl
  | cons w ws ih =>
      obtain ⟨channel, value⟩ := w
      have hstep : (u.setAll ((channel, value) :: ws)).get c =
          ((u.set channel value).setAll ws).get c := rfl
      rw [hstep, ih, List.reverse_cons, List.lookup_append, get_set u h]
      cases ws.reverse.lookup c with
      | some later => rfl
      | none =>
          by_cases hc : channel = c
          · simp [hc]
          · simp [hc, Ne.symm hc]

/-- A write for a channel that the universe does not have is as good as none. -/
theorem setAll_filter (u : Universe) (ws : List (Int × Int)) :
    u.setAll (ws.filter fun w => 1 ≤ w.1 ∧ w.1 ≤ channelsPerUniverse) = u.setAll ws := by
  induction ws generalizing u with
  | nil => rfl
  | cons w ws ih =>
      have hstep : u.setAll (w :: ws) = (u.set w.1 w.2).setAll ws := rfl
      rw [hstep, ← ih]
      by_cases hw : 1 ≤ w.1 ∧ w.1 ≤ channelsPerUniverse
      · rw [List.filter_cons, if_pos (by simpa using hw)]
        rfl
      · rw [List.filter_cons, if_neg (by simpa using hw), set_of_outside w.2 hw]

/-- **The last write for a channel counts.**  Any cue list can be played to any universe, and as
many writes are counted as there are channel writes among the children of its frames.  Then each
channel of the universe has the value of the last of them that is for this channel, within the
bounds of a level, or its old level if there is none; and the same comes of the writes for channels
of the universe alone. -/
theorem play_lastValue (frames : List Node) (u : Universe) :
    ∃ v, output.play frames u = .ok (v, (CueList.writeNodes frames).length) ∧
      v.levels.toList.length = 512 ∧ (∀ l ∈ v.levels.toList, l.toNat ≤ 255) ∧
      (∀ c : Int, 1 ≤ c → c ≤ 512 → ∃ old new, u.get c = .ok old ∧ v.get c = .ok new ∧
        (new.toNat : Int) =
          match CueList.lastValue? frames c with
          | some value => max 0 (min 255 value)
          | none => old.toNat) ∧
      output.send u ((CueList.writes frames).filter fun w => 1 ≤ w.1 ∧ w.1 ≤ 512) = .ok v := by
  refine ⟨u.setAll (CueList.writes frames), ?_, Vector.length_toList, fun l _ => ?_,
    fun c hc hc' => ?_, ?_⟩
  · rw [Output.play, send_eq, CueList.length_writeNodes]
  · exact Nat.le_of_lt_succ l.toNat_lt
  · have h : 1 ≤ c ∧ c ≤ channelsPerUniverse := ⟨hc, hc'⟩
    have hnew := get_setAll u h (CueList.writes frames)
    rw [← CueList.filterMap_writeNodes] at hnew ⊢
    rw [get_of_mem u h] at hnew ⊢
    unfold CueList.lastValue?
    cases hlast : ((CueList.writeNodes frames).filterMap Node.channelWrite?).reverse.lookup c with
    | some value =>
        rw [hlast] at hnew
        exact ⟨_, _, rfl, hnew, toNat_level value⟩
    | none =>
        rw [hlast] at hnew
        exact ⟨_, _, rfl, hnew, rfl⟩
  · exact (send_eq u _).trans (congrArg Except.ok (setAll_filter u (CueList.writes frames)))

end Universe

end StageCues
