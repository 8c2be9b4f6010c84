import StageCues.Proofs.Scan.Sound

/-!
# Built — all elements

What a reading is made of, whatever the text: well-formed frames, a document without a body and with
a head as it is read, and iterations that nothing was ever added to (`Reading.WellBuilt`).  This
holds between all turns of a scan, at its end, and where it fails (`wellBuilt_scan`): a misreading
is noticed before anything is built, so it leaves the elements as they are.
-/

namespace StageCues

/-- An iteration as it is read: open, without children, and with all its numbers at zero. -/
inductive IsIteration : Node → Prop where
  | counted : IsIteration (.leaf (.forIteration 0 0 0 false))
  | endless : IsIteration (.leaf (.infiniteIteration false))

/-- A reading of which every element is as the scanner builds them. -/
structure Reading.WellBuilt (r : Reading) : Prop where
  frames : WellFramed r.frames
  document : ∀ d, r.document = some d → IsDocument d
  iterations : ∀ n ∈ r.iterations, IsIteration n

namespace Scanner

variable {s t : Scanner} {c : Char}

theorem iterations_settles (hs : Settles s t) : t.iterations = s.iterations := by
  cases hs with
  | @deliver p m a =>
      show (s.give p a).iterations = s.iterations
      cases a <;> rfl
  | cancel => rfl

/-- A move leaves the iterations as they are, or adds a new one behind them. -/
theorem iterations_move (hm : Move s c t) :
    t.iterations = s.iterations ∨ ∃ n, IsIteration n ∧ t.iterations = s.iterations ++ [n] := by
  have hmark : s.markStart.iterations = s.iterations := by
    unfold markStart
    split <;> rfl
  cases hm with
  | iteration hk =>
      rcases hk with ⟨-, rfl⟩ | ⟨-, rfl⟩
      · exact .inr ⟨_, .counted, rfl⟩
      · exact .inr ⟨_, .endless, rfl⟩
  | gather => exact .inl hmark
  | finish => exact .inl hmark
  | settle hs => exact .inl (iterations_settles hs)
  | quiet | document | addFrame | endFrame | addWrite | head => exact .inl rfl

/-- A turn keeps the iterations. -/
theorem iterations_turn (h : ∀ n ∈ s.iterations, IsIteration n) (hd : s.isDone = false)
    (e : s.turn = .ok t) : ∀ n ∈ t.iterations, IsIteration n := by
  rcases turn_cases hd e with ⟨-, c, u, -, hm, rfl⟩ | ⟨-, -, u, hs, rfl⟩
  · show ∀ n ∈ u.iterations, IsIteration n
    rcases iterations_move hm with hu | ⟨m, hm', hu⟩ <;> rw [hu]
    · exact h
    · intro n hn
      rcases List.mem_append.mp hn with hn | hn
      · exact h n hn
      · exact List.mem_singleton.mp hn ▸ hm'
  · show ∀ n ∈ u.iterations, IsIteration n
    rw [iterations_settles hs]
    exact h

/-- Between its turns every scan is well built. -/
theorem wellBuilt_of_mem_states {honourRadix : Bool} {a : Text}
    (hs : s ∈ states honourRadix a) : (Reading.ofScanner s).WellBuilt where
  frames := (sound_of_mem_states hs).framed
  document := (sound_of_mem_states hs).headed.document
  iterations := keep_states (P := fun u => ∀ n ∈ u.iterations, IsIteration n)
    (fun _ _ hd e h => iterations_turn h hd e) nofun hs

/-- What a successful scan has built is what its last state has. -/
theorem wellBuilt_of_scan {honourRadix : Bool} {a : Text} (e : scan honourRadix a = .ok s) :
    (Reading.ofScanner s).WellBuilt := by
  obtain ⟨u, hu, -, rfl⟩ := last_of_scan_ok e
  have hw : (Reading.ofScanner u).WellBuilt :=
    wellBuilt_of_mem_states (List.mem_of_getLast? hu)
  exact ⟨hw.frames, hw.document, hw.iterations⟩

/-- **Every element that is built is well built**, of any text and with radices honoured or not:
after every turn, at the end of a scan that succeeds, and where a scan fails. -/
theorem wellBuilt_scan (honourRadix : Bool) (t : Text) :
    (∀ s ∈ states honourRadix t, (Reading.ofScanner s).WellBuilt) ∧
    (∀ s, scan honourRadix t = .ok s → (Reading.ofScanner s).WellBuilt) ∧
    ∀ h, scan honourRadix t = .error h → (Reading.ofScanner h.scanner).WellBuilt := by
  refine ⟨fun s => wellBuilt_of_mem_states, fun s => wellBuilt_of_scan, fun h e => ?_⟩
  obtain ⟨u, hu, hd, ht⟩ := last_of_scan_error e
  have hs := List.mem_of_getLast? hu
  have hw : (Reading.ofScanner u).WellBuilt := wellBuilt_of_mem_states hs
  cases (sound_of_mem_states hs).fails_of_turn hd ht with
  | misread | unread => exact ⟨hw.frames, hw.document, hw.iterations⟩
  | untold _ ho => exact ⟨hw.frames.close ho, hw.document, hw.iterations⟩

end Scanner

/-- What is read from any text is well built. -/
theorem Reading.wellBuilt {honourRadix : Bool} {t : Text} {r : Reading}
    (h : ofCompact honourRadix t = .ok r) : r.WellBuilt := by
  unfold ofCompact at h
  cases e : Scanner.scan honourRadix t with
  | error k => rw [e] at h; cases h
  | ok s =>
      rw [e] at h
      obtain rfl := Except.ok.inj h
      exact Scanner.wellBuilt_of_scan e

/-- A text that cannot be read is misread, or has a number that is too long. -/
theorem Reading.fault_of_ofCompact {honourRadix : Bool} {t : Text} {f : Fault}
    (h : ofCompact honourRadix t = .error f) :
    (∃ m pos, f = .misread m pos) ∨ f.isOverlong = true := by
  unfold ofCompact at h
  cases e : Scanner.scan honourRadix t with
  | ok s => rw [e] at h; cases h
  | error k =>
      rw [e] at h
      obtain rfl := Except.error.inj h
      obtain ⟨s, hs, hd, ht⟩ := Scanner.last_of_scan_error e
      have hsound := Scanner.sound_of_mem_states (List.mem_of_getLast? hs)
      cases hsound.fails_of_turn hd ht with
      | misread => exact .inl ⟨_, _, rfl⟩
      | unread | untold => exact .inr rfl

end StageCues
