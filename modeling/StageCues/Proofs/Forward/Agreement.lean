import StageCues.Proofs.Forward.Parameters
import StageCues.Proofs.Forward.Tokens

/-!
# Forward — the scanner reads what the forward reader reads

Between two tokens the scanner stands where the forward reader is.  `Agrees n` says that from there
it reads the same as long as at most `n` characters are left.  The first of them decides what comes
next: a token with its parameters (`Agrees.token`), a number (`Agrees.number`), a quoted text
(`Agrees.quote`) or nothing of the kind (`Agrees.stray`), and each of these leaves less text.  So
they agree on any text (`agrees`), and from its front this is `ofCompact_eq_read`.
-/

namespace StageCues

open Text

namespace Scanner

/-- Between two tokens, with so many characters left at most, the scanner reads what the forward
reader reads. -/
def Agrees (radix : Bool) (size n : Nat) : Prop :=
  ∀ r t s, t.length ≤ n → Stands radix size r t s → s.mode = .rest →
    outcome s.finish = Forward.read radix size r t

variable {radix : Bool} {size n : Nat} {r : Reading} {t : Text} {s : Scanner} {x y : Char}

/-- Where the scanner returns to rest the text that is left decides. -/
theorem Agrees.returns (ha : Agrees radix size n) (hl : t.length ≤ n)
    (h : Returns radix size r t s) : outcome s.finish = Forward.read radix size r t := by
  obtain ⟨u, hu, hst, hm⟩ := h
  rw [hu]
  rcases hm with hm | ⟨rfl, hp⟩
  · exact ha r t u hl hst hm
  · rw [finish_of_nil hst hp, Forward.read_nil, ← hst.reading]
    rfl

theorem Agrees.mono {m : Nat} (ha : Agrees radix size n) (h : m ≤ n) : Agrees radix size m :=
  fun r t s hl => ha r t s (Nat.le_trans hl h)

/-! ### What the first character decides -/

/-- A token, with its first character read, and its parameters. -/
theorem Agrees.token (ha : Agrees radix size t.length) (h : Stands radix size r (y :: t) s)
    (hl : Mode.ofLeading? (upper s.previous) = some s.mode)
    (hq : s.mode ≠ .quotation) (hn : s.mode ≠ .number) :
    outcome s.finish =
      match Forward.token r s.previous y (size - t.length - 1) with
      | .error f => .error f
      | .ok (r', w) =>
        match Forward.parameters radix w r' t with
        | .error f => .error f
        | .ok (r', rest) => Forward.read radix size r' rest := by
  have hpos : s.cursor.pos = size - t.length - 1 := by
    rw [h.pos_eq, List.length_cons]
    omega
  have ho := obeys_react (y := y) hl hq hn
  rw [hpos, h.reading] at ho
  cases ht : Forward.token r s.previous y (size - t.length - 1) with
  | error f =>
      rw [ht] at ho
      obtain ⟨k, e, rfl⟩ := ho
      rw [finish_react_error h e]
      rfl
  | ok p =>
      obtain ⟨r', w⟩ := p
      rw [ht] at ho
      obtain ⟨u, e, hx, hc, hur, hw⟩ := ho
      have hst : Stands radix size r' t (u.past y) :=
        h.past hur hx (by rw [hc]) (by rw [hc])
      rw [finish_react h e]
      have hfollows : Follows radix size (u.past y) (Forward.parameters radix w r' t) := by
        cases w with
        | nothing => exact ⟨_, rfl, hst, .inl hw⟩
        | numbers n a =>
            obtain ⟨hm, haw, hpos⟩ := hw
            exact follows_numbers hst ((if_pos hpos).symm ▸ hm) fun _ => haw
        | texts n a =>
            obtain ⟨hm, haw, hpos⟩ := hw
            exact returns_texts hst ((if_pos hpos).symm ▸ hm) fun _ => haw
      dsimp only
      cases hp : Forward.parameters radix w r' t with
      | error f =>
          rw [hp] at hfollows
          obtain ⟨k, hk, rfl⟩ := hfollows
          rw [hk]
          rfl
      | ok p =>
          rw [hp] at hfollows
          exact ha.returns (Forward.length_of_parameters hp) hfollows

/-- The radix markers are the same. -/
theorem marker?_eq (u : Text) : Forward.marker? u = (Mode.ofMarker? u).map Prod.fst := by
  unfold Forward.marker? Mode.ofMarker?
  split <;> simp_all

theorem digits_of_marker {u : Text} {k : Char} {m : Mode} (h : Mode.ofMarker? u = some (k, m)) :
    m = .hexDigits ∨ m = .decDigits ∨ m = .binDigits := by
  unfold Mode.ofMarker? at h
  split at h <;> cases h <;> simp

/-- A number outside of any parameter, with its zero read. -/
theorem Agrees.number (ha : Agrees radix size t.length) (h : Stands radix size r (y :: t) s)
    (hm : s.mode = .number) :
    outcome s.finish =
      match Forward.marker? (upper y) with
      | none => Forward.read radix size (r.tell " ") t
      | some m => Forward.read radix size
          (r.tell (' ' :: m :: uppercase (t.takeWhile (· ≠ ';'))))
          ((t.dropWhile (· ≠ ';')).drop 1) := by
  have e : s.react y = .ok (s.onNumber y) := by
    unfold react
    rw [hm]
  rw [finish_react h e, marker?_eq]
  unfold onNumber
  cases hk : Mode.ofMarker? (upper y) with
  | none =>
      have hst : Stands radix size (r.tell " ") t (((s.tell " ").enter .rest).past y) :=
        h.past (by rw [← h.reading]; rfl) rfl rfl rfl
      exact ha _ _ _ (Nat.le_refl _) hst rfl
  | some p =>
      obtain ⟨k, m⟩ := p
      have hst : Stands radix size (r.tell [' ', k]) t
          ((((s.tell " ").tell [k]).enter m).past y) := by
        refine h.past ?_ rfl rfl rfl
        rw [← h.reading, show ([' ', k] : Text) = " " ++ [k] from rfl, ← Reading.tell_tell]
        rfl
      have hret := returns_digits hst (digits_of_marker hk)
      rw [Reading.tell_tell] at hret
      exact ha.returns (Forward.length_drop_dropWhile_le _ _) hret

theorem react_rest (hm : s.mode = .rest) : s.react x = .ok (s.onRest x) := by
  unfold react
  rw [hm]

/-- A double quote, and the text up to the next one. -/
theorem Agrees.quote (ha : Agrees radix size t.length) (h : Stands radix size r ('"' :: t) s)
    (hm : s.mode = .rest) :
    outcome s.finish = Forward.read radix size r ('"' :: t) := by
  have hon : s.onRest '"' = (s.tell ['"']).enter .quotation := by
    unfold onRest
    rw [upper_eq_quote.mpr rfl]
    rfl
  have hst : Stands radix size (r.tell ['"']) t (((s.tell ['"']).enter .quotation).past '"') :=
    h.past (by rw [← h.reading]; rfl) rfl rfl rfl
  have hret := returns_quotation hst rfl
  rw [Reading.tell_tell] at hret
  rw [finish_react h (react_rest hm), hon, Forward.read_quote]
  exact ha.returns (Forward.length_drop_dropWhile_le _ _) hret

/-- A character that leads nowhere. -/
theorem Agrees.stray (ha : Agrees radix size t.length) (h : Stands radix size r (x :: t) s)
    (hm : s.mode = .rest) (hl : Mode.ofLeading? (upper x) = none) :
    outcome s.finish = Forward.read radix size (r.tell (upper x)) t := by
  have hon : s.onRest x = (s.keep (.strangeCharacter x s.pos)).tell (upper x) := by
    unfold onRest
    rw [hl]
  have hst : Stands radix size (r.tell (upper x)) t
      (((s.keep (.strangeCharacter x s.pos)).tell (upper x)).past x) :=
    h.past (by rw [← h.reading]; rfl) rfl rfl rfl
  rw [finish_react h (react_rest hm), hon]
  exact ha _ _ _ (Nat.le_refl _) hst hm

/-! ### Which characters lead where -/

/-- A character with one of these capitals begins a token. -/
theorem begins_of_upper {d : Char} (hx : upper x = [d])
    (hd : d ∈ ['C', 'K', 'B', 'W', 'F', 'I', 'X']) :
    x ≠ '"' ∧ x ≠ '0' ∧ Forward.begins x = true := by
  refine ⟨?_, ?_, ?_⟩
  · rintro rfl
    rw [upper_eq_quote.mpr rfl] at hx
    obtain rfl := (List.cons.inj hx).1
    exact absurd hd (by decide)
  · rintro rfl
    rw [upper_eq_zero.mpr rfl] at hx
    obtain rfl := (List.cons.inj hx).1
    exact absurd hd (by decide)
  · unfold Forward.begins
    rw [hx, List.contains_iff_mem]
    simpa using hd

/-- The characters that lead somewhere: a double quote, a zero, and those that begin a token. -/
theorem cases_of_leading {m : Mode} (h : Mode.ofLeading? (upper x) = some m) :
    m.isPending = false ∧ (m = .quotation ∧ x = '"' ∨ m = .number ∧ x = '0' ∨
      m ≠ .quotation ∧ m ≠ .number ∧ x ≠ '"' ∧ x ≠ '0' ∧ Forward.begins x = true) := by
  unfold Mode.ofLeading? at h
  split at h <;> cases h <;> rename_i hx <;> refine ⟨rfl, ?_⟩
  case h_7 => exact .inl ⟨rfl, upper_eq_quote.mp hx⟩
  case h_8 => exact .inr (.inl ⟨rfl, upper_eq_zero.mp hx⟩)
  all_goals exact .inr (.inr ⟨nofun, nofun, begins_of_upper hx (by decide)⟩)

/-- All other characters are strays. -/
theorem not_begins_of_stray (h : Mode.ofLeading? (upper x) = none) :
    Forward.begins x = false ∧ x ≠ '"' ∧ x ≠ '0' := by
  refine ⟨?_, ?_, ?_⟩
  · unfold Forward.begins
    unfold Mode.ofLeading? at h
    split at h <;> simp_all
  · rintro rfl
    rw [upper_eq_quote.mpr rfl] at h
    cases h
  · rintro rfl
    rw [upper_eq_zero.mpr rfl] at h
    cases h

/-- A zero or the first character of a token selects a mode and says nothing. -/
theorem onRest_of_leading {m : Mode} (hl : Mode.ofLeading? (upper x) = some m)
    (hq : m ≠ .quotation) : s.onRest x = s.enter m := by
  unfold onRest
  rw [hl]
  cases m <;> first | rfl | contradiction

/-! ### The whole text -/

/-- **The scanner and the forward reader agree on what is left**, however much that is. -/
theorem agrees (radix : Bool) (size n : Nat) : Agrees radix size n := by
  induction n with
  | zero =>
      intro r t s hl h hm
      obtain rfl := List.length_eq_zero_iff.mp (Nat.le_zero.mp hl)
      rw [finish_of_nil h (by rw [hm]; rfl), Forward.read_nil, ← h.reading]
      rfl
  | succ n ih =>
      intro r t s hl h hm
      cases t with
      | nil => exact ih r [] s (Nat.zero_le n) h hm
      | cons x t =>
          have ht : t.length ≤ n := Nat.le_of_succ_le_succ hl
          cases hlead : Mode.ofLeading? (upper x) with
          | none =>
              obtain ⟨hb, hq, h0⟩ := not_begins_of_stray hlead
              rw [Forward.read_stray _ _ _ _ hq h0 hb]
              exact (ih.mono ht).stray h hm hlead
          | some m =>
              obtain ⟨hp, hc⟩ := cases_of_leading hlead
              have hst : Stands radix size r t ((s.enter m).past x) :=
                h.past h.reading rfl rfl rfl
              rcases hc with ⟨rfl, rfl⟩ | ⟨rfl, rfl⟩ | ⟨hq, hn, hxq, hx0, hb⟩
              · exact (ih.mono ht).quote h hm
              · rw [finish_react h (react_rest hm), onRest_of_leading hlead nofun]
                cases t with
                | nil =>
                    rw [finish_of_nil hst rfl, Forward.read_single _ _ _ (by decide) (.inl rfl)]
                    exact congrArg Except.ok hst.reading
                | cons y t =>
                    rw [Forward.read_number]
                    exact (ih.mono (Nat.le_of_succ_le ht)).number hst rfl
              · rw [finish_react h (react_rest hm), onRest_of_leading hlead hq]
                cases t with
                | nil =>
                    -- the text ends within a token, which says nothing then
                    rw [finish_of_nil hst hp, Forward.read_single _ _ _ hxq (.inr hb)]
                    exact congrArg Except.ok hst.reading
                | cons y t =>
                    rw [Forward.read_token _ _ _ _ y hxq hx0 hb]
                    exact (ih.mono (Nat.le_of_succ_le ht)).token hst hlead hq hn

/-- At the front of a text nothing was read and all of it is left. -/
theorem stands_start (honourRadix : Bool) (t : Text) :
    Stands honourRadix t.length .blank t (start honourRadix t) where
  radix := rfl
  size := List.size_toArray
  reading := rfl
  ahead := ⟨[], rfl, rfl⟩

/-- A run from the front of a text. -/
theorem outcome_start (honourRadix : Bool) (t : Text) :
    outcome (start honourRadix t).finish = Forward.read honourRadix t.length .blank t :=
  agrees honourRadix t.length t.length _ t _ (Nat.le_refl _) (stands_start honourRadix t) rfl

end Scanner

namespace Reading

/-- Reading a text is running the scanner from its front. -/
theorem ofCompact_eq_outcome (honourRadix : Bool) (t : Text) :
    ofCompact honourRadix t = Scanner.outcome (Scanner.start honourRadix t).finish := by
  unfold ofCompact
  rw [Scanner.scan_eq_finish]
  cases (Scanner.start honourRadix t).finish <;> rfl

/-- A text that cannot be read stops the scan with the same fault. -/
theorem scan_of_error {honourRadix : Bool} {t : Text} {f : Fault}
    (h : ofCompact honourRadix t = .error f) :
    ∃ k, Scanner.scan honourRadix t = .error k ∧ k.fault = f := by
  unfold ofCompact at h
  cases hs : Scanner.scan honourRadix t with
  | ok s =>
      rw [hs] at h
      cases h
  | error k =>
      rw [hs] at h
      exact ⟨k, rfl, Except.error.inj h⟩

/-- A text of which nothing is left to the forward reader is read as what it has read by then. -/
theorem ofCompact_of_read {honourRadix : Bool} {t : Text} {r : Reading}
    (h : Forward.read honourRadix t.length .blank (t ++ []) =
      Forward.read honourRadix t.length r []) :
    ofCompact honourRadix t = .ok r := by
  rw [List.append_nil, Forward.read_nil] at h
  rw [ofCompact_eq_outcome, Scanner.outcome_start, h]

/-- **The scanner, with all its going back, reads what the forward reader reads**: of every text,
whether radices are honoured or not, it makes the same frames, document, iterations and trace, or
the same misreading at the same position. -/
theorem ofCompact_eq_read (honourRadix : Bool) (t : Text) :
    ofCompact honourRadix t = Forward.read honourRadix t.length .blank t := by
  rw [ofCompact_eq_outcome, Scanner.outcome_start]

end Reading

end StageCues
