import StageCues.Proofs.Forward.Agreement
import StageCues.Proofs.Forward.Alike
import StageCues.Proofs.Scan.Resume
import StageCues.Proofs.Text.Lines

/-!
# Forward — remarks

Some of a cue text is told and has no other effect: the tokens `CL`, `WB`, `WM` and `FT`, quoted
texts, numbers outside of any parameter, and characters that begin nothing (`IsRemark`).  The reader
passes such a remark and has told something, which depends on nothing but the remark
(`read_remark`).

A text that leaves the scanner between two tokens can be followed by remarks, as many as there may
be and whatever they spell: what comes after them is read as if they were not there, further on
(`ofCompact_remarks`).  This is so right behind a parameter too, although the scanner takes the
first character of the remark before it settles the parameter (`ofCompact_append`).
-/

namespace StageCues

open Text

/-- The tokens that are told and have no other effect, in capitals. -/
def remarkTokens : List (Char × Char) := [('C', 'L'), ('W', 'B'), ('W', 'M'), ('F', 'T')]

/-- A piece of text that is told and has no other effect. -/
inductive IsRemark : Text → Prop where
  /-- One of these tokens, in either letter case. -/
  | token {x y : Char} : (x.toUpper, y.toUpper) ∈ remarkTokens → IsRemark [x, y]
  /-- A quoted text. -/
  | quoted {l : Text} : '"' ∉ l → IsRemark ('"' :: (l ++ ['"']))
  /-- A number outside of any parameter. -/
  | number {x : Char} {l : Text} :
      x.toUpper ∈ ['H', 'X', 'D', 'B'] → ';' ∉ l → IsRemark ('0' :: x :: (l ++ [';']))
  /-- A character that begins nothing. -/
  | stray {x : Char} : Mode.ofLeading? (upper x) = none → IsRemark [x]

variable {w : Text} {ws : List Text}

namespace Forward

/-- The tokens that are remarks. -/
theorem token_remark {x y : Char} (h : (x.toUpper, y.toUpper) ∈ remarkTokens) :
    (∃ d ∈ ['C', 'K', 'B', 'W', 'F', 'I', 'X'], upper x = [d]) ∧
      ∃ u, ∀ r pos, token r x y pos = .ok (r.tell u, .nothing) := by
  simp only [remarkTokens, List.mem_cons, Prod.mk.injEq, List.not_mem_nil, or_false] at h
  rcases h with ⟨hx, hy⟩ | ⟨hx, hy⟩ | ⟨hx, hy⟩ | ⟨hx, hy⟩ <;>
    have hx := upper_of_toUpper hx (by decide) <;>
    have hy := upper_of_toUpper hy (by decide)
  · exact ⟨⟨'C', by decide, hx⟩, line "CueList", fun r pos => by simp [token, hx, hy]⟩
  · exact ⟨⟨'W', by decide, hx⟩, "<waitBeatSignal />", fun r pos => by simp [token, hx, hy]⟩
  · exact ⟨⟨'W', by decide, hx⟩, "<waitMilliSeconds />", fun r pos => by simp [token, hx, hy]⟩
  · exact ⟨⟨'F', by decide, hx⟩, "FadeTime", fun r pos => by simp [token, hx, hy]⟩

/-- The radix markers of numbers outside of any parameter. -/
theorem marker?_remark {x : Char} (h : x.toUpper ∈ ['H', 'X', 'D', 'B']) :
    ∃ m, marker? (upper x) = some m := by
  simp only [List.mem_cons, List.not_mem_nil, or_false] at h
  rcases h with hx | hx | hx | hx <;> rw [upper_of_toUpper hx (by decide)] <;> exact ⟨_, rfl⟩

/-- **A remark is passed.**  What is told of it depends on the remark alone. -/
theorem read_remark (h : IsRemark w) :
    ∃ u, ∀ honourRadix size r t,
      read honourRadix size r (w ++ t) = read honourRadix size (r.tell u) t := by
  cases h with
  | @token x y h =>
      obtain ⟨⟨d, hd, hx⟩, u, hu⟩ := token_remark h
      obtain ⟨hq, h0, hb⟩ := Scanner.begins_of_upper hx hd
      refine ⟨u, fun honourRadix size r t => ?_⟩
      show read honourRadix size r (x :: y :: t) = _
      rw [read_token _ _ _ _ y hq h0 hb, hu]
      rfl
  | @quoted l h =>
      refine ⟨'"' :: (l ++ ['"']), fun honourRadix size r t => ?_⟩
      obtain ⟨htake, hdrop⟩ := takeWhile_append_cons h t
      rw [List.cons_append, List.append_assoc, List.singleton_append, read_quote, htake, hdrop]
      rfl
  | @number x l hx h =>
      obtain ⟨m, hm⟩ := marker?_remark hx
      refine ⟨' ' :: m :: uppercase l, fun honourRadix size r t => ?_⟩
      obtain ⟨htake, hdrop⟩ := takeWhile_append_cons h t
      rw [List.cons_append, List.cons_append, List.append_assoc, List.singleton_append,
        read_number, hm, htake, hdrop]
      rfl
  | @stray x h =>
      obtain ⟨hb, hq, h0⟩ := Scanner.not_begins_of_stray h
      exact ⟨upper x, fun honourRadix size r t => read_stray _ _ _ _ hq h0 hb⟩

/-- Remarks are passed, however many. -/
theorem read_remarks (h : ∀ w ∈ ws, IsRemark w) :
    ∃ u, ∀ honourRadix size r t,
      read honourRadix size r (ws.flatten ++ t) = read honourRadix size (r.tell u) t := by
  induction ws with
  | nil =>
      refine ⟨[], fun honourRadix size r t => ?_⟩
      rw [Reading.tell_nil]
      rfl
  | cons w ws ih =>
      obtain ⟨u, hu⟩ := read_remark (h w List.mem_cons_self)
      obtain ⟨v, hv⟩ := ih fun x hx => h x (List.mem_cons_of_mem w hx)
      refine ⟨u ++ v, fun honourRadix size r t => ?_⟩
      rw [List.flatten_cons, List.append_assoc, hu, hv, Reading.tell_tell]

end Forward

/-! ### Remarks within a text -/

/-- Scans with the same ending have the same outcome. -/
theorem Scanner.outcome_congr {r q : Except Halt Scanner} (h : ending r = ending q) :
    outcome r = outcome q := by
  cases r <;> cases q <;> simp only [ending, Ending.mk.injEq, Option.some.injEq, reduceCtorEq,
    false_and, true_and] at h
  · exact congrArg Except.error h.1
  · exact congrArg Except.ok h

/-- A head as it is read has the texts that it has. -/
theorem IsHead.resembles {n : Node} (h : IsHead n) : n.Resembles Eq n := by
  have hrefl : ∀ t : Text, List.Forall₂ Eq t t := List.forall₂_refl
  cases h with
  | predefined => exact .predefined (hrefl _)
  | untitled => exact .linked (hrefl []) (hrefl [])
  | titled => exact .linked (hrefl _) (hrefl _)

theorem IsDocument.resembles {d : Document} (h : IsDocument d) : Document.Resembles Eq d d where
  head := by
    cases hd : d.head with
    | none => exact .none
    | some n => exact .some (h.head n hd).resembles
  body := rfl

/-- Heads with the same texts are equal. -/
theorem Node.Resembles.eq {n m : Node} (h : n.Resembles Eq m) : n = m := by
  cases h with
  | predefined ht =>
      rw [List.forall₂_eq_eq_eq] at ht
      rw [ht]
  | linked ht hp =>
      rw [List.forall₂_eq_eq_eq] at ht hp
      rw [ht, hp]

/-- What is related as equals are is equal. -/
theorem eq_of_rel {α : Type} {R : α → α → Prop} {a b : Option α} (h : Option.Rel R a b)
    (hR : ∀ x y, R x y → x = y) : a = b := by
  cases h with
  | none => rfl
  | some hxy => rw [hR _ _ hxy]

theorem Document.Resembles.eq {d e : Document} (h : Document.Resembles Eq d e) : d = e := by
  obtain ⟨dh, db⟩ := d
  obtain ⟨eh, eb⟩ := e
  obtain ⟨hhead, hbody⟩ := h
  obtain rfl : dh = eh := eq_of_rel hhead fun _ _ hn => hn.eq
  obtain rfl : db = eb := hbody
  rfl

namespace Reading

variable {honourRadix : Bool} {a b : Text} {s : Scanner}

/-- Behind a text that leaves the scanner between two tokens the forward reader goes on. -/
theorem ofCompact_append (e : Scanner.scan honourRadix a = .ok s) (hm : s.mode = .rest) :
    ofCompact honourRadix (a ++ b) =
      Forward.read honourRadix (a ++ b).length (ofScanner s) b := by
  have hending := Scanner.ending_scan_append (b := b) e
  obtain ⟨u, hu, rfl, -⟩ := Scanner.scan_eq_ok e
  have hst : Scanner.Stands honourRadix (a ++ b).length (ofScanner u) b
      ((u.keep (.done u.frames.length)).withText (a ++ b) a.length) := by
    refine ⟨Scanner.radix_finish hu, List.size_toArray, rfl, a, ?_, rfl⟩
    exact List.toList_toArray
  have hread := Scanner.agrees honourRadix (a ++ b).length b.length _ _ _ (Nat.le_refl _) hst hm
  calc ofCompact honourRadix (a ++ b)
      = Scanner.outcome (Scanner.scan honourRadix (a ++ b)) := by
        unfold ofCompact
        cases Scanner.scan honourRadix (a ++ b) <;> rfl
    _ = _ := Scanner.outcome_congr hending
    _ = _ := hread

/-- What is read on from a reading does not depend on what was told before. -/
theorem resembles_tell (e : Scanner.scan honourRadix a = .ok s) (u : Text) :
    (ofScanner s).Resembles Eq (fun _ _ => True) ((ofScanner s).tell u) where
  frames := rfl
  document := by
    have hdoc := (Scanner.wellBuilt_of_scan e).document
    show Option.Rel _ (ofScanner s).document (ofScanner s).document
    cases hd : (ofScanner s).document with
    | none => exact .none
    | some d => exact .some (hdoc d hd).resembles
  iterations := rfl
  trace := trivial

/-- **Remarks are inert.**  Between a text that leaves the scanner between two tokens and any other
text, remarks of any number change neither the cue list nor the document nor the iterations that are
read.  If the text without them is misread so is the text with them, further on by their length; and
if it has a number that is too long the text with them stops at the same one. -/
theorem ofCompact_remarks {ws : List Text} (e : Scanner.scan honourRadix a = .ok s)
    (hm : s.mode = .rest) (hws : ∀ w ∈ ws, IsRemark w) (b : Text) :
    (∃ m pos, ofCompact honourRadix (a ++ b) = .error (.misread m pos) ∧
      ofCompact honourRadix (a ++ ws.flatten ++ b) =
        .error (.misread m (pos + ws.flatten.length))) ∨
    (∃ f, f.isOverlong = true ∧ ofCompact honourRadix (a ++ b) = .error f ∧
      ofCompact honourRadix (a ++ ws.flatten ++ b) = .error f) ∨
    ∃ r q, ofCompact honourRadix (a ++ b) = .ok r ∧
      ofCompact honourRadix (a ++ ws.flatten ++ b) = .ok q ∧
      q.cueList = r.cueList ∧ q.document = r.document ∧ q.iterations = r.iterations := by
  obtain ⟨u, hu⟩ := Forward.read_remarks hws
  have halike := Forward.read_alike isLikeness_eq isTold_true (resembles_tell e u)
    (List.forall₂_refl b) honourRadix (a ++ b).length ws.flatten.length
  have hwith : ofCompact honourRadix (a ++ ws.flatten ++ b) =
      Forward.read honourRadix ((a ++ b).length + ws.flatten.length) ((ofScanner s).tell u) b := by
    rw [List.append_assoc, ofCompact_append e hm, hu]
    congr 1
    simp only [List.length_append]
    omega
  rw [← ofCompact_append e hm, ← hwith] at halike
  rcases halike.of_ofCompact with hmisread | hoverlong | ⟨r, q, hread, hread', hrq⟩
  · exact .inl hmisread
  · exact .inr (.inl hoverlong)
  · have hdoc : r.document = q.document := eq_of_rel hrq.document fun _ _ hd => hd.eq
    refine .inr (.inr ⟨r, q, hread, hread', ?_, hdoc.symm, hrq.iterations.symm⟩)
    unfold cueList
    rw [hrq.frames]

/-- Remarks right behind a parameter, which spell frames and a channel write. -/
theorem ofCompact_remarks_spelled :
    (∃ s, Scanner.scan true "KF0H1;" = .ok s ∧ s.mode = .rest) ∧
    (∀ w ∈ (["\"kfKF\"", "wM", "0dBP;", "Z"] : List Text), IsRemark w) ∧
    ofCompact true "KF0H1;\"kfKF\"wM0dBP;Zkfkf" = .error (.misread .noOpenFrame (9 + 14)) ∧
    ∃ r q, ofCompact true "KF0H1;BP0H2;0H3;kf" = .ok r ∧
      ofCompact true "KF0H1;\"kfKF\"wM0dBP;ZBP0H2;0H3;kf" = .ok q ∧
      q.cueList = r.cueList ∧ q.document = r.document ∧ q.iterations = r.iterations := by
  have hws : ∀ w ∈ (["\"kfKF\"", "wM", "0dBP;", "Z"] : List Text), IsRemark w := by
    simp only [List.forall_mem_cons]
    refine ⟨.quoted (l := "kfKF") (by decide), .token (by decide), ?_, .stray rfl, nofun⟩
    exact .number (l := "BP") (by decide) (by decide)
  obtain ⟨s, e, hm⟩ : ∃ s, Scanner.scan true "KF0H1;" = .ok s ∧ s.mode = .rest := ⟨_, rfl, rfl⟩
  refine ⟨⟨s, e, hm⟩, hws, ?_, ?_⟩
  · have hbare : ofCompact true "KF0H1;kfkf" = .error (.misread .noOpenFrame 9) := rfl
    rcases ofCompact_remarks e hm hws "kfkf" with ⟨m, pos, h, h'⟩ | ⟨f, ho, h, -⟩ | ⟨r, q, h, -⟩
    · obtain ⟨rfl, rfl⟩ := Fault.misread.inj (Except.error.inj (hbare.symm.trans h))
      exact h'
    · obtain rfl := Except.error.inj (hbare.symm.trans h)
      cases ho
    · exact absurd (hbare.symm.trans h) nofun
  · obtain ⟨r, hr⟩ : ∃ r, ofCompact true "KF0H1;BP0H2;0H3;kf" = .ok r := ⟨_, rfl⟩
    rcases ofCompact_remarks e hm hws "BP0H2;0H3;kf" with ⟨m, pos, h, -⟩ | ⟨f, -, h, -⟩ | h
    · exact absurd (hr.symm.trans h) nofun
    · exact absurd (hr.symm.trans h) nofun
    · exact h

end Reading

end StageCues
