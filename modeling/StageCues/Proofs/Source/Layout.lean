import Mathlib.Logic.Relation
import StageCues.Proofs.Text.Quotes
import StageCues.Reading

/-!
# Source — layout

Source text is laid out for the eye: `compact` drops its blanks, but not those inside of double
quotes.

* `Source.parts` is how source text falls into tokens.  Outside of double quotes a run of blanks is
  no token; an opening double quote is one, and behind it stands a span with tokens of its own, up
  to the closing one or to the end of the text.  `compact` leaves the tokens and nothing else
  (`compact_eq_parts`).
* `staysAt` says of each character by its position whether it stays: it is no blank, or an odd
  number of double quotes stand before it (`compact_eq_filter`).
* A dropped blank leaves the number of double quotes before every other character as it was.  That
  is why nothing more is dropped a second time (`compactFrom_compactFrom`), and why a text falls
  apart wherever its double quotes are in pairs (`compactFrom_append`).
* Two texts are `Relaid` if one comes from the other by putting in and taking out blanks outside of
  double quotes.  These are exactly the texts of which the same is left (`relaid_iff`).
-/

namespace StageCues

open Text

/-- Whether the character stays wherever it stands outside of double quotes, and opens none. -/
def isSolid (c : Char) : Bool := c ≠ '"' && !isBlank c

namespace Source

/-- A part of source text: a token, or the tokens of a span behind an opening double quote. -/
inductive Part where
  | token (t : Text)
  | span (ts : List Text)
  deriving DecidableEq, Repr

/-- What a part says. -/
def Part.text : Part → Text
  | .token t => t
  | .span ts => ts.flatten

/-- The tokens behind an opening double quote: what is quoted, and the closing one. -/
def spanTokens (t : Text) : List Text :=
  [t.takeWhile (· ≠ '"'), (t.dropWhile (· ≠ '"')).take 1].filter (· ≠ [])

/-- The parts of source text. -/
def parts : Text → List Part
  | [] => []
  | c :: t =>
    if c = '"' then
      .token [c] :: .span (spanTokens t) :: parts ((t.dropWhile (· ≠ '"')).drop 1)
    else if isBlank c then parts (t.dropWhile isBlank)
    else .token (c :: t.takeWhile isSolid) :: parts (t.dropWhile isSolid)
termination_by t => t.length
decreasing_by
  all_goals simp only [List.length_cons, List.length_drop]
  · have := (List.dropWhile_suffix (· ≠ '"') (l := t)).length_le
    omega
  · exact Nat.lt_succ_of_le (List.dropWhile_suffix _).length_le
  · exact Nat.lt_succ_of_le (List.dropWhile_suffix _).length_le

end Source

/-- Whether the character at the position of the text stays: it is no blank, or it is inside of
double quotes. -/
def staysAt (t : Text) (p : Char × Nat) : Bool := !isBlank p.1 || oddQuotes (t.take p.2)

/-- `u` is `t` with one blank more, outside of double quotes. -/
inductive BlankAdded : Text → Text → Prop where
  | mk {a b : Text} {c : Char} :
      isBlank c = true → oddQuotes a = false → BlankAdded (a ++ b) (a ++ c :: b)

/-- Texts that differ by blanks outside of double quotes, put in or taken out one by one. -/
def Relaid : Text → Text → Prop := Relation.EqvGen BlankAdded

variable {q : Bool} {c : Char} {t u : Text}

/-! ### One character -/

theorem ne_quote_of_isBlank (h : isBlank c = true) : c ≠ '"' := by
  rintro rfl
  simp [isBlank_quote] at h

@[simp] theorem oddQuotes_blank (h : isBlank c = true) : oddQuotes [c] = false := by
  simp [oddQuotes_cons, ne_quote_of_isBlank h]

/-- A blank outside of double quotes goes. -/
theorem compactFrom_blank (h : isBlank c = true) :
    compactFrom false (c :: t) = compactFrom false t := by
  simp [compactFrom, ne_quote_of_isBlank h, h]

/-- Any other character stays. -/
theorem compactFrom_keep (h : ¬(isBlank c = true ∧ q = false)) :
    compactFrom q (c :: t) = c :: compactFrom (q ^^ oddQuotes [c]) t := by
  by_cases hc : c = '"'
  · simp [compactFrom, oddQuotes_cons, hc]
  · have hb : (!q && isBlank c) = false := by
      cases q <;> simp_all
    simp [compactFrom, oddQuotes_cons, hc, hb]

theorem compactFrom_solid (h : isSolid c = true) :
    compactFrom q (c :: t) = c :: compactFrom q t := by
  simp only [isSolid, Bool.and_eq_true, decide_eq_true_eq, Bool.not_eq_true'] at h
  simp [compactFrom, h]

/-- A text of solid characters stays as it is. -/
theorem compact_of_solid (h : t.all isSolid = true) : compact t = t := by
  unfold compact
  induction t with
  | nil => rfl
  | cons c t ih =>
      simp only [List.all_cons, Bool.and_eq_true] at h
      rw [compactFrom_solid h.1, ih h.2]

/-! ### Tokens -/

/-- A span stays up to the closing double quote. -/
theorem compactFrom_span (t : Text) :
    compactFrom true t =
      (Source.spanTokens t).flatten ++ compact ((t.dropWhile (· ≠ '"')).drop 1) := by
  have hflat : (Source.spanTokens t).flatten =
      t.takeWhile (· ≠ '"') ++ (t.dropWhile (· ≠ '"')).take 1 := by
    rw [Source.spanTokens, List.flatten_filter_ne_nil]
    simp
  rw [hflat]
  clear hflat
  induction t with
  | nil => rfl
  | cons c t ih =>
      rw [compactFrom_keep (by simp)]
      by_cases hc : c = '"'
      · simp [compact, oddQuotes_cons, hc]
      · simp [oddQuotes_cons, hc, ih]

/-- A run of blanks goes. -/
theorem compact_dropWhile_blank (t : Text) : compact (t.dropWhile isBlank) = compact t := by
  induction t with
  | nil => rfl
  | cons c t ih =>
      by_cases hc : isBlank c = true
      · rw [List.dropWhile_cons_of_pos hc, ih]
        exact (compactFrom_blank hc).symm
      · rw [List.dropWhile_cons_of_neg hc]

/-- A run of solid characters stays. -/
theorem compact_takeWhile_solid (t : Text) :
    compact t = t.takeWhile isSolid ++ compact (t.dropWhile isSolid) := by
  induction t with
  | nil => rfl
  | cons c t ih =>
      by_cases hc : isSolid c = true
      · rw [List.takeWhile_cons_of_pos hc, List.dropWhile_cons_of_pos hc, List.cons_append, ← ih]
        exact compactFrom_solid hc
      · rw [List.takeWhile_cons_of_neg hc, List.dropWhile_cons_of_neg hc, List.nil_append]

/-- **What is left of source text are its tokens.** -/
theorem compact_eq_parts (t : Text) : compact t = (Source.parts t).flatMap Source.Part.text := by
  induction t using Source.parts.induct with
  | case1 => rw [Source.parts]; rfl
  | case2 t ih =>
      rw [Source.parts, if_pos rfl, List.flatMap_cons, List.flatMap_cons, ← ih]
      show compactFrom false ('"' :: t) = ['"'] ++ ((Source.spanTokens t).flatten ++ _)
      rw [compactFrom_keep (by simp [isBlank_quote]), ← compactFrom_span]
      rfl
  | case3 c t hq hc ih =>
      rw [Source.parts, if_neg hq, if_pos hc, ← ih, compact_dropWhile_blank]
      exact compactFrom_blank hc
  | case4 c t hq hc ih =>
      have hsolid : isSolid c = true := by simp [isSolid, hq, hc]
      rw [Source.parts, if_neg hq, if_neg hc, List.flatMap_cons, ← ih]
      show compactFrom false (c :: t) = c :: (t.takeWhile isSolid) ++ _
      rw [compactFrom_solid hsolid, List.cons_append, ← compact_takeWhile_solid]
      rfl

/-! ### Positions -/

/-- What stays of a text behind another one. -/
theorem compactFrom_eq_filter (a t : Text) :
    compactFrom (oddQuotes a) t =
      ((t.zipIdx a.length).filter (staysAt (a ++ t))).map Prod.fst := by
  induction t generalizing a with
  | nil => rfl
  | cons c t ih =>
      have hstays : staysAt (a ++ c :: t) (c, a.length) = (!isBlank c || oddQuotes a) := by
        simp [staysAt]
      have hrest := ih (a ++ [c])
      rw [oddQuotes_append, List.append_assoc, List.singleton_append, List.length_append,
        List.length_singleton] at hrest
      rw [List.zipIdx_cons, List.filter_cons, hstays]
      by_cases h : isBlank c = true ∧ oddQuotes a = false
      · rw [oddQuotes_blank h.1, Bool.xor_false] at hrest
        rw [h.2] at hrest ⊢
        rw [compactFrom_blank h.1, hrest, h.1]
        rfl
      · have hs : (!isBlank c || oddQuotes a) = true := by
          cases hb : isBlank c <;> cases ha : oddQuotes a <;> simp_all
        rw [compactFrom_keep h, hrest, hs]
        rfl

/-- **The characters that stay are those that are no blanks, and those with an odd number of double
quotes before them.** -/
theorem compact_eq_filter (t : Text) :
    compact t = (t.zipIdx.filter (staysAt t)).map Prod.fst :=
  compactFrom_eq_filter [] t

/-! ### Double quotes -/

theorem oddQuotes_split (c : Char) (t : Text) :
    oddQuotes (c :: t) = (oddQuotes [c] ^^ oddQuotes t) := by
  rw [← List.singleton_append, oddQuotes_append]

/-- What is left of a text and of another one behind it. -/
theorem compactFrom_append (q : Bool) (t u : Text) :
    compactFrom q (t ++ u) = compactFrom q t ++ compactFrom (q ^^ oddQuotes t) u := by
  induction t generalizing q with
  | nil => simp [compactFrom]
  | cons c t ih =>
      rw [List.cons_append, oddQuotes_split]
      by_cases h : isBlank c = true ∧ q = false
      · obtain ⟨hb, rfl⟩ := h
        simp [compactFrom_blank hb, ih, oddQuotes_blank hb]
      · rw [compactFrom_keep h, compactFrom_keep h, ih, List.cons_append, Bool.xor_assoc]

/-- **Of what is left nothing more is dropped.** -/
theorem compactFrom_compactFrom (q : Bool) (t : Text) :
    compactFrom q (compactFrom q t) = compactFrom q t := by
  induction t generalizing q with
  | nil => rfl
  | cons c t ih =>
      by_cases h : isBlank c = true ∧ q = false
      · obtain ⟨hb, rfl⟩ := h
        rw [compactFrom_blank hb, ih]
      · rw [compactFrom_keep h, compactFrom_keep h, ih]

/-- A text with its double quotes in pairs is compacted on its own. -/
theorem compact_append (h : oddQuotes t = false) : compact (t ++ u) = compact t ++ compact u := by
  unfold compact
  rw [compactFrom_append, h]
  rfl

/-! ### Blanks put in and taken out -/

/-- A blank outside of double quotes is not seen. -/
theorem BlankAdded.compact_eq (h : BlankAdded t u) : compact t = compact u := by
  obtain ⟨hb, ha⟩ := h
  rw [compact_append ha, compact_append ha]
  unfold compact
  rw [compactFrom_blank hb]

/-- Behind another text, a text and what is left of it differ by blanks. -/
theorem relaid_compactFrom (a t : Text) : Relaid (a ++ t) (a ++ compactFrom (oddQuotes a) t) := by
  induction t generalizing a with
  | nil => exact .refl _
  | cons c t ih =>
      by_cases h : isBlank c = true ∧ oddQuotes a = false
      · have hstep : Relaid (a ++ c :: t) (a ++ t) := .symm _ _ (.rel _ _ (.mk h.1 h.2))
        have hrest := ih a
        rw [h.2] at hrest ⊢
        rw [compactFrom_blank h.1]
        exact .trans _ _ _ hstep hrest
      · have hrest := ih (a ++ [c])
        rw [compactFrom_keep h]
        rwa [oddQuotes_append, List.append_assoc, List.append_assoc] at hrest

/-- **Texts differ by blanks outside of double quotes exactly if the same is left of them.** -/
theorem relaid_iff : Relaid t u ↔ compact t = compact u := by
  constructor
  · intro h
    induction h with
    | rel _ _ h => exact h.compact_eq
    | refl _ => rfl
    | symm _ _ _ ih => exact ih.symm
    | trans _ _ _ _ _ ih ih' => exact ih.trans ih'
  · intro h
    have ht : Relaid t (compact t) := relaid_compactFrom [] t
    have hu : Relaid u (compact u) := relaid_compactFrom [] u
    exact .trans _ _ _ (h ▸ ht) (.symm _ _ hu)

/-- **What is dropped from source text.**  What is left are the tokens of the text, that is, the
characters that are no blanks and those with an odd number of double quotes before them; an
unclosed double quote reaches up to the end.  Of what is left nothing more is dropped; a text with
its double quotes in pairs can be taken apart from what stands behind it; and texts that differ by
blanks at places with an even number of double quotes before them are read alike, or misread alike
at the same position. -/
theorem compact_layout (t : Text) :
    compact t = (Source.parts t).flatMap Source.Part.text ∧
    compact t = (t.zipIdx.filter (staysAt t)).map Prod.fst ∧
    compact (compact t) = compact t ∧
    (oddQuotes t = false → ∀ u, compact (t ++ u) = compact t ++ compact u) ∧
    ∀ u, Relaid t u → ∀ honourRadix,
      Reading.ofSource honourRadix t = Reading.ofSource honourRadix u := by
  refine ⟨compact_eq_parts t, compact_eq_filter t, compactFrom_compactFrom false t,
    fun h u => compact_append h, fun u h honourRadix => ?_⟩
  unfold Reading.ofSource
  rw [relaid_iff.mp h]

/-- Blanks between and inside of double quotes, of which the last is not closed. -/
theorem compact_layout_unclosed :
    compact "K F\t\"a  b\" 0 \" c" = "KF\"a  b\"0\" c" ∧
    oddQuotes "K F\t\"a  b\" 0 " = false ∧
    compact "K F\t\"a  b\" 0 \" c" = compact "K F\t\"a  b\" 0 " ++ compact "\" c" ∧
    Relaid "K F0 H1;" "KF0H1;" ∧
    Reading.ofSource true "K F0 H1;" = Reading.ofSource true "KF0H1;" := by
  have hodd : oddQuotes "K F\t\"a  b\" 0 " = false := by decide
  have hsplit := (compact_layout "K F\t\"a  b\" 0 ").2.2.2.1 hodd "\" c"
  have hrelaid : Relaid "K F0 H1;" "KF0H1;" := relaid_iff.mpr (by decide)
  refine ⟨by decide, hodd, hsplit, hrelaid, ?_⟩
  exact (compact_layout "K F0 H1;").2.2.2.2 "KF0H1;" hrelaid true

end StageCues
