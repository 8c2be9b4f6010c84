import StageCues.Proofs.Written.Gauge

/-!
# Written — a title that is not quotable is lost

The literal of a text that is not quotable is cut at a semicolon of its own (`cutText_early`), so
that another text is received in its place.  What is left of the literal is read as tokens then, and
whatever these are, it is too light to make up for the loss: `titleWorth` and `fileWorth` are what
it costs to come as far towards a head for a built-in schema and towards one for a schema file.
-/

namespace StageCues

open Text

namespace Forward

variable {t u rest : Text} {r r' : Reading} {d : Document} {k : Kind}

/-! ### A cut that comes too early -/

/-- The literal of a text with paired double quotes that is not quotable is cut at a semicolon of
the text, and what is received is another text. -/
theorem cutText_early (ho : oddQuotes u = false) (hq : quotable u = false) (t : Text) :
    ∃ l rest, cutText false (textLiteral u ++ t) = some (l, rest) ∧ stripQuotes l ≠ u ∧
      weight rest ≤ weight u + weight t := by
  have hg : guarded true u = false := by
    unfold quotable at hq
    simpa [ho] using hq
  obtain ⟨a, b, rfl, ha, hodd⟩ := exists_of_not_guarded hg
  have hodd : oddQuotes a = true := by simpa using hodd
  refine ⟨'"' :: a, b ++ '"' :: ';' :: t, ?_, fun hsame => ?_, ?_⟩
  · refine cutText_eq_some_iff.mpr ⟨?_, ha, ?_⟩
    · simp [textLiteral]
    · rw [oddQuotes_cons, hodd]
      rfl
  · -- behind the cut there is at least the double quote that makes them even
    have hb : b ≠ [] := by
      rintro rfl
      rw [oddQuotes_append, hodd] at ho
      cases ho
    have hlen := (stripQuotes_sublist ('"' :: a)).length_le
    have hpos := List.length_pos_iff.mpr hb
    rw [hsame, List.length_append, List.length_cons, List.length_cons] at hlen
    omega
  · have h₁ := weight_cut a b
    have h₂ : weight (b ++ '"' :: ';' :: t) = weight b + (1 + weight t) := by
      rw [weight_append, weight_cons '"', weight_cons ';', ← Nat.add_assoc (weight ['"'])]
      rfl
    omega

/-! ### What a head costs -/

/-- The worth of a document by its head: so much without one, and by the kind with one. -/
def headWorth (missing : Nat) (worth : Kind → Nat) : Option Document → Nat
  | none => 0
  | some d => (d.head.map fun h => worth h.kind).getD missing

theorem isGauge_headWorth {missing : Nat} {worth : Kind → Nat} (hm : missing ≤ 1)
    (hp : worth (.newPredefinedHead 0) ≤ missing) (hl : worth .newLinkedHead ≤ missing)
    (hn : ∀ k n, worth (k.receive (.number n)) ≤ worth k + 1)
    (ht : ∀ k u, worth (k.receive (.text u)) ≤ worth k + (weight u + 1)) :
    IsGauge (headWorth missing worth) where
  start := hm
  head := by
    rintro ⟨head, body⟩ k hk
    cases head with
    | some h => exact Nat.le_refl _
    | none =>
        show worth k ≤ missing
        rcases hk with rfl | rfl
        · exact hp
        · exact hl
  number := by
    rintro ⟨head, body⟩ n
    cases head with
    | some h => exact hn h.kind n
    | none => exact Nat.le_succ _
  text := by
    rintro ⟨head, body⟩ u
    cases head with
    | some h => exact ht h.kind u
    | none => exact Nat.le_add_right _ _

/-- How far the head has come towards one for a built-in schema with the title. -/
def titleWorth (title : Text) : Kind → Nat
  | .predefinedHead _ _ t _ => if t = .text title then weight title + 1 else 0
  | _ => 0

theorem isGauge_titleWorth {title : Text} (h : title ≠ []) :
    IsGauge (headWorth 0 (titleWorth title)) := by
  refine isGauge_headWorth (Nat.zero_le _) ?_ (Nat.le_refl _) (fun k n => ?_) (fun k u => ?_)
  · show (if PlainValue.text [] = .text title then _ else 0) ≤ 0
    rw [if_neg (by simpa using h.symm)]
  · cases k with
    | predefinedHead v i t b => cases b <;> exact Nat.le_succ _
    | _ => exact Nat.zero_le _
  · cases k with
    | predefinedHead v i t b =>
        have hr : (Kind.predefinedHead v i t b).receive (.text u) = .predefinedHead v i u b := by
          cases b <;> rfl
        rw [hr]
        show (if PlainValue.text u = .text title then weight title + 1 else 0) ≤ _
        split
        · next hu =>
          obtain rfl := PlainValue.text.inj hu
          exact Nat.le_add_left _ _
        · exact Nat.zero_le _
    | linkedHead v t p b => cases b <;> exact Nat.zero_le _
    | _ => exact Nat.zero_le _

/-- How far the head has come towards one for a schema file with the version, the title and the
path.  One with another title leads nowhere. -/
def fileWorth (version : Int) (title path : Text) : Kind → Nat
  | .linkedHead v t p titled =>
    -- the first text is the title for good
    if titled = true ∧ t ≠ .text title then 0
    else 1 + (if titled = true then weight title + 1 else 0) +
      (if p = .text path ∧ path ≠ [] then weight path + 1 else 0) +
      (if v.number = version ∧ version ≠ 0 then 1 else 0)
  | _ => 0

theorem isGauge_fileWorth (version : Int) (title path : Text) :
    IsGauge (headWorth 1 (fileWorth version title path)) := by
  refine isGauge_headWorth (Nat.le_refl _) (Nat.zero_le _) ?_ (fun k n => ?_) (fun k u => ?_)
  · simp only [fileWorth, Kind.newLinkedHead, PlainValue.blank, SchemaVersion.number]
    grind
  · cases k with
    | linkedHead v t p b =>
        show fileWorth version title path (.linkedHead (.ofNumber n) t p b) ≤
          fileWorth version title path (.linkedHead v t p b) + 1
        unfold fileWorth
        grind
    | predefinedHead v i t b => cases b <;> exact Nat.zero_le _
    | _ => exact Nat.zero_le _
  · cases k with
    | linkedHead v t p b =>
        unfold fileWorth
        cases b with
        | false =>
            -- the text is the title: it pays for being the right one
            simp only [Kind.receive]
            grind
        | true =>
            -- the text is the path, in place of another one
            simp only [Kind.receive]
            grind
    | predefinedHead v i t b => cases b <;> exact Nat.zero_le _
    | _ => exact Nat.zero_le _

/-! ### Reading on behind such a cut -/

theorem weight_textLiteral (u : Text) : weight (textLiteral u) = weight u + 1 := by
  unfold textLiteral
  rw [weight_append, weight_append, Nat.add_assoc]
  exact Nat.zero_add _

theorem weight_numberLiteral {m : Int} (hm : 0 ≤ m) : weight (numberLiteral m) = 1 := by
  obtain ⟨m, rfl⟩ := Int.eq_ofNat_of_zero_le hm
  have hnot : ∀ c, c = ';' ∨ c = '!' → c ∉ paddedHex m := by
    rintro c hc hmem
    have hdigit := isDigitOf_of_mem_paddedHex hmem
    rcases hc with rfl | rfl <;> exact absurd hdigit (by decide)
  have hdigits : weight (paddedHex m) = 0 := by
    unfold weight
    rw [List.count_eq_zero.mpr (hnot _ (.inl rfl)), List.count_eq_zero.mpr (hnot _ (.inr rfl))]
  unfold numberLiteral
  rw [weight_append, weight_append, hdigits]
  rfl

/-- A version that is not zero is written with one semicolon. -/
theorem weight_version {m : Int} (hm : 0 ≤ m) :
    weight (textIf (m ≠ 0) ("X@" ++ numberLiteral m)) = if m ≠ 0 then 1 else 0 := by
  unfold textIf
  rw [apply_ite weight, weight_append, weight_numberLiteral hm]
  simp only [decide_eq_true_eq]
  rfl

variable {honourRadix : Bool} {size : Nat} {v i : Int} {p : Text}

/-- A head for a built-in schema with a title that is not quotable: what is read instead of its
title, and behind that, does not make the title. -/
theorem worth_of_title (hv : 0 ≤ v) (hi : 0 ≤ i) (ho : oddQuotes u = false)
    (hq : quotable u = false)
    (h : read honourRadix size r ("X!" ++ ("X@" ++ numberLiteral v ++
      textIf (i ≠ 0) ("X@" ++ numberLiteral i) ++ ("X+" ++ textLiteral u))) = .ok r') :
    headWorth 0 (titleWorth u) r'.document ≤ weight u := by
  have hu : u ≠ [] := by
    rintro rfl
    cases hq
  have hg := isGauge_titleWorth hu
  have hstart : Passes honourRadix size r "X!" .blank := passes_start r
  obtain ⟨r₁, h₁, -, hd₁, -⟩ := hstart
  have hnumbers : Passes honourRadix size r₁ _ _ := passes_numbers hv hi hd₁
  obtain ⟨r₂, h₂, -, hd₂, -⟩ := hnumbers
  obtain ⟨l, rest, hcut, hne, hweight⟩ := cutText_early ho hq []
  rw [List.append_nil] at hcut
  rw [h₁, h₂, read_title hd₂, show textCount _ = 1 from rfl] at h
  simp only [texts, hcut] at h
  -- what was received is worth nothing, so all has to come from what is behind the cut
  have hread := hg.read h
  have hzero : titleWorth u (.predefinedHead (.ofNumber v) i (stripQuotes l) true) = 0 :=
    if_neg (by simpa using hne)
  have hlost : headWorth 0 (titleWorth u) ((heading r₂ (withHead (headed (.predefinedHead
      (.ofNumber v) i .blank true)) .newLinkedHead) "Title").give (.text (stripQuotes l))
        .head).document = 0 := hzero
  rw [hlost] at hread
  rw [weight_nil] at hweight
  omega

/-- A head for a schema file with a title that is not quotable. -/
theorem worth_of_file_title (version : Int) (ho : oddQuotes u = false) (hq : quotable u = false)
    (h : read honourRadix size r ("X!" ++ ("X+" ++ (textLiteral u ++ t))) = .ok r') :
    headWorth 1 (fileWorth version u p) r'.document ≤ weight u + weight t := by
  have hg := isGauge_fileWorth version u p
  have hstart : Passes honourRadix size r "X!" .blank := passes_start r
  obtain ⟨r₁, h₁, -, hd₁, -⟩ := hstart
  obtain ⟨l, rest, hcut, hne, hweight⟩ := cutText_early ho hq t
  rw [h₁, read_title hd₁, show textCount _ = 1 + 1 from rfl, texts] at h
  simp only [hcut] at h
  -- the wrong title is never made up for, and the path is taken from what is behind the cut
  have hread := hg.read h
  have htexts := hg.texts (a := .head) 1
    ((heading r₁ (withHead .blank .newLinkedHead) "Title").give (.text (stripQuotes l)) .head) rest
  have hzero : fileWorth version u p (.linkedHead .empty (stripQuotes l) .blank true) = 0 :=
    if_pos ⟨rfl, by simpa using hne⟩
  have hlost : headWorth 1 (fileWorth version u p) ((heading r₁ (withHead .blank .newLinkedHead)
      "Title").give (.text (stripQuotes l)) .head).document = 0 := hzero
  rw [hlost] at htexts
  omega

/-- A head for a schema file with a title that is quotable, and a path that is not. -/
theorem worth_of_file_path (version : Int) (hu : quotable u = true) (ho : oddQuotes p = false)
    (hq : quotable p = false)
    (h : read honourRadix size r ("X!" ++ ("X+" ++ (textLiteral u ++ (textLiteral p ++ t)))) =
      .ok r') :
    headWorth 1 (fileWorth version u p) r'.document ≤ 1 + (weight u + 1) + weight p + weight t := by
  have hg := isGauge_fileWorth version u p
  have hstart : Passes honourRadix size r "X!" .blank := passes_start r
  obtain ⟨r₁, h₁, -, hd₁, -⟩ := hstart
  obtain ⟨l, rest, hcut, hne, hweight⟩ := cutText_early ho hq t
  rw [h₁, read_title hd₁, show textCount _ = 1 + 1 from rfl, texts_literal hu] at h
  simp only [texts, hcut] at h
  have hread := hg.read h
  have htitle : fileWorth version u p (.linkedHead .empty u (stripQuotes l) true) =
      1 + (weight u + 1) := by
    have hversion : ¬(0 = version ∧ version ≠ 0) := fun hz => hz.2 hz.1.symm
    simp [fileWorth, hne, SchemaVersion.number, hversion]
  have hlost : headWorth 1 (fileWorth version u p) (((heading r₁ (withHead .blank .newLinkedHead)
      "Title").give (.text u) .head).give (.text (stripQuotes l)) .head).document =
        1 + (weight u + 1) := htitle
  rw [hlost] at hread
  omega

end Forward

end StageCues
