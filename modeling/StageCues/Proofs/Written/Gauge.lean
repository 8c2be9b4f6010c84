import StageCues.Proofs.Written.Heads

/-!
# Written — what a text can bring about

Whatever is made of the head of a document has to be paid for with characters of the text: a new
document with an exclamation mark, a number with a semicolon, and a text with all of its own
exclamation marks and semicolons and the one that ends it.  The `weight` of a text counts these
characters.  A gauge puts a worth on documents that grows by no more than what is paid
(`IsGauge`), and then reading adds no more to the worth of the document than the weight of the text
(`IsGauge.read`).

So a text that is too light does not make a document of a certain worth, whatever it says.
-/

namespace StageCues

open Text

/-- The number of semicolons and exclamation marks in the text. -/
def Text.weight (t : Text) : Nat := t.count ';' + t.count '!'

namespace Text

variable {t u : Text}

@[simp] theorem weight_nil : weight [] = 0 := rfl

@[simp] theorem weight_append (t u : Text) : weight (t ++ u) = weight t + weight u := by
  simp only [weight, List.count_append]
  omega

theorem weight_cons (c : Char) (t : Text) : weight (c :: t) = weight [c] + weight t :=
  weight_append [c] t

/-- A part of a text is no heavier. -/
theorem weight_le (h : t.Sublist u) : weight t ≤ weight u :=
  Nat.add_le_add (h.count_le _) (h.count_le _)

end Text

namespace Forward

/-- A worth of documents that grows by no more than the weight of what is read. -/
structure IsGauge (worth : Option Document → Nat) : Prop where
  start : worth (some .blank) ≤ 1
  head : ∀ d k, k = .newPredefinedHead 0 ∨ k = .newLinkedHead →
    worth (some (withHead d k)) ≤ worth (some d)
  number : ∀ d n, worth (some (received d (.number n))) ≤ worth (some d) + 1
  text : ∀ d u, worth (some (received d (.text u))) ≤ worth (some d) + (weight u + 1)

variable {worth : Option Document → Nat} {honourRadix : Bool} {size n : Nat} {a : Address}
  {r r' : Reading} {t l rest : Text} {x y : Char} {w : Wanted} {pos : Int}

/-! ### Parameters -/

theorem cutNumber_eq_some (h : cutNumber t = some (l, rest)) : t = l ++ ';' :: rest := by
  induction t generalizing l with
  | nil => cases h
  | cons c t ih =>
      unfold cutNumber at h
      split at h
      · next hc =>
        cases h
        rw [hc]
        rfl
      · obtain ⟨⟨l', rest'⟩, hcut, h⟩ := Option.map_eq_some_iff.mp h
        cases h
        rw [ih hcut]
        rfl

/-- A literal and the semicolon behind it. -/
theorem weight_cut (l rest : Text) : weight (l ++ ';' :: rest) = weight l + 1 + weight rest := by
  rw [weight_append, weight_cons, Nat.add_assoc]
  rfl

theorem IsGauge.give_number (hg : IsGauge worth) (m : Int) (a : Address) :
    worth (r.give (.number m) a).document ≤ worth r.document + 1 := by
  cases a with
  | frame i => exact Nat.le_succ _
  | write i j => exact Nat.le_succ _
  | head =>
      show worth (r.document.map fun d => received d (.number m)) ≤ _
      cases r.document with
      | none => exact Nat.le_succ _
      | some d => exact hg.number d m

theorem IsGauge.give_text (hg : IsGauge worth) (u : Text) (a : Address) :
    worth (r.give (.text u) a).document ≤ worth r.document + (weight u + 1) := by
  cases a with
  | frame i => exact Nat.le_add_right _ _
  | write i j => exact Nat.le_add_right _ _
  | head =>
      show worth (r.document.map fun d => received d (.text u)) ≤ _
      cases r.document with
      | none => exact Nat.le_add_right _ _
      | some d => exact hg.text d u

/-- Numbers are paid for with the semicolons behind them. -/
theorem IsGauge.numbers {n : Nat} {rest : Text} (hg : IsGauge worth)
    (h : numbers honourRadix a n r t = .ok (r', rest)) :
    worth r'.document + weight rest ≤ worth r.document + weight t := by
  induction n generalizing r t with
  | zero =>
      cases h
      exact Nat.le_refl _
  | succ n ih =>
      cases t with
      | nil =>
          cases h
          exact Nat.le_refl _
      | cons c t =>
          unfold Forward.numbers at h
          split at h
          · cases h
            exact Nat.le_refl _
          · split at h
            · cases h
              exact Nat.add_le_add_left (Nat.zero_le _) _
            · next l behind hcut =>
              split at h
              · cases h
              · next v hv =>
                have hrest := ih h
                have hgive := hg.give_number (r := r) v a
                have ht := weight_cut l behind
                rw [← cutNumber_eq_some hcut] at ht
                omega

/-- Texts are paid for with themselves and with the semicolons behind them. -/
theorem IsGauge.texts (hg : IsGauge worth) (n : Nat) (r : Reading) (t : Text) :
    worth (texts a n r t).1.document + weight (texts a n r t).2 ≤ worth r.document + weight t := by
  induction n generalizing r t with
  | zero => exact Nat.le_refl _
  | succ n ih =>
      unfold Forward.texts
      split
      · exact Nat.add_le_add_left (Nat.zero_le _) _
      · next l rest h =>
        have hrest := ih (r.give (.text (stripQuotes l)) a) rest
        have hgive := hg.give_text (r := r) (stripQuotes l) a
        have hstrip := weight_le (stripQuotes_sublist l)
        have ht := weight_cut l rest
        rw [← (cutText_eq_some_iff.mp h).1] at ht
        omega

theorem IsGauge.parameters {rest : Text} (hg : IsGauge worth)
    (h : parameters honourRadix w r t = .ok (r', rest)) :
    worth r'.document + weight rest ≤ worth r.document + weight t := by
  cases w with
  | nothing =>
      cases h
      exact Nat.le_refl _
  | numbers n a => exact hg.numbers h
  | texts n a =>
      obtain ⟨rfl, rfl⟩ := Prod.mk.inj (Except.ok.inj h)
      exact hg.texts n r t

/-! ### Tokens -/

theorem document_of_tellLines {lines : List (Except Fault Text)} (h : r.tellLines lines = .ok r') :
    r'.document = r.document := by
  induction lines generalizing r with
  | nil =>
      cases h
      rfl
  | cons l lines ih =>
      cases l with
      | error f => cases h
      | ok u => exact ih (r := r.tell (line u)) h

theorem document_of_endFrame {i : Nat} (h : endFrame r i = .ok r') : r'.document = r.document := by
  unfold endFrame at h
  rw [document_of_tellLines h]
  rfl

theorem document_of_frame (h : frame r x y pos = .ok (r', w)) : r'.document = r.document := by
  unfold frame at h
  split at h
  · cases h
  · split at h
    · cases h; rfl
    · split at h <;> cases h
      rfl
  · split at h
    · cases h
    · obtain ⟨r₁, he, h⟩ := map_eq_ok.mp h
      obtain ⟨rfl, -⟩ := Prod.mk.inj h
      exact document_of_endFrame he

theorem document_of_write (h : write r pos = .ok (r', w)) : r'.document = r.document := by
  unfold write at h
  split at h <;> cases h
  rfl

theorem document_of_head {k : Kind} {told : Text} {wanted : Node → Wanted}
    (h : head r k told wanted pos = .ok (r', w)) :
    ∃ d, r.document = some d ∧ r'.document = some (withHead d k) := by
  unfold head at h
  split at h
  · cases h
  · next d hd =>
    cases h
    exact ⟨d, hd, rfl⟩

/-- A token starts a document, makes sure that there is a head, or leaves the document alone. -/
theorem document_of_token (h : token r x y pos = .ok (r', w)) :
    r'.document = r.document ∨ y = '!' ∧ r'.document = some .blank ∨
      ∃ d k, r.document = some d ∧ (k = .newPredefinedHead 0 ∨ k = .newLinkedHead) ∧
        r'.document = some (withHead d k) := by
  unfold token at h
  split at h
  · cases h
    exact .inl (by split <;> rfl)
  · split at h
    · exact .inl (document_of_frame h)
    · cases h; exact .inl rfl
  · split at h
    · exact .inl (document_of_write h)
    · cases h; exact .inl rfl
  · cases h
    refine .inl ?_
    split
    · rfl
    · split <;> rfl
  · cases h
    refine .inl ?_
    split
    · rfl
    · split <;> rfl
  · cases h
    exact .inl (by split <;> rfl)
  · split at h
    · next hy =>
      cases h
      exact .inr (.inl ⟨(upper_eq_iff rfl ⟨rfl, rfl⟩).mp hy, rfl⟩)
    · split at h
      · obtain ⟨d, hd, hr⟩ := document_of_head h
        exact .inr (.inr ⟨d, _, hd, .inl rfl, hr⟩)
      · split at h
        · obtain ⟨d, hd, hr⟩ := document_of_head h
          exact .inr (.inr ⟨d, _, hd, .inr rfl, hr⟩)
        · cases h; exact .inl rfl
  · cases h; exact .inl rfl

/-- A document is paid for with the exclamation mark. -/
theorem IsGauge.token (hg : IsGauge worth) (h : token r x y pos = .ok (r', w)) :
    worth r'.document ≤ worth r.document + weight [y] := by
  rcases document_of_token h with hr | ⟨rfl, hr⟩ | ⟨d, k, hd, hk, hr⟩
  · rw [hr]
    exact Nat.le_add_right _ _
  · rw [hr]
    exact Nat.le_trans hg.start (Nat.le_add_left _ _)
  · rw [hr, hd]
    exact Nat.le_trans (hg.head d k hk) (Nat.le_add_right _ _)

/-! ### The whole text -/

theorem weight_drop_dropWhile_le (p : Char → Bool) (t : Text) :
    weight ((t.dropWhile p).drop 1) ≤ weight t :=
  weight_le ((List.drop_sublist _ _).trans (List.dropWhile_suffix p).sublist)

/-- **Reading adds no more to the worth of the document than the weight of the text.** -/
theorem IsGauge.read (hg : IsGauge worth) (h : read honourRadix size r t = .ok r') :
    worth r'.document ≤ worth r.document + weight t := by
  induction hn : t.length using Nat.strongRecOn generalizing r t with
  | ind n ih =>
      subst hn
      cases t with
      | nil =>
          rw [read_nil] at h
          cases h
          exact Nat.le_refl _
      | cons x t =>
          have hx := weight_cons x t
          by_cases hq : x = '"'
          · subst hq
            rw [read_quote] at h
            have hlen := length_drop_dropWhile_le (· ≠ '"') t
            have hrest := ih _ (by simp only [List.length_cons]; omega) h rfl
            have hdrop := weight_drop_dropWhile_le (· ≠ '"') t
            simp only [Reading.tell] at hrest
            omega
          · by_cases hs : x ≠ '0' ∧ begins x = false
            · rw [read_stray _ _ _ _ hq hs.1 hs.2] at h
              have hrest := ih _ (Nat.lt_succ_self _) h rfl
              simp only [Reading.tell] at hrest
              omega
            · cases t with
              | nil =>
                  rw [read_single _ _ _ hq (by grind)] at h
                  cases h
                  exact Nat.le_add_right _ _
              | cons y t =>
                  have hy := weight_cons y t
                  by_cases h0 : x = '0'
                  · subst h0
                    rw [read_number] at h
                    split at h
                    · have hrest := ih _ (by simp only [List.length_cons]; omega) h rfl
                      simp only [Reading.tell] at hrest
                      omega
                    · -- a number outside of parameters is told, and is no number for the head
                      have hlen := length_drop_dropWhile_le (· ≠ ';') t
                      have hrest := ih _ (by simp only [List.length_cons]; omega) h rfl
                      have hdrop := weight_drop_dropWhile_le (· ≠ ';') t
                      simp only [Reading.tell] at hrest
                      omega
                  · rw [read_token _ _ _ _ y hq h0 (by grind)] at h
                    split at h
                    · cases h
                    · next r₁ w ht =>
                      split at h
                      · cases h
                      · next r₂ rest hp =>
                        -- the token is paid for with its second character, its parameters with
                        -- theirs
                        have hlen := length_of_parameters hp
                        have hrest := ih _ (by simp only [List.length_cons]; omega) h rfl
                        have hparameters := hg.parameters hp
                        have htoken := hg.token ht
                        omega

end Forward

end StageCues
