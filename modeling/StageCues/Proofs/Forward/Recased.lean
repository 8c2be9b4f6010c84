import StageCues.Proofs.Forward.Agreement
import StageCues.Proofs.Forward.Alike
import StageCues.Proofs.Meaning.Frames
import StageCues.Proofs.Written.Frames

/-!
# Forward — letters in another case

The case of a letter decides in a frame token only, where it makes the difference between the start
of a frame, the start of an empty one and the end of one.  So texts that differ in the case of ASCII
letters other than `K` and `F` say the same: they are misread for the same reason at the same place,
or they have the same number that is too long, or they are read with the same frames and iterations,
with the same trace in capitals, and with documents that differ in the case of letters of their
texts at most (`ofCompact_recased`).
-/

namespace StageCues.Reading

open Text

variable {t u : Text}

/-- **The case of letters, `K` and `F` apart, decides nothing.**  Texts that differ in it are both
misread, for the same reason and at the same place; or both are stopped by the same number that is
too long; or both are read, as the same cue list, with iterations of the same classes, with the same
trace in capitals, and without a document or with documents of which the heads have the same class
and numbers and the same texts up to case. -/
theorem ofCompact_recased (honourRadix : Bool) (h : List.Forall₂ Recased t u) :
    (∃ m pos, ofCompact honourRadix t = .error (.misread m pos) ∧
      ofCompact honourRadix u = .error (.misread m pos)) ∨
    (∃ f, f.isOverlong = true ∧ ofCompact honourRadix t = .error f ∧
      ofCompact honourRadix u = .error f) ∨
    ∃ r q, ofCompact honourRadix t = .ok r ∧ ofCompact honourRadix u = .ok q ∧
      r.cueList.same q.cueList = true ∧
      r.iterations.map Node.cls = q.iterations.map Node.cls ∧
      uppercase r.trace = uppercase q.trace ∧
      Option.Rel (Document.Resembles Recased) r.document q.document := by
  have hblank : Reading.blank.Resembles Recased (fun t u => uppercase t = uppercase u) .blank :=
    ⟨rfl, .none, rfl, rfl⟩
  have halike := Forward.read_alike isLikeness_recased isTold_uppercase hblank h honourRadix
    t.length 0
  have ht : Forward.read honourRadix t.length .blank t = ofCompact honourRadix t := by
    rw [ofCompact_eq_outcome, Scanner.outcome_start]
  have hu : Forward.read honourRadix (t.length + 0) .blank u = ofCompact honourRadix u := by
    rw [ofCompact_eq_outcome, Scanner.outcome_start, Nat.add_zero, h.length_eq]
  rw [ht, hu] at halike
  rcases halike.of_ofCompact with
    ⟨m, pos, hread, hread'⟩ | hoverlong | ⟨r, q, hread, hread', hrq⟩
  · exact .inl ⟨m, pos, hread, by rw [hread']; simp⟩
  · exact .inr (.inl hoverlong)
  · refine .inr (.inr ⟨r, q, hread, hread', ?_, ?_, hrq.trace, hrq.document⟩)
    · unfold cueList
      rw [hrq.frames]
      exact Node.same_refl _
    · rw [hrq.iterations]

/-- Tokens, a radix marker and a title in another case. -/
theorem ofCompact_recased_title :
    List.Forall₂ Recased "KF0d10;kfx!X+bd\"c;d\";" "KF0D10;kfX!X+Bd\"C;d\";" ∧
    ∃ r q, ofCompact true "KF0d10;kfx!X+bd\"c;d\";" = .ok r ∧
      ofCompact true "KF0D10;kfX!X+Bd\"C;d\";" = .ok q ∧
      r.cueList.same q.cueList = true ∧
      r.iterations.map Node.cls = q.iterations.map Node.cls ∧
      uppercase r.trace = uppercase q.trace ∧
      Option.Rel (Document.Resembles Recased) r.document q.document := by
  have h : List.Forall₂ Recased "KF0d10;kfx!X+bd\"c;d\";" "KF0D10;kfX!X+Bd\"C;d\";" := by decide
  obtain ⟨r, hr⟩ : ∃ r, ofCompact true "KF0d10;kfx!X+bd\"c;d\";" = .ok r := ⟨_, rfl⟩
  refine ⟨h, ?_⟩
  rcases ofCompact_recased true h with ⟨m, pos, ht, -⟩ | ⟨f, -, ht, -⟩ | hread
  · exact absurd (hr.symm.trans ht) nofun
  · exact absurd (hr.symm.trans ht) nofun
  · exact hread

/-- A text with one digit too many differs from itself in no letter, and is neither misread nor
read. -/
theorem ofCompact_recased_overlong :
    List.Forall₂ Recased ("KF0D".toList ++ List.replicate 4301 '1' ++ ";".toList)
      ("KF0D".toList ++ List.replicate 4301 '1' ++ ";".toList) ∧
    ofCompact true ("KF0D".toList ++ List.replicate 4301 '1' ++ ";".toList) =
      .error (.tooManyDigits 4301) :=
  ⟨List.forall₂_same.mpr fun _ _ => ⟨rfl, fun _ => rfl⟩, ofCompact_ones (by decide) []⟩

end StageCues.Reading
