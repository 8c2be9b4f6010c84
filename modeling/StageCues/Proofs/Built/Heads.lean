import StageCues.Proofs.Built.Frames
import StageCues.Proofs.Scan.Steady
import StageCues.Proofs.Text.Quotes

/-!
# Built — the head of the document

A text literal is over outside of double quotes only, so what it is read as holds an even number of
them, with an enclosing pair and without.  Whatever text is scanned, the document has no body, and
its head, if there is one, is one for a built-in schema or for a schema file, with numbers that are
not negative and with paired double quotes in its texts (`IsHead`).  A head for a schema file that
has no title yet has no path either.

`Headed s` is the invariant of a scan that carries this: it also says of the literal that is being
collected that the scanner knows whether a double quote is open in it.  Every turn keeps it
(`headed_turn`).
-/

namespace StageCues

open Text

/-- A head as it is read. -/
inductive IsHead : Node → Prop where
  | predefined {v : SchemaVersion} {i : Int} {t : Text} {b : Bool} :
      0 ≤ v.number → 0 ≤ i → oddQuotes t = false → IsHead (.leaf (.predefinedHead v i t b))
  | untitled {v : SchemaVersion} :
      0 ≤ v.number → IsHead (.leaf (.linkedHead v .blank .blank false))
  | titled {v : SchemaVersion} {t p : Text} :
      0 ≤ v.number → oddQuotes t = false → oddQuotes p = false →
      IsHead (.leaf (.linkedHead v t p true))

/-- A document as it is read: without a body, and with such a head if it has one. -/
structure IsDocument (d : Document) : Prop where
  body : d.body = none
  head : ∀ n, d.head = some n → IsHead n

/-- A parameter that is no text with a double quote left over. -/
def Parameter.IsPaired (p : Parameter) : Prop := ∀ t, p = .text t → oddQuotes t = false

variable {n : Node} {p : Parameter}

/-- **A head stays one when it receives a parameter that was read.** -/
theorem IsHead.receive (h : IsHead n) (hn : p.IsNatural) (hp : p.IsPaired) :
    IsHead (n.receive p) := by
  cases p with
  | number m =>
      have hm : 0 ≤ m := hn m rfl
      have hv : 0 ≤ (SchemaVersion.ofNumber m).number := by
        rw [SchemaVersion.number_ofNumber]
        exact hm
      cases h with
      | @predefined v i t b hv' hi ht =>
          -- the first number is the version, every later one the id
          cases b with
          | false => exact .predefined hv hi ht
          | true => exact .predefined hv' hm ht
      | untitled => exact .untitled hv
      | titled _ ht hq => exact .titled hv ht hq
  | text u =>
      have hu := hp u rfl
      cases h with
      | @predefined v i t b hv hi _ => cases b <;> exact .predefined hv hi hu
      | untitled hv => exact .titled hv hu rfl
      | titled hv ht _ => exact .titled hv ht hu

/-- The heads that the scanner makes. -/
theorem isHead_fresh {k : Kind} (h : k = .newPredefinedHead 0 ∨ k = .newLinkedHead) :
    IsHead (.leaf k) := by
  rcases h with rfl | rfl
  · exact .predefined (Int.le_refl 0) (Int.le_refl 0) rfl
  · exact .untitled (Int.le_refl 0)

/-- A head is an element, which receives parameters. -/
theorem IsHead.isElement (h : IsHead n) : n.cls.isElement = true := by
  cases h <;> rfl

theorem isDocument_blank : IsDocument .blank where
  body := rfl
  head := nofun

namespace Scanner

variable {s t : Scanner} {c : Char}

/-- The invariant of a scan that carries the document. -/
structure Headed (s : Scanner) : Prop where
  /-- The scanner knows whether a double quote is open in the literal. -/
  quoted : s.awaiting.literal.quoted = oddQuotes s.awaiting.literal.text
  /-- In a complete text none is. -/
  complete : s.mode = .gotText → s.awaiting.literal.quoted = false
  document : ∀ d, s.document = some d → IsDocument d

theorem headed_start (honourRadix : Bool) (t : Text) : Headed (start honourRadix t) where
  quoted := rfl
  complete := nofun
  document := nofun

/-- A text that was read has its double quotes in pairs. -/
theorem Headed.isPaired {m : Mode} (h : Headed s) (hp : s.complete? = some (p, m)) :
    p.IsPaired := by
  rcases complete?_eq_some hp with ⟨n, -, -, rfl, -⟩ | ⟨hm, rfl, -⟩
  · nofun
  · rintro t ht
    obtain rfl := Parameter.text.inj ht
    show oddQuotes (stripQuotes s.awaiting.literal.text) = false
    rw [oddQuotes_stripQuotes, ← h.quoted, h.complete hm]

/-- What the head of a document receives leaves it a head. -/
theorem Headed.give {m : Mode} (h : Headed s) (hp : s.complete? = some (p, m)) (a : Address) :
    ∀ d, (s.give p a).document = some d → IsDocument d := by
  cases a with
  | frame i => exact h.document
  | write i j => exact h.document
  | head =>
      intro d hd
      obtain ⟨e, he, rfl⟩ := Option.map_eq_some_iff.mp hd
      have hdoc := h.document e he
      refine ⟨hdoc.body, fun n hn => ?_⟩
      obtain ⟨m', hm', rfl⟩ := Option.map_eq_some_iff.mp hn
      exact (hdoc.head m' hm').receive (isNatural_of_complete? hp) (h.isPaired hp)

theorem headed_settles (h : Headed s) (hs : Settles s t) : Headed t := by
  cases hs with
  | @deliver q m a hq =>
      refine ⟨rfl, fun _ => rfl, ?_⟩
      exact h.give hq a
  | cancel => exact ⟨rfl, nofun, h.document⟩

/-- A character that is collected opens a double quote or closes it, or does neither. -/
theorem Headed.push (h : Headed s) (c : Char) (pos : Int) :
    (s.awaiting.literal.push [c] pos).quoted =
      oddQuotes (s.awaiting.literal.push [c] pos).text := by
  show (if [c] = ['"'] then !s.awaiting.literal.quoted else s.awaiting.literal.quoted) =
    oddQuotes (s.awaiting.literal.text ++ [c])
  rw [oddQuotes_concat, h.quoted]
  by_cases hc : c = '"'
  · rw [if_pos hc, if_pos (by rw [hc])]
  · rw [if_neg hc, if_neg (by simpa using hc)]

/-- **What a character does keeps the invariant.** -/
theorem headed_move (h : Headed s) (hm : Move s c t) : Headed t := by
  have hmark : s.markStart.awaiting = s.awaiting ∧ s.markStart.document = s.document := by
    refine ⟨markStart_awaiting s, ?_⟩
    unfold markStart
    split <;> rfl
  cases hm with
  | quiet hl =>
      refine ⟨h.quoted, ?_, h.document⟩
      rintro rfl
      exact absurd (isParameter_of_leads hl) (by decide)
  | iteration => exact ⟨h.quoted, nofun, h.document⟩
  | endFrame => exact ⟨h.quoted, nofun, h.document⟩
  | addFrame | addWrite => exact ⟨rfl, nofun, h.document⟩
  | document =>
      refine ⟨h.quoted, nofun, fun d hd => ?_⟩
      obtain rfl := Option.some.inj hd
      exact isDocument_blank
  | @head d k n m u _ hd _ hk =>
      have hdoc := h.document d hd
      refine ⟨rfl, fun _ => rfl, fun e he => ?_⟩
      obtain rfl := Option.some.inj he
      refine ⟨hdoc.body, fun n' hn' => ?_⟩
      obtain rfl := Option.some.inj hn'
      cases hh : d.head with
      | some n => exact hdoc.head n hh
      | none => exact isHead_fresh (hk.imp And.left And.left)
  | @gather m l hm =>
      refine ⟨?_, ?_, ?_⟩
      · show (s.gather c).awaiting.literal.quoted = oddQuotes (s.gather c).awaiting.literal.text
        rw [literal_gather]
        exact h.push c _
      · rintro rfl
        rcases hm with ⟨-, -, hm⟩ | ⟨-, -, hm⟩
        · split at hm <;> cases hm
        · cases hm
      · show ∀ d, s.markStart.document = some d → _
        rw [hmark.2]
        exact h.document
  | @finish m l _ hm =>
      refine ⟨?_, ?_, ?_⟩
      · show s.markStart.awaiting.literal.quoted = oddQuotes s.markStart.awaiting.literal.text
        rw [hmark.1]
        exact h.quoted
      · rintro rfl
        show s.markStart.awaiting.literal.quoted = false
        rw [hmark.1]
        rcases hm with ⟨-, hm⟩ | ⟨-, hq, -⟩
        · split at hm <;> cases hm
        · exact hq
      · show ∀ d, s.markStart.document = some d → _
        rw [hmark.2]
        exact h.document
  | settle hs => exact headed_settles h hs

/-- A turn keeps the invariant. -/
theorem headed_turn (h : Headed s) (hd : s.isDone = false) (e : s.turn = .ok t) : Headed t := by
  rcases turn_cases hd e with ⟨-, c, u, -, hm, rfl⟩ | ⟨-, -, u, hs, rfl⟩
  · have hu : Headed u := headed_move h hm
    exact ⟨hu.quoted, hu.complete, hu.document⟩
  · have hu : Headed u := headed_settles h hs
    exact ⟨hu.quoted, hu.complete, hu.document⟩

end Scanner

end StageCues
