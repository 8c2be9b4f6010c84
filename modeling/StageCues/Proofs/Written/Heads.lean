import StageCues.Proofs.Built.Heads
import StageCues.Proofs.Meaning.Heads
import StageCues.Proofs.Written.Reread

/-!
# Written — the head is read back

A text is written between double quotes as it is, with nothing escaped.  The literal ends where it
should if the text is quotable (`texts_literal`).  So a head with such texts, and with numbers that
are not negative, is read back as it was written, whatever stands behind it
(`passes_document`).

`Kind.rereadHead` is the kind of the head as it is read back: it has received all there was to
receive, and a version is known by its name if it has one.
-/

namespace StageCues

open Text

/-- The texts of a head. -/
def Kind.texts : Kind → List PlainValue
  | .predefinedHead _ _ title _ => [title]
  | .linkedHead _ title path _ => [title, path]
  | _ => []

/-- The written form of a head with texts for its title and its path. -/
def Kind.writtenHead : Kind → Text
  | .predefinedHead version id (.text t) _ =>
    "X@" ++ numberLiteral version.number ++ textIf (id ≠ 0) ("X@" ++ numberLiteral id) ++
      textIf (t ≠ []) ("X+" ++ textLiteral t)
  | .linkedHead version (.text t) (.text p) _ =>
    "X+" ++ textLiteral t ++ textLiteral p ++
      textIf (version.number ≠ 0) ("X@" ++ numberLiteral version.number)
  | _ => []

/-- The kind of a head as it is read back. -/
def Kind.rereadHead : Kind → Kind
  | .predefinedHead version id title _ => .predefinedHead (.ofNumber version.number) id title true
  | .linkedHead version title path _ => .linkedHead (.ofNumber version.number) title path true
  | k => k

/-- A head that can be written: its texts are quotable, and its numbers are not negative.  It is no
complex element, so it has no children. -/
inductive IsQuotable : Node → Prop where
  | predefined {v : SchemaVersion} {i : Int} {t : Text} {b : Bool} :
      0 ≤ v.number → 0 ≤ i → quotable t = true → IsQuotable (.leaf (.predefinedHead v i t b))
  | linked {v : SchemaVersion} {t p : Text} {b : Bool} :
      0 ≤ v.number → quotable t = true → quotable p = true →
      IsQuotable (.leaf (.linkedHead v t p b))

/-- The reading `r'` is `r` with another document, and possibly more told. -/
structure Reading.Documented (r : Reading) (d : Document) (r' : Reading) : Prop where
  frames : r'.frames = r.frames
  document : r'.document = some d
  iterations : r'.iterations = r.iterations

namespace Spelt

/-- The literal of a quotable text: the text between double quotes. -/
def Word.written (u : Text) (h : quotable u = true) : Word where
  literal := '"' :: (u ++ ['"'])
  paired := by
    rw [oddQuotes_cons, oddQuotes_concat, (quotable_iff.mp h).1]
    rfl
  inside := by
    have hguarded : guarded false ('"' :: (u ++ ['"'])) = true := by
      rw [quotable, Bool.and_eq_true, Bool.not_eq_true'] at h
      show guarded true (u ++ ['"']) = true
      rw [guarded_append, h.1, h.2]
      rfl
    intro a b hab
    have ha := guarded_iff.mp hguarded a b hab
    rwa [Bool.false_xor] at ha

theorem Word.text_written {u : Text} (h : quotable u = true) :
    (written u h).text = textLiteral u := by
  simp [text, written, textLiteral]

end Spelt

namespace Forward

variable {t u : Text} {n : Nat} {a : Address} {r : Reading} {d : Document}

/-- **A written text is taken as that text, if it is quotable.** -/
theorem texts_literal (h : quotable u = true) (t : Text) :
    texts a (n + 1) r (textLiteral u ++ t) = texts a n (r.give (.text u) a) t := by
  have hvalue : (Spelt.Word.written u h).value = u := stripQuotes_enclosed u
  rw [← Spelt.Word.text_written h, texts_word, hvalue]

/-! ### Heads -/

variable {honourRadix : Bool} {size : Nat} {e : Document}

/-- From the reading the text is read as the document, and as nothing else, whatever stands behind
it. -/
def Passes (honourRadix : Bool) (size : Nat) (r : Reading) (u : Text) (d : Document) : Prop :=
  ∃ r', (∀ t, read honourRadix size r (u ++ t) = read honourRadix size r' t) ∧ r.Documented d r'

theorem Passes.trans (h : Passes honourRadix size r t d)
    (h' : ∀ r', r'.document = some d → Passes honourRadix size r' u e) :
    Passes honourRadix size r (t ++ u) e := by
  obtain ⟨r₁, h₁, hfr₁, hdoc₁, hit₁⟩ := h
  obtain ⟨r₂, h₂, hfr₂, hdoc₂, hit₂⟩ := h' r₁ hdoc₁
  refine ⟨r₂, fun t => ?_, hfr₂.trans hfr₁, hdoc₂, hit₂.trans hit₁⟩
  rw [List.append_assoc, h₁, h₂]

/-- A text that is left out is read as the document that is there already. -/
theorem Passes.textIf {b : Bool} (hd : b = false → r.document = some d)
    (h : b = true → Passes honourRadix size r u d) :
    Passes honourRadix size r (textIf b u) d := by
  cases b with
  | false => exact ⟨r, fun _ => rfl, rfl, hd rfl, rfl⟩
  | true => exact h rfl

/-- A document is started. -/
theorem passes_start (r : Reading) : Passes honourRadix size r "X!" .blank :=
  ⟨r.put .blank (line "Document"), read_document r, rfl, rfl, rfl⟩

/-- A number for the head. -/
theorem passes_number {m : Int} (hm : 0 ≤ m) (hd : r.document = some d) :
    Passes honourRadix size r ("X@" ++ numberLiteral m)
      (received (withHead d (.newPredefinedHead 0)) (.number m)) := by
  refine ⟨(heading r (withHead d (.newPredefinedHead 0)) "Head").give (.number m) .head,
    fun t => ?_, rfl, rfl, rfl⟩
  rw [← Spelt.Number.text_written, List.append_assoc, read_headNumber hd,
    Spelt.Number.fault?_written, unlessFault_none, Spelt.Number.value_written,
    Int.toNat_of_nonneg hm]

/-- A title for a head that takes one text at a time. -/
theorem passes_title (hu : quotable u = true) (hd : r.document = some d) (hc : textCount d = 1) :
    Passes honourRadix size r ("X+" ++ textLiteral u)
      (received (withHead d .newLinkedHead) (.text u)) := by
  refine ⟨(heading r (withHead d .newLinkedHead) "Title").give (.text u) .head,
    fun t => ?_, rfl, rfl, rfl⟩
  rw [List.append_assoc, read_title hd, hc, texts_literal hu]
  rfl

/-- A title and a path for a head that takes two. -/
theorem passes_titles {p : Text} (hu : quotable u = true) (hp : quotable p = true)
    (hd : r.document = some d) (hc : textCount d = 2) :
    Passes honourRadix size r ("X+" ++ textLiteral u ++ textLiteral p)
      (received (received (withHead d .newLinkedHead) (.text u)) (.text p)) := by
  refine ⟨((heading r (withHead d .newLinkedHead) "Title").give (.text u) .head).give
    (.text p) .head, fun t => ?_, rfl, rfl, rfl⟩
  rw [List.append_assoc, List.append_assoc, read_title hd, hc, texts_literal hu, texts_literal hp]
  rfl

/-- The version and the id of a head for a built-in schema, of which no id is written if it is
zero. -/
theorem passes_numbers {v i : Int} (hv : 0 ≤ v) (hi : 0 ≤ i) (hd : r.document = some .blank) :
    Passes honourRadix size r
      ("X@" ++ numberLiteral v ++ textIf (i ≠ 0) ("X@" ++ numberLiteral i))
      (headed (.predefinedHead (.ofNumber v) i .blank true)) := by
  refine (passes_number hv hd).trans fun r₁ h₁ => Passes.textIf (fun hz => ?_) fun _ =>
    passes_number hi h₁
  obtain rfl : i = 0 := by simpa using hz
  exact h₁

/-- **A written head is read as that head.** -/
theorem passes_wrap {h : Node} (hq : IsQuotable h) (hd : r.document = some .blank) :
    Passes honourRadix size r h.kind.writtenHead (headed h.kind.rereadHead) := by
  cases hq with
  | @predefined v i u b hv hi hu =>
      refine (passes_numbers hv hi hd).trans fun r₁ h₁ => Passes.textIf (fun hz => ?_) fun _ =>
        passes_title hu h₁ rfl
      obtain rfl : u = [] := by simpa using hz
      exact h₁
  | @linked v u p b hv hu hp =>
      refine (passes_titles hu hp hd rfl).trans fun r₁ h₁ =>
        Passes.textIf (fun hz => ?_) fun _ => passes_number hv h₁
      have hz : v.number = 0 := by simpa using hz
      rw [h₁]
      show some (headed (.linkedHead .empty u p true)) =
        some (headed (.linkedHead (.ofNumber v.number) u p true))
      rw [hz]
      rfl

end Forward

/-- The document as it is read back. -/
def Document.reread (d : Document) : Document :=
  { d with head := d.head.map fun h => { h with kind := h.kind.rereadHead } }

/-- The written form of the head of a document. -/
def Document.writtenHead (d : Document) : Text :=
  match d.head with
  | none => []
  | some h => h.kind.writtenHead

variable {d : Document} {h : Node}

/-- A head for a built-in schema is written without its children, and without an empty title. -/
theorem written_predefined {v : SchemaVersion} {i : Int} {t : Text} {b : Bool} :
    (Node.leaf (.predefinedHead v i t b)).written =
      .ok (Kind.predefinedHead v i t b).writtenHead := by
  cases t with
  | nil =>
      exact congrArg Except.ok (List.append_nil _).symm
  | cons c u => exact congrArg Except.ok (List.append_assoc _ _ _)

theorem written_linked {v : SchemaVersion} {t p : Text} {b : Bool} :
    (Node.leaf (.linkedHead v t p b)).written = .ok (Kind.linkedHead v t p b).writtenHead := rfl

theorem IsQuotable.written (hq : IsQuotable h) : h.written = .ok h.kind.writtenHead := by
  cases hq with
  | predefined => exact written_predefined
  | linked => exact written_linked

/-- A document without a body is written as its mark and its head. -/
theorem Document.written_eq (hb : d.body = none)
    (hh : ∀ h, d.head = some h → h.written = .ok h.kind.writtenHead) :
    d.written = .ok ("X!" ++ d.writtenHead) := by
  obtain ⟨head, body⟩ := d
  obtain rfl : body = none := hb
  cases head with
  | none => rfl
  | some n =>
      unfold Document.written DocumentOf.writtenBy DocumentOf.writtenPart
      simp only [hh n rfl]
      show Except.ok (_ ++ n.kind.writtenHead ++ []) = _
      rw [List.append_nil]
      rfl

theorem IsQuotable.same_reread (hq : IsQuotable h) :
    h.same { h with kind := h.kind.rereadHead } = true := by
  cases hq <;>
    simp [Node.same, Node.sameAll, Node.leaf, Kind.rereadHead, Kind.alike, Kind.forget]

/-- A document that can be written is the same when it is read back. -/
theorem Document.same_reread (hb : d.body = none) (hq : ∀ h, d.head = some h → IsQuotable h) :
    d.same d.reread = true := by
  obtain ⟨head, body⟩ := d
  obtain rfl : body = none := hb
  cases head with
  | none => rfl
  | some n =>
      show (n.same _ && true) = true
      rw [(hq n rfl).same_reread]
      rfl

/-- **A written document is read as that document**, whatever was read before and whatever stands
behind it. -/
theorem Forward.passes_document {honourRadix : Bool} {size : Nat} (r : Reading)
    (hb : d.body = none) (hq : ∀ h, d.head = some h → IsQuotable h) :
    Forward.Passes honourRadix size r ("X!" ++ d.writtenHead) d.reread := by
  obtain ⟨head, body⟩ := d
  obtain rfl : body = none := hb
  cases head with
  | none => exact (passes_start r).trans fun r₁ h₁ => ⟨r₁, fun _ => rfl, rfl, h₁, rfl⟩
  | some h =>
      have hread : headed h.kind.rereadHead = Document.reread ⟨some h, none⟩ := by
        cases hq h rfl <;> rfl
      exact (passes_start r).trans fun r₁ h₁ => hread ▸ passes_wrap (hq h rfl) h₁

end StageCues
