import StageCues.Proofs.Built.Elements
import StageCues.Proofs.Written.Loss

/-!
# Written — which documents are read back

Reading the written form of a document gives the same document exactly if the texts of its head are
quotable, that is, have paired double quotes up to each of their semicolons and up to their end
(`documentSurvives_iff`, `quotable_iff`).  If they are, each of them is taken as it is.  If one of
them is not, the document that is read stays below what the head is worth.
-/

namespace StageCues

open Text

/-- A head that counts as one for a built-in schema is one, with the same title. -/
theorem Kind.of_alike_predefined {v : SchemaVersion} {i : Int} {t : Text} {b : Bool} {k : Kind}
    (h : (predefinedHead v i t b).alike k = true) :
    ∃ v' b', k = .predefinedHead v' i t b' := by
  unfold alike at h
  rw [decide_eq_true_eq] at h
  cases k with
  | predefinedHead v' i' t' b' =>
      simp only [forget, predefinedHead.injEq] at h
      obtain ⟨-, rfl, ht, -⟩ := h
      exact ⟨v', b', by rw [PlainValue.counted_eq_text.mp ht.symm]⟩
  | _ => cases h

/-- A head that counts as one for a schema file is one, with the same title and path, and with a
version of the same number. -/
theorem Kind.of_alike_linked {v : SchemaVersion} {t p : Text} {b : Bool} {k : Kind}
    (h : (linkedHead v t p b).alike k = true) :
    ∃ v' b', v'.number = v.number ∧ k = .linkedHead v' t p b' := by
  unfold alike at h
  rw [decide_eq_true_eq] at h
  cases k with
  | linkedHead v' t' p' b' =>
      simp only [forget, linkedHead.injEq] at h
      obtain ⟨hv, ht, hp, -⟩ := h
      refine ⟨v', b', (SchemaVersion.ofNumber_inj.mp hv).symm, ?_⟩
      rw [PlainValue.counted_eq_text.mp ht.symm, PlainValue.counted_eq_text.mp hp.symm]
  | _ => cases h

/-- Whether a value that is no text, or a quotable one: no other value has double quotes or
semicolons in its written form. -/
def PlainValue.isQuotable : PlainValue → Bool
  | .text t => quotable t
  | _ => true

/-- Whether all texts of the head are quotable. -/
def Document.hasQuotableTexts (d : Document) : Bool :=
  d.head.all fun h => h.kind.texts.all PlainValue.isQuotable

section

variable {n : Node} {d e : Document} {again honourRadix : Bool} {t : Text} {r : Reading}

/-- A head that was read has a written form. -/
theorem IsHead.written (h : IsHead n) : n.written = .ok n.kind.writtenHead := by
  cases h with
  | predefined => exact written_predefined
  | untitled => exact written_linked
  | titled => exact written_linked

theorem IsHead.isQuotable (h : IsHead n)
    (hq : n.kind.texts.all PlainValue.isQuotable = true) : IsQuotable n := by
  cases h with
  | predefined hv hi =>
      simp only [Node.leaf, Kind.texts, PlainValue.isQuotable, List.all_cons, List.all_nil,
        Bool.and_true] at hq
      exact .predefined hv hi hq
  | untitled hv => exact .linked hv rfl rfl
  | titled hv =>
      simp only [Node.leaf, Kind.texts, PlainValue.isQuotable, List.all_cons, List.all_nil,
        Bool.and_true, Bool.and_eq_true] at hq
      exact .linked hv hq.1 hq.2

/-- A head for a schema file has a title, or no text at all. -/
theorem IsHead.titled_of_kind {v : SchemaVersion} {u p : PlainValue} {b : Bool} (h : IsHead n)
    (hk : n.kind = .linkedHead v u p b) : b = true ∨ u = .blank ∧ p = .blank := by
  cases h with
  | predefined => cases hk
  | untitled =>
      cases hk
      exact .inr ⟨rfl, rfl⟩
  | titled =>
      cases hk
      exact .inl rfl

/-- A document that was read has a written form. -/
theorem IsDocument.written (h : IsDocument d) : d.written = .ok ("X!" ++ d.writtenHead) :=
  Document.written_eq h.body fun n hn => (h.head n hn).written

/-- **A document with quotable texts is read back.** -/
theorem IsDocument.read_written (h : IsDocument d) (hq : d.hasQuotableTexts = true) (again : Bool) :
    ∃ r, Reading.ofCompact again ("X!" ++ d.writtenHead) = .ok r ∧
      r.document = some d.reread ∧ d.same d.reread = true := by
  have hquotable : ∀ n, d.head = some n → IsQuotable n := by
    intro n hn
    unfold Document.hasQuotableTexts at hq
    rw [hn] at hq
    exact (h.head n hn).isQuotable hq
  have hpasses : Forward.Passes again ("X!" ++ d.writtenHead).length .blank
      ("X!" ++ d.writtenHead) d.reread := Forward.passes_document .blank h.body hquotable
  obtain ⟨r, hr, -, hd, -⟩ := hpasses
  exact ⟨r, Reading.ofCompact_of_read (hr []), hd, Document.same_reread h.body hquotable⟩

/-- A head that counts as the same has the same worth. -/
theorem headWorth_of_same (missing : Nat) (worth : Kind → Nat) (hd : d.head = some n)
    (hs : d.same e = true) :
    ∃ m, e.head = some m ∧ n.kind.alike m.kind = true ∧
      Forward.headWorth missing worth (some e) = worth m.kind := by
  obtain ⟨head, body⟩ := d
  obtain ⟨head', body'⟩ := e
  obtain rfl : head = some n := hd
  cases head' with
  | none => cases hs
  | some m =>
      unfold Document.same DocumentOf.sameBy at hs
      have hsame : n.same m = true := (Bool.and_eq_true _ _ ▸ hs).1
      refine ⟨m, rfl, ?_, rfl⟩
      obtain ⟨k, cs⟩ := n
      obtain ⟨k', cs'⟩ := m
      unfold Node.same at hsame
      exact (Bool.and_eq_true _ _ ▸ hsame).1

/-- A head for a built-in schema is read back only with a quotable title. -/
theorem quotable_of_read_predefined {v : SchemaVersion} {i : Int} {u : Text} {b : Bool} {size : Nat}
    (hv : 0 ≤ v.number) (hi : 0 ≤ i) (ho : oddQuotes u = false)
    (hr : Forward.read again size .blank ("X!" ++ (Kind.predefinedHead v i u b).writtenHead) =
      .ok r)
    (he : r.document = some e)
    (hs : Document.same (Forward.headed (.predefinedHead v i u b)) e = true) :
    quotable u = true := by
  by_contra hq
  have hq : quotable u = false := by simpa using hq
  have hu : u ≠ [] := by
    rintro rfl
    cases hq
  have hwritten : (Kind.predefinedHead v i u b).writtenHead =
      "X@" ++ numberLiteral v.number ++ textIf (i ≠ 0) ("X@" ++ numberLiteral i) ++
        ("X+" ++ textLiteral u) := by
    simp [Kind.writtenHead, hu, textIf]
  rw [hwritten] at hr
  have hworth := Forward.worth_of_title hv hi ho hq hr
  obtain ⟨m, -, halike, hm⟩ := headWorth_of_same 0 (Forward.titleWorth u) rfl hs
  obtain ⟨v', b', hk⟩ := Kind.of_alike_predefined halike
  -- the same head has the same title, which is worth more than what was left to read
  have hfull : Forward.titleWorth u (.predefinedHead v' i u b') = weight u + 1 := if_pos rfl
  rw [he, hm, hk, hfull] at hworth
  omega

/-- A head for a schema file is read back only with a quotable title and a quotable path. -/
theorem quotable_of_read_linked {v : SchemaVersion} {u p : Text} {b : Bool} {size : Nat}
    (hv : 0 ≤ v.number) (hu : oddQuotes u = false) (hp : oddQuotes p = false)
    (hr : Forward.read again size .blank ("X!" ++ (Kind.linkedHead v u p b).writtenHead) = .ok r)
    (he : r.document = some e) (hd : IsDocument e)
    (hs : Document.same (Forward.headed (.linkedHead v u p b)) e = true) :
    quotable u = true ∧ quotable p = true := by
  by_contra hq
  have hwritten : (Kind.linkedHead v u p b).writtenHead = "X+" ++ (textLiteral u ++
      (textLiteral p ++ textIf (v.number ≠ 0) ("X@" ++ numberLiteral v.number))) := by
    show _ ++ textLiteral u ++ textLiteral p ++ _ = _
    rw [List.append_assoc, List.append_assoc]
  rw [hwritten] at hr
  obtain ⟨m, hmem, halike, hm⟩ := headWorth_of_same 1 (Forward.fileWorth v.number u p) rfl hs
  obtain ⟨v', b', hv', hk⟩ := Kind.of_alike_linked halike
  have hb : b' = true := by
    rcases (hd.head m hmem).titled_of_kind hk with hb | ⟨hut, hpt⟩
    · exact hb
    · -- both texts are empty, and nothing is wrong with these
      obtain rfl := PlainValue.text.inj hut
      obtain rfl := PlainValue.text.inj hpt
      exact absurd ⟨rfl, rfl⟩ hq
  have hfull : Forward.fileWorth v.number u p (.linkedHead v' u p b') = 1 + (weight u + 1) +
      (if p ≠ [] then weight p + 1 else 0) + (if v.number ≠ 0 then 1 else 0) := by
    simp [Forward.fileWorth, hb, hv']
  have hnumber := Forward.weight_version hv
  cases hcut : quotable u with
  | false =>
      -- an empty path is no part of the worth, and has no semicolon to pay with either
      have hworth := Forward.worth_of_file_title (p := p) v.number hu hcut hr
      rw [he, hm, hk, hfull, weight_append, hnumber, Forward.weight_textLiteral] at hworth
      by_cases hempty : p = []
      · rw [hempty, if_neg (not_not_intro rfl), weight_nil] at hworth
        omega
      · rw [if_pos hempty] at hworth
        omega
  | true =>
      have hpath : quotable p = false := by simpa [hcut] using hq
      have hne : p ≠ [] := by
        rintro rfl
        cases hpath
      have hworth := Forward.worth_of_file_path v.number hcut hp hpath hr
      rw [he, hm, hk, hfull, hnumber, if_pos hne] at hworth
      omega

/-- **Only a document with quotable texts is read back.** -/
theorem IsDocument.hasQuotableTexts (h : IsDocument d)
    (hr : Reading.ofCompact again ("X!" ++ d.writtenHead) = .ok r) (he : r.document = some e)
    (hs : d.same e = true) : d.hasQuotableTexts = true := by
  have hwell := (Reading.wellBuilt hr).document e he
  rw [Reading.ofCompact_eq_outcome, Scanner.outcome_start] at hr
  obtain ⟨head, body⟩ := d
  obtain rfl : body = none := h.body
  cases head with
  | none => rfl
  | some n =>
      show n.kind.texts.all PlainValue.isQuotable = true
      cases h.head n rfl with
      | @predefined v i t b hv hi ho =>
          have hu := quotable_of_read_predefined hv hi ho hr he hs
          show (quotable t && true) = true
          rw [hu]
          rfl
      | untitled hv => rfl
      | @titled v t p hv hu hp =>
          have hup := quotable_of_read_linked hv hu hp hr he hwell hs
          show (quotable t && (quotable p && true)) = true
          rw [hup.1, hup.2]
          rfl

namespace Reading

/-- Whether a document is read back, by what is read of its written form. -/
theorem documentSurvives_of_written {w : Text} (hw : d.written = .ok w)
    (hr : ofCompact true w = .ok r) (he : r.document = some e) :
    documentSurvives d = .ok (d.same e) := by
  unfold documentSurvives
  rw [hw]
  simp only [bind, Except.bind, hr, he]
  rfl

/-- A document survives when there is something to read again, and it is the same. -/
theorem documentSurvives_eq_true {w : Text} (hw : d.written = .ok w) :
    documentSurvives d = .ok true ↔
      ∃ r e, ofCompact true w = .ok r ∧ r.document = some e ∧ d.same e = true := by
  constructor
  · intro hs
    cases hr : ofCompact true w with
    | error f =>
        unfold documentSurvives at hs
        simp only [hw, bind, Except.bind, hr] at hs
        cases hs
    | ok r =>
        cases he : r.document with
        | none =>
            unfold documentSurvives at hs
            simp only [hw, bind, Except.bind, hr, he] at hs
            cases hs
        | some e =>
            rw [documentSurvives_of_written hw hr he] at hs
            exact ⟨r, e, rfl, he, Except.ok.inj hs⟩
  · rintro ⟨r, e, hr, he, hs⟩
    rw [documentSurvives_of_written hw hr he, hs]

/-- **When a document is read back.**  The document of any text that can be read has a written form.
Reading it gives the same document, with radices honoured or not, exactly if the texts of the head
are quotable.  A text with a semicolon between double quotes of its own is not. -/
theorem documentSurvives_iff {honourRadix : Bool} {t : Text} {r : Reading} {d : Document}
    (h : ofCompact honourRadix t = .ok r) (hd : r.document = some d) :
    (documentSurvives d = .ok true ↔ d.hasQuotableTexts = true) ∧
    ∃ w, d.written = .ok w ∧ ∀ again : Bool,
      (∃ r' e, ofCompact again w = .ok r' ∧ r'.document = some e ∧ d.same e = true) ↔
        d.hasQuotableTexts = true := by
  have hdoc := (wellBuilt h).document d hd
  have hiff : ∀ again : Bool, (∃ r' e, ofCompact again ("X!" ++ d.writtenHead) = .ok r' ∧
      r'.document = some e ∧ d.same e = true) ↔ d.hasQuotableTexts = true := by
    refine fun again => ⟨fun ⟨r', e, hr, he, hs⟩ => hdoc.hasQuotableTexts hr he hs, fun hq => ?_⟩
    obtain ⟨r', hr, he, hs⟩ := hdoc.read_written hq again
    exact ⟨r', d.reread, hr, he, hs⟩
  exact ⟨(documentSurvives_eq_true hdoc.written).trans (hiff true), _, hdoc.written, hiff⟩

/-- A title with paired double quotes of its own, and a path behind it, are read back. -/
theorem documentSurvives_paired_quotes :
    ∃ r d, ofCompact false "X!X+a\"b\";p;X@0D6;" = .ok r ∧ r.document = some d ∧
      documentSurvives d = .ok true := by
  obtain ⟨r, d, h, hd, hq⟩ : ∃ r d, ofCompact false "X!X+a\"b\";p;X@0D6;" = .ok r ∧
      r.document = some d ∧ d.hasQuotableTexts = true :=
    ⟨⟨[], some (Forward.headed (.linkedHead .p676 "a\"b\"" "p" true)), [],
      "Document\nTitle\nHead\n"⟩, _, rfl, rfl, rfl⟩
  exact ⟨r, d, h, hd, (documentSurvives_iff h hd).1.mpr hq⟩

/-- A title with a semicolon between double quotes of its own is read back only up to that. -/
theorem documentSurvives_quoted_semicolon :
    ∃ r d, ofCompact true "X!X@0H4;X+a\"b;c\";" = .ok r ∧ r.document = some d ∧
      documentSurvives d = .ok false := by
  have hwritten : (Forward.headed (.predefinedHead .p400 0 "a\"b;c\"" true)).written =
      .ok "X!X@0H04;X+\"a\"b;c\"\";" := rfl
  have hread : ofCompact true "X!X@0H04;X+\"a\"b;c\"\";" = .ok ⟨[],
      some (Forward.headed (.predefinedHead .p400 0 "\"a\"b" true)), [],
      "Document\nHead\nTitle\n\";"⟩ := rfl
  refine ⟨⟨[], some (Forward.headed (.predefinedHead .p400 0 "a\"b;c\"" true)), [],
    "Document\nHead\nTitle\n"⟩, _, rfl, rfl, ?_⟩
  rw [documentSurvives_of_written hwritten hread rfl]
  decide

end Reading

end

end StageCues
