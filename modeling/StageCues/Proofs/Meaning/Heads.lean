import StageCues.Proofs.Built.Received
import StageCues.Proofs.Meaning.Frames
import StageCues.Proofs.Text.Quotes

/-!
# Meaning — heads

What a document says whose head is spelt command by command.

* `Spelt.Word` is the literal of a text as it is spelt: its double quotes are in pairs, and each of
  its semicolons stands inside of a pair.
* `Spelt.Command` gives the head one number, or as many texts as it takes at a time.
* `Spelt.Head` is a list of commands that is not empty.  The first one decides what kind of head it
  is, and by that how many texts the later ones give.
* A command is read as its parameters, which the head receives in order (`read_command`), so that
  commands are read as all of theirs, up to the first number that is too long (`read_commands`).
  What becomes of those is known from `Kind.receiveAll_predefined` and `Kind.receiveAll_linked`
  (`ofCompact_head`).
-/

namespace StageCues

open Text

namespace Spelt

/-- The literal of a text: its double quotes are in pairs, and its semicolons inside of them. -/
structure Word where
  literal : Text
  paired : oddQuotes literal = false
  inside : ∀ a b, literal = a ++ ';' :: b → oddQuotes a = true

namespace Word

/-- The literal with the semicolon that ends it. -/
def text (w : Word) : Text := w.literal ++ [';']

/-- The text that is meant. -/
def value (w : Word) : Text := stripQuotes w.literal

end Word

/-- A command for a head that takes so many texts at a time. -/
inductive Command (n : Nat) where
  | number (l : Number)
  | title (ws : List Word) (count : ws.length = n)

namespace Command

variable {n : Nat}

/-- How a command is spelt. -/
def text : Command n → Text
  | .number l => "X@" ++ l.text
  | .title ws _ => "X+" ++ ws.flatMap Word.text

/-- What is told of a command. -/
def told : Command n → Text
  | .number _ => line "Head"
  | .title _ _ => line "Title"

/-- The parameters for the head. -/
def parameters (honourRadix : Bool) : Command n → List Parameter
  | .number l => [.number (l.value honourRadix)]
  | .title ws _ => ws.map fun w => .text w.value

/-- Why a command is not read, if it is a number with too many digits. -/
def fault? (honourRadix : Bool) : Command n → Option Fault
  | .number l => l.fault? honourRadix
  | .title _ _ => none

/-- The head that is made if there is none yet. -/
def freshHead : Command n → Kind
  | .number _ => .newPredefinedHead 0
  | .title _ _ => .newLinkedHead

end Command

/-- The commands of a head: it is one for a built-in schema if the first is a number, and one for a
schema file, which takes two texts at a time, if the first is a title. -/
inductive Head where
  | predefined (version : Number) (later : List (Command 1))
  | linked (title path : Word) (later : List (Command 2))

namespace Head

/-- How the commands are spelt. -/
def text : Head → Text
  | .predefined version later => "X@" ++ version.text ++ later.flatMap Command.text
  | .linked title path later => "X+" ++ title.text ++ path.text ++ later.flatMap Command.text

/-- What is told of the commands. -/
def told : Head → Text
  | .predefined _ later => line "Head" ++ later.flatMap Command.told
  | .linked _ _ later => line "Title" ++ later.flatMap Command.told

/-- Why the commands are not read: the first number with too many digits. -/
def fault? (honourRadix : Bool) : Head → Option Fault
  | .predefined version later =>
    (version.fault? honourRadix).or (later.findSome? (Command.fault? honourRadix))
  | .linked _ _ later => later.findSome? (Command.fault? honourRadix)

/-- The head that is meant.  One for a built-in schema has the last of the later numbers as its id
and the last text as its title; one for a schema file has the last number as its version and the
last text as its path. -/
def kind (honourRadix : Bool) : Head → Kind
  | .predefined version later =>
    let given := later.flatMap (Command.parameters honourRadix)
    .predefinedHead (.ofNumber (version.value honourRadix)) ((numbersIn given).getLast?.getD 0)
      ((textsIn given).getLast?.getD []) true
  | .linked title path later =>
    let given := later.flatMap (Command.parameters honourRadix)
    .linkedHead (.ofNumber ((numbersIn given).getLast?.getD 0)) title.value
      ((textsIn given).getLast?.getD path.value) true

end Head

end Spelt

/-- The reading with another document, and more told. -/
def Reading.put (r : Reading) (d : Document) (u : Text) : Reading :=
  { r with document := some d, trace := r.trace ++ u }

namespace Reading

variable {r : Reading} {d : Document}

@[simp] theorem document_put (r : Reading) (d : Document) (u : Text) :
    (r.put d u).document = some d := rfl

theorem put_self (h : r.document = some d) : r.put d [] = r := by
  unfold put
  rw [← h, List.append_nil]

@[simp] theorem put_put (r : Reading) (d e : Document) (u v : Text) :
    (r.put d u).put e v = r.put e (u ++ v) := by
  unfold put
  rw [List.append_assoc]

end Reading

namespace Forward

variable {honourRadix : Bool} {size n : Nat} {r : Reading} {d : Document} {k : Kind}
  {l rest t : Text} {q : Bool}

/-! ### Texts -/

/-- **The cut of a text is at the first semicolon outside of double quotes.** -/
theorem cutText_eq_some_iff : cutText q t = some (l, rest) ↔
    t = l ++ ';' :: rest ∧ guarded q l = true ∧ (q ^^ oddQuotes l) = false := by
  induction t generalizing q l with
  | nil => exact ⟨nofun, fun ⟨h, _⟩ => absurd h (by simp)⟩
  | cons c t ih =>
      unfold cutText
      by_cases hc : c = ';' ∧ q = false
      · obtain ⟨rfl, rfl⟩ := hc
        rw [if_pos ⟨rfl, rfl⟩]
        constructor
        · intro h
          cases h
          exact ⟨rfl, rfl, rfl⟩
        · rintro ⟨h, hg, -⟩
          cases l with
          | nil => cases h; rfl
          | cons e l =>
              -- the cut would be behind a semicolon that is not guarded
              obtain ⟨rfl, -⟩ := List.cons.inj h
              cases hg
      · have hfirst : (c ≠ ';' || q) = true := by
          cases q <;> simp_all
        rw [if_neg hc, Option.map_eq_some_iff]
        constructor
        · rintro ⟨⟨l', rest'⟩, hcut, h⟩
          cases h
          obtain ⟨rfl, hg, ho⟩ := ih.mp hcut
          refine ⟨rfl, by rw [guarded, hfirst, hg]; rfl, ?_⟩
          rw [oddQuotes_cons]
          split at ho <;> simp_all
        · rintro ⟨h, hg, ho⟩
          cases l with
          | nil =>
              obtain ⟨rfl, -⟩ := List.cons.inj h
              rw [oddQuotes_nil, Bool.xor_false] at ho
              exact absurd ⟨rfl, ho⟩ hc
          | cons e l =>
              obtain ⟨rfl, rfl⟩ := List.cons.inj h
              rw [guarded, Bool.and_eq_true] at hg
              refine ⟨(l, rest), ih.mpr ⟨rfl, hg.2, ?_⟩, rfl⟩
              rw [oddQuotes_cons] at ho
              split <;> simp_all

/-- A spelt text is cut off whole. -/
theorem cutText_word (w : Spelt.Word) (t : Text) :
    cutText false (w.text ++ t) = some (w.literal, t) := by
  refine cutText_eq_some_iff.mpr ⟨?_, guarded_iff.mpr fun a b h => ?_, ?_⟩
  · rw [Spelt.Word.text, List.append_assoc, List.singleton_append]
  · rw [Bool.false_xor]
    exact w.inside a b h
  · rw [Bool.false_xor]
    exact w.paired

/-- **A spelt text is taken as the text that is meant.** -/
theorem texts_word {a : Address} (w : Spelt.Word) (t : Text) :
    texts a (n + 1) r (w.text ++ t) = texts a n (r.give (.text w.value) a) t := by
  rw [texts, cutText_word]
  rfl

/-! ### Heads -/

/-- The document with a head, which is made from the kind if it is missing. -/
def withHead (d : Document) (k : Kind) : Document :=
  { d with head := some (d.head.getD (.leaf k)) }

/-- The document after its head receives a parameter. -/
def received (d : Document) (p : Parameter) : Document :=
  { d with head := d.head.map fun h => h.receive p }

/-- The document with a head of the kind. -/
def headed (k : Kind) : Document := ⟨some (.leaf k), none⟩

/-- How many texts the head takes at a time: a head for a schema file takes two, every other one. -/
def textCount (d : Document) : Nat :=
  if (d.head.getD (.leaf .newLinkedHead)).cls.isA .linkedHead then 2 else 1

/-- The reading in front of the parameters for its head. -/
def heading (r : Reading) (d : Document) (told : Text) : Reading :=
  { r with document := some d }.tell (line told)

/-- What stands behind the mark of a head is taken for a number for the head. -/
theorem read_headNumber (hd : r.document = some d) (l : Spelt.Number) (t : Text) :
    read honourRadix size r ("X@" ++ (l.text ++ t)) =
      unlessFault (l.fault? honourRadix)
        (read honourRadix size ((heading r (withHead d (.newPredefinedHead 0)) "Head").give
          (.number (l.value honourRadix)) .head) t) := by
  have htoken : ∀ pos, token r 'X' '@' pos =
      .ok (heading r (withHead d (.newPredefinedHead 0)) "Head", .numbers 1 .head) := by
    intro pos
    show head r (.newPredefinedHead 0) "Head" (fun _ => .numbers 1 .head) pos = _
    unfold head
    rw [hd]
    rfl
  show read honourRadix size r ('X' :: '@' :: (l.text ++ t)) = _
  rw [read_letter (d := 'X') rfl (by decide), htoken]
  simp only [parameters, numbers_text, numbers, read_after]

/-- What stands behind the mark of a title is taken for texts for the head. -/
theorem read_title (hd : r.document = some d) (t : Text) :
    read honourRadix size r ("X+" ++ t) =
      read honourRadix size
        (texts .head (textCount d) (heading r (withHead d .newLinkedHead) "Title") t).1
        (texts .head (textCount d) (heading r (withHead d .newLinkedHead) "Title") t).2 := by
  have htoken : ∀ pos, token r 'X' '+' pos =
      .ok (heading r (withHead d .newLinkedHead) "Title", .texts (textCount d) .head) := by
    intro pos
    show head r .newLinkedHead "Title"
      (fun n => .texts (if n.cls.isA .linkedHead then 2 else 1) .head) pos = _
    unfold head
    rw [hd]
    rfl
  show read honourRadix size r ('X' :: '+' :: t) = _
  rw [read_token _ _ _ _ _ (by decide) (by decide) rfl, htoken]
  rfl

/-- A document is started. -/
theorem read_document (r : Reading) (t : Text) :
    read honourRadix size r ("X!" ++ t) =
      read honourRadix size (r.put .blank (line "Document")) t := by
  show read honourRadix size r ('X' :: '!' :: t) = _
  rw [read_letter (d := 'X') rfl (by decide)]
  rfl

/-! ### Commands -/

/-- Texts for the head, one after the other. -/
theorem texts_words {ws : List Spelt.Word} (count : ws.length = n) (u t : Text) :
    texts .head n (r.put d u) (ws.flatMap Spelt.Word.text ++ t) =
      (r.put ((ws.map fun w => .text w.value).foldl received d) u, t) := by
  subst count
  induction ws generalizing d with
  | nil => rfl
  | cons w ws ih =>
      rw [List.flatMap_cons, List.append_assoc, List.length_cons, texts_word]
      exact ih

/-- **A command is read as its parameters**, which the head receives. -/
theorem read_command (hd : r.document = some d) (hn : textCount d = n) (c : Spelt.Command n)
    (t : Text) :
    read honourRadix size r (c.text ++ t) =
      unlessFault (c.fault? honourRadix)
        (read honourRadix size
          (r.put ((c.parameters honourRadix).foldl received (withHead d c.freshHead)) c.told)
          t) := by
  cases c with
  | number l =>
      rw [Spelt.Command.text, List.append_assoc, read_headNumber hd]
      rfl
  | title ws count =>
      have hheading : heading r (withHead d .newLinkedHead) "Title" =
          r.put (withHead d .newLinkedHead) (line "Title") := rfl
      rw [Spelt.Command.text, List.append_assoc, read_title hd, hn, hheading, texts_words count]
      rfl

/-- A document with a head receives what its head receives. -/
theorem foldl_received (k : Kind) (ps : List Parameter) :
    ps.foldl received (headed k) = headed (k.receiveAll ps) := by
  induction ps generalizing k with
  | nil => rfl
  | cons p ps ih => exact ih (k.receive p)

theorem textCount_headed (k : Kind) :
    textCount (headed k) = if k.cls.isA .linkedHead then 2 else 1 := rfl

/-- **Commands are read as all their parameters**, if there is a head already. -/
theorem read_commands (hd : r.document = some (headed k)) (hn : textCount (headed k) = n)
    (cs : List (Spelt.Command n)) (t : Text) :
    read honourRadix size r (cs.flatMap Spelt.Command.text ++ t) =
      unlessFault (cs.findSome? (Spelt.Command.fault? honourRadix))
        (read honourRadix size
          (r.put (headed (k.receiveAll (cs.flatMap (Spelt.Command.parameters honourRadix))))
            (cs.flatMap Spelt.Command.told)) t) := by
  induction cs generalizing r k with
  | nil =>
      simp only [List.flatMap_nil, List.nil_append, Kind.receiveAll_nil, Reading.put_self hd,
        List.findSome?_nil, unlessFault_none]
  | cons c cs ih =>
      have hhead : (c.parameters honourRadix).foldl received (withHead (headed k) c.freshHead) =
          headed (k.receiveAll (c.parameters honourRadix)) := foldl_received k _
      have hcount : textCount (headed (k.receiveAll (c.parameters honourRadix))) = n := by
        rw [textCount_headed, Kind.cls_receiveAll, ← textCount_headed, hn]
      rw [List.flatMap_cons, List.append_assoc, read_command hd hn, hhead, ih rfl hcount,
        Reading.put_put, List.flatMap_cons, List.flatMap_cons, Kind.receiveAll_append,
        findSome?_cons_or, unlessFault_or]

/-- The first command of a document makes its head, which receives what it gives and what the later
commands give. -/
theorem read_opening (hd : r.document = some .blank) (c : Spelt.Command 2)
    (hn : textCount (headed (c.freshHead.receiveAll (c.parameters honourRadix))) = n)
    (cs : List (Spelt.Command n)) (t : Text) :
    read honourRadix size r (c.text ++ cs.flatMap Spelt.Command.text ++ t) =
      unlessFault ((c.fault? honourRadix).or (cs.findSome? (Spelt.Command.fault? honourRadix)))
        (read honourRadix size
          (r.put (headed (c.freshHead.receiveAll
            (c.parameters honourRadix ++ cs.flatMap (Spelt.Command.parameters honourRadix))))
            (c.told ++ cs.flatMap Spelt.Command.told)) t) := by
  have hcount : textCount .blank = 2 := rfl
  have hhead : (c.parameters honourRadix).foldl received (withHead .blank c.freshHead) =
      headed (c.freshHead.receiveAll (c.parameters honourRadix)) := foldl_received c.freshHead _
  rw [List.append_assoc, read_command hd hcount, hhead,
    read_commands (Reading.document_put _ _ _) hn, Reading.put_put, Kind.receiveAll_append,
    unlessFault_or]

/-- **A spelt head is read as the head that is meant**, at the start of a document, unless a number
of it has too many digits. -/
theorem read_head (hd : r.document = some .blank) (h : Spelt.Head) (t : Text) :
    read honourRadix size r (h.text ++ t) =
      unlessFault (h.fault? honourRadix)
        (read honourRadix size (r.put (headed (h.kind honourRadix)) h.told) t) := by
  cases h with
  | predefined version later =>
      have hkind : (Kind.newPredefinedHead 0).receiveAll (.number (version.value honourRadix) ::
          later.flatMap (Spelt.Command.parameters honourRadix)) =
            (Spelt.Head.predefined version later).kind honourRadix :=
        Kind.receiveAll_predefined
      rw [← hkind]
      exact read_opening hd (.number version) rfl later t
  | linked title path later =>
      have hkind : Kind.newLinkedHead.receiveAll (.text title.value :: .text path.value ::
          later.flatMap (Spelt.Command.parameters honourRadix)) =
            (Spelt.Head.linked title path later).kind honourRadix := by
        rw [Kind.receiveAll_linked]
        simp [Spelt.Head.kind, List.getLast?_cons]
      have htext : (Spelt.Head.linked title path later).text =
          "X+" ++ [title, path].flatMap Spelt.Word.text ++ later.flatMap Spelt.Command.text := by
        simp [Spelt.Head.text]
      rw [← hkind, htext]
      exact read_opening hd (.title [title, path] rfl) rfl later t

/-- A document that is started and given a spelt head. -/
theorem read_spelt_document (h : Spelt.Head) (t : Text) :
    read honourRadix size .blank ("X!" ++ h.text ++ t) =
      unlessFault (h.fault? honourRadix) (read honourRadix size
        ⟨[], some ⟨some (.leaf (h.kind honourRadix)), none⟩, [], line "Document" ++ h.told⟩ t) := by
  rw [List.append_assoc, read_document, read_head rfl, Reading.put_put]
  rfl

end Forward

namespace Reading

/-- **What the commands of a head say.**  A text that starts a document and spells commands for its
head is read as the head that is meant; there are no frames, and what is told is told of the
document and of each command.  But it is not read at all if a number of base ten has too many
digits: then the first of these is what comes of it. -/
theorem ofCompact_head (honourRadix : Bool) (h : Spelt.Head) :
    ofCompact honourRadix ("X!" ++ h.text) =
      match h.fault? honourRadix with
      | some f => .error f
      | none =>
        .ok ⟨[], some ⟨some (.leaf (h.kind honourRadix)), none⟩, [], line "Document" ++ h.told⟩ :=
  ofCompact_unless (Forward.read_spelt_document h [])

/-- A command inside of a quoted text is no command, and the last number is the id. -/
theorem ofCompact_head_predefined :
    ofCompact true "X!X@0H6;X+\"X@0;\";X@0D2;" =
      .ok ⟨[], some ⟨some (.leaf (.predefinedHead .p676 2 "X@0;" true)), none⟩, [],
        "Document\nHead\nTitle\nHead\n"⟩ := by
  have hinside : ∀ a b : Text, "\"X@0;\"".toList = a ++ ';' :: b → oddQuotes a = true := by
    intro a b h
    have hguarded : guarded false "\"X@0;\"" = true := rfl
    simpa using guarded_iff.mp hguarded a b h
  exact (ofCompact_head true (.predefined ⟨"H6", by decide⟩
    [.title [⟨"\"X@0;\"", rfl, hinside⟩] rfl, .number ⟨"D2", by decide⟩])).trans rfl

/-- One digit too many in the version of a head. -/
theorem ofCompact_head_overlong :
    ofCompact true ("X!X@0D".toList ++ List.replicate 4301 '1' ++ ";".toList) =
      .error (.tooManyDigits 4301) := by
  have hspelt : ∀ n, digitLimit < n →
      ofCompact true ("X!X@0D".toList ++ List.replicate n '1' ++ ";".toList) =
        .error (.tooManyDigits n) := by
    intro n hn
    have htext : ("X!".toList ++ (Spelt.Head.predefined (.ones n) []).text) =
        "X!X@0D".toList ++ List.replicate n '1' ++ ";".toList := by
      simp [Spelt.Head.text, Spelt.Number.text, Spelt.Number.literal, Spelt.Number.ones]
    rw [← htext, ofCompact_unless (Forward.read_spelt_document (.predefined (.ones n) []) [])]
    unfold Spelt.Head.fault?
    simp only [Spelt.Number.fault?_ones hn]
    rfl
  exact hspelt 4301 (by decide)

end Reading

end StageCues
