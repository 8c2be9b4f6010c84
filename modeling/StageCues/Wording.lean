import StageCues.Fault

/-!
# Wording — numbers and values as text

A number is put down in base ten unless it goes beyond the limit; then whatever was to be told,
shown or written with it fails.  Positions and counts never get near the limit, and are put down as
they are.  A plain value is put down as it is, or as it stands in a label.
-/

namespace StageCues

open Text

/-- The number in base ten, or the fault that it has too many digits. -/
def worded (n : Int) : Except Fault Text :=
  if isShort n then .ok (decimal n) else .error .tooLong

/-- What was done in two steps has a result of both. -/
theorem bind_eq_ok {ε α β : Type} {x : Except ε α} {f : α → Except ε β} {b : β} :
    x >>= f = .ok b ↔ ∃ a, x = .ok a ∧ f a = .ok b := by
  cases x with
  | error e => exact ⟨nofun, nofun⟩
  | ok a => exact ⟨fun h => ⟨a, rfl, h⟩, fun ⟨_, h, hf⟩ => Except.ok.inj h ▸ hf⟩

theorem map_eq_ok {ε α β : Type} {x : Except ε α} {f : α → β} {b : β} :
    f <$> x = .ok b ↔ ∃ a, x = .ok a ∧ f a = b := by
  cases x with
  | error e => exact ⟨nofun, nofun⟩
  | ok a => exact ⟨fun h => ⟨a, rfl, Except.ok.inj h⟩,
      fun ⟨_, h, hf⟩ => congrArg Except.ok (Except.ok.inj h ▸ hf)⟩

theorem map_eq_error {ε α β : Type} {x : Except ε α} {f : α → β} {e : ε} :
    f <$> x = .error e ↔ x = .error e := by
  cases x with
  | error d => exact ⟨fun h => congrArg Except.error (Except.error.inj h), congrArg _⟩
  | ok a => exact ⟨nofun, nofun⟩

theorem worded_of_isShort {n : Int} (h : isShort n = true) : worded n = .ok (decimal n) := if_pos h

theorem worded_of_not_isShort {n : Int} (h : isShort n = false) : worded n = .error .tooLong :=
  if_neg (by simp [h])

/-- A number that is put down is within the limit. -/
theorem worded_eq_ok {n : Int} {t : Text} :
    worded n = .ok t ↔ isShort n = true ∧ decimal n = t := by
  unfold worded
  split
  · next h => simp [h]
  · next h => simp [h]

/-- What fails, if it fails at all, because a number is too long to be put down. -/
def FailsByLength {α : Type} (x : Except Fault α) : Prop := ∀ f, x = .error f → f = .tooLong

theorem FailsByLength.ok {α : Type} (a : α) : FailsByLength (.ok a) := nofun

theorem FailsByLength.bind {α β : Type} {x : Except Fault α} {f : α → Except Fault β}
    (hx : FailsByLength x) (hf : ∀ a, FailsByLength (f a)) : FailsByLength (x >>= f) := by
  cases x with
  | error e => exact fun d hd => hx d (congrArg Except.error (Except.error.inj hd))
  | ok a => exact hf a

theorem FailsByLength.map {α β : Type} {x : Except Fault α} (hx : FailsByLength x) (f : α → β) :
    FailsByLength (f <$> x) :=
  fun e he => hx e (map_eq_error.mp he)

theorem failsByLength_worded (n : Int) : FailsByLength (worded n) := by
  unfold worded
  split
  · exact .ok _
  · exact fun _ h => (Except.error.inj h).symm

theorem failsByLength_both {α : Type} (m n : Int) (f : Text → Text → α) :
    FailsByLength (do return f (← worded m) (← worded n)) :=
  (failsByLength_worded m).bind fun _ => (failsByLength_worded n).bind fun _ => .ok _

namespace PlainValue

/-- The value as plain text. -/
def plain : PlainValue → Except Fault Text
  | .text t => .ok t
  | .number n => worded n
  | .truth true => .ok "True"
  | .truth false => .ok "False"
  | .nothing => .ok "None"

/-- The label of a value: a text in quotes, everything else as it is. -/
def label : PlainValue → Except Fault Text
  | .text t => .ok (quoted t)
  | v => v.plain

/-- The value as it is shown in a label: a text in quotes, and both a text and a number without
their middles if they are too wide. -/
def shown : PlainValue → Except Fault Text
  | .text t => .ok (abbreviated t)
  | .number n => abbreviatedMiddle <$> worded n
  | v => v.plain

theorem failsByLength_plain (v : PlainValue) : FailsByLength v.plain := by
  cases v with
  | number n => exact failsByLength_worded n
  | truth b => cases b <;> exact .ok _
  | _ => exact .ok _

theorem failsByLength_shown (v : PlainValue) : FailsByLength v.shown := by
  cases v with
  | text t => exact .ok _
  | number n => exact (failsByLength_worded n).map _
  | truth b => exact failsByLength_plain (.truth b)
  | nothing => exact .ok _

end PlainValue

end StageCues
