import StageCues.Node.Written

/-!
# Written — what is to be seen of a kind

A kind is written and shown without regard to its memory of received parameters and to the name of
its version; `Kind.visible` is what is left of it.  A comparison looks at the same, except that it
takes titles and paths as they count.  Texts count as themselves, and titles and paths are meant to
be texts: kinds with such that are alike have the same to be seen (`Kind.visible_congr`).
-/

namespace StageCues

/-- Whether a value is a text. -/
def PlainValue.isText : PlainValue → Bool
  | .text _ => true
  | _ => false

theorem PlainValue.counted_of_isText {v : PlainValue} (h : v.isText = true) : v.counted = v := by
  cases v with
  | truth b => cases h
  | _ => rfl

namespace Kind

/-- Whether the title and the path of a kind are texts, as they are meant to be. -/
def hasTexts : Kind → Bool
  | .head _ title | .predefinedHead _ _ title _ => title.isText
  | .linkedHead _ title path _ => title.isText && path.isText
  | _ => true

/-- The kind without its memory of received parameters, and with its version known by its number
alone. -/
def visible : Kind → Kind
  | .channelData channel value _ => .channelData channel value 0
  | .head version title => .head (.ofNumber version.number) title
  | .predefinedHead version id title _ => .predefinedHead (.ofNumber version.number) id title false
  | .linkedHead version title path _ => .linkedHead (.ofNumber version.number) title path false
  | k => k

variable {k l : Kind}

/-- A comparison looks at what is to be seen of a kind, and at nothing else. -/
theorem forget_eq_visible (h : k.hasTexts = true) : k.forget = k.visible := by
  cases k with
  | head version title => rw [forget, visible, PlainValue.counted_of_isText h]
  | predefinedHead version id title versioned =>
      rw [forget, visible, PlainValue.counted_of_isText h]
  | linkedHead version title path titled =>
      obtain ⟨ht, hp⟩ := Bool.and_eq_true_iff.mp h
      rw [forget, visible, PlainValue.counted_of_isText ht, PlainValue.counted_of_isText hp]
  | _ => rfl

/-- **Alike kinds with texts for their titles and paths have the same to be seen.** -/
theorem visible_congr (h : k.alike l = true) (hk : k.hasTexts = true) (hl : l.hasTexts = true) :
    k.visible = l.visible := by
  have hforget : k.forget = l.forget := by simpa [alike] using h
  rw [← forget_eq_visible hk, hforget, forget_eq_visible hl]

/-- A text is put down as it is, so that what is written of a kind with texts is always there. -/
theorem exists_wrap (h : k.hasTexts = true) (inner : Text) : ∃ t, k.wrap inner = .ok t := by
  have htext : ∀ {v : PlainValue}, v.isText = true → ∃ t, v.plain = .ok t := by
    intro v hv
    cases v with
    | text t => exact ⟨t, rfl⟩
    | _ => cases hv
  cases k with
  | keyFrame time empty closed => cases empty <;> exact ⟨_, rfl⟩
  | predefinedHead version id title versioned =>
      obtain ⟨t, ht⟩ := htext h
      simp only [wrap, ht]
      split <;> exact ⟨_, rfl⟩
  | linkedHead version title path titled =>
      obtain ⟨htitle, hpath⟩ := Bool.and_eq_true_iff.mp h
      obtain ⟨t, ht⟩ := htext htitle
      obtain ⟨u, hu⟩ := htext hpath
      simp only [wrap, ht, hu]
      exact ⟨_, rfl⟩
  | _ => exact ⟨_, rfl⟩

@[simp] theorem isWritable_visible (k : Kind) : k.visible.isWritable = k.isWritable := by
  cases k <;> rfl

@[simp] theorem hidesChildren_visible (k : Kind) :
    k.visible.hidesChildren = k.hidesChildren := by
  cases k <;> rfl

@[simp] theorem cls_visible (k : Kind) : k.visible.cls = k.cls := by cases k <;> rfl

@[simp] theorem wrap_visible (k : Kind) (inner : Text) : k.visible.wrap inner = k.wrap inner := by
  cases k with
  | predefinedHead version id title versioned =>
      simp only [visible, wrap, SchemaVersion.number_ofNumber]
  | linkedHead version title path titled =>
      simp only [visible, wrap, SchemaVersion.number_ofNumber]
  | _ => rfl

/-- What is written of a kind is to be seen of it. -/
theorem written_congr (h : k.visible = l.visible) :
    k.cls = l.cls ∧ k.isWritable = l.isWritable ∧ k.hidesChildren = l.hidesChildren ∧
      ∀ inner, k.wrap inner = l.wrap inner := by
  refine ⟨?_, ?_, ?_, fun inner => ?_⟩
  · rw [← cls_visible, h, cls_visible]
  · rw [← isWritable_visible, h, isWritable_visible]
  · rw [← hidesChildren_visible, h, hidesChildren_visible]
  · rw [← wrap_visible, h, wrap_visible]

@[simp] theorem detail?_visible (k : Kind) : k.visible.detail? = k.detail? := by
  cases k with
  | head version title => simp only [visible, detail?, SchemaVersion.number_ofNumber]
  | predefinedHead version id title versioned =>
      simp only [visible, detail?, SchemaVersion.number_ofNumber]
  | linkedHead version title path titled =>
      simp only [visible, detail?, SchemaVersion.number_ofNumber]
  | _ => rfl

@[simp] theorem label_visible (k : Kind) (count : Nat) :
    k.visible.label count = k.label count := by
  unfold label
  rw [cls_visible, detail?_visible]

@[simp] theorem caption_visible (k : Kind) (count : Nat) :
    k.visible.caption count = k.caption count := by
  have hlabel := label_visible k count
  cases k with
  | channelData channel value received => rfl
  | keyFrame time empty closed => rfl
  | delay mode ms => rfl
  | _ => exact hlabel

end Kind

end StageCues
