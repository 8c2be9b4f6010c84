import StageCues.Store.Basic

/-!
# Store — calls that build trees

Trees are built by calls: nodes are made, with children or without, and nodes are put under others
by `append`, `extend` and `adopt`.  A call that fails leaves the store as it is.  That is nothing to
ask of `extend`: if it is refused at all, its first child is refused (`extend_of_channel`), so it
has attached none before it fails.

Whatever a call is, it does nothing, or it puts nodes that were made before, one after the other,
under one node: under a node that it makes for them, or under one that was made before and is no
channel write (`perform_cases`).  So what holds after all calls can be shown from `insert` and
`linkAll` alone.
-/

namespace StageCues

/-- Whether nodes of the class can be made with children. -/
def NodeClass.takesChildren : NodeClass → Bool
  | .channelData | .delay | .head | .predefinedHead | .linkedHead => false
  | _ => true

/-- A call that makes a node or puts nodes under another.  There is no call that makes a node with
children if its class takes none. -/
inductive Call where
  | make (k : Kind) (children : List NodeId) (taken : children = [] ∨ k.cls.takesChildren = true)
  | append (parent child : NodeId)
  | extend (parent : NodeId) (children : List NodeId)
  | adopt (parent child : NodeId)

/-- The nodes that a call names. -/
def Call.names : Call → List NodeId
  | .make _ children _ => children
  | .append parent child => [parent, child]
  | .extend parent children => parent :: children
  | .adopt parent child => [parent, child]

/-- Nodes that were put under others, one after the other, each with the parent in front. -/
abbrev History := List (NodeId × NodeId)

namespace Store

/-- Whether all nodes that a call names were made. -/
def knows (s : Store) (call : Call) : Bool := call.names.all fun id => id < s.cells.length

/-- What a call comes to. -/
def answer (s : Store) : Call → Except Fault Store
  | .make k children _ =>
    match s.make k (children.map .node) with
    | .ok (t, _) => .ok t
    | .error f => .error f
  | .append parent child => s.append parent (.node child)
  | .extend parent children => s.extend parent (children.map .node)
  | .adopt parent child => s.adopt parent (.node child)

/-- The store after a call.  A call that fails leaves it as it is, and there is no call that names a
node which was never made. -/
def perform (s : Store) (call : Call) : Store :=
  if s.knows call then
    match s.answer call with
    | .ok t => t
    | .error _ => s
  else s

/-- The store after calls. -/
def performAll (s : Store) (calls : List Call) : Store := calls.foldl perform s

/-- What calls build from nothing. -/
def build (calls : List Call) : Store := empty.performAll calls

/-- Nodes put under a node, one after the other. -/
def linkAll (s : Store) (p : NodeId) (cs : List NodeId) : Store :=
  cs.foldl (fun s c => s.link p (.node c)) s

/-- Whether a node takes another as a child element. -/
def adopts (s : Store) (p c : NodeId) : Bool :=
  (s.cls p).isComplex && s.cls p ≠ .delay && !((s.cls p).isA .iteration && !(s.cls c).isComplex)

/-- What a call puts under a node, in order. -/
def attached (s : Store) (call : Call) : History :=
  if s.knows call then
    match call with
    | .make _ cs _ => cs.map fun c => (s.cells.length, c)
    | .append p c => if s.cls p = .channelData then [] else [(p, c)]
    | .extend p cs => if s.cls p = .channelData then [] else cs.map fun c => (p, c)
    | .adopt p c => if s.adopts p c then [(p, c)] else []
  else []

variable {s : Store} {k : Kind} {p c id : NodeId} {cs : List NodeId} {calls : List Call}
  {call : Call}

/-! ### New nodes -/

@[simp] theorem length_cells_insert (s : Store) (k : Kind) :
    (s.insert k).1.cells.length = s.cells.length + 1 := by
  simp [insert]

theorem cell_insert_of_lt (h : id < s.cells.length) (k : Kind) :
    (s.insert k).1.cell id = s.cell id := by
  simp only [cell, insert, List.getElem?_append_left h]

@[simp] theorem cell_insert_self (s : Store) (k : Kind) :
    (s.insert k).1.cell s.cells.length = ⟨k, [], .none⟩ := by
  simp only [cell, insert, List.getElem?_concat_length, Option.getD_some]

theorem children_of_le (h : s.cells.length ≤ id) : s.children id = [] := by
  simp only [children, cell, List.getElem?_eq_none h, Option.getD_none]

/-- Only nodes that were made have children. -/
theorem lt_of_mem_children {x : Item} (h : x ∈ s.children id) : id < s.cells.length := by
  rcases Nat.lt_or_ge id s.cells.length with hid | hid
  · exact hid
  · rw [children_of_le hid] at h
    exact absurd h List.not_mem_nil

/-- A new node has no children, and the others keep theirs. -/
@[simp] theorem children_insert (s : Store) (k : Kind) (id : NodeId) :
    (s.insert k).1.children id = s.children id := by
  rcases Nat.lt_trichotomy id s.cells.length with hid | rfl | hid
  · rw [children, cell_insert_of_lt hid, children]
  · rw [children, cell_insert_self, children_of_le (Nat.le_refl _)]
  · have hle : (s.insert k).1.cells.length ≤ id := by
      rw [length_cells_insert]
      exact hid
    rw [children_of_le hle, children_of_le (Nat.le_of_lt hid)]

theorem cls_insert_of_lt (h : id < s.cells.length) (k : Kind) :
    (s.insert k).1.cls id = s.cls id := by
  simp only [cls, kind, cell_insert_of_lt h]

@[simp] theorem cls_insert_self (s : Store) (k : Kind) :
    (s.insert k).1.cls s.cells.length = k.cls := by
  simp only [cls, kind, cell_insert_self]

/-! ### New children -/

@[simp] theorem linkAll_nil (s : Store) (p : NodeId) : s.linkAll p [] = s := rfl

@[simp] theorem linkAll_cons (s : Store) (p c : NodeId) (cs : List NodeId) :
    s.linkAll p (c :: cs) = (s.link p (.node c)).linkAll p cs := rfl

@[simp] theorem length_cells_linkAll (s : Store) (p : NodeId) (cs : List NodeId) :
    (s.linkAll p cs).cells.length = s.cells.length := by
  induction cs generalizing s with
  | nil => rfl
  | cons c cs ih => rw [linkAll_cons, ih, length_cells_link]

@[simp] theorem cls_linkAll (s : Store) (p : NodeId) (cs : List NodeId) (id : NodeId) :
    (s.linkAll p cs).cls id = s.cls id := by
  induction cs generalizing s with
  | nil => rfl
  | cons c cs ih => rw [linkAll_cons, ih, cls_link]

theorem children_linkAll_of_ne (s : Store) (h : p ≠ id) (cs : List NodeId) :
    (s.linkAll p cs).children id = s.children id := by
  induction cs generalizing s with
  | nil => rfl
  | cons c cs ih => rw [linkAll_cons, ih, children_link_of_ne s h]

theorem children_linkAll_self (h : p < s.cells.length) (cs : List NodeId) :
    (s.linkAll p cs).children p = s.children p ++ cs.map .node := by
  induction cs generalizing s with
  | nil => rw [linkAll_nil, List.map_nil, List.append_nil]
  | cons c cs ih =>
      have hp : p < (s.link p (.node c)).cells.length := by simpa using h
      rw [linkAll_cons, ih hp, children_link_self h, List.append_assoc, List.map_cons]
      rfl

/-! ### What a call does -/

theorem append_of_ne (h : s.cls p ≠ .channelData) (c : NodeId) :
    s.append p (.node c) = .ok (s.linkAll p [c]) :=
  append_eq_ok_iff.mpr ⟨h, rfl⟩

theorem extend_of_ne (h : s.cls p ≠ .channelData) (cs : List NodeId) :
    s.extend p (cs.map .node) = .ok (s.linkAll p cs) := by
  induction cs generalizing s with
  | nil => rfl
  | cons c cs ih =>
      have hlink : s.append p (.node c) = .ok (s.link p (.node c)) := append_of_ne h c
      rw [List.map_cons, extend, hlink]
      exact ih (by rwa [cls_link])

/-- **A channel write refuses the first child already.** -/
theorem extend_of_channel (h : s.cls p = .channelData) (x : Item) (xs : List Item) :
    s.extend p (x :: xs) = .error .childOfChannel := by
  rw [extend, append, if_pos h]

/-- A complex element is no channel write. -/
theorem ne_of_isComplex (h : (s.cls p).isComplex = true) : s.cls p ≠ .channelData := by
  intro hp
  rw [hp] at h
  cases h

theorem ne_of_adopts (h : s.adopts p c = true) : s.cls p ≠ .channelData := by
  rw [adopts, Bool.and_eq_true, Bool.and_eq_true] at h
  exact ne_of_isComplex h.1.1

theorem perform_of_not_knows (h : s.knows call = false) : s.perform call = s := by
  simp [perform, h]

theorem attached_of_not_knows (h : s.knows call = false) : s.attached call = [] := by
  simp [attached, h]

/-- A new node takes the children that it is made with. -/
theorem extend_insert (taken : cs = [] ∨ k.cls.takesChildren = true) :
    (s.insert k).1.extend s.cells.length (cs.map .node) =
      .ok ((s.insert k).1.linkAll s.cells.length cs) := by
  rcases taken with rfl | hk
  · rfl
  · refine extend_of_ne (fun hc => ?_) cs
    rw [cls_insert_self] at hc
    rw [hc] at hk
    cases hk

theorem answer_make (taken : cs = [] ∨ k.cls.takesChildren = true) :
    s.answer (.make k cs taken) = .ok ((s.insert k).1.linkAll s.cells.length cs) := by
  have hid : (s.insert k).2 = s.cells.length := rfl
  simp only [answer, make, hid, extend_insert taken]

theorem perform_make {taken : cs = [] ∨ k.cls.takesChildren = true}
    (h : s.knows (.make k cs taken) = true) :
    s.perform (.make k cs taken) = (s.insert k).1.linkAll s.cells.length cs := by
  rw [perform, if_pos h, answer_make]

theorem perform_append (h : s.knows (.append p c) = true) :
    s.perform (.append p c) = if s.cls p = .channelData then s else s.linkAll p [c] := by
  by_cases hp : s.cls p = .channelData
  · simp [perform, h, answer, append, hp]
  · simp [perform, h, answer, append_of_ne hp, hp]

theorem perform_extend (h : s.knows (.extend p cs) = true) :
    s.perform (.extend p cs) = if s.cls p = .channelData then s else s.linkAll p cs := by
  by_cases hp : s.cls p = .channelData
  · cases cs with
    | nil => simp [perform, h, answer, extend]
    | cons c cs => simp [perform, h, answer, extend_of_channel hp, hp]
  · simp [perform, h, answer, extend_of_ne hp, hp]

theorem perform_adopt (h : s.knows (.adopt p c) = true) :
    s.perform (.adopt p c) = if s.adopts p c then s.linkAll p [c] else s := by
  have howner : (s.owner (.node c)).isComplex = (s.cls c).isComplex := rfl
  by_cases hc : (s.cls p).isComplex = true
  · have hp := ne_of_isComplex hc
    by_cases hd : s.cls p = .delay
    · simp only [perform, h, answer, adopt, adopts, hd]
      rfl
    · by_cases hi : ((s.cls p).isA .iteration && !(s.cls c).isComplex) = true
      · simp [perform, h, answer, adopt, adopts, hc, hd, hi, howner]
      · simp [perform, h, answer, adopt, adopts, hc, hd, hi, howner, append_of_ne hp]
  · simp [perform, h, answer, adopt, adopts, hc]

theorem knows_iff : s.knows call = true ↔ ∀ id ∈ call.names, id < s.cells.length := by
  simp only [knows, List.all_eq_true, decide_eq_true_eq]

/-- **What a call does.** -/
theorem perform_cases (s : Store) (call : Call) :
    (s.perform call = s ∧ s.attached call = []) ∨
    (∃ k cs, (cs = [] ∨ k.cls.takesChildren = true) ∧ (∀ c ∈ cs, c < s.cells.length) ∧
      s.perform call = (s.insert k).1.linkAll s.cells.length cs ∧
      s.attached call = cs.map fun c => (s.cells.length, c)) ∨
    (∃ p cs, s.cls p ≠ .channelData ∧ p < s.cells.length ∧ (∀ c ∈ cs, c < s.cells.length) ∧
      s.perform call = s.linkAll p cs ∧ s.attached call = cs.map fun c => (p, c)) := by
  by_cases h : s.knows call = true
  · have hnames := knows_iff.mp h
    cases call with
    | make k cs taken =>
        exact .inr (.inl ⟨k, cs, taken, hnames, perform_make h, by rw [attached, if_pos h]⟩)
    | append p c =>
        by_cases hp : s.cls p = .channelData
        · exact .inl ⟨by rw [perform_append h, if_pos hp], by simp [attached, hp]⟩
        · obtain ⟨hpar, hc⟩ := List.forall_mem_cons.mp hnames
          exact .inr (.inr ⟨p, [c], hp, hpar, hc, by rw [perform_append h, if_neg hp],
            by simp [attached, h, hp]⟩)
    | extend p cs =>
        by_cases hp : s.cls p = .channelData
        · exact .inl ⟨by rw [perform_extend h, if_pos hp], by simp [attached, hp]⟩
        · obtain ⟨hpar, hcs⟩ := List.forall_mem_cons.mp hnames
          exact .inr (.inr ⟨p, cs, hp, hpar, hcs, by rw [perform_extend h, if_neg hp],
            by simp [attached, h, hp]⟩)
    | adopt p c =>
        by_cases ha : s.adopts p c = true
        · obtain ⟨hpar, hc⟩ := List.forall_mem_cons.mp hnames
          exact .inr (.inr ⟨p, [c], ne_of_adopts ha, hpar, hc,
            by rw [perform_adopt h, if_pos ha], by simp [attached, h, ha]⟩)
        · exact .inl ⟨by rw [perform_adopt h, if_neg ha], by simp [attached, ha]⟩
  · have hk := Bool.eq_false_iff.mpr h
    exact .inl ⟨perform_of_not_knows hk, attached_of_not_knows hk⟩

/-! ### Children that were made -/

/-- All children are nodes that were made. -/
def Grounded (s : Store) : Prop :=
  ∀ id, ∀ x ∈ s.children id, ∃ c, x = .node c ∧ c < s.cells.length

theorem children_empty (id : NodeId) : empty.children id = [] := rfl

theorem grounded_empty : Grounded .empty := by
  intro id x h
  rw [children_empty] at h
  exact absurd h List.not_mem_nil

theorem Grounded.insert (h : s.Grounded) (k : Kind) : (s.insert k).1.Grounded := by
  intro id x hx
  rw [children_insert] at hx
  obtain ⟨c, rfl, hc⟩ := h id x hx
  exact ⟨c, rfl, by rw [length_cells_insert]; exact Nat.lt_succ_of_lt hc⟩

theorem Grounded.linkAll (h : s.Grounded) (hp : p < s.cells.length)
    (hcs : ∀ c ∈ cs, c < s.cells.length) : (s.linkAll p cs).Grounded := by
  intro id x hx
  rw [length_cells_linkAll]
  by_cases hid : p = id
  · subst hid
    rw [children_linkAll_self hp, List.mem_append, List.mem_map] at hx
    rcases hx with hx | ⟨c, hc, rfl⟩
    · exact h p x hx
    · exact ⟨c, rfl, hcs c hc⟩
  · rw [children_linkAll_of_ne s hid] at hx
    exact h id x hx

/-- Calls put only nodes that were made under others. -/
theorem Grounded.perform (h : s.Grounded) (call : Call) : (s.perform call).Grounded := by
  rcases perform_cases s call with ⟨e, -⟩ | ⟨k, cs, -, hcs, e, -⟩ | ⟨p, cs, -, hp, hcs, e, -⟩
  · rwa [e]
  · rw [e]
    refine (h.insert k).linkAll (by simp) fun c hc => ?_
    rw [length_cells_insert]
    exact Nat.lt_succ_of_lt (hcs c hc)
  · rw [e]
    exact h.linkAll hp hcs

/-- What every call keeps, all of them keep. -/
theorem performAll_keeps {P : Store → Prop} (hstep : ∀ s call, P s → P (s.perform call))
    (h : P s) (calls : List Call) : P (s.performAll calls) := by
  induction calls generalizing s with
  | nil => exact h
  | cons call calls ih => exact ih (hstep s call h)

end Store

end StageCues
