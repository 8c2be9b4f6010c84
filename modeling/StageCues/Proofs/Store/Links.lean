import StageCues.Proofs.Store.History

/-!
# Store — parents and children

A node knows one parent, though it may stand among the children of several nodes, or several times
among those of one.  After any calls the parent is the node that it was put under last, and a node
that was never put under another has none (`linked_build`).  So a node always stands among the
children of its parent; but it also stays among those of the nodes that it was put under before.  It
makes no difference whether a node comes to stand below itself.

What a call comes to says nothing about a store halfway through the call.  So the calls are carried
out here piece by piece, with all that was done before a fault left done: a child is told its parent
first and put among the children then, and many children are put there one by one (`carryOut`).
Still each call does all that it comes to, or nothing (`carryOut_eq`), as a fault always comes
before the first change.
-/

namespace StageCues.Store

/-! ### Calls piece by piece -/

/-- An item appended to a node: it is told its parent, and then put among the children.  A channel
write refuses it before that. -/
def appendInPlace (p : NodeId) (x : Item) : EStateM Fault Store Unit := do
  if (← get).cls p = .channelData then throw .childOfChannel
  else
    modify (·.setParent p x)
    modify (·.modifyCell p (.push x))

/-- Items appended one by one, until one is refused. -/
def extendInPlace (p : NodeId) : List Item → EStateM Fault Store Unit
  | [] => pure ()
  | x :: xs => do
    appendInPlace p x
    extendInPlace p xs

/-- An item appended as a child element, if the node takes it. -/
def adoptInPlace (p : NodeId) (x : Item) : EStateM Fault Store Unit := do
  let s ← get
  if !(s.cls p).isComplex then throw (.lacks (.node (s.cls p)) .adopt)
  else if s.cls p = .delay then pure ()
  else if (s.cls p).isA .iteration && !(s.owner x).isComplex then
    throw (.childOfIteration (s.owner x))
  else appendInPlace p x

/-- A new node, and then the children appended to it. -/
def makeInPlace (k : Kind) (xs : List Item) : EStateM Fault Store NodeId := do
  let p ← modifyGet fun s => ((s.insert k).2, (s.insert k).1)
  extendInPlace p xs
  return p

/-- A call carried out piece by piece. -/
def carryOut : Call → EStateM Fault Store Unit
  | .make k cs _ => do let _ ← makeInPlace k (cs.map .node)
  | .append p c => appendInPlace p (.node c)
  | .extend p cs => extendInPlace p (cs.map .node)
  | .adopt p c => adoptInPlace p (.node c)

/-- The store after a call that was carried out, if need be up to a fault.  There is no call that
names a node which was never made. -/
def after (s : Store) (call : Call) : Store :=
  if s.knows call then
    match (carryOut call).run s with
    | .ok _ t => t
    | .error _ t => t
  else s

/-- The store after calls that were carried out one after the other. -/
def afterAll (s : Store) (calls : List Call) : Store := calls.foldl after s

/-- The parents in a store are those that a history leaves, and agree with the children. -/
structure Linked (s : Store) (h : History) : Prop where
  /-- A node stands among the children of its parent. -/
  held : ∀ p c, s.parent c = some p → s.Holds p c
  /-- The parent of a node is the one that it was put under last. -/
  latest : ∀ earlier p c later, h = earlier ++ (p, c) :: later → (∀ q, (q, c) ∉ later) →
    s.parent c = some p
  /-- A node that was never put under another has no parent. -/
  loose : ∀ c, (∀ p, (p, c) ∉ h) → s.parent c = none

/-- What carrying out comes to if it is all or nothing: the answer, or a fault and the store as it
was. -/
def allOrNothing (s : Store) : Except Fault Store → EStateM.Result Fault Store Unit
  | .ok t => .ok () t
  | .error f => .error f s

variable {s t : Store} {k : Kind} {p : NodeId} {cs : List NodeId} {call : Call} {f : Fault}

/-! ### All or nothing -/

theorem appendInPlace_eq (s : Store) (p : NodeId) (x : Item) :
    (appendInPlace p x).run s = s.allOrNothing (s.append p x) := by
  simp only [appendInPlace, append, EStateM.run_bind, EStateM.run_get]
  split <;> rfl

theorem extendInPlace_of_ne (h : s.cls p ≠ .channelData) (cs : List NodeId) :
    (extendInPlace p (cs.map .node)).run s = .ok () (s.linkAll p cs) := by
  induction cs generalizing s with
  | nil => rfl
  | cons c cs ih =>
      have hfirst : (appendInPlace p (.node c)).run s = .ok () (s.link p (.node c)) := by
        rw [appendInPlace_eq, append_of_ne h]
        rfl
      have hrest := ih (s := s.link p (.node c)) (by rwa [cls_link])
      simp [extendInPlace, hfirst, hrest]

/-- Children that are refused at all are refused before the first of them is put anywhere. -/
theorem extendInPlace_eq (s : Store) (p : NodeId) (cs : List NodeId) :
    (extendInPlace p (cs.map .node)).run s = s.allOrNothing (s.extend p (cs.map .node)) := by
  by_cases hp : s.cls p = .channelData
  · cases cs with
    | nil => rfl
    | cons c cs =>
        have hfirst : (appendInPlace p (.node c)).run s = .error .childOfChannel s := by
          rw [appendInPlace_eq, append, if_pos hp]
          rfl
        rw [List.map_cons, extend_of_channel hp]
        simp [extendInPlace, hfirst, allOrNothing]
  · rw [extendInPlace_of_ne hp, extend_of_ne hp]
    rfl

theorem adoptInPlace_eq (s : Store) (p : NodeId) (x : Item) :
    (adoptInPlace p x).run s = s.allOrNothing (s.adopt p x) := by
  simp only [adoptInPlace, adopt, EStateM.run_bind, EStateM.run_get]
  split
  · rfl
  · split
    · rfl
    · split
      · rfl
      · exact appendInPlace_eq s p x

/-- A node is made with all its children or not at all: its class refuses none of them. -/
theorem carryOut_make (taken : cs = [] ∨ k.cls.takesChildren = true) :
    (carryOut (.make k cs taken)).run s = .ok () ((s.insert k).1.linkAll s.cells.length cs) := by
  have hextend : (extendInPlace s.cells.length (cs.map .node)).run (s.insert k).1 =
      .ok () ((s.insert k).1.linkAll s.cells.length cs) := by
    rw [extendInPlace_eq, extend_insert taken]
    rfl
  have hid : (s.insert k).2 = s.cells.length := rfl
  simp [carryOut, makeInPlace, hid, hextend]

/-- **A call does all that it comes to, or nothing.** -/
theorem carryOut_eq (s : Store) (call : Call) :
    (carryOut call).run s = s.allOrNothing (s.answer call) := by
  cases call with
  | make k cs taken =>
      rw [carryOut_make, answer_make]
      rfl
  | append p c => exact appendInPlace_eq s p (.node c)
  | extend p cs => exact extendInPlace_eq s p cs
  | adopt p c => exact adoptInPlace_eq s p (.node c)

theorem eq_of_carryOut_error (h : (carryOut call).run s = .error f t) : t = s := by
  rw [carryOut_eq] at h
  cases hanswer : s.answer call with
  | ok u =>
      rw [hanswer] at h
      cases h
  | error g =>
      rw [hanswer] at h
      cases h
      rfl

theorem carryOut_adopt_of_delay (h : s.cls p = .delay) (c : NodeId) :
    (carryOut (.adopt p c)).run s = .ok () s := by
  have hanswer : s.answer (.adopt p c) = .ok s := by
    rw [answer, adopt, h]
    rfl
  rw [carryOut_eq, hanswer]
  rfl

theorem after_eq (s : Store) (call : Call) : s.after call = s.perform call := by
  unfold after perform
  rw [carryOut_eq]
  cases s.answer call <;> rfl

theorem afterAll_eq (s : Store) (calls : List Call) : s.afterAll calls = s.performAll calls := by
  have hstep : after = perform := funext fun s => funext fun call => after_eq s call
  rw [afterAll, performAll, hstep]

/-! ### Parents after calls -/

/-- **What calls make of the parents.** -/
theorem linked_build (calls : List Call) : (build calls).Linked (empty.history calls) where
  held p c hc := by
    rw [parent_build] at hc
    exact holds_build.mpr (History.mem_of_last? hc)
  latest earlier p c later hsplit hlater := by
    rw [parent_build, hsplit]
    exact History.last?_append_cons hlater
  loose c hc := by
    rw [parent_build]
    exact History.last?_of_forall_not_mem hc

/-- **Parents and children agree at any time.**  Calls that are carried out piece by piece build
what the calls come to, and the parents there are those of the last attachments.  A call that is
refused leaves that store as it is, and so does a child element for a wait. -/
theorem parents_agree (calls : List Call) :
    empty.afterAll calls = build calls ∧
    (build calls).Linked (empty.history calls) ∧
    (∀ call f t, (carryOut call).run (build calls) = .error f t → t = build calls) ∧
    ∀ p c, (build calls).cls p = .delay →
      (carryOut (.adopt p c)).run (build calls) = .ok () (build calls) := by
  have hbuild : empty.afterAll calls = build calls := afterAll_eq empty calls
  have hrefused : ∀ call f t, (carryOut call).run (build calls) = .error f t → t = build calls :=
    fun _ _ _ h => eq_of_carryOut_error h
  have hwait : ∀ p c, (build calls).cls p = .delay →
      (carryOut (.adopt p c)).run (build calls) = .ok () (build calls) :=
    fun _ c h => carryOut_adopt_of_delay h c
  exact ⟨hbuild, linked_build calls, hrefused, hwait⟩

/-- A channel write that is made a child of one frame, then twice of another: it stays where it was
first, it refuses children, and a wait and a loop do not take it. -/
theorem parents_agree_moved :
    let calls : List Call := [.make (.newChannelData 1 2) [] (.inl rfl),
      .make (.newKeyFrame 0 false) [0] (.inr rfl), .make (.newKeyFrame 0 false) [] (.inl rfl),
      .extend 2 [0, 0], .make (.newDelay none) [] (.inl rfl),
      .make (.infiniteIteration false) [] (.inl rfl)]
    let s := build calls
    empty.history calls = [(1, 0), (2, 0), (2, 0)] ∧
    s.parent 0 = some 2 ∧ s.Holds 2 0 ∧ s.Holds 1 0 ∧ s.parent 1 = none ∧
    (carryOut (.extend 0 [1, 2])).run s = .error .childOfChannel s ∧
    (carryOut (.adopt 4 0)).run s = .error (.childOfIteration (.node .channelData)) s ∧
    (carryOut (.adopt 3 0)).run s = .ok () s := by
  intro calls s
  obtain ⟨-, hlinked, hrefused, hwait⟩ := parents_agree calls
  have hhistory : empty.history calls = [(1, 0), (2, 0), (2, 0)] := rfl
  have hparent : s.parent 0 = some 2 :=
    hlinked.latest [(1, 0), (2, 0)] 2 0 [] hhistory fun _ => List.not_mem_nil
  have hfree : s.parent 1 = none := hlinked.loose 1 fun p hp => by
    rw [hhistory] at hp
    simp at hp
  refine ⟨hhistory, hparent, hlinked.held 2 0 hparent, List.mem_cons_self, hfree, ?_, ?_,
    hwait 3 0 rfl⟩
  · obtain ⟨t, ht⟩ : ∃ t, (carryOut (.extend 0 [1, 2])).run s = .error .childOfChannel t := ⟨_, rfl⟩
    rwa [hrefused _ _ t ht] at ht
  · obtain ⟨t, ht⟩ : ∃ t, (carryOut (.adopt 4 0)).run s =
        .error (.childOfIteration (.node .channelData)) t := ⟨_, rfl⟩
    rwa [hrefused _ _ t ht] at ht

end StageCues.Store
