import StageCues.Proofs.Store.Calls

/-!
# Store — children by class

Channel writes and waits are to have no children, and loops complex elements only
(`NodeClass.mayHold`).  Channel writes refuse children in every way, so they never have any.  But
waits and loops look at a child only when it is given to `adopt`: put under them by `append` or
`extend`, or given to a loop when it is made, any node stays there (`not_fitting_build`).

So a tree that is built by calls has children by class exactly if each call that looks at none
attaches only such as may stand there (`fitting_build_iff`).  One step shows why: a call attaches
what it attaches at the end of the children, takes none away, and no class ever changes
(`fitting_perform`).
-/

namespace StageCues

/-- Whether a node of the class may have the child: channel writes and waits have none, and loops
complex elements only. -/
def NodeClass.mayHold : NodeClass → Owner → Bool
  | .channelData, _ => false
  | .delay, _ => false
  | .forIteration, child => child.isComplex
  | .infiniteIteration, child => child.isComplex
  | _, _ => true

namespace Store

/-- Every child stands under a node that may have it. -/
def Fitting (s : Store) : Prop := ∀ id, ∀ x ∈ s.children id, (s.cls id).mayHold (s.owner x) = true

/-- A call attaches only children that may stand where it puts them, or looks at them itself. -/
def Admits (s : Store) : Call → Prop
  | .make k cs _ => ∀ c ∈ cs, k.cls.mayHold (.node (s.cls c)) = true
  | .append p c => s.cls p = .channelData ∨ (s.cls p).mayHold (.node (s.cls c)) = true
  | .extend p cs =>
    s.cls p = .channelData ∨ ∀ c ∈ cs, (s.cls p).mayHold (.node (s.cls c)) = true
  | .adopt _ _ => True

/-- Each of the calls, when it comes, attaches only such children, if there is such a call. -/
def AdmitsAll (s : Store) : List Call → Prop
  | [] => True
  | call :: calls => (s.knows call = true → s.Admits call) ∧ (s.perform call).AdmitsAll calls

variable {s : Store} {k : Kind} {p c id : NodeId} {cs : List NodeId} {calls : List Call}
  {call : Call}

theorem owner_linkAll (s : Store) (p : NodeId) (cs : List NodeId) (x : Item) :
    (s.linkAll p cs).owner x = s.owner x := by
  cases x with
  | node id => simp only [owner, cls_linkAll]
  | document id => rfl

theorem fitting_empty : Fitting .empty := by
  intro id x h
  rw [children_empty] at h
  exact absurd h List.not_mem_nil

/-- A new node leaves all children where they stand. -/
theorem fitting_insert (h : s.Grounded) (k : Kind) : (s.insert k).1.Fitting ↔ s.Fitting := by
  unfold Fitting
  simp only [children_insert]
  refine forall_congr' fun id => forall₂_congr fun x hx => ?_
  obtain ⟨c, rfl, hc⟩ := h id x hx
  simp only [owner, cls_insert_of_lt (lt_of_mem_children hx), cls_insert_of_lt hc]

/-- **New children fit if each of them may stand there.** -/
theorem fitting_linkAll (hp : p < s.cells.length) :
    (s.linkAll p cs).Fitting ↔
      s.Fitting ∧ ∀ c ∈ cs, (s.cls p).mayHold (.node (s.cls c)) = true := by
  unfold Fitting
  simp only [cls_linkAll, owner_linkAll]
  constructor
  · intro h
    refine ⟨fun id x hx => h id x ?_, fun c hc => h p (.node c) ?_⟩
    · by_cases hid : p = id
      · subst hid
        rw [children_linkAll_self hp]
        exact List.mem_append_left _ hx
      · rwa [children_linkAll_of_ne s hid]
    · rw [children_linkAll_self hp]
      exact List.mem_append_right _ (List.mem_map_of_mem hc)
  · rintro ⟨hold, hnew⟩ id x hx
    by_cases hid : p = id
    · subst hid
      rw [children_linkAll_self hp, List.mem_append, List.mem_map] at hx
      rcases hx with hx | ⟨c, hc, rfl⟩
      · exact hold p x hx
      · exact hnew c hc
    · rw [children_linkAll_of_ne s hid] at hx
      exact hold id x hx

/-- A child element that a node takes may stand there. -/
theorem mayHold_of_adopts (h : s.adopts p c = true) :
    (s.cls p).mayHold (.node (s.cls c)) = true := by
  unfold adopts at h
  cases hp : s.cls p <;>
    simp_all [NodeClass.mayHold, NodeClass.isComplex, NodeClass.isA, NodeClass.lineage,
      Owner.isComplex]

/-- **What one call keeps.** -/
theorem fitting_perform (h : s.Grounded) (call : Call) :
    (s.perform call).Fitting ↔ s.Fitting ∧ (s.knows call = true → s.Admits call) := by
  by_cases hk : s.knows call = true
  · have hnames := knows_iff.mp hk
    rw [iff_true_intro hk, true_imp_iff]
    cases call with
    | make k cs taken =>
        have hp : s.cells.length < (s.insert k).1.cells.length := by simp
        rw [perform_make hk, fitting_linkAll hp, fitting_insert h, cls_insert_self]
        refine and_congr_right fun _ => forall₂_congr fun c hc => ?_
        rw [cls_insert_of_lt (hnames c hc)]
    | append p c =>
        rw [perform_append hk]
        by_cases hp : s.cls p = .channelData
        · simp [Admits, hp]
        · rw [if_neg hp, fitting_linkAll (hnames p (by simp [Call.names]))]
          simp [Admits, hp]
    | extend p cs =>
        rw [perform_extend hk]
        by_cases hp : s.cls p = .channelData
        · simp [Admits, hp]
        · rw [if_neg hp, fitting_linkAll (hnames p (by simp [Call.names]))]
          simp [Admits, hp]
    | adopt p c =>
        rw [perform_adopt hk]
        by_cases ha : s.adopts p c = true
        · rw [if_pos ha, fitting_linkAll (hnames p (by simp [Call.names]))]
          simp [Admits, mayHold_of_adopts ha]
        · simp [Admits, ha]
  · rw [perform_of_not_knows (Bool.eq_false_iff.mpr hk)]
    simp [hk]

/-- **What a run of calls keeps.** -/
theorem fitting_performAll (h : s.Grounded) (calls : List Call) :
    (s.performAll calls).Fitting ↔ s.Fitting ∧ s.AdmitsAll calls := by
  induction calls generalizing s with
  | nil => simp [performAll, AdmitsAll]
  | cons call calls ih =>
      show ((s.perform call).performAll calls).Fitting ↔ _
      rw [ih (h.perform call), fitting_perform h, AdmitsAll, and_assoc]

/-- No channel write has children. -/
def ChannelsBare (s : Store) : Prop := ∀ id, s.cls id = .channelData → s.children id = []

/-- Children under a node that is no channel write. -/
theorem ChannelsBare.linkAll (h : s.ChannelsBare) (hp : s.cls p ≠ .channelData)
    (cs : List NodeId) : (s.linkAll p cs).ChannelsBare := by
  intro id hid
  rw [cls_linkAll] at hid
  have hne : p ≠ id := by
    rintro rfl
    exact hp hid
  rw [children_linkAll_of_ne s hne, h id hid]

theorem ChannelsBare.insert (h : s.ChannelsBare) (k : Kind) : (s.insert k).1.ChannelsBare := by
  intro id hid
  rw [children_insert]
  rcases Nat.lt_or_ge id s.cells.length with hlt | hle
  · exact h id (cls_insert_of_lt hlt k ▸ hid)
  · exact children_of_le hle

/-- No call puts children under a channel write. -/
theorem ChannelsBare.perform (h : s.ChannelsBare) (call : Call) :
    (s.perform call).ChannelsBare := by
  rcases perform_cases s call with ⟨e, -⟩ | ⟨k, cs, hk, -, e, -⟩ | ⟨p, cs, hp, -, -, e, -⟩
  · rwa [e]
  · rw [e]
    rcases hk with rfl | hk
    · exact h.insert k
    · refine (h.insert k).linkAll (fun hc => ?_) cs
      rw [cls_insert_self] at hc
      rw [hc] at hk
      cases hk
  · rw [e]
    exact h.linkAll hp cs

/-- **Which trees have children by class.**  After any calls channel writes have no children.  Waits
have none either, and loops have complex elements only, exactly if each call that does not look at
the children it attaches was given only such. -/
theorem fitting_build_iff (calls : List Call) :
    (build calls).ChannelsBare ∧ ((build calls).Fitting ↔ empty.AdmitsAll calls) := by
  have hempty : ChannelsBare .empty := fun id _ => children_empty id
  refine ⟨performAll_keeps (fun _ call h => h.perform call) hempty calls, ?_⟩
  rw [build, fitting_performAll grounded_empty, iff_true_intro fitting_empty, true_and]

/-- A wait with a child, and loops with channel writes: by `append`, when made, and by `extend`. -/
theorem not_fitting_build :
    ¬ (build [.make (.newDelay none) [] (.inl rfl), .make (.newChannelData 0 0) [] (.inl rfl),
        .append 0 1]).Fitting ∧
    ¬ (build [.make (.newChannelData 0 0) [] (.inl rfl),
        .make (.forIteration 0 0 0 false) [0] (.inr rfl)]).Fitting ∧
    ¬ (build [.make (.infiniteIteration false) [] (.inl rfl),
        .make (.newChannelData 0 0) [] (.inl rfl), .extend 0 [1]]).Fitting := by
  refine ⟨fun h => ?_, fun h => ?_, fun h => ?_⟩
  · cases h 0 (.node 1) List.mem_cons_self
  · cases h 1 (.node 0) List.mem_cons_self
  · cases h 0 (.node 1) List.mem_cons_self

end Store

end StageCues
