import TritonGPUToLLVM.Decompose

/-!
# The decomposition and the asynchronous copies in flight

`insert_slice_async` issues a copy that completes later, `async_commit_group`
closes the group of the copies issued since the last commit, and
`async_wait {num}` blocks until at most the `num` newest committed groups are
in flight; a `tt.load` followed by a `tensor.insert_slice` copies at once.
`AsyncState` is what is in flight and `asyncRun` runs a body over it.

`decomposeInsertSliceAsyncOp_refines`: each decomposed function is the
concatenation of the replacements of its operations, and after the
replacements of any prefix it has in flight a sublist of what the original has
in flight after that prefix. A decomposed copy is made at once; a kept one is
committed and waited for by the same commit groups and waits, or by a wait for
all groups.
-/

namespace TritonGPUToLLVM

/-! ## Copies in flight -/

/-- The asynchronous copies in flight: the committed groups, oldest first, and
the copies issued since the last commit. -/
structure AsyncState where
  committed : List (List InsertSliceAsyncOp)
  uncommitted : List InsertSliceAsyncOp

def AsyncState.empty : AsyncState := ⟨[], []⟩

def AsyncState.inFlight (s : AsyncState) : List InsertSliceAsyncOp :=
  s.committed.flatten ++ s.uncommitted

def AsyncState.issue (s : AsyncState) (op : InsertSliceAsyncOp) : AsyncState :=
  { s with uncommitted := s.uncommitted ++ [op] }

def AsyncState.commit (s : AsyncState) : AsyncState := ⟨s.committed ++ [s.uncommitted], []⟩

/-- Only the `num` newest committed groups stay in flight. -/
def AsyncState.wait (s : AsyncState) (num : Nat) : AsyncState :=
  { s with committed := s.committed.drop (s.committed.length - num) }

def asyncStep (s : AsyncState) : Op → AsyncState
  | .insertSliceAsync op => s.issue op
  | .asyncCommitGroup _ => s.commit
  | .asyncWait w => s.wait w.num.toNat
  | _ => s

def asyncRun (s : AsyncState) (ops : List Op) : AsyncState := ops.foldl asyncStep s

theorem asyncRun_append (s : AsyncState) (ops ops' : List Op) :
    asyncRun s (ops ++ ops') = asyncRun (asyncRun s ops) ops' :=
  List.foldl_append _ _ _ _

theorem inFlight_asyncStep_nil {s : AsyncState} (hs : s.inFlight = []) {o : Op}
    (ho : o.insertSliceAsync? = none) : (asyncStep s o).inFlight = [] := by
  simp only [AsyncState.inFlight, List.append_eq_nil, List.flatten_eq_nil_iff] at hs ⊢
  cases o with
  | insertSliceAsync op => cases ho
  | asyncCommitGroup _ =>
    exact ⟨fun l hl => (List.mem_append.mp hl).elim (hs.1 l) fun h => (List.mem_singleton.mp h).trans hs.2, rfl⟩
  | asyncWait w => exact ⟨fun l hl => hs.1 l (List.mem_of_mem_drop hl), hs.2⟩
  | _ => exact hs

theorem inFlight_asyncRun_of_no_copies :
    ∀ {s : AsyncState} {ops : List Op}, s.inFlight = [] → (∀ o ∈ ops, o.insertSliceAsync? = none) →
      (asyncRun s ops).inFlight = []
  | _, [], hs, _ => hs
  | s, o :: ops, hs, ho => @inFlight_asyncRun_of_no_copies (asyncStep s o) ops
      (inFlight_asyncStep_nil hs (ho o (List.mem_cons_self _ _))) fun o' h => ho o' (List.mem_cons_of_mem _ h)

/-! ## Fewer copies in flight -/

/-- `s'` has in flight no more than `s`: its committed groups are, newest
last, sublists of the newest groups of `s`, and its uncommitted copies a
sublist of those of `s`. -/
structure AsyncState.Refines (s' s : AsyncState) : Prop where
  committed : ∃ gs, List.IsSuffix gs s.committed ∧ List.Forall₂ List.Sublist s'.committed gs
  uncommitted : List.Sublist s'.uncommitted s.uncommitted

theorem suffix_drop_length_sub {α : Type} {l₁ l₂ : List α} (h : List.IsSuffix l₁ l₂) (n : Nat) :
    List.IsSuffix (l₁.drop (l₁.length - n)) (l₂.drop (l₂.length - n)) := by
  obtain ⟨p, rfl⟩ := h
  rw [List.length_append, List.drop_append_eq_append_drop,
    show p.length + l₁.length - n - p.length = l₁.length - n by omega]
  exact List.suffix_append _ _

theorem flatten_sublist_of_forall₂ {α : Type} :
    ∀ {ls ls' : List (List α)}, List.Forall₂ List.Sublist ls ls' → List.Sublist ls.flatten ls'.flatten
  | _, _, .nil => .slnil
  | _, _, .cons h hs => h.append (flatten_sublist_of_forall₂ hs)

namespace AsyncState.Refines

variable {s s' : AsyncState}

theorem empty : AsyncState.empty.Refines .empty := ⟨⟨[], List.nil_suffix, .nil⟩, .slnil⟩

theorem issue (h : s'.Refines s) (op : InsertSliceAsyncOp) : (s'.issue op).Refines (s.issue op) :=
  ⟨h.committed, h.uncommitted.append (List.Sublist.refl _)⟩

theorem issue_right (h : s'.Refines s) (op : InsertSliceAsyncOp) : s'.Refines (s.issue op) :=
  ⟨h.committed, h.uncommitted.trans (List.sublist_append_left _ _)⟩

theorem commit (h : s'.Refines s) : s'.commit.Refines s.commit := by
  obtain ⟨gs, ⟨p, hp⟩, hgs⟩ := h.committed
  exact ⟨⟨gs ++ [s.uncommitted], ⟨p, by rw [← List.append_assoc, hp]; rfl⟩,
    List.rel_append hgs (.cons h.uncommitted .nil)⟩, .slnil⟩

theorem wait (h : s'.Refines s) (n : Nat) : (s'.wait n).Refines (s.wait n) := by
  obtain ⟨gs, hsuf, hgs⟩ := h.committed
  refine ⟨⟨gs.drop (gs.length - n), suffix_drop_length_sub hsuf n, ?_⟩, h.uncommitted⟩
  show List.Forall₂ _ (s'.committed.drop (s'.committed.length - n)) _
  rw [hgs.length_eq]
  exact List.forall₂_drop _ hgs

theorem wait_zero (h : s'.Refines s) (n : Nat) : (s'.wait 0).Refines (s.wait n) :=
  ⟨⟨[], List.nil_suffix, by simp [AsyncState.wait]⟩, h.uncommitted⟩

theorem inFlight_sublist (h : s'.Refines s) : List.Sublist s'.inFlight s.inFlight := by
  obtain ⟨gs, ⟨p, hp⟩, hgs⟩ := h.committed
  rw [AsyncState.inFlight, AsyncState.inFlight, ← hp, List.flatten_append]
  exact ((flatten_sublist_of_forall₂ hgs).trans (List.sublist_append_right _ _)).append h.uncommitted

end AsyncState.Refines

/-! ## The replacement of one operation -/

section
variable (caps : AsyncCapabilities) (cc : Int) (axisInfo : AxisInfo)

/-- What the three walks put in place of one operation, once the first walk
has reported whether it decomposed anything. -/
def decomposeReplacement (decomposed : Bool) (o : Op) : Except PatternError (List Op) :=
  (decomposeStep caps cc axisInfo o).map fun rc =>
    (rc.1.flatMap (eraseCommitGroup caps cc)).flatMap (replaceAsyncWait caps cc decomposed)

theorem eligible_of_mem_decomposeReplacement {d : Bool} {o : Op} {r : List Op}
    (h : decomposeReplacement caps cc axisInfo d o = .ok r) {op : InsertSliceAsyncOp}
    (hop : Op.insertSliceAsync op ∈ r) : op.Eligible caps cc axisInfo := by
  obtain ⟨⟨r0, c⟩, hstep, rfl⟩ := map_eq_ok.mp h
  have hmem : op ∈ r0.filterMap Op.insertSliceAsync? := by
    rw [← (filterMap_eraseCommitGroup caps cc r0).1, ← (filterMap_replaceAsyncWait caps cc d _).1]
    exact List.mem_filterMap.mpr ⟨_, hop, rfl⟩
  exact ((decomposeStep_rel caps cc axisInfo o r0 c hstep).kept op hmem).2

theorem decomposeReplacement_copy {d : Bool} {op : InsertSliceAsyncOp} {r : List Op}
    (h : decomposeReplacement caps cc axisInfo d (.insertSliceAsync op) = .ok r)
    (he : ¬ op.Eligible caps cc axisInfo) :
    ∃ t, op.types? = .ok t ∧ r = [.load (loadOf op t), .insertSlice (insertSliceOf op t)] := by
  obtain ⟨⟨r0, c⟩, hstep, rfl⟩ := map_eq_ok.mp h
  obtain ⟨r', hr', hrc⟩ := map_eq_ok.mp hstep
  obtain ⟨t, ht, ⟨he', -⟩ | ⟨-, rfl⟩⟩ := rewriteInsertSliceAsync_ok caps cc axisInfo hr'
  · exact absurd he' he
  · cases hrc
    exact ⟨t, ht, rfl⟩

theorem refines_decomposeReplacement (hs : caps.commitGroupSupported cc ∧ caps.waitSupported cc)
    {d : Bool} {o : Op} {r : List Op} (h : decomposeReplacement caps cc axisInfo d o = .ok r)
    {s s' : AsyncState} (hr : s'.Refines s) : (asyncRun s' r).Refines (asyncStep s o) := by
  obtain ⟨⟨r0, c⟩, hstep, rfl⟩ := map_eq_ok.mp h
  cases o with
  | insertSliceAsync op =>
    obtain ⟨r', hr', hrc⟩ := map_eq_ok.mp hstep
    obtain ⟨t, -, ⟨-, rfl⟩ | ⟨-, rfl⟩⟩ := rewriteInsertSliceAsync_ok caps cc axisInfo hr'
    · cases hrc; exact hr.issue op
    · cases hrc; exact hr.issue_right op
  | asyncCommitGroup a =>
    cases hstep
    simpa [eraseCommitGroup, replaceAsyncWait, hs.1, asyncRun, asyncStep] using hr.commit
  | asyncWait w =>
    cases hstep
    cases d
    · simpa [eraseCommitGroup, replaceAsyncWait, rewriteAsyncWait, hs.2, asyncRun, asyncStep] using hr.wait _
    · simpa [eraseCommitGroup, replaceAsyncWait, rewriteAsyncWait, hs.2, asyncRun, asyncStep] using hr.wait_zero _
  | _ =>
    simp only [decomposeStep, Except.ok.injEq, Prod.mk.injEq] at hstep
    obtain ⟨rfl, rfl⟩ := hstep
    exact hr

theorem refines_asyncRun (hs : caps.commitGroupSupported cc ∧ caps.waitSupported cc) {d : Bool} :
    ∀ {ops : List Op} {rs : List (List Op)},
      List.Forall₂ (fun o r => decomposeReplacement caps cc axisInfo d o = .ok r) ops rs →
      ∀ {s s' : AsyncState}, s'.Refines s → (asyncRun s' rs.flatten).Refines (asyncRun s ops)
  | _, _, .nil, _, _, h => h
  | _, _, .cons ho hrs, _, _, h => by
    rw [List.flatten_cons, asyncRun_append]
    exact refines_asyncRun hs hrs (refines_decomposeReplacement caps cc axisInfo hs ho h)

theorem inFlight_asyncRun_flatten_nil (hs : ¬ (caps.commitGroupSupported cc ∧ caps.waitSupported cc))
    {d : Bool} :
    ∀ {ops : List Op} {rs : List (List Op)},
      List.Forall₂ (fun o r => decomposeReplacement caps cc axisInfo d o = .ok r) ops rs →
      ∀ {s : AsyncState}, s.inFlight = [] → (asyncRun s rs.flatten).inFlight = []
  | _, _, .nil, _, h => h
  | _, _, .cons ho hrs, _, h => by
    rw [List.flatten_cons, asyncRun_append]
    refine inFlight_asyncRun_flatten_nil hs hrs (inFlight_asyncRun_of_no_copies h fun o' ho' => ?_)
    cases o' with
    | insertSliceAsync op =>
      exact absurd ((eligible_of_mem_decomposeReplacement caps cc axisInfo ho ho').supported caps cc axisInfo) hs
    | _ => rfl

theorem inFlight_take_decomposeReplacement {d : Bool} {ops : List Op} {rs : List (List Op)}
    (h : List.Forall₂ (fun o r => decomposeReplacement caps cc axisInfo d o = .ok r) ops rs) (k : Nat) :
    List.Sublist (asyncRun .empty (rs.take k).flatten).inFlight (asyncRun .empty (ops.take k)).inFlight := by
  by_cases hs : caps.commitGroupSupported cc ∧ caps.waitSupported cc
  · exact (refines_asyncRun caps cc axisInfo hs (List.forall₂_take k h) .empty).inFlight_sublist
  · rw [inFlight_asyncRun_flatten_nil caps cc axisInfo hs (List.forall₂_take k h)
      (rfl : AsyncState.empty.inFlight = [])]
    exact List.nil_sublist _

/-! ## Every function of the module -/

theorem walkOps_decomposeReplacement {d : Bool} {ops ops' : List Op} {c : Bool}
    (h : walkOps (decomposeStep caps cc axisInfo) ops = .ok (ops', c)) :
    ∃ rs, List.Forall₂ (fun o r => decomposeReplacement caps cc axisInfo d o = .ok r) ops rs ∧
      (ops'.flatMap (eraseCommitGroup caps cc)).flatMap (replaceAsyncWait caps cc d) = rs.flatten :=
  @walkOps_rel _ (fun ops ops' _ => ∃ rs,
      List.Forall₂ (fun o r => decomposeReplacement caps cc axisInfo d o = .ok r) ops rs ∧
        (ops'.flatMap (eraseCommitGroup caps cc)).flatMap (replaceAsyncWait caps cc d) = rs.flatten)
    ⟨[], .nil, rfl⟩
    (fun _ _ _ _ _ _ ⟨ra, ha, ea⟩ ⟨rb, hb, eb⟩ =>
      ⟨ra ++ rb, List.rel_append ha hb, by simp only [List.flatMap_append, ea, eb, List.flatten_append]⟩)
    (fun o r c ho => ⟨[(r.flatMap (eraseCommitGroup caps cc)).flatMap (replaceAsyncWait caps cc d)],
      .cons (by simp [decomposeReplacement, ho, Except.map]) .nil, by simp⟩) _ _ _ h

theorem walkTop_forall₂ {step : Op → Except PatternError (List Op × Bool)} :
    ∀ {ts ts' : List TopOp} {d : Bool}, walkTop step ts = .ok (ts', d) →
      List.Forall₂ (fun t t' => ∃ c, walkOps step t.ops = .ok (t'.ops, c)) ts ts'
  | [], _, _, h => by cases h; exact .nil
  | t :: ts, _, _, h => by
    obtain ⟨⟨ops, c⟩, ho, h⟩ := bind_eq_ok.mp h
    obtain ⟨⟨rs, cs⟩, hr, h⟩ := map_eq_ok.mp h
    cases h
    refine .cons ⟨c, ?_⟩ (walkTop_forall₂ hr)
    cases t with
    | global g => cases ho; rfl
    | func f => exact ho
    | llvmFunc f => exact ho

theorem decomposeInsertSliceAsyncOp_genx {m m' : ModuleOp}
    (h : decomposeInsertSliceAsyncOp caps cc .genx axisInfo m = .ok m') :
    ∃ d, List.Forall₂ (fun t t' => ∃ rs,
      List.Forall₂ (fun o r => decomposeReplacement caps cc axisInfo d o = .ok r) t.ops rs ∧ t'.ops = rs.flatten)
      m.body m'.body := by
  simp only [decomposeInsertSliceAsyncOp, ne_eq, not_true_eq_false, if_false] at h
  obtain ⟨⟨m1, d⟩, hw, rfl⟩ := map_eq_ok.mp h
  obtain ⟨⟨body, c⟩, hb, hm⟩ := map_eq_ok.mp hw
  cases hm
  refine ⟨d, ?_⟩
  simp only [ModuleOp.mapOps, List.map_map, List.forall₂_map_right_iff]
  refine (walkTop_forall₂ hb).imp fun t t' ⟨c', hw'⟩ => ?_
  obtain ⟨rs, hrs, heq⟩ := @walkOps_decomposeReplacement caps cc axisInfo d _ _ _ hw'
  refine ⟨rs, hrs, ?_⟩
  simp only [Function.comp_apply, TopOp.ops_mapOps_flatMap, heq]

/-- On GENX the decomposition puts a `tt.load` and a `tensor.insert_slice` in
place of every copy whose byte width the capability cannot copy asynchronously. -/
theorem decomposeInsertSliceAsyncOp_replaces_copies {m m' : ModuleOp}
    (h : decomposeInsertSliceAsyncOp caps cc .genx axisInfo m = .ok m') :
    List.Forall₂ (fun t t' => ∃ rs, t'.ops = rs.flatten ∧ List.Forall₂ (fun o r =>
      ∀ op, o = .insertSliceAsync op → ¬ op.Eligible caps cc axisInfo →
        ∃ t, op.types? = .ok t ∧ r = [.load (loadOf op t), .insertSlice (insertSliceOf op t)]) t.ops rs)
      m.body m'.body := by
  obtain ⟨d, hd⟩ := decomposeInsertSliceAsyncOp_genx caps cc axisInfo h
  exact hd.imp fun _ _ ⟨rs, hrs, heq⟩ =>
    ⟨rs, heq, hrs.imp fun _ _ ho op hop he => decomposeReplacement_copy caps cc axisInfo (hop ▸ ho) he⟩

/-- The decomposition never leaves a copy in flight that the original has
completed: on GENX every function of the module becomes the concatenation of
the replacements of its operations, and after the replacements of its first
`k` operations it has in flight a sublist of what the original function has
in flight after them. -/
theorem decomposeInsertSliceAsyncOp_refines {m m' : ModuleOp}
    (h : decomposeInsertSliceAsyncOp caps cc .genx axisInfo m = .ok m') :
    ∃ d, List.Forall₂ (fun t t' => ∃ rs,
      List.Forall₂ (fun o r => decomposeReplacement caps cc axisInfo d o = .ok r) t.ops rs ∧
        t'.ops = rs.flatten ∧
        ∀ k, List.Sublist (asyncRun .empty (rs.take k).flatten).inFlight (asyncRun .empty (t.ops.take k)).inFlight)
      m.body m'.body := by
  obtain ⟨d, hd⟩ := decomposeInsertSliceAsyncOp_genx caps cc axisInfo h
  exact ⟨d, hd.imp fun _ _ ⟨rs, hrs, heq⟩ =>
    ⟨rs, hrs, heq, inFlight_take_decomposeReplacement caps cc axisInfo hrs⟩⟩

/-- A kernel with an `i8` copy of contiguity 1, which compute capability 80
does not copy asynchronously, and an `i32` copy it does, committed and waited
for. -/
theorem decomposeInsertSliceAsyncOp_refines_i8_i32 :
    ∃ m m', decomposeInsertSliceAsyncOp .sm80 80 .genx ⟨fun _ => 1, fun _ => 1⟩ m = .ok m' ∧
      ∃ d, List.Forall₂ (fun (t t' : TopOp) => ∃ rs,
        List.Forall₂ (fun o r => decomposeReplacement .sm80 80 ⟨fun _ => 1, fun _ => 1⟩ d o = .ok r) t.ops rs ∧
          t'.ops = rs.flatten ∧
          ∀ k, List.Sublist (asyncRun .empty (rs.take k).flatten).inFlight (asyncRun .empty (t.ops.take k)).inFlight)
        m.body m'.body :=
  ⟨⟨4, 1, 32, none, [.func ⟨"k", true, [], [], .empty, some [], [],
      [.insertSliceAsync ⟨⟨0, .tensor [16] (.int 8) (.blocked 1)⟩, ⟨1, .tensor [2, 16] (.int 8) (.shared 1)⟩,
          ⟨2, .int 32⟩, none, none, .none, .normal, false, 0, .empty⟩,
        .insertSliceAsync ⟨⟨3, .tensor [16] (.int 32) (.blocked 1)⟩, ⟨4, .tensor [2, 16] (.int 32) (.shared 1)⟩,
          ⟨2, .int 32⟩, none, none, .none, .normal, false, 0, .empty⟩,
        .asyncCommitGroup .empty, .asyncWait ⟨1, .empty⟩]⟩]⟩,
    _, rfl, decomposeInsertSliceAsyncOp_refines .sm80 80 _ rfl⟩

end

end TritonGPUToLLVM
