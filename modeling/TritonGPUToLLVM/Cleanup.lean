import TritonGPUToLLVM.IR

/-!
# The cleanup stage: `FoldSplatMaskInInsertAsync`

Before the function stage the pass hands its `insert_slice_tma` operations to
`applyOpPatternsAndFold` with one pattern, which replaces a mask defined by a
`tt.splat` with the splat's operand. The greedy driver pops an operation from
its worklist, applies the pattern, and pushes the operation back when the
pattern modified it; with the default configuration it makes any number of
rewrites and succeeds once its worklist is empty.

In a module whose def-chains of splats are acyclic, as the SSA dominance rule
makes them, every rewrite takes one splat off the mask def-chains
(`splatChainLength_splatSource`), so the loop ends, the driver succeeds and no
collected operation keeps a mask a splat defines (`cleanupStage_terminates`). What the stage computes needs no driver to say:
every mask moves to the end of its chain of splats (`cleanupStage_eq_foldToRoot`).
-/

namespace TritonGPUToLLVM

/-! ## The pattern and the greedy driver -/

def Op.splat? : Op → Option (Value × Value)
  | .splat result src => some (result, src)
  | _ => none

def Op.insertSliceTMA? : Op → Option InsertSliceTMAOp
  | .insertSliceTMA op => some op
  | _ => none

/-- The `tt.splat`s of a module as (result, operand) pairs, the last in walk
order first. -/
def ModuleOp.splatDefs (m : ModuleOp) : List (Value × Value) :=
  (m.ops.filterMap Op.splat?).reverse

/-- `mod.walk` over `InsertSliceTMAOp`: the operations the cleanup collects. -/
def ModuleOp.insertSlices (m : ModuleOp) : List InsertSliceTMAOp :=
  m.ops.filterMap Op.insertSliceTMA?

/-- `getDefiningOp<triton::SplatOp>()` and the splat's operand: the operand of
the splat whose result is `v`. -/
def splatSource (defs : List (Value × Value)) (v : Value) : Option Value :=
  (defs.find? fun d => d.1.id = v.id).map Prod.snd

/-- `FoldSplatMaskInInsertAsync::matchAndRewrite`: the operation with the
splat's operand as its mask, or `none` (`failure()`) when it has no mask or no
splat defines the mask. -/
def foldSplatMaskInInsertAsync (defs : List (Value × Value)) (op : InsertSliceTMAOp) :
    Option InsertSliceTMAOp :=
  op.mask.bind fun mask => (splatSource defs mask).map fun src => { op with mask := some src }

/-- The loop of the greedy driver over `ops`, with the indices still to visit
in `worklist`, top first: pop an operation and apply the pattern; an operation
the pattern modified goes back on top. The loop stops when the worklist is
empty or `numRewrites` reaches `maxNumRewrites` (`none` is `kNoLimit`), and
the driver succeeds when the worklist is empty. The model gives up with `none`
after `fuel` iterations. -/
def processWorklist (defs : List (Value × Value)) (maxNumRewrites : Option Nat) :
    Nat → Nat → List InsertSliceTMAOp → List Nat → Option (Bool × List InsertSliceTMAOp)
  | _, _, ops, [] => some (true, ops)
  | 0, _, _, _ :: _ => none
  | fuel + 1, numRewrites, ops, i :: worklist =>
    if maxNumRewrites.all (numRewrites < ·) then
      match ops[i]?.bind (foldSplatMaskInInsertAsync defs) with
      | some op => processWorklist defs maxNumRewrites fuel (numRewrites + 1) (ops.set i op) (i :: worklist)
      | none => processWorklist defs maxNumRewrites fuel numRewrites ops worklist
    else some (false, ops)

/-- `applyOpPatternsAndFold(insertSlices, patterns)` with the default
`GreedyRewriteConfig`: every operation starts on the worklist, the last on top. -/
def applyOpPatternsAndFold (defs : List (Value × Value)) (fuel : Nat) (ops : List InsertSliceTMAOp) :
    Option (Bool × List InsertSliceTMAOp) :=
  processWorklist defs none fuel 0 ops (List.range ops.length).reverse

def Op.afterCleanup (ops : List InsertSliceTMAOp) : Op → Op
  | .insertSliceTMA op => .insertSliceTMA ((ops.find? fun op' => op'.id = op.id).getD op)
  | op => op

/-- The iterations the cleanup takes at most: each operation is visited once
for each splat on its mask's chain and once more. -/
def cleanupFuel (m : ModuleOp) : Nat := m.insertSlices.length * (m.splatDefs.length + 1)

/-- The cleanup stage: whether `applyOpPatternsAndFold` succeeded, and the
module with the operations it returned; `none` when its loop has not ended
after `cleanupFuel` iterations. -/
def cleanupStage (m : ModuleOp) : Option (Bool × ModuleOp) :=
  (applyOpPatternsAndFold m.splatDefs (cleanupFuel m) m.insertSlices).map fun r =>
    (r.1, m.mapOps (·.map (Op.afterCleanup r.2)))

/-! ## Def-chains of splats -/

/-- The value `n` splats up the def-chain of `v`, or the end of the chain when
it is shorter. -/
def splatAncestor (defs : List (Value × Value)) : Nat → Value → Value
  | 0, v => v
  | n + 1, v =>
    match splatSource defs v with
    | some src => splatAncestor defs n src
    | none => v

/-- The number of `tt.splat`s on the def-chain of `v`, counting at most `n`. -/
def splatChainLength (defs : List (Value × Value)) : Nat → Value → Nat
  | 0, _ => 0
  | n + 1, v =>
    match splatSource defs v with
    | some src => splatChainLength defs n src + 1
    | none => 0

/-- No def-chain of splats is a cycle: from the result of any splat, following
as many splats as there are reaches a value that no splat defines. -/
def SplatChainsAcyclic (defs : List (Value × Value)) : Prop :=
  ∀ d ∈ defs, (splatSource defs (splatAncestor defs defs.length d.1)).isNone

instance (defs : List (Value × Value)) : Decidable (SplatChainsAcyclic defs) :=
  inferInstanceAs (Decidable (∀ d ∈ defs, _))

def InsertSliceTMAOp.chainLength (defs : List (Value × Value)) (op : InsertSliceTMAOp) : Nat :=
  match op.mask with
  | some mask => splatChainLength defs defs.length mask
  | none => 0

def totalChainLength (defs : List (Value × Value)) : List InsertSliceTMAOp → Nat
  | [] => 0
  | op :: ops => op.chainLength defs + totalChainLength defs ops

theorem splatSource_eq_some {defs : List (Value × Value)} {v s : Value} (h : splatSource defs v = some s) :
    ∃ d ∈ defs, d.1.id = v.id ∧ d.2 = s := by
  obtain ⟨d, hd, rfl⟩ := Option.map_eq_some'.mp h
  exact ⟨d, List.mem_of_find?_eq_some hd, by simpa using List.find?_some hd, rfl⟩

theorem splatSource_congr (defs : List (Value × Value)) {v w : Value} (h : v.id = w.id) :
    splatSource defs v = splatSource defs w := by
  simp only [splatSource, h]

theorem splatChain_stable {defs : List (Value × Value)} :
    ∀ {n m : Nat} {v : Value}, splatSource defs (splatAncestor defs n v) = none → n ≤ m →
      splatAncestor defs m v = splatAncestor defs n v ∧ splatChainLength defs m v = splatChainLength defs n v
  | 0, 0, _, _, _ => ⟨rfl, rfl⟩
  | 0, _ + 1, _, h, _ => by
    simp only [splatAncestor] at h
    simp only [splatAncestor, splatChainLength, h, and_self]
  | _ + 1, 0, _, _, hle => absurd hle (Nat.not_succ_le_zero _)
  | n + 1, m + 1, v, h, hle => by
    cases hs : splatSource defs v with
    | none => simp only [splatAncestor, splatChainLength, hs, and_self]
    | some s =>
      simp only [splatAncestor, hs] at h
      simp only [splatAncestor, splatChainLength, hs, splatChain_stable h (Nat.le_of_succ_le_succ hle), and_self]

theorem splatChain_ends {defs : List (Value × Value)} {v s : Value} (hacyc : SplatChainsAcyclic defs)
    (h : splatSource defs v = some s) :
    ∃ n, defs.length = n + 1 ∧ splatSource defs (splatAncestor defs n s) = none := by
  obtain ⟨d, hd, hid, rfl⟩ := splatSource_eq_some h
  obtain ⟨n, hn⟩ := Nat.exists_eq_succ_of_ne_zero (List.ne_nil_of_mem hd ∘ List.length_eq_zero.mp)
  have hend := hacyc d hd
  simp only [hn, splatAncestor, splatSource_congr defs hid, h, Option.isNone_iff_eq_none] at hend
  exact ⟨n, hn, hend⟩

theorem splatChainLength_splatSource {defs : List (Value × Value)} {v s : Value} (hacyc : SplatChainsAcyclic defs)
    (h : splatSource defs v = some s) :
    splatChainLength defs defs.length v = splatChainLength defs defs.length s + 1 := by
  obtain ⟨n, hn, hend⟩ := splatChain_ends hacyc h
  simp only [hn, splatChainLength, h, (splatChain_stable hend (Nat.le_succ n)).2]

theorem splatChainLength_le (defs : List (Value × Value)) : ∀ n v, splatChainLength defs n v ≤ n
  | 0, _ => Nat.le_refl 0
  | n + 1, v => by
    simp only [splatChainLength]
    split
    · exact Nat.succ_le_succ (splatChainLength_le defs n _)
    · exact Nat.zero_le _

theorem foldSplatMaskInInsertAsync_some {defs : List (Value × Value)} {op op' : InsertSliceTMAOp}
    (h : foldSplatMaskInInsertAsync defs op = some op') :
    ∃ mask src, op.mask = some mask ∧ splatSource defs mask = some src ∧ op' = { op with mask := some src } := by
  obtain ⟨mask, hm, h⟩ := Option.bind_eq_some.mp h
  obtain ⟨src, hs, rfl⟩ := Option.map_eq_some'.mp h
  exact ⟨mask, src, hm, hs, rfl⟩

theorem foldSplatMaskInInsertAsync_eq_none {defs : List (Value × Value)} {op : InsertSliceTMAOp} :
    foldSplatMaskInInsertAsync defs op = none ↔ ∀ mask, op.mask = some mask → splatSource defs mask = none := by
  cases h : op.mask <;> simp [foldSplatMaskInInsertAsync, h]

theorem chainLength_foldSplatMaskInInsertAsync {defs : List (Value × Value)} {op op' : InsertSliceTMAOp}
    (hacyc : SplatChainsAcyclic defs) (h : foldSplatMaskInInsertAsync defs op = some op') :
    op.chainLength defs = op'.chainLength defs + 1 := by
  obtain ⟨mask, src, hm, hs, rfl⟩ := foldSplatMaskInInsertAsync_some h
  simp only [InsertSliceTMAOp.chainLength, hm]
  exact splatChainLength_splatSource hacyc hs

theorem totalChainLength_set (defs : List (Value × Value)) (x : InsertSliceTMAOp) :
    ∀ (ops : List InsertSliceTMAOp) (i : Nat) (hi : i < ops.length),
      totalChainLength defs (ops.set i x) + ops[i].chainLength defs = totalChainLength defs ops + x.chainLength defs
  | _ :: _, 0, _ => by
    simp only [List.set_cons_zero, totalChainLength, List.getElem_cons_zero]
    omega
  | _ :: ops, i + 1, hi => by
    have := totalChainLength_set defs x ops i (by simpa using hi)
    simp only [List.set_cons_succ, totalChainLength, List.getElem_cons_succ]
    omega

theorem totalChainLength_rewrite {defs : List (Value × Value)} (hacyc : SplatChainsAcyclic defs)
    {ops : List InsertSliceTMAOp} {i : Nat} {op : InsertSliceTMAOp}
    (h : ops[i]?.bind (foldSplatMaskInInsertAsync defs) = some op) :
    totalChainLength defs (ops.set i op) + 1 = totalChainLength defs ops := by
  obtain ⟨op0, hi, hf⟩ := Option.bind_eq_some.mp h
  obtain ⟨hlen, rfl⟩ := List.getElem?_eq_some_iff.mp hi
  have := totalChainLength_set defs op ops i hlen
  have := chainLength_foldSplatMaskInInsertAsync hacyc hf
  omega

/-! ## The driver's loop ends -/

def Settled (defs : List (Value × Value)) (ops : List InsertSliceTMAOp) (worklist : List Nat) : Prop :=
  ∀ j (hj : j < ops.length), j ∉ worklist → foldSplatMaskInInsertAsync defs ops[j] = none

theorem settled_set {defs : List (Value × Value)} {ops : List InsertSliceTMAOp} {i : Nat} {worklist : List Nat}
    (h : Settled defs ops (i :: worklist)) (op : InsertSliceTMAOp) : Settled defs (ops.set i op) (i :: worklist) := by
  intro j hj hjw
  have hji : i ≠ j := fun e => hjw (e ▸ List.mem_cons_self _ _)
  rw [List.getElem_set_ne hji]
  exact h j (by simpa using hj) hjw

theorem settled_pop {defs : List (Value × Value)} {ops : List InsertSliceTMAOp} {i : Nat} {worklist : List Nat}
    (h : Settled defs ops (i :: worklist)) (hi : ops[i]?.bind (foldSplatMaskInInsertAsync defs) = none) :
    Settled defs ops worklist := by
  intro j hj hjw
  by_cases hji : j = i
  · subst hji
    simpa [List.getElem?_eq_getElem hj] using hi
  · exact h j hj (by simp [hji, hjw])

theorem processWorklist_terminates {defs : List (Value × Value)} (hacyc : SplatChainsAcyclic defs) :
    ∀ (fuel numRewrites : Nat) (ops : List InsertSliceTMAOp) (worklist : List Nat),
      totalChainLength defs ops + worklist.length ≤ fuel → Settled defs ops worklist →
      ∃ ops', processWorklist defs none fuel numRewrites ops worklist = some (true, ops') ∧
        ∀ op ∈ ops', foldSplatMaskInInsertAsync defs op = none
  | fuel, _, ops, [], _, hs => ⟨ops, by cases fuel <;> rfl, fun op hop => by
      obtain ⟨j, hj, rfl⟩ := List.getElem_of_mem hop
      exact hs j hj (List.not_mem_nil _)⟩
  | 0, _, _, _ :: _, hf, _ => by simp at hf
  | fuel + 1, n, ops, i :: worklist, hf, hs => by
    simp only [processWorklist, Option.all_none, ↓reduceIte]
    cases hi : ops[i]?.bind (foldSplatMaskInInsertAsync defs) with
    | some op =>
      have := totalChainLength_rewrite hacyc hi
      exact processWorklist_terminates hacyc fuel (n + 1) (ops.set i op) (i :: worklist)
        (by simp only [List.length_cons] at hf ⊢; omega) (settled_set hs op)
    | none =>
      exact processWorklist_terminates hacyc fuel n ops worklist
        (by simp only [List.length_cons] at hf; omega) (settled_pop hs hi)

theorem map_set_of_eq {α β : Type} (f : α → β) {l : List α} {i : Nat} {x : α} (hi : i < l.length)
    (h : f x = f l[i]) : (l.set i x).map f = l.map f := by
  apply List.ext_getElem (by simp)
  intro j _ _
  by_cases hij : i = j
  · subst hij
    simp [h]
  · simp [List.getElem_set_ne hij]

theorem processWorklist_map {β : Type} {defs : List (Value × Value)} {limit : Option Nat}
    (f : InsertSliceTMAOp → β) (hf : ∀ op op', foldSplatMaskInInsertAsync defs op = some op' → f op' = f op) :
    ∀ {fuel numRewrites : Nat} {ops : List InsertSliceTMAOp} {worklist : List Nat} {b : Bool}
      {ops' : List InsertSliceTMAOp}, processWorklist defs limit fuel numRewrites ops worklist = some (b, ops') →
      ops'.map f = ops.map f
  | _, _, _, [], _, _, h => by simp only [processWorklist, Option.some.injEq, Prod.mk.injEq] at h; rw [h.2]
  | 0, _, _, _ :: _, _, _, h => by cases h
  | fuel + 1, n, ops, i :: worklist, b, ops', h => by
    simp only [processWorklist] at h
    split_ifs at h
    · cases hi : ops[i]?.bind (foldSplatMaskInInsertAsync defs) with
      | some op =>
        simp only [hi] at h
        obtain ⟨op0, hi0, hfold⟩ := Option.bind_eq_some.mp hi
        obtain ⟨hlen, rfl⟩ := List.getElem?_eq_some_iff.mp hi0
        rw [processWorklist_map f hf h, map_set_of_eq f hlen (hf _ _ hfold)]
      | none =>
        simp only [hi] at h
        exact processWorklist_map f hf h
    · simp only [Option.some.injEq, Prod.mk.injEq] at h
      rw [h.2]

theorem processWorklist_ids {defs : List (Value × Value)} {limit : Option Nat} {fuel numRewrites : Nat}
    {ops : List InsertSliceTMAOp} {worklist : List Nat} {b : Bool} {ops' : List InsertSliceTMAOp}
    (h : processWorklist defs limit fuel numRewrites ops worklist = some (b, ops')) :
    ops'.map InsertSliceTMAOp.id = ops.map InsertSliceTMAOp.id :=
  processWorklist_map _ (fun _ _ hf => by obtain ⟨-, -, -, -, rfl⟩ := foldSplatMaskInInsertAsync_some hf; rfl) h

/-! ## The cleanup stage -/

theorem totalChainLength_le (defs : List (Value × Value)) :
    ∀ ops : List InsertSliceTMAOp, totalChainLength defs ops ≤ ops.length * defs.length
  | [] => Nat.zero_le _
  | op :: ops => by
    have hop : op.chainLength defs ≤ defs.length := by
      unfold InsertSliceTMAOp.chainLength
      split
      · exact splatChainLength_le _ _ _
      · exact Nat.zero_le _
    have := totalChainLength_le defs ops
    simp only [totalChainLength, List.length_cons, Nat.succ_mul]
    omega

theorem ModuleOp.ops_mapOps_map (f : Op → Op) (m : ModuleOp) : (m.mapOps (·.map f)).ops = m.ops.map f := by
  simp only [ModuleOp.ops, ModuleOp.mapOps, List.flatMap_map, List.map_flatMap]
  congr 1
  funext t
  cases t <;> rfl

theorem splatDefs_afterCleanup (ops : List InsertSliceTMAOp) (m : ModuleOp) :
    (m.mapOps (·.map (Op.afterCleanup ops))).splatDefs = m.splatDefs := by
  have h : Op.splat? ∘ Op.afterCleanup ops = Op.splat? := by
    funext o
    cases o <;> rfl
  simp only [ModuleOp.splatDefs, ModuleOp.ops_mapOps_map, List.filterMap_map, h]

theorem insertSlices_afterCleanup (ops : List InsertSliceTMAOp) (m : ModuleOp) :
    (m.mapOps (·.map (Op.afterCleanup ops))).insertSlices =
      m.insertSlices.map fun op => (ops.find? fun op' => op'.id = op.id).getD op := by
  have h : Op.insertSliceTMA? ∘ Op.afterCleanup ops =
      fun o => (Op.insertSliceTMA? o).map fun op => (ops.find? fun op' => op'.id = op.id).getD op := by
    funext o
    cases o <;> rfl
  simp only [ModuleOp.insertSlices, ModuleOp.ops_mapOps_map, List.filterMap_map, h, List.map_filterMap]

theorem cleanupStage_some {m m' : ModuleOp} {c : Bool} (h : cleanupStage m = some (c, m')) :
    ∃ ops, m' = m.mapOps (·.map (Op.afterCleanup ops)) := by
  obtain ⟨⟨_, ops⟩, -, h⟩ := Option.map_eq_some'.mp h
  cases h
  exact ⟨ops, rfl⟩

theorem ModuleOp.mapOps_id (m : ModuleOp) : m.mapOps (fun ops => ops) = m := by
  have : TopOp.mapOps (fun ops => ops) = id := by
    funext t
    cases t <;> rfl
  simp [ModuleOp.mapOps, this]

theorem cleanupStage_of_insertSlices_nil {m : ModuleOp} (h : m.insertSlices = []) : cleanupStage m = some (true, m) := by
  have hid : Op.afterCleanup [] = id := by
    funext o
    cases o <;> rfl
  simp only [cleanupStage, applyOpPatternsAndFold, h, List.length_nil, List.range_zero, List.reverse_nil,
    processWorklist, Option.map_some', hid, List.map_id, ModuleOp.mapOps_id]

theorem processWorklist_cleanupFuel {m : ModuleOp} (hacyc : SplatChainsAcyclic m.splatDefs) :
    ∃ ops', processWorklist m.splatDefs none (cleanupFuel m) 0 m.insertSlices
        (List.range m.insertSlices.length).reverse = some (true, ops') ∧
      ∀ op ∈ ops', foldSplatMaskInInsertAsync m.splatDefs op = none := by
  have hfuel : totalChainLength m.splatDefs m.insertSlices + (List.range m.insertSlices.length).reverse.length ≤
      cleanupFuel m := by
    have := totalChainLength_le m.splatDefs m.insertSlices
    simp only [List.length_reverse, List.length_range, cleanupFuel, Nat.mul_succ]
    omega
  exact processWorklist_terminates hacyc _ 0 _ _ hfuel
    (fun j hj hjw => absurd (List.mem_reverse.mpr (List.mem_range.mpr hj)) hjw)

/-- The cleanup stage on a module whose splat def-chains are acyclic: each rewrite
takes a splat off the mask def-chains of the collected operations, and the
driver's loop ends and succeeds, so the pass never signals failure there; the
splats are left as they were, and no collected operation keeps a mask that a
splat defines. -/
theorem cleanupStage_terminates (m : ModuleOp) (hacyc : SplatChainsAcyclic m.splatDefs) :
    (∀ (ops : List InsertSliceTMAOp) (i : Nat) (op : InsertSliceTMAOp),
      ops[i]?.bind (foldSplatMaskInInsertAsync m.splatDefs) = some op →
        totalChainLength m.splatDefs (ops.set i op) < totalChainLength m.splatDefs ops) ∧
      ∃ m', cleanupStage m = some (true, m') ∧ m'.splatDefs = m.splatDefs ∧
        ∀ op ∈ m'.insertSlices, ∀ mask, op.mask = some mask → splatSource m'.splatDefs mask = none := by
  refine ⟨fun ops i op h => by have := totalChainLength_rewrite hacyc h; omega, ?_⟩
  obtain ⟨ops', hrun, hfix⟩ := processWorklist_cleanupFuel hacyc
  have hids := processWorklist_ids hrun
  refine ⟨m.mapOps (·.map (Op.afterCleanup ops')), by simp only [cleanupStage, applyOpPatternsAndFold, hrun,
    Option.map_some'], splatDefs_afterCleanup _ _, ?_⟩
  rw [splatDefs_afterCleanup, insertSlices_afterCleanup]
  intro op hop
  obtain ⟨op0, hop0, rfl⟩ := List.mem_map.mp hop
  have hmem : op0.id ∈ ops'.map InsertSliceTMAOp.id := hids ▸ List.mem_map_of_mem _ hop0
  obtain ⟨x, hx, hxid⟩ := List.mem_map.mp hmem
  cases hf : ops'.find? fun op' => op'.id = op0.id with
  | none => exact absurd hxid (by simpa using List.find?_eq_none.mp hf x hx)
  | some y => exact foldSplatMaskInInsertAsync_eq_none.mp (hfix y (List.mem_of_find?_eq_some hf))

/-- A mask behind two nested splats, `%2 = tt.splat %1` and `%1 = tt.splat %0`,
which the cleanup folds to `%0`. -/
theorem cleanupStage_terminates_nested :
    SplatChainsAcyclic (ModuleOp.splatDefs ⟨4, 1, 32, none, [.func ⟨"f", false, [.int 1], [], .empty, some [.empty],
      [⟨0, .int 1⟩], [.splat ⟨1, .int 1⟩ ⟨0, .int 1⟩, .splat ⟨2, .int 1⟩ ⟨1, .int 1⟩,
        .insertSliceTMA ⟨7, some ⟨2, .int 1⟩⟩, .ret ⟨[], .empty⟩]⟩]⟩) ∧
    (∃ m', cleanupStage ⟨4, 1, 32, none, [.func ⟨"f", false, [.int 1], [], .empty, some [.empty],
      [⟨0, .int 1⟩], [.splat ⟨1, .int 1⟩ ⟨0, .int 1⟩, .splat ⟨2, .int 1⟩ ⟨1, .int 1⟩,
        .insertSliceTMA ⟨7, some ⟨2, .int 1⟩⟩, .ret ⟨[], .empty⟩]⟩]⟩ = some (true, m') ∧
      m'.splatDefs = ModuleOp.splatDefs ⟨4, 1, 32, none, [.func ⟨"f", false, [.int 1], [], .empty, some [.empty],
        [⟨0, .int 1⟩], [.splat ⟨1, .int 1⟩ ⟨0, .int 1⟩, .splat ⟨2, .int 1⟩ ⟨1, .int 1⟩,
          .insertSliceTMA ⟨7, some ⟨2, .int 1⟩⟩, .ret ⟨[], .empty⟩]⟩]⟩ ∧
      ∀ op ∈ m'.insertSlices, ∀ mask, op.mask = some mask → splatSource m'.splatDefs mask = none) ∧
    (cleanupStage ⟨4, 1, 32, none, [.func ⟨"f", false, [.int 1], [], .empty, some [.empty],
      [⟨0, .int 1⟩], [.splat ⟨1, .int 1⟩ ⟨0, .int 1⟩, .splat ⟨2, .int 1⟩ ⟨1, .int 1⟩,
        .insertSliceTMA ⟨7, some ⟨2, .int 1⟩⟩, .ret ⟨[], .empty⟩]⟩]⟩).map (·.2.insertSlices) =
      some [⟨7, some ⟨0, .int 1⟩⟩] :=
  ⟨by decide, (cleanupStage_terminates _ (by decide)).2, rfl⟩

/-! ## What the cleanup computes -/

/-- The end of the def-chain of `v`: the first value along it that no splat defines. -/
def splatRoot (defs : List (Value × Value)) (v : Value) : Value :=
  splatAncestor defs defs.length v

def InsertSliceTMAOp.foldToRoot (defs : List (Value × Value)) (op : InsertSliceTMAOp) : InsertSliceTMAOp :=
  { op with mask := op.mask.map (splatRoot defs) }

/-- What the cleanup does to an operation of the module, said without the driver. -/
def Op.foldToRoot (defs : List (Value × Value)) : Op → Op
  | .insertSliceTMA op => .insertSliceTMA (op.foldToRoot defs)
  | op => op

theorem splatRoot_splatSource {defs : List (Value × Value)} {v s : Value} (hacyc : SplatChainsAcyclic defs)
    (h : splatSource defs v = some s) : splatRoot defs v = splatRoot defs s := by
  obtain ⟨n, hn, hend⟩ := splatChain_ends hacyc h
  simp only [splatRoot, hn, splatAncestor, h, (splatChain_stable hend (Nat.le_succ n)).1]

theorem splatRoot_of_splatSource_none {defs : List (Value × Value)} {v : Value} (h : splatSource defs v = none) :
    splatRoot defs v = v :=
  (splatChain_stable (n := 0) h (Nat.zero_le _)).1

theorem foldToRoot_foldSplatMaskInInsertAsync {defs : List (Value × Value)} {op op' : InsertSliceTMAOp}
    (hacyc : SplatChainsAcyclic defs) (h : foldSplatMaskInInsertAsync defs op = some op') :
    op'.foldToRoot defs = op.foldToRoot defs := by
  obtain ⟨mask, src, hm, hs, rfl⟩ := foldSplatMaskInInsertAsync_some h
  simp only [InsertSliceTMAOp.foldToRoot, hm, Option.map_some', splatRoot_splatSource hacyc hs]

theorem foldToRoot_of_fixed {defs : List (Value × Value)} {op : InsertSliceTMAOp}
    (h : foldSplatMaskInInsertAsync defs op = none) : op.foldToRoot defs = op := by
  obtain ⟨id, mask⟩ := op
  cases mask with
  | none => rfl
  | some mask =>
    simp only [InsertSliceTMAOp.foldToRoot, Option.map_some',
      splatRoot_of_splatSource_none (foldSplatMaskInInsertAsync_eq_none.mp h mask rfl)]

theorem find?_foldToRoot {defs : List (Value × Value)} :
    ∀ {ops : List InsertSliceTMAOp}, (ops.map InsertSliceTMAOp.id).Nodup → ∀ {op : InsertSliceTMAOp}, op ∈ ops →
      ((ops.map (InsertSliceTMAOp.foldToRoot defs)).find? fun op' => op'.id = op.id) = some (op.foldToRoot defs)
  | [], _, _, hop => by cases hop
  | o :: ops, hid, op, hop => by
    simp only [List.map_cons, List.nodup_cons, List.mem_map] at hid
    by_cases ho : o.id = op.id
    · rcases List.mem_cons.mp hop with rfl | hop
      · simp [InsertSliceTMAOp.foldToRoot]
      · exact absurd ⟨op, hop, ho.symm⟩ hid.1
    · rw [List.map_cons, List.find?_cons_of_neg _ (by simpa [InsertSliceTMAOp.foldToRoot] using ho)]
      exact find?_foldToRoot hid.2 ((List.mem_cons.mp hop).resolve_left fun e => ho (e ▸ rfl))

theorem ModuleOp.mapOps_map_congr {f g : Op → Op} {m : ModuleOp} (h : ∀ op ∈ m.ops, f op = g op) :
    m.mapOps (·.map f) = m.mapOps (·.map g) := by
  simp only [ModuleOp.mapOps, ModuleOp.mk.injEq, true_and]
  refine List.map_congr_left fun t ht => ?_
  have ht' : ∀ op ∈ t.ops, f op = g op := fun op hop => h op (List.mem_flatMap.mpr ⟨t, ht, hop⟩)
  cases t with
  | func fn => exact congrArg (fun body => TopOp.func { fn with body }) (List.map_congr_left ht')
  | llvmFunc fn => exact congrArg (fun body => TopOp.llvmFunc { fn with body }) (List.map_congr_left ht')
  | global g => rfl

/-- What the cleanup computes, in a module whose splat def-chains are acyclic and
whose `insert_slice_tma` operations are distinct: it moves every mask to the
end of its chain of splats and changes nothing else. -/
theorem cleanupStage_eq_foldToRoot (m : ModuleOp) (hacyc : SplatChainsAcyclic m.splatDefs)
    (hid : (m.insertSlices.map InsertSliceTMAOp.id).Nodup) :
    cleanupStage m = some (true, m.mapOps (·.map (Op.foldToRoot m.splatDefs))) := by
  obtain ⟨ops', hrun, hfix⟩ := processWorklist_cleanupFuel hacyc
  have hops' : ops' = m.insertSlices.map (InsertSliceTMAOp.foldToRoot m.splatDefs) := by
    rw [← processWorklist_map _ (fun _ _ => foldToRoot_foldSplatMaskInInsertAsync hacyc) hrun,
      List.map_congr_left fun op hop => foldToRoot_of_fixed (hfix op hop), List.map_id']
  simp only [cleanupStage, applyOpPatternsAndFold, hrun, Option.map_some', hops', Option.some.injEq,
    Prod.mk.injEq, true_and]
  refine ModuleOp.mapOps_map_congr fun op hop => ?_
  cases op with
  | insertSliceTMA o =>
    simp only [Op.afterCleanup, Op.foldToRoot,
      find?_foldToRoot hid (List.mem_filterMap.mpr ⟨_, hop, rfl⟩), Option.getD_some]
  | _ => rfl

/-- The nested splats of `cleanupStage_terminates_nested`: the mask becomes `%0`. -/
theorem cleanupStage_eq_foldToRoot_nested :
    SplatChainsAcyclic (ModuleOp.splatDefs ⟨4, 1, 32, none, [.func ⟨"f", false, [.int 1], [], .empty, some [.empty],
      [⟨0, .int 1⟩], [.splat ⟨1, .int 1⟩ ⟨0, .int 1⟩, .splat ⟨2, .int 1⟩ ⟨1, .int 1⟩,
        .insertSliceTMA ⟨7, some ⟨2, .int 1⟩⟩, .ret ⟨[], .empty⟩]⟩]⟩) ∧
    ((ModuleOp.insertSlices ⟨4, 1, 32, none, [.func ⟨"f", false, [.int 1], [], .empty, some [.empty],
      [⟨0, .int 1⟩], [.splat ⟨1, .int 1⟩ ⟨0, .int 1⟩, .splat ⟨2, .int 1⟩ ⟨1, .int 1⟩,
        .insertSliceTMA ⟨7, some ⟨2, .int 1⟩⟩, .ret ⟨[], .empty⟩]⟩]⟩).map InsertSliceTMAOp.id).Nodup ∧
    cleanupStage ⟨4, 1, 32, none, [.func ⟨"f", false, [.int 1], [], .empty, some [.empty],
      [⟨0, .int 1⟩], [.splat ⟨1, .int 1⟩ ⟨0, .int 1⟩, .splat ⟨2, .int 1⟩ ⟨1, .int 1⟩,
        .insertSliceTMA ⟨7, some ⟨2, .int 1⟩⟩, .ret ⟨[], .empty⟩]⟩]⟩ =
      some (true, ⟨4, 1, 32, none, [.func ⟨"f", false, [.int 1], [], .empty, some [.empty],
        [⟨0, .int 1⟩], [.splat ⟨1, .int 1⟩ ⟨0, .int 1⟩, .splat ⟨2, .int 1⟩ ⟨1, .int 1⟩,
          .insertSliceTMA ⟨7, some ⟨0, .int 1⟩⟩, .ret ⟨[], .empty⟩]⟩]⟩) :=
  ⟨by decide, by decide, cleanupStage_eq_foldToRoot _ (by decide) (by decide)⟩

end TritonGPUToLLVM