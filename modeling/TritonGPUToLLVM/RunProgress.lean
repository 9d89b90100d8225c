import TritonGPUToLLVM.Run
import TritonGPUToLLVM.FunctionStages

/-!
# A run of the pass fails only in the main conversion

The decomposition, the barriers and the cleanup rewrite operations that the
function stages never read: they keep every function's header and the calls,
returns and splats of its body, in order (`TopOp.interface`). So what the
function stages need of a module still holds when they run, and the cleanup
finds its splat def-chains acyclic. `runOnOperation_eq_mainStage`: on a module
ready for the function stages, whose copies have tensor types and whose splat
def-chains are acyclic, a run is the main conversion of what the function
stages produce from the cleaned module, followed by the folding of the cluster
CTA id. Nothing before the main conversion stops it, and the cleanup never
signals failure.
-/

namespace TritonGPUToLLVM

/-! ## What the stages before the function stage keep -/

/-- The operations the stages after the cleanup read of a body: calls,
returns and splats. -/
def Op.preserved? : Op → Option Op
  | .ret r => some (.ret r)
  | .call c => some (.call c)
  | .llvmRet r => some (.llvmRet r)
  | .llvmCall c => some (.llvmCall c)
  | .splat r s => some (.splat r s)
  | _ => none

theorem Op.eq_of_preserved? {a o : Op} (h : a.preserved? = some o) : a = o := by
  cases a <;> simp only [Op.preserved?, Option.some.injEq, reduceCtorEq] at h <;> exact h

theorem Op.bind_preserved?_splat? (o : Op) : o.preserved?.bind Op.splat? = o.splat? := by
  cases o <;> rfl

theorem mem_filterMap_preserved? {o : Op} (ho : o.preserved? = some o) {l : List Op} :
    o ∈ l.filterMap Op.preserved? ↔ o ∈ l :=
  ⟨fun h => by
    obtain ⟨a, ha, hao⟩ := List.mem_filterMap.mp h
    exact Op.eq_of_preserved? hao ▸ ha,
   fun h => List.mem_filterMap.mpr ⟨o, h, ho⟩⟩

theorem filterMap_preserved?_flatMap {f : Op → List Op}
    (hf : ∀ o, (f o).filterMap Op.preserved? = [o].filterMap Op.preserved?) :
    ∀ ops : List Op, (ops.flatMap f).filterMap Op.preserved? = ops.filterMap Op.preserved?
  | [] => rfl
  | o :: ops => by
    rw [List.flatMap_cons, List.filterMap_append, hf, filterMap_preserved?_flatMap hf ops]
    exact (List.filterMap_append [o] ops _).symm

/-- What the stages before the function stage keep of a top-level operation:
its header, and the calls, returns and splats of its body in order. -/
def TopOp.interface (t : TopOp) : TopOp × List Op := (t.header, t.ops.filterMap Op.preserved?)

theorem TopOp.interface_mapOps {g : List Op → List Op} {t : TopOp}
    (hg : (g t.ops).filterMap Op.preserved? = t.ops.filterMap Op.preserved?) :
    (t.mapOps g).interface = t.interface := by
  cases t <;> simp only [TopOp.interface, TopOp.header_mapOps] <;> first | rfl | exact congrArg _ hg

theorem map_interface_mapOps {g : List Op → List Op}
    (hg : ∀ ops, (g ops).filterMap Op.preserved? = ops.filterMap Op.preserved?) (ts : List TopOp) :
    (ts.map (TopOp.mapOps g)).map TopOp.interface = ts.map TopOp.interface := by
  rw [List.map_map]
  exact List.map_congr_left fun t _ => TopOp.interface_mapOps (hg t.ops)

theorem map_header_of_interface {ts ts' : List TopOp} (h : ts'.map TopOp.interface = ts.map TopOp.interface) :
    ts'.map TopOp.header = ts.map TopOp.header := by
  simpa [Function.comp_def, TopOp.interface] using congrArg (List.map Prod.fst) h

theorem exists_func_of_interface {ts ts' : List TopOp} (h : ts'.map TopOp.interface = ts.map TopOp.interface)
    {f : FuncOp} (hf : TopOp.func f ∈ ts) :
    ∃ ops, TopOp.func { f with body := ops } ∈ ts' ∧ ∀ o, o.preserved? = some o → (o ∈ ops ↔ o ∈ f.body) := by
  obtain ⟨t, ht, hti⟩ := List.mem_map.mp (h ▸ List.mem_map_of_mem TopOp.interface hf)
  cases t with
  | func f' =>
    cases f; cases f'
    simp only [TopOp.interface, TopOp.header, TopOp.mapOps, TopOp.ops, Prod.mk.injEq, TopOp.func.injEq,
      FuncOp.mk.injEq] at hti
    obtain ⟨⟨rfl, rfl, rfl, rfl, rfl, rfl, rfl, -⟩, hops⟩ := hti
    exact ⟨_, ht, fun o ho => by rw [← mem_filterMap_preserved? ho, hops, mem_filterMap_preserved? ho]⟩
  | llvmFunc _ | global _ => simp [TopOp.interface, TopOp.header, TopOp.mapOps] at hti

theorem StagesReady.of_interface {target : Target} {ts ts' : List TopOp} (hr : StagesReady target ts)
    (h : ts'.map TopOp.interface = ts.map TopOp.interface) : StagesReady target ts' := by
  have back := fun {f : FuncOp} (hf : TopOp.func f ∈ ts') => exists_func_of_interface h.symm hf
  refine ⟨⟨fun f hf => ?_, fun f hf => ?_, fun f hf => ?_, fun f hf c hc => ?_, fun f hf c hc => ?_⟩,
    fun g hg => ?_, fun f hf => ?_, fun f hf r hret => ?_, fun hne f hf hoff c hc => ?_⟩
  case refine_6 =>
    obtain ⟨_, hmem⟩ := exists_llvmFunc_of_headers (map_header_of_interface h.symm) hg
    exact hr.no_llvmFunc _ hmem
  all_goals obtain ⟨ops, hmem, hiff⟩ := back hf
  · exact hr.wf.args_length { f with body := ops } hmem
  · exact hr.wf.inputs_convert { f with body := ops } hmem
  · exact hr.wf.results_convert { f with body := ops } hmem
  · exact hr.wf.no_llvmCall { f with body := ops } hmem c ((hiff (.llvmCall c) rfl).mpr hc)
  · obtain ⟨f', hf', hname, hpub, hty⟩ := hr.wf.calls { f with body := ops } hmem c ((hiff (.call c) rfl).mpr hc)
    obtain ⟨_, hmem', -⟩ := exists_func_of_interface h hf'
    exact ⟨_, hmem', hname, hpub, hty⟩
  · exact hr.argAttrs { f with body := ops } hmem
  · exact hr.returns { f with body := ops } hmem r ((hiff (.ret r) rfl).mpr hret)
  · exact hr.offsets hne { f with body := ops } hmem hoff c ((hiff (.call c) rfl).mpr hc)

theorem splatDefs_eq_of_interface {m m' : ModuleOp} (h : m'.body.map TopOp.interface = m.body.map TopOp.interface) :
    m'.splatDefs = m.splatDefs := by
  have hs : ∀ m : ModuleOp,
      m.ops.filterMap Op.splat? = (m.body.map TopOp.interface).flatMap fun i => i.2.filterMap Op.splat? := by
    intro m
    simp only [ModuleOp.ops, List.filterMap_flatMap, List.flatMap_map, TopOp.interface, List.filterMap_filterMap,
      Op.bind_preserved?_splat?]
  simp only [ModuleOp.splatDefs, hs, h]

/-! ## The decomposition, the barriers and the cleanup -/

section
variable {caps : AsyncCapabilities} {cc : Int} {axisInfo : AxisInfo}

theorem walkOps_ok_of_forall {step : Op → Except PatternError (List Op × Bool)} :
    ∀ {ops : List Op}, (∀ o ∈ ops, ∃ r, step o = .ok r) → ∃ r, walkOps step ops = .ok r
  | [], _ => ⟨_, rfl⟩
  | o :: _, h => by
    obtain ⟨r, hr⟩ := h o (List.mem_cons_self _ _)
    obtain ⟨rs, hrs⟩ := walkOps_ok_of_forall fun o' ho' => h o' (List.mem_cons_of_mem _ ho')
    exact ⟨_, by rw [walkOps, hr]; simp only [Except.bind, hrs]; rfl⟩

theorem walkTop_ok_of_forall {step : Op → Except PatternError (List Op × Bool)} :
    ∀ {ts : List TopOp}, (∀ t ∈ ts, ∀ o ∈ t.ops, ∃ r, step o = .ok r) → ∃ r, walkTop step ts = .ok r
  | [], _ => ⟨_, rfl⟩
  | t :: _, h => by
    obtain ⟨r, hr⟩ := walkOps_ok_of_forall (h t (List.mem_cons_self _ _))
    obtain ⟨rs, hrs⟩ := walkTop_ok_of_forall fun t' ht' => h t' (List.mem_cons_of_mem _ ht')
    exact ⟨_, by rw [walkTop, hr]; simp only [Except.bind, hrs]; rfl⟩

theorem decomposeInsertSliceAsyncOp_ok {target : Target} {m : ModuleOp}
    (h : target = .genx → ∀ op, Op.insertSliceAsync op ∈ m.ops → ∃ t, op.types? = .ok t) :
    ∃ m1, decomposeInsertSliceAsyncOp caps cc target axisInfo m = .ok m1 := by
  unfold decomposeInsertSliceAsyncOp
  split
  · exact ⟨_, rfl⟩
  · rename_i hg
    obtain ⟨⟨body, d⟩, hw⟩ := @walkTop_ok_of_forall (decomposeStep caps cc axisInfo) m.body fun t ht o ho => by
      cases o with
      | insertSliceAsync op =>
        obtain ⟨ty, hty⟩ := h (not_not.mp hg) op (List.mem_flatMap.mpr ⟨t, ht, ho⟩)
        exact ⟨_, by simp only [decomposeStep, rewriteInsertSliceAsync, hty]; rfl⟩
      | _ => exact ⟨_, rfl⟩
    exact ⟨_, by simp only [walkModule, hw]; rfl⟩

theorem filterMap_preserved?_decomposeStep {o : Op} {r : List Op} {c : Bool}
    (h : decomposeStep caps cc axisInfo o = .ok (r, c)) : r.filterMap Op.preserved? = [o].filterMap Op.preserved? := by
  cases o with
  | insertSliceAsync op =>
    obtain ⟨r', hr, h⟩ := map_eq_ok.mp h
    obtain ⟨t, -, ⟨-, rfl⟩ | ⟨-, rfl⟩⟩ := rewriteInsertSliceAsync_ok caps cc axisInfo hr <;> cases h <;> rfl
  | _ => cases h; rfl

theorem map_interface_walkTop :
    ∀ {ts ts' : List TopOp} {d : Bool}, walkTop (decomposeStep caps cc axisInfo) ts = .ok (ts', d) →
      ts'.map TopOp.interface = ts.map TopOp.interface
  | [], _, _, h => by cases h; rfl
  | t :: ts, _, _, h => by
    obtain ⟨⟨ops, c⟩, ho, h⟩ := bind_eq_ok.mp h
    obtain ⟨⟨rs, cs⟩, hr, h⟩ := map_eq_ok.mp h
    cases h
    have hops : ops.filterMap Op.preserved? = t.ops.filterMap Op.preserved? :=
      @walkOps_rel _ (fun ops ops' _ => ops'.filterMap Op.preserved? = ops.filterMap Op.preserved?) rfl
        (fun _ _ _ _ _ _ ha hb => by simp only [List.filterMap_append, ha, hb])
        (fun _ _ _ ho => filterMap_preserved?_decomposeStep ho) _ _ _ ho
    rw [List.map_cons, List.map_cons, map_interface_walkTop hr, TopOp.interface_mapOps hops]

theorem map_interface_decomposeInsertSliceAsyncOp {target : Target} {m m1 : ModuleOp}
    (h : decomposeInsertSliceAsyncOp caps cc target axisInfo m = .ok m1) :
    m1.body.map TopOp.interface = m.body.map TopOp.interface := by
  unfold decomposeInsertSliceAsyncOp at h
  split at h
  · cases h; rfl
  · obtain ⟨⟨m', d⟩, hw, rfl⟩ := map_eq_ok.mp h
    obtain ⟨⟨body, c⟩, hb, hm⟩ := map_eq_ok.mp hw
    cases hm
    have herase : ∀ o, (eraseCommitGroup caps cc o).filterMap Op.preserved? = [o].filterMap Op.preserved? := by
      intro o; cases o <;> simp only [eraseCommitGroup]; split_ifs <;> rfl
    have hwait : ∀ o, (replaceAsyncWait caps cc d o).filterMap Op.preserved? = [o].filterMap Op.preserved? := by
      intro o; cases o <;> simp only [replaceAsyncWait]
      · cases rewriteAsyncWait caps cc d _ <;> rfl
    simp only [ModuleOp.mapOps]
    rw [map_interface_mapOps (filterMap_preserved?_flatMap hwait), map_interface_mapOps
      (filterMap_preserved?_flatMap herase), map_interface_walkTop hb]

end

theorem filterMap_preserved?_membar {ext : ExternalStages}
    (hbar : ∀ ops, (ext.membar ops).filter (·.dialect != .gpu) = ops.filter (·.dialect != .gpu)) (ops : List Op) :
    (ext.membar ops).filterMap Op.preserved? = ops.filterMap Op.preserved? := by
  have hp : ∀ l : List Op, l.filterMap Op.preserved? = (l.filter (·.dialect != .gpu)).filterMap Op.preserved? := by
    intro l
    rw [List.filterMap_filter]
    congr 1
    funext o
    cases o <;> simp [Op.preserved?, Op.dialect]
  rw [hp, hbar, ← hp]

theorem filterMap_preserved?_afterCleanup (ops' : List InsertSliceTMAOp) (ops : List Op) :
    (ops.map (Op.afterCleanup ops')).filterMap Op.preserved? = ops.filterMap Op.preserved? := by
  rw [List.filterMap_map]
  congr 1
  funext o
  cases o <;> rfl

/-! ## The whole run -/

/-- On a module ready for the function stages, whose `insert_slice_async`
operands have the types the decomposition casts them to on GENX and whose
splat def-chains are acyclic, and with barriers that change only `gpu`
operations, a run of the pass never stops before the main conversion and never
signals the cleanup's failure. The decomposition succeeds, the cleanup of the
decomposed module with its barriers succeeds and keeps every header and the
calls, returns and splats of every body, and the run's result is the main
conversion of what the function and call/return stages make of the cleaned
module, followed by the folding of the cluster CTA id when there is one CTA. -/
theorem runOnOperation_eq_mainStage {ext : ExternalStages} {names : SSANames} {caps : AsyncCapabilities}
    {cc : Int} {target : Target} {axisInfo : AxisInfo} {m : ModuleOp}
    (hbar : ∀ ops, (ext.membar ops).filter (·.dialect != .gpu) = ops.filter (·.dialect != .gpu))
    (htypes : target = .genx → ∀ op, Op.insertSliceAsync op ∈ m.ops → ∃ t, op.types? = .ok t)
    (hsplats : SplatChainsAcyclic m.splatDefs) (hready : StagesReady target m.body) :
    ∃ (m1 m2 : ModuleOp) (b1 b2 : List TopOp), decomposeInsertSliceAsyncOp caps cc target axisInfo m = .ok m1 ∧
      cleanupStage (m1.mapOps ext.membar) = some (true, m2) ∧
      m2.body.map TopOp.interface = m.body.map TopOp.interface ∧
      funcStage (wrapInt32 (m.numWarps * m.numWarpGroupsPerCTA.getD 1)) m2.threadsPerWarp target names.spArg
        m2.body = .ok b1 ∧
      callReturnStage target (initSharedMemory target b1) = .ok b2 ∧
      runOnOperation ext names caps cc target axisInfo m = (mainStage ext target b2).map fun b3 =>
        if m2.numCTAs = 1 then { m2 with body := b3 }.mapOps (·.flatMap (foldCTAId names.ctaIdZero))
        else { m2 with body := b3 } := by
  obtain ⟨m1, h0⟩ := @decomposeInsertSliceAsyncOp_ok caps cc axisInfo _ _ htypes
  have hi1 : (m1.mapOps ext.membar).body.map TopOp.interface = m.body.map TopOp.interface :=
    (map_interface_mapOps (filterMap_preserved?_membar hbar) _).trans (map_interface_decomposeInsertSliceAsyncOp h0)
  obtain ⟨ops', hrun, -⟩ := @processWorklist_cleanupFuel (m1.mapOps ext.membar)
    ((splatDefs_eq_of_interface hi1).symm ▸ hsplats)
  obtain ⟨m2, hm2⟩ : ∃ m2, (m1.mapOps ext.membar).mapOps (·.map (Op.afterCleanup ops')) = m2 := ⟨_, rfl⟩
  have hc : cleanupStage (m1.mapOps ext.membar) = some (true, m2) := by
    simp only [cleanupStage, applyOpPatternsAndFold, hrun, Option.map_some', hm2]
  have hi2 : m2.body.map TopOp.interface = m.body.map TopOp.interface :=
    hm2 ▸ (map_interface_mapOps (filterMap_preserved?_afterCleanup ops') _).trans hi1
  have hready2 := hready.of_interface hi2
  obtain ⟨b1, h1⟩ := @funcStage_ok_of_ready (wrapInt32 (m.numWarps * m.numWarpGroupsPerCTA.getD 1))
    m2.threadsPerWarp _ names.spArg _ hready2
  obtain ⟨b2, h2⟩ := callReturnStage_ok_of_ready hready2 h1
  refine ⟨m1, m2, b1, b2, h0, hc, hi2, h1, h2, ?_⟩
  simp only [runOnOperation, h0, Except.mapError, bind, Except.bind, hc, Option.elim_some, h1, h2, if_true]
  cases mainStage ext target b2 <;> rfl

/-- A kernel that masks an `insert_slice_tma` with a splat and calls a device
function returning two `i32`s, run on NVVM with no barriers and main patterns
that keep every operation. -/
theorem runOnOperation_eq_mainStage_kernel :
    ∃ m : ModuleOp, m = ⟨4, 1, 32, none,
        [.func ⟨"k", true, [], [], DictionaryAttr.empty.set "allocation.offset" (.integer 32 0), none, [],
            [.splat ⟨5, .tensor [16] (.int 1) (.blocked 1)⟩ ⟨6, .int 1⟩,
              .insertSliceTMA ⟨0, some ⟨5, .tensor [16] (.int 1) (.blocked 1)⟩⟩,
              .call ⟨"dev", [], [.int 32, .int 32], DictionaryAttr.empty.set "allocation.offset" (.integer 32 16)⟩,
              .ret ⟨[], .empty⟩]⟩,
          .func ⟨"dev", false, [], [.int 32, .int 32], .empty, some [], [],
            [.ret ⟨[⟨0, .int 32⟩, ⟨1, .int 32⟩], .empty⟩]⟩]⟩ ∧
      ∃ (m1 m2 : ModuleOp) (b1 b2 : List TopOp),
        decomposeInsertSliceAsyncOp .sm80 80 .nvvm ⟨fun _ => 1, fun _ => 1⟩ m = .ok m1 ∧
        cleanupStage (m1.mapOps id) = some (true, m2) ∧
        m2.body.map TopOp.interface = m.body.map TopOp.interface ∧
        funcStage (wrapInt32 (m.numWarps * m.numWarpGroupsPerCTA.getD 1)) m2.threadsPerWarp .nvvm (fun _ => 2)
          m2.body = .ok b1 ∧
        callReturnStage .nvvm (initSharedMemory .nvvm b1) = .ok b2 ∧
        runOnOperation ⟨id, List.Sublist.refl, fun _ _ h => .inl h, fun op => .ok ([op], [])⟩ ⟨fun _ => 2, id⟩
            .sm80 80 .nvvm ⟨fun _ => 1, fun _ => 1⟩ m =
          (mainStage ⟨id, List.Sublist.refl, fun _ _ h => .inl h, fun op => .ok ([op], [])⟩ .nvvm b2).map fun b3 =>
            if m2.numCTAs = 1 then { m2 with body := b3 }.mapOps (·.flatMap (foldCTAId id))
            else { m2 with body := b3 } := by
  refine ⟨_, rfl, @runOnOperation_eq_mainStage ⟨id, List.Sublist.refl, fun _ _ h => .inl h, fun op => .ok ([op], [])⟩
    ⟨fun _ => 2, id⟩ .sm80 80 .nvvm ⟨fun _ => 1, fun _ => 1⟩ _ (fun _ => rfl) (fun h => nomatch h) (by decide)
    ⟨⟨?_, ?_, ?_, ?_, ?_⟩, by simp, ?_, ?_, fun _ f hf _ c hc => ?_⟩⟩
  all_goals first | intro f hf | skip
  all_goals simp only [List.mem_cons, TopOp.func.injEq, List.mem_nil_iff, or_false] at hf
  all_goals rcases hf with rfl | rfl
  all_goals simp_all
  all_goals rfl

end TritonGPUToLLVM
