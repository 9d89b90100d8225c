import Mathlib.Data.List.Nodup
import TritonGPUToLLVM.Pipeline

/-!
# What a run of the pass does to the module

How a run can end, and what a successful run leaves: the function stage and
the call/return stage never signal failure, and a successful run keeps the
module's symbols in order, adds `global_smem` on NVVM and ROCDL and before it
the declarations and globals the main patterns create, lowers every `tt.func`
to an `llvm.func` of the same name and leaves no operation of a dialect the
main conversion declares illegal (`runOnOperation_lowers_module`). Since
`global_smem` is added whatever the module holds, and the folding of the
cluster CTA id keeps the id it folds, a second run does not leave the output
of the first unchanged (`runOnOperation_adds_globalSmem_and_constants`).

A device function without argument attributes stops the run
(`runOnOperation_crashes_without_argAttrs`); one whose signature does not
convert keeps the block argument `amendFuncOp` added
(`funcStage_keeps_spArg_of_matchFailure`); and every lowered function carries
the thread count of `runOnOperation_thread_counts`.
-/

namespace TritonGPUToLLVM

/-! ## How the function stages fail -/

theorem applyPattern_error {α β : Type} {orig : β} {wrap : α → β} {r : Except PatternError α} {e : PassFailure}
    (h : applyPattern orig wrap r = .error e) : ∃ what, e = .crash what := by
  match r, h with
  | .error (.crash what), h => cases h; exact ⟨what, rfl⟩

theorem mapM_error {α β ε : Type} {f : α → Except ε β} {e : ε} :
    ∀ {xs : List α}, xs.mapM f = .error e → ∃ x ∈ xs, f x = .error e
  | [], h => by cases h
  | x :: xs, h => by
    rw [List.mapM_cons] at h
    rcases bind_eq_error.mp h with hx | ⟨_, -, h⟩
    · exact ⟨x, List.mem_cons_self _ _, hx⟩
    · rcases bind_eq_error.mp h with hr | ⟨_, -, h⟩
      · obtain ⟨x', hx', he⟩ := mapM_error hr
        exact ⟨x', List.mem_cons_of_mem _ hx', he⟩
      · cases h

theorem functionStage_error {f : TopOp → Except PassFailure TopOp} {target : Target} {body : List TopOp}
    {e : PassFailure} (hf : ∀ t e, f t = .error e → ∃ what, e = .crash what)
    (h : (body.mapM f).bind (legalize (functionConversionTarget target)) = .error e) :
    ∃ what, e = .crash what := by
  rcases bind_eq_error.mp h with hm | ⟨b, -, hl⟩
  · obtain ⟨t, -, ht⟩ := mapM_error hm
    exact hf t e ht
  · rw [legalize_functionConversionTarget] at hl
    cases hl

theorem funcStageOp_error_eq {numWarps threadsPerWarp : Int} {target : Target} {spArg : FuncOp → Nat}
    {t : TopOp} {e : PassFailure} (h : funcStageOp numWarps threadsPerWarp target spArg t = .error e) :
    e = .crash "llvm::to_vector on the null ArrayAttr of getAllArgAttrs()" := by
  cases t with
  | func f =>
    simp only [funcStageOp] at h
    cases hr : (funcOpConversion funcStageOptions numWarps threadsPerWarp target f (spArg f)).result with
    | ok g => rw [hr] at h; cases h
    | error e' =>
      rw [hr] at h
      rcases funcOpConversion_error hr with rfl | rfl <;> cases h
      rfl
  | _ => cases h

theorem funcStageOp_error {numWarps threadsPerWarp : Int} {target : Target} {spArg : FuncOp → Nat}
    (t : TopOp) (e : PassFailure) (h : funcStageOp numWarps threadsPerWarp target spArg t = .error e) :
    ∃ what, e = .crash what :=
  ⟨_, funcStageOp_error_eq h⟩

theorem callReturnOp_error {funcOp : Option LLVMFuncOp} {caller : Caller} {op : Op} {e : PassFailure}
    (h : callReturnOp funcOp caller op = .error e) : ∃ what, e = .crash what := by
  cases op with
  | ret r =>
    cases hws : adaptorOperands callStageOptions r.operands <;> simp only [callReturnOp, hws] at h
    · cases h
    · exact applyPattern_error h
  | call c =>
    cases hws : adaptorOperands callStageOptions c.operands <;> simp only [callReturnOp, hws] at h
    · cases h
    · exact applyPattern_error h
  | _ => cases h

theorem callReturnTop_error (t : TopOp) (e : PassFailure) (h : callReturnTop t = .error e) :
    ∃ what, e = .crash what := by
  cases t with
  | func f =>
    obtain ⟨_, -, hop⟩ := mapM_error (map_eq_error.mp h)
    exact callReturnOp_error hop
  | llvmFunc f =>
    obtain ⟨_, -, hop⟩ := mapM_error (map_eq_error.mp h)
    exact callReturnOp_error hop
  | global g => cases h

/-- The function stage and the call/return stage never signal failure: their
target declares nothing illegal, and their patterns fail only by crashing. -/
theorem function_stages_never_signal (numWarps threadsPerWarp : Int) (target : Target) (spArg : FuncOp → Nat)
    (body : List TopOp) (stage : String) :
    funcStage numWarps threadsPerWarp target spArg body ≠ .error (.signalPassFailure stage) ∧
      callReturnStage target body ≠ .error (.signalPassFailure stage) := by
  constructor
  · intro h
    obtain ⟨_, he⟩ := functionStage_error funcStageOp_error h
    cases he
  · intro h
    obtain ⟨_, he⟩ := functionStage_error callReturnTop_error h
    cases he

/-! ## What the stages keep of each top-level operation -/

/-- A top-level operation without its body: all that the stages other than the
function stage leave alone. -/
def TopOp.header (t : TopOp) : TopOp := t.mapOps fun _ => []

@[simp] theorem TopOp.symbol_mapOps (g : List Op → List Op) (t : TopOp) : (t.mapOps g).symbol = t.symbol := by
  cases t <;> rfl

@[simp] theorem TopOp.header_mapOps (g : List Op → List Op) (t : TopOp) : (t.mapOps g).header = t.header := by
  cases t <;> rfl

@[simp] theorem TopOp.symbol_header (t : TopOp) : t.header.symbol = t.symbol := TopOp.symbol_mapOps _ _

theorem map_mapOps_of_mapOps {α : Type} {P : TopOp → α} (hP : ∀ g t, P (t.mapOps g) = P t)
    (g : List Op → List Op) (ts : List TopOp) : (ts.map (TopOp.mapOps g)).map P = ts.map P := by
  simp [Function.comp_def, hP]

theorem map_eq_of_forall₂ {α β γ : Type} {P : β → α} {Q : γ → α} {ts : List β} {ts' : List γ}
    (h : List.Forall₂ (fun t t' => Q t' = P t) ts ts') : ts'.map Q = ts.map P := by
  induction h with
  | nil => rfl
  | cons h _ ih => simp [h, ih]

theorem map_eq_of_stage {α : Type} {P : TopOp → α} {f : TopOp → Except PassFailure TopOp}
    {target : ConversionTarget} {ts ts' : List TopOp} (hf : ∀ t t', f t = .ok t' → P t' = P t)
    (h : (ts.mapM f).bind (legalize target) = .ok ts') : ts'.map P = ts.map P := by
  obtain ⟨_, hm, h⟩ := bind_eq_ok.mp h
  rw [legalize_ok h]
  exact map_eq_of_forall₂ ((mapM_ok_iff.mp hm).imp fun t t' => hf t t')

theorem map_symbol_of_headers {ts ts' : List TopOp} (h : ts'.map TopOp.header = ts.map TopOp.header) :
    ts'.map TopOp.symbol = ts.map TopOp.symbol := by
  simpa [Function.comp_def] using congrArg (List.map TopOp.symbol) h

theorem exists_func_of_headers {ts ts' : List TopOp} (h : ts'.map TopOp.header = ts.map TopOp.header)
    {f : FuncOp} (hf : TopOp.func f ∈ ts) : ∃ ops, TopOp.func { f with body := ops } ∈ ts' := by
  obtain ⟨t, ht, htf⟩ := List.mem_map.mp (h ▸ List.mem_map_of_mem TopOp.header hf)
  cases t with
  | func f' =>
    cases f; cases f'
    simp only [TopOp.header, TopOp.mapOps, TopOp.func.injEq, FuncOp.mk.injEq] at htf
    obtain ⟨rfl, rfl, rfl, rfl, rfl, rfl, rfl, -⟩ := htf
    exact ⟨_, ht⟩
  | llvmFunc _ | global _ => cases htf

theorem exists_llvmFunc_of_headers {ts ts' : List TopOp} (h : ts'.map TopOp.header = ts.map TopOp.header)
    {g : LLVMFuncOp} (hg : TopOp.llvmFunc g ∈ ts) : ∃ ops, TopOp.llvmFunc { g with body := ops } ∈ ts' := by
  obtain ⟨t, ht, htg⟩ := List.mem_map.mp (h ▸ List.mem_map_of_mem TopOp.header hg)
  cases t with
  | llvmFunc g' =>
    cases g; cases g'
    simp only [TopOp.header, TopOp.mapOps, TopOp.llvmFunc.injEq, LLVMFuncOp.mk.injEq] at htg
    obtain ⟨rfl, rfl, rfl, rfl, rfl, rfl, rfl, rfl, -⟩ := htg
    exact ⟨_, ht⟩
  | func _ | global _ => cases htg

theorem walkTop_header {step : Op → Except PatternError (List Op × Bool)} :
    ∀ {ts ts' : List TopOp} {d : Bool}, walkTop step ts = .ok (ts', d) → ts'.map TopOp.header = ts.map TopOp.header
  | [], _, _, h => by cases h; rfl
  | t :: ts, ts', d, h => by
    obtain ⟨_, -, h⟩ := bind_eq_ok.mp h
    obtain ⟨⟨rs, cs⟩, hr, h⟩ := map_eq_ok.mp h
    cases h
    simp [walkTop_header hr]

theorem headers_decompose_membar {caps : AsyncCapabilities} {cc : Int} {target : Target} {axisInfo : AxisInfo}
    {membar : List Op → List Op} {m m' : ModuleOp} (h : decomposeInsertSliceAsyncOp caps cc target axisInfo m = .ok m') :
    (m'.mapOps membar).body.map TopOp.header = m.body.map TopOp.header := by
  have hmap := map_mapOps_of_mapOps TopOp.header_mapOps
  unfold decomposeInsertSliceAsyncOp at h
  split at h
  · cases h
    exact hmap _ _
  · obtain ⟨_, hw, rfl⟩ := map_eq_ok.mp h
    obtain ⟨_, hb, rfl⟩ := map_eq_ok.mp hw
    simp only [ModuleOp.mapOps, hmap]
    exact walkTop_header hb

theorem attrs_cleanupStage_decompose {caps : AsyncCapabilities} {cc : Int} {target : Target} {axisInfo : AxisInfo}
    {membar : List Op → List Op} {m m1 m2 : ModuleOp} {c : Bool}
    (h0 : decomposeInsertSliceAsyncOp caps cc target axisInfo m = .ok m1)
    (hc : cleanupStage (m1.mapOps membar) = some (c, m2)) : m2 = { m with body := m2.body } := by
  obtain ⟨_, rfl⟩ := cleanupStage_some hc
  unfold decomposeInsertSliceAsyncOp at h0
  split at h0
  · cases h0; rfl
  · obtain ⟨_, hw, rfl⟩ := map_eq_ok.mp h0
    obtain ⟨_, -, rfl⟩ := map_eq_ok.mp hw
    rfl

theorem funcStageOp_symbol {numWarps threadsPerWarp : Int} {target : Target} {spArg : FuncOp → Nat}
    (t t' : TopOp) (h : funcStageOp numWarps threadsPerWarp target spArg t = .ok t') : t'.symbol = t.symbol := by
  cases t with
  | func f =>
    rcases applyPattern_ok h with ⟨g, hg, rfl⟩ | ⟨_, -, rfl⟩
    · exact congrArg (·, false) (funcOpConversion_ok hg).1
    · exact congrArg (·, false) (funcOpConversion_residual_name ..)
  | _ => cases h; rfl

theorem callReturnTop_header (t t' : TopOp) (h : callReturnTop t = .ok t') : t'.header = t.header := by
  cases t with
  | func f => obtain ⟨_, -, rfl⟩ := map_eq_ok.mp h; rfl
  | llvmFunc f => obtain ⟨_, -, rfl⟩ := map_eq_ok.mp h; rfl
  | global g => cases h; rfl

theorem headers_cleanupStage {m m' : ModuleOp} {c : Bool} (h : cleanupStage m = some (c, m')) :
    m'.body.map TopOp.header = m.body.map TopOp.header := by
  obtain ⟨_, rfl⟩ := cleanupStage_some h
  exact map_mapOps_of_mapOps TopOp.header_mapOps _ _

/-- No top-level operation and no operation of a body is of a dialect the
target declares illegal: what a successful `applyPartialConversion` leaves. -/
def ConversionTarget.Legal (target : ConversionTarget) (body : List TopOp) : Prop :=
  ∀ t ∈ body, target.legality t.dialect ≠ .illegal ∧ ∀ op ∈ t.ops, target.legality op.dialect ≠ .illegal

theorem legalize_legal {target : ConversionTarget} {body b : List TopOp} (h : legalize target body = .ok b) :
    target.Legal b := by
  unfold legalize at h
  split at h
  · rename_i hall
    cases h
    simpa [ConversionTarget.Legal, List.all_eq_true, bne_iff_ne] using hall
  · cases h

theorem mainStageOp_header {ext : ExternalStages} {t : TopOp} {r : TopOp × List TopOp}
    (h : mainStageOp ext t = .ok r) : r.1.header = t.header := by
  obtain ⟨_, -, rfl⟩ := map_eq_ok.mp h
  exact TopOp.header_mapOps (fun _ => _) t

theorem mainStageOp_created {ext : ExternalStages} {t d : TopOp} {r : TopOp × List TopOp}
    (h : mainStageOp ext t = .ok r) (hd : d ∈ r.2) : ∃ op rs ts, ext.mainPattern op = .ok (rs, ts) ∧ d ∈ ts := by
  obtain ⟨rs, hrs, rfl⟩ := map_eq_ok.mp h
  obtain ⟨_, hr, hd⟩ := List.mem_flatten.mp hd
  obtain ⟨⟨rs', ts⟩, hmem, rfl⟩ := List.mem_map.mp hr
  obtain ⟨op, -, hop⟩ := forall₂_exists_of_mem_right (mapM_ok_iff.mp hrs) hmem
  rcases applyPattern_ok hop with ⟨a, ha, rfl⟩ | ⟨_, -, he⟩
  · exact ⟨op, rs', ts, ha, hd⟩
  · cases (Prod.mk.inj he).2
    cases hd

theorem foldl_insertSymbol : ∀ ds body : List TopOp, ∃ added, List.foldl insertSymbol body ds = added ++ body ∧
    (∀ t ∈ added, t ∈ ds) ∧ (added.map fun t => t.symbol.1).Nodup ∧
      ∀ t ∈ added, ∀ t' ∈ body, t'.symbol.1 ≠ t.symbol.1
  | [], _ => ⟨[], rfl, by simp⟩
  | d :: ds, body => by
    obtain ⟨added, h, hmem, hnd, hfresh⟩ := foldl_insertSymbol ds (insertSymbol body d)
    rw [List.foldl_cons, h]
    by_cases hd : body.any fun t' => t'.symbol.1 == d.symbol.1
    · simp only [insertSymbol, if_pos hd] at hfresh ⊢
      exact ⟨added, rfl, fun t ht => List.mem_cons_of_mem _ (hmem t ht), hnd, hfresh⟩
    · simp only [insertSymbol, if_neg hd] at hfresh ⊢
      have hd' : ∀ t' ∈ body, t'.symbol.1 ≠ d.symbol.1 := by simpa using hd
      refine ⟨added ++ [d], by simp, ?_, ?_, ?_⟩
      · simp only [List.forall_mem_append, List.forall_mem_singleton]
        exact ⟨fun t ht => List.mem_cons_of_mem _ (hmem t ht), List.mem_cons_self _ _⟩
      · simp only [List.map_append, List.map_singleton, List.nodup_append, hnd, List.nodup_singleton,
          List.disjoint_singleton, true_and]
        intro hm
        obtain ⟨t, ht, e⟩ := List.mem_map.mp hm
        exact hfresh t ht d (List.mem_cons_self _ _) e.symm
      · simp only [List.forall_mem_append, List.forall_mem_singleton]
        exact ⟨fun t ht t' ht' => hfresh t ht t' (List.mem_cons_of_mem _ ht'), hd'⟩

theorem mainStage_ok {ext : ExternalStages} {target : Target} {body b : List TopOp}
    (h : mainStage ext target body = .ok b) :
    ∃ added converted : List TopOp, b = added ++ converted ∧ converted.map TopOp.header = body.map TopOp.header ∧
      (added.map fun t => t.symbol.1).Nodup ∧ (∀ t ∈ added, ∀ t' ∈ converted, t'.symbol.1 ≠ t.symbol.1) ∧
      (∀ t ∈ added, ∃ op rs ts, ext.mainPattern op = .ok (rs, ts) ∧ t ∈ ts) ∧
      (llvmConversionTarget target).Legal b := by
  obtain ⟨cs, hcs, hl⟩ := bind_eq_ok.mp h
  have hcs := mapM_ok_iff.mp hcs
  obtain ⟨added, hb, hmem, hnd, hfresh⟩ := foldl_insertSymbol (cs.map Prod.snd).flatten (cs.map Prod.fst)
  refine ⟨added, cs.map Prod.fst, (legalize_ok hl).trans hb, ?_, hnd, hfresh, fun t ht => ?_, legalize_legal hl⟩
  · rw [List.map_map]
    exact map_eq_of_forall₂ (hcs.imp fun _ _ => mainStageOp_header)
  · obtain ⟨_, hl, ht⟩ := List.mem_flatten.mp (hmem t ht)
    obtain ⟨r, hr, rfl⟩ := List.mem_map.mp hl
    obtain ⟨_, -, h0⟩ := forall₂_exists_of_mem_right hcs hr
    exact mainStageOp_created h0 ht

theorem initSharedMemory_eq_append (target : Target) (body : List TopOp) :
    initSharedMemory target body = initSharedMemory target [] ++ body := by
  cases target <;> rfl

theorem initSharedMemory_of_ne_genx {target : Target} (ht : target ≠ .genx) (body : List TopOp) :
    initSharedMemory target body = .global globalSmem :: body := by
  cases target
  · rfl
  · rfl
  · exact absurd rfl ht

theorem headers_runOnOperation {ext : ExternalStages} {names : SSANames} {caps : AsyncCapabilities}
    {cc : Int} {target : Target} {axisInfo : AxisInfo} {m m' : ModuleOp}
    (h : runOnOperation ext names caps cc target axisInfo m = .ok m') :
    ∃ (m2 : ModuleOp) (b1 added : List TopOp), m2.body.map TopOp.header = m.body.map TopOp.header ∧
      m2.threadsPerWarp = m.threadsPerWarp ∧
      funcStage (wrapInt32 (m.numWarps * m.numWarpGroupsPerCTA.getD 1)) m2.threadsPerWarp target names.spArg
        m2.body = .ok b1 ∧
      m'.body.map TopOp.header = (added ++ initSharedMemory target b1).map TopOp.header ∧
      (added.map fun t => t.symbol.1).Nodup ∧
      (∀ t ∈ added, ∀ t' ∈ initSharedMemory target b1, t'.symbol.1 ≠ t.symbol.1) ∧
      ∀ t ∈ added, ∃ op rs ts, ext.mainPattern op = .ok (rs, ts) ∧ t ∈ ts := by
  obtain ⟨m1, m2, b1, b2, b3, h0, hc, h1, h2, h3, rfl⟩ := runOnOperation_ok h
  obtain ⟨added, conv, rfl, hconv, hnd, hfresh, hcreated, -⟩ := mainStage_ok h3
  have hconv' : conv.map TopOp.header = (initSharedMemory target b1).map TopOp.header :=
    hconv.trans (map_eq_of_stage callReturnTop_header h2)
  refine ⟨m2, b1, added, (headers_cleanupStage hc).trans (headers_decompose_membar h0),
    (congrArg ModuleOp.threadsPerWarp (attrs_cleanupStage_decompose h0 hc) :), h1, ?_, hnd, fun t ht t' ht' => ?_,
    hcreated⟩
  · split <;> simp only [ModuleOp.mapOps, map_mapOps_of_mapOps TopOp.header_mapOps, List.map_append, hconv']
  · obtain ⟨t'', ht'', he⟩ := List.mem_map.mp (hconv' ▸ List.mem_map_of_mem TopOp.header ht')
    rw [← TopOp.symbol_header t', ← he, TopOp.symbol_header]
    exact hfresh t ht t'' ht''

theorem symbols_runOnOperation {ext : ExternalStages} {names : SSANames} {caps : AsyncCapabilities}
    {cc : Int} {target : Target} {axisInfo : AxisInfo} {m m' : ModuleOp}
    (h : runOnOperation ext names caps cc target axisInfo m = .ok m') :
    ∃ added : List TopOp,
      m'.body.map TopOp.symbol = added.map TopOp.symbol ++ (initSharedMemory target m.body).map TopOp.symbol ∧
      (added.map fun t => t.symbol.1).Nodup ∧
      (∀ t ∈ added, ∀ s ∈ (initSharedMemory target m.body).map TopOp.symbol, s.1 ≠ t.symbol.1) ∧
      ∀ t ∈ added, ∃ op rs ts, ext.mainPattern op = .ok (rs, ts) ∧ t ∈ ts := by
  obtain ⟨m2, b1, added, hm2, -, h1, hh, hnd, hfresh, hcreated⟩ := headers_runOnOperation h
  have hb1 : (initSharedMemory target b1).map TopOp.symbol = (initSharedMemory target m.body).map TopOp.symbol := by
    have : b1.map TopOp.symbol = m.body.map TopOp.symbol := by
      rw [map_eq_of_stage funcStageOp_symbol h1, map_symbol_of_headers hm2]
    rw [initSharedMemory_eq_append, initSharedMemory_eq_append target m.body, List.map_append, List.map_append,
      this]
  refine ⟨added, by rw [map_symbol_of_headers hh, List.map_append, hb1], hnd, fun t ht s hs => ?_, hcreated⟩
  obtain ⟨t', ht', rfl⟩ := List.mem_map.mp (hb1 ▸ hs)
  exact hfresh t ht t' ht'

/-! ## What a successful run leaves -/

theorem llvmConversionTarget_legality {target : Target} {d : Dialect} :
    (llvmConversionTarget target).legality d ≠ .illegal ↔ d ∉ [.triton, .tritonGPU, .tritonNvidiaGPU, .gpu] := by
  cases target <;> cases d <;> decide

@[simp] theorem TopOp.dialect_mapOps (g : List Op → List Op) (t : TopOp) : (t.mapOps g).dialect = t.dialect := by
  cases t <;> rfl

theorem mem_foldCTAId {zero : Value → Value} {x op : Op} (h : op ∈ foldCTAId zero x) :
    op = x ∨ op.dialect = .llvm := by
  unfold foldCTAId at h
  split at h
  · rcases List.mem_pair.mp h with rfl | rfl
    · exact .inr rfl
    · exact .inl rfl
  · exact .inl (List.mem_singleton.mp h)

theorem legal_foldCTAId {target : Target} {zero : Value → Value} {body : List TopOp}
    (h : (llvmConversionTarget target).Legal body) :
    (llvmConversionTarget target).Legal (body.map (TopOp.mapOps (·.flatMap (foldCTAId zero)))) := by
  intro t ht
  obtain ⟨t0, ht0, rfl⟩ := List.mem_map.mp ht
  refine ⟨by simpa using (h t0 ht0).1, fun op hop => ?_⟩
  rw [TopOp.ops_mapOps_flatMap] at hop
  obtain ⟨x, hx, hop⟩ := List.mem_flatMap.mp hop
  rcases mem_foldCTAId hop with rfl | hl
  · exact (h t0 ht0).2 op hx
  · rw [hl, llvmConversionTarget_legality]
    decide

theorem legal_runOnOperation {ext : ExternalStages} {names : SSANames} {caps : AsyncCapabilities}
    {cc : Int} {target : Target} {axisInfo : AxisInfo} {m m' : ModuleOp}
    (h : runOnOperation ext names caps cc target axisInfo m = .ok m') :
    (llvmConversionTarget target).Legal m'.body := by
  obtain ⟨m1, m2, b1, b2, b3, -, -, -, -, h3, rfl⟩ := runOnOperation_ok h
  obtain ⟨_, _, hl⟩ := bind_eq_ok.mp h3
  split
  · exact legal_foldCTAId (legalize_legal hl)
  · exact legalize_legal hl

/-- A successful run lowers the whole module: it defines the input's symbols in
order, after `global_smem` on NVVM and ROCDL, and before them only the
declarations and globals the main patterns create, under new and distinct
names; no operation of a dialect the main conversion declares illegal is left,
at the top of the module or in a body, so no `tt.func` is left; and every
`tt.func` became an `llvm.func` of the same name. -/
theorem runOnOperation_lowers_module {ext : ExternalStages} {names : SSANames} {caps : AsyncCapabilities}
    {cc : Int} {target : Target} {axisInfo : AxisInfo} {m m' : ModuleOp}
    (h : runOnOperation ext names caps cc target axisInfo m = .ok m') :
    (∃ added : List TopOp,
      m'.body.map TopOp.symbol = added.map TopOp.symbol ++ (initSharedMemory target m.body).map TopOp.symbol ∧
      (added.map fun t => t.symbol.1).Nodup ∧
      (∀ t ∈ added, ∀ s ∈ (initSharedMemory target m.body).map TopOp.symbol, s.1 ≠ t.symbol.1) ∧
      ∀ t ∈ added, ∃ op rs ts, ext.mainPattern op = .ok (rs, ts) ∧ t ∈ ts) ∧
      (llvmConversionTarget target).Legal m'.body ∧ (∀ f, TopOp.func f ∉ m'.body) ∧
      ∀ f, TopOp.func f ∈ m.body → ∃ g, TopOp.llvmFunc g ∈ m'.body ∧ g.name = f.name := by
  have hs := symbols_runOnOperation h
  have hl := legal_runOnOperation h
  have hnf : ∀ f, TopOp.func f ∉ m'.body := fun f hf => (hl _ hf).1 (by cases target <;> rfl)
  refine ⟨hs, hl, hnf, fun f hf => ?_⟩
  obtain ⟨added, hsym, -⟩ := hs
  have hmem : (f.name, false) ∈ m'.body.map TopOp.symbol := by
    rw [hsym]
    exact List.mem_append_right _ (List.mem_map.mpr ⟨_, mem_initSharedMemory hf, rfl⟩)
  obtain ⟨t, ht, hts⟩ := List.mem_map.mp hmem
  cases t with
  | func f' => exact absurd ht (hnf f')
  | llvmFunc g => exact ⟨g, ht, congrArg Prod.fst hts⟩
  | global _ => simp [TopOp.symbol] at hts

/-- A kernel `tt.func public @k()` that prints and returns, lowered on NVVM by
a print pattern that creates the declaration `@vprintf` and erases the print,
the other patterns leaving every operation as it is. -/
theorem runOnOperation_lowers_module_kernel :
    ∃ m', runOnOperation ⟨id, List.Sublist.refl, fun _ _ h => .inl h, fun
          | .generic .triton "tt.print" => .ok ([], [.llvmFunc ⟨"vprintf", false, [], none, .empty, none, [], [], []⟩])
          | op => .ok ([op], [])⟩ ⟨fun _ => 0, id⟩
        .sm80 80 .nvvm ⟨fun _ => 1, fun _ => 1⟩
        ⟨4, 1, 32, none, [.func ⟨"k", true, [], [], .empty, some [], [],
          [.generic .triton "tt.print", .ret ⟨[], .empty⟩]⟩]⟩ = .ok m' ∧
      m'.body.map TopOp.symbol = [("vprintf", false), ("global_smem", true), ("k", false)] ∧
      (llvmConversionTarget .nvvm).Legal m'.body ∧ (∀ f, TopOp.func f ∉ m'.body) ∧
      ∃ g, TopOp.llvmFunc g ∈ m'.body ∧ g.name = "k" :=
  let h := @runOnOperation_lowers_module ⟨id, List.Sublist.refl, fun _ _ h => .inl h, fun
      | .generic .triton "tt.print" => .ok ([], [.llvmFunc ⟨"vprintf", false, [], none, .empty, none, [], [], []⟩])
      | op => .ok ([op], [])⟩
    ⟨fun _ => 0, id⟩ .sm80 80 .nvvm ⟨fun _ => 1, fun _ => 1⟩
    ⟨4, 1, 32, none, [.func ⟨"k", true, [], [], .empty, some [], [], [.generic .triton "tt.print", .ret ⟨[], .empty⟩]⟩]⟩
    _ rfl
  ⟨_, rfl, rfl, h.2.1, h.2.2.1, h.2.2.2 _ (List.mem_singleton_self _)⟩

/-! ## What a second run adds -/

def TopOp.isGlobalSmem : TopOp → Bool
  | .global g => g.name == "global_smem"
  | _ => false

def ModuleOp.globalSmemCount (m : ModuleOp) : Nat := m.body.countP TopOp.isGlobalSmem

def Op.isClusterCTAId : Op → Bool
  | .clusterCTAId _ => true
  | _ => false

theorem countP_isGlobalSmem (ts : List TopOp) :
    ts.countP TopOp.isGlobalSmem = (ts.map TopOp.symbol).countP fun s => s = ("global_smem", true) := by
  rw [List.countP_map]
  congr 1
  funext t
  cases t <;> simp [TopOp.isGlobalSmem, TopOp.symbol, Bool.beq_eq_decide_eq]

theorem foldCTAId_count (zero : Value → Value) (op : Op) :
    (foldCTAId zero op).countP Op.isClusterCTAId = (if op.isClusterCTAId then 1 else 0) ∧
      (foldCTAId zero op).length = 1 + if op.isClusterCTAId then 1 else 0 := by
  cases op <;> exact ⟨rfl, rfl⟩

theorem foldCTAId_counts (zero : Value → Value) :
    ∀ ops : List Op, (ops.flatMap (foldCTAId zero)).countP Op.isClusterCTAId = ops.countP Op.isClusterCTAId ∧
      (ops.flatMap (foldCTAId zero)).length = ops.length + ops.countP Op.isClusterCTAId
  | [] => ⟨rfl, rfl⟩
  | op :: ops => by
    obtain ⟨ih1, ih2⟩ := foldCTAId_counts zero ops
    obtain ⟨h1, h2⟩ := foldCTAId_count zero op
    simp only [List.flatMap_cons, List.countP_append, List.length_append, List.countP_cons, List.length_cons,
      ih1, ih2, h1, h2]
    omega

/-- What a successful run adds to a module. On NVVM and ROCDL it adds one
`global_smem`: `initSharedMemory` creates it whatever the module already
holds, and the main conversion creates no second symbol of that name. On every
target, GENX included, a run on a module of one CTA ends with the folding of
the cluster CTA ids, which keeps each of them and puts a new constant before
each. -/
theorem runOnOperation_adds_globalSmem_and_constants {ext : ExternalStages} {names : SSANames}
    {caps : AsyncCapabilities} {cc : Int} {target : Target} {axisInfo : AxisInfo} {m m' : ModuleOp}
    (h : runOnOperation ext names caps cc target axisInfo m = .ok m') :
    (target ≠ .genx → m'.globalSmemCount = m.globalSmemCount + 1) ∧
      (m.numCTAs = 1 → ∃ mid : ModuleOp, m' = mid.mapOps (·.flatMap (foldCTAId names.ctaIdZero)) ∧
        m'.ops.countP Op.isClusterCTAId = mid.ops.countP Op.isClusterCTAId ∧
        m'.ops.length = mid.ops.length + mid.ops.countP Op.isClusterCTAId) := by
  constructor
  · intro ht
    obtain ⟨added, hsym, -, hfresh, -⟩ := symbols_runOnOperation h
    rw [initSharedMemory_of_ne_genx ht, List.map_cons] at hsym hfresh
    have hadded : (added.map TopOp.symbol).countP (fun s => s = ("global_smem", true)) = 0 := by
      refine List.countP_eq_zero.mpr fun s hs e => ?_
      obtain ⟨t, ht, rfl⟩ := List.mem_map.mp hs
      exact hfresh t ht _ (List.mem_cons_self _ _) (congrArg Prod.fst (of_decide_eq_true e)).symm
    rw [ModuleOp.globalSmemCount, ModuleOp.globalSmemCount, countP_isGlobalSmem, countP_isGlobalSmem, hsym,
      List.countP_append, hadded, List.countP_cons_of_pos _ _ (by decide), Nat.zero_add]
  · intro hn
    obtain ⟨m1, m2, b1, b2, b3, h0, hc, -, -, -, rfl⟩ := runOnOperation_ok h
    have hn2 : m2.numCTAs = 1 := (congrArg ModuleOp.numCTAs (attrs_cleanupStage_decompose h0 hc)).trans hn
    rw [if_pos hn2, ModuleOp.ops_mapOps_flatMap]
    exact ⟨_, rfl, foldCTAId_counts _ _⟩

/-- The empty module on NVVM, and a kernel of one CTA on GENX whose body holds
a cluster CTA id. -/
theorem runOnOperation_adds_globalSmem_and_constants_empty :
    (∃ m', runOnOperation ⟨id, List.Sublist.refl, fun _ _ h => .inl h, fun op => .ok ([op], [])⟩ ⟨fun _ => 0, id⟩
        .sm80 80 .nvvm ⟨fun _ => 1, fun _ => 1⟩ ⟨4, 1, 32, none, []⟩ = .ok m' ∧
      m'.globalSmemCount = (⟨4, 1, 32, none, []⟩ : ModuleOp).globalSmemCount + 1) ∧
    ∃ m', runOnOperation ⟨id, List.Sublist.refl, fun _ _ h => .inl h, fun op => .ok ([op], [])⟩ ⟨fun _ => 0, id⟩
        .sm80 80 .genx ⟨fun _ => 1, fun _ => 1⟩
        ⟨4, 1, 32, none, [.func ⟨"k", true, [], [], .empty, some [], [], [.clusterCTAId ⟨0, .int 32⟩,
          .ret ⟨[], .empty⟩]⟩]⟩ = .ok m' ∧
      ∃ mid : ModuleOp, m' = mid.mapOps (·.flatMap (foldCTAId id)) ∧
        m'.ops.countP Op.isClusterCTAId = mid.ops.countP Op.isClusterCTAId ∧
        m'.ops.length = mid.ops.length + mid.ops.countP Op.isClusterCTAId := by
  obtain ⟨m1, h1⟩ : ∃ m', runOnOperation ⟨id, List.Sublist.refl, fun _ _ h => .inl h, fun op => .ok ([op], [])⟩
      ⟨fun _ => 0, id⟩ .sm80 80 .nvvm ⟨fun _ => 1, fun _ => 1⟩ ⟨4, 1, 32, none, []⟩ = .ok m' := ⟨_, rfl⟩
  obtain ⟨m2, h2⟩ : ∃ m', runOnOperation ⟨id, List.Sublist.refl, fun _ _ h => .inl h, fun op => .ok ([op], [])⟩
      ⟨fun _ => 0, id⟩ .sm80 80 .genx ⟨fun _ => 1, fun _ => 1⟩
      ⟨4, 1, 32, none, [.func ⟨"k", true, [], [], .empty, some [], [], [.clusterCTAId ⟨0, .int 32⟩,
        .ret ⟨[], .empty⟩]⟩]⟩ = .ok m' := ⟨_, rfl⟩
  exact ⟨⟨m1, h1, (runOnOperation_adds_globalSmem_and_constants h1).1 (by decide)⟩,
    m2, h2, (runOnOperation_adds_globalSmem_and_constants h2).2 rfl⟩

/-- Run twice, with no barriers and main patterns that keep every operation,
the pass does not leave the output of its first run unchanged: on NVVM the
empty module gains a second `global_smem`, and on GENX a kernel of one CTA
holding a cluster CTA id gains a second constant. -/
theorem runOnOperation_twice_changes_module :
    (∃ m1 m2,
      runOnOperation ⟨id, List.Sublist.refl, fun _ _ h => .inl h, fun op => .ok ([op], [])⟩ ⟨fun _ => 0, id⟩
        .sm80 80 .nvvm ⟨fun _ => 1, fun _ => 1⟩ ⟨4, 1, 32, none, []⟩ = .ok m1 ∧
      runOnOperation ⟨id, List.Sublist.refl, fun _ _ h => .inl h, fun op => .ok ([op], [])⟩ ⟨fun _ => 0, id⟩
        .sm80 80 .nvvm ⟨fun _ => 1, fun _ => 1⟩ m1 = .ok m2 ∧
      m2 ≠ m1) ∧
    ∃ m1 m2,
      runOnOperation ⟨id, List.Sublist.refl, fun _ _ h => .inl h, fun op => .ok ([op], [])⟩ ⟨fun _ => 0, id⟩
        .sm80 80 .genx ⟨fun _ => 1, fun _ => 1⟩
        ⟨4, 1, 32, none, [.func ⟨"k", true, [], [], .empty, some [], [], [.clusterCTAId ⟨0, .int 32⟩,
          .ret ⟨[], .empty⟩]⟩]⟩ = .ok m1 ∧
      runOnOperation ⟨id, List.Sublist.refl, fun _ _ h => .inl h, fun op => .ok ([op], [])⟩ ⟨fun _ => 0, id⟩
        .sm80 80 .genx ⟨fun _ => 1, fun _ => 1⟩ m1 = .ok m2 ∧
      m2 ≠ m1 :=
  ⟨⟨_, _, rfl, rfl, fun h => absurd (congrArg ModuleOp.globalSmemCount h) (by decide)⟩,
    ⟨_, _, rfl, rfl, fun h => absurd (congrArg (fun m : ModuleOp => m.ops.length) h) (by decide)⟩⟩

/-! ## Device functions: argument attributes and the rollback -/

/-- A device function none of whose arguments has attributes carries no
`arg_attrs`: `amendFuncOp` reads through the null `ArrayAttr`, and the run
stops in the function stage whenever the decomposition and the cleanup before
it end. -/
theorem runOnOperation_crashes_without_argAttrs {ext : ExternalStages} {names : SSANames}
    {caps : AsyncCapabilities} {cc : Int} {target : Target} {axisInfo : AxisInfo} {m m1 m2 : ModuleOp}
    {c : Bool} {f : FuncOp} (h0 : decomposeInsertSliceAsyncOp caps cc target axisInfo m = .ok m1)
    (hc : cleanupStage (m1.mapOps ext.membar) = some (c, m2))
    (hf : TopOp.func f ∈ m.body) (hk : f.isPublic = false) (hn : f.argAttrs = none) :
    runOnOperation ext names caps cc target axisInfo m =
      .error (.crash "llvm::to_vector on the null ArrayAttr of getAllArgAttrs()") := by
  obtain ⟨ops, hf1⟩ := exists_func_of_headers ((headers_cleanupStage hc).trans (headers_decompose_membar h0)) hf
  refine runOnOperation_funcStage_error h0 hc
    (bind_eq_error.mpr (.inl (mapM_eq_error (fun t _ => ?_) ⟨_, hf1, ?_⟩)))
  · cases ht : funcStageOp (wrapInt32 (m.numWarps * m.numWarpGroupsPerCTA.getD 1)) m2.threadsPerWarp target
      names.spArg t with
    | error e => exact .inl (by rw [funcStageOp_error_eq ht])
    | ok t' => exact .inr ⟨t', rfl⟩
  · simp [funcStageOp, @funcOpConversion_of_argAttrs_none _ _ _ _ { f with body := ops } _ hk hn, applyPattern]

/-- `tt.func @f(%arg0: i32)` with no argument attributes, on NVVM. -/
theorem runOnOperation_crashes_without_argAttrs_i32 :
    (∃ m1, decomposeInsertSliceAsyncOp .sm80 80 .nvvm ⟨fun _ => 1, fun _ => 1⟩
        ⟨4, 1, 32, none, [.func ⟨"f", false, [.int 32], [], .empty, none, [⟨0, .int 32⟩], [.ret ⟨[], .empty⟩]⟩]⟩ =
          .ok m1) ∧
      runOnOperation ⟨id, List.Sublist.refl, fun _ _ h => .inl h, fun op => .ok ([op], [])⟩ ⟨fun _ => 0, id⟩
        .sm80 80 .nvvm ⟨fun _ => 1, fun _ => 1⟩
        ⟨4, 1, 32, none, [.func ⟨"f", false, [.int 32], [], .empty, none, [⟨0, .int 32⟩], [.ret ⟨[], .empty⟩]⟩]⟩ =
        .error (.crash "llvm::to_vector on the null ArrayAttr of getAllArgAttrs()") :=
  ⟨⟨_, rfl⟩, runOnOperation_crashes_without_argAttrs rfl rfl (List.mem_singleton_self _) rfl rfl⟩

/-- When `FuncOpConversion` gives up on a device function, the function stage
keeps the function with the shared-memory pointer added to its entry block but
not to its type: the driver's rollback does not undo `region.addArgument`. -/
theorem funcStage_keeps_spArg_of_matchFailure {numWarps threadsPerWarp : Int} {target : Target}
    {spArg : FuncOp → Nat} {body b : List TopOp} {f : FuncOp} {reason : String}
    (h : funcStage numWarps threadsPerWarp target spArg body = .ok b) (hf : TopOp.func f ∈ body)
    (hk : f.isPublic = false)
    (hfail : (funcOpConversion funcStageOptions numWarps threadsPerWarp target f (spArg f)).result =
      .error (.matchFailure reason)) :
    TopOp.func { f with args := f.args ++ [⟨spArg f, .llvmPtr 3⟩] } ∈ b := by
  obtain ⟨t, ht, hft⟩ := forall₂_exists_of_mem (funcStage_ok.mp h) hf
  simp only [funcStageOp, hfail, applyPattern, funcOpConversion_residual_of_matchFailure hfail hk,
    Except.ok.injEq] at hft
  exact hft ▸ ht

/-- `tt.func @f(%arg0: none)`, whose parameter has no LLVM type, with argument
attributes `[{}]`. -/
theorem funcStage_keeps_spArg_none_param :
    ∃ b, funcStage 4 32 .nvvm (fun _ => 1)
        [.func ⟨"f", false, [.noneType], [], .empty, some [.empty], [⟨0, .noneType⟩], [.ret ⟨[], .empty⟩]⟩] =
          .ok b ∧
      (funcOpConversion funcStageOptions 4 32 .nvvm
        ⟨"f", false, [.noneType], [], .empty, some [.empty], [⟨0, .noneType⟩], [.ret ⟨[], .empty⟩]⟩ 1).result =
          .error (.matchFailure "convertFuncOpToLLVMFuncOp") ∧
      TopOp.func ⟨"f", false, [.noneType], [], .empty, some [.empty], [⟨0, .noneType⟩, ⟨1, .llvmPtr 3⟩],
        [.ret ⟨[], .empty⟩]⟩ ∈ b :=
  ⟨_, rfl, rfl, @funcStage_keeps_spArg_of_matchFailure 4 32 .nvvm (fun _ => 1)
    [.func ⟨"f", false, [.noneType], [], .empty, some [.empty], [⟨0, .noneType⟩], [.ret ⟨[], .empty⟩]⟩] _
    ⟨"f", false, [.noneType], [], .empty, some [.empty], [⟨0, .noneType⟩], [.ret ⟨[], .empty⟩]⟩ _ rfl
    (List.mem_singleton_self _) rfl rfl⟩

/-! ## The thread counts of the lowered functions -/

/-- Every `tt.func` of a module a run lowers becomes an `llvm.func` of the same
name whose thread count is `32 * numWarps` on NVVM and ROCDL and
`threadsPerWarp * numWarps` on GENX, where `numWarps` is the module's warp
count times its warp groups per CTA; each product is truncated to a C++ `int`. -/
theorem runOnOperation_thread_counts {ext : ExternalStages} {names : SSANames} {caps : AsyncCapabilities}
    {cc : Int} {target : Target} {axisInfo : AxisInfo} {m m' : ModuleOp}
    (h : runOnOperation ext names caps cc target axisInfo m = .ok m') {f : FuncOp} (hf : TopOp.func f ∈ m.body) :
    ∃ g, TopOp.llvmFunc g ∈ m'.body ∧ g.name = f.name ∧
      (target ≠ .genx → g.attrs.get "nvvm.maxntid" =
        some (.denseI32Array [wrapInt32 (32 * (m.numWarps * m.numWarpGroupsPerCTA.getD 1))])) ∧
      (target = .genx → g.attrs.get "genx.max_work_group_size" =
        some (.i32Array [wrapInt32 (m.threadsPerWarp * (m.numWarps * m.numWarpGroupsPerCTA.getD 1)), 1, 1])) := by
  obtain ⟨m2, b1, added, hm2, htpw, h1, hh, -⟩ := headers_runOnOperation h
  obtain ⟨ops, hf1⟩ := exists_func_of_headers hm2 hf
  obtain ⟨t1, ht1, hft1⟩ := forall₂_exists_of_mem (funcStage_ok.mp h1) hf1
  rcases applyPattern_ok hft1 with ⟨g, hg, rfl⟩ | ⟨_, -, rfl⟩
  · obtain ⟨ops', hg'⟩ := exists_llvmFunc_of_headers hh (List.mem_append_right _ (mem_initSharedMemory ht1))
    obtain ⟨hn, -, -, -, ⟨attrs, ha⟩, -⟩ := funcOpConversion_ok hg
    refine ⟨_, hg', hn, fun ht => ?_, fun ht => ?_⟩
    · simp [ha, get_maxntid_targetFuncAttrs _ _ _ _ ht, wrapInt32_mul_wrapInt32]
    · subst ht
      simp [ha, get_maxWorkGroupSize_targetFuncAttrs, wrapInt32_mul_wrapInt32, htpw]
  · obtain ⟨_, hr⟩ := exists_func_of_headers hh (List.mem_append_right _ (mem_initSharedMemory ht1))
    exact ((legal_runOnOperation h) _ hr).1 (by cases target <;> rfl) |>.elim

/-- A kernel on ROCDL with 64 threads per warp and 4 warps: it gets
`nvvm.maxntid = 128`, not the 256 threads of its 4 warps. -/
theorem runOnOperation_thread_counts_rocdl :
    ∃ m', runOnOperation ⟨id, List.Sublist.refl, fun _ _ h => .inl h, fun op => .ok ([op], [])⟩ ⟨fun _ => 0, id⟩
        .sm80 80 .rocdl ⟨fun _ => 1, fun _ => 1⟩
        ⟨4, 1, 64, none, [.func ⟨"k", true, [], [], .empty, some [], [], [.ret ⟨[], .empty⟩]⟩]⟩ = .ok m' ∧
      ∃ g, TopOp.llvmFunc g ∈ m'.body ∧ g.name = "k" ∧ g.attrs.get "nvvm.maxntid" = some (.denseI32Array [128]) := by
  obtain ⟨m', hm'⟩ : ∃ m', runOnOperation ⟨id, List.Sublist.refl, fun _ _ h => .inl h, fun op => .ok ([op], [])⟩
      ⟨fun _ => 0, id⟩ .sm80 80 .rocdl ⟨fun _ => 1, fun _ => 1⟩
      ⟨4, 1, 64, none, [.func ⟨"k", true, [], [], .empty, some [], [], [.ret ⟨[], .empty⟩]⟩]⟩ = .ok m' := ⟨_, rfl⟩
  obtain ⟨g, hg, hn, hmax, -⟩ := runOnOperation_thread_counts hm' (List.mem_singleton_self _)
  exact ⟨m', hm', g, hg, hn, hmax (by decide)⟩

end TritonGPUToLLVM
