import TritonGPUToLLVM.Decompose
import TritonGPUToLLVM.Cleanup

/-!
# `ConvertTritonGPUToLLVM::runOnOperation`

The pass runs its stages in order: the decomposition of `insert_slice_async`,
the barriers of the allocation analysis, the cleanup of the masks of
`insert_slice_tma`, the function stage, the shared-memory global, the
call/return stage, the main conversion and the folding of the cluster CTA id.
A failed cleanup signals failure and lets the later stages run. Each `applyPartialConversion` keeps every operation its
patterns leave alone and fails only on an operation its target declares
illegal; a pattern that reads through a null handle stops the process.

`unconverted_func_crashes_return_conversion` says that a function the
function stage cannot convert reaches the call/return stage, which crashes on
its `tt.return`.
-/

namespace TritonGPUToLLVM

/-! ## The conversion driver -/

inductive PassFailure where
  | signalPassFailure (stage : String)
  | crash (what : String)
  /-- a rewrite loop that does not end -/
  | nonTermination (stage : String)
  deriving DecidableEq, Repr

def PassFailure.ofPatternError : PatternError → PassFailure
  | .matchFailure reason => .signalPassFailure reason
  | .crash what => .crash what

/-- What the driver makes of one pattern's outcome: the replacement, the
operation itself when the pattern does not match, the end of the process on
a crash. -/
def applyPattern {α β : Type} (orig : β) (wrap : α → β) : Except PatternError α → Except PassFailure β
  | .ok r => .ok (wrap r)
  | .error (.matchFailure _) => .ok orig
  | .error (.crash what) => .error (.crash what)

def TopOp.dialect : TopOp → Dialect
  | .func _ => .triton
  | .llvmFunc _ | .global _ => .llvm

/-- The end of `applyPartialConversion`: it fails when an operation the target
declares illegal is left. -/
def legalize (target : ConversionTarget) (body : List TopOp) : Except PassFailure (List TopOp) :=
  if body.all fun t =>
      target.legality t.dialect != .illegal && t.ops.all fun op => target.legality op.dialect != .illegal
  then .ok body
  else .error (.signalPassFailure "applyPartialConversion")

theorem applyPattern_ok {α β : Type} {orig b : β} {wrap : α → β} {r : Except PatternError α}
    (h : applyPattern orig wrap r = .ok b) :
    (∃ a, r = .ok a ∧ b = wrap a) ∨ (∃ reason, r = .error (.matchFailure reason) ∧ b = orig) := by
  match r, h with
  | .ok a, h => cases h; exact .inl ⟨a, rfl, rfl⟩
  | .error (.matchFailure reason), h => cases h; exact .inr ⟨reason, rfl, rfl⟩

theorem legalize_functionConversionTarget (target : Target) (body : List TopOp) :
    legalize (functionConversionTarget target) body = .ok body := by
  simp [legalize, functionConversionTarget_legality_ne_illegal]

theorem mapM_ok_iff {α β ε : Type} {f : α → Except ε β} {xs : List α} {ys : List β} :
    xs.mapM f = .ok ys ↔ List.Forall₂ (fun x y => f x = .ok y) xs ys := by
  induction xs generalizing ys with
  | nil => cases ys <;> simp only [List.mapM_nil, pure, Except.pure, Except.ok.injEq] <;> simp
  | cons x xs ih =>
    rw [List.mapM_cons]
    cases ys with
    | nil => cases f x <;> cases xs.mapM f <;> simp [bind, Except.bind, pure, Except.pure]
    | cons y ys =>
      rw [List.forall₂_cons, ← ih]
      cases f x <;> cases xs.mapM f <;> simp [bind, Except.bind, pure, Except.pure]

theorem mapM_eq_error {α β ε : Type} {f : α → Except ε β} {e : ε} {xs : List α}
    (hall : ∀ x ∈ xs, f x = .error e ∨ ∃ y, f x = .ok y) (hx : ∃ x ∈ xs, f x = .error e) :
    xs.mapM f = .error e := by
  induction xs with
  | nil => simp at hx
  | cons x xs ih =>
    rw [List.mapM_cons]
    rcases hall x (List.mem_cons_self _ _) with h | ⟨y, h⟩
    · simp only [bind, Except.bind, h]
    · have hx' : ∃ x ∈ xs, f x = .error e := by
        obtain ⟨x', hx', he⟩ := hx
        rcases List.mem_cons.mp hx' with rfl | hx'
        · rw [h] at he; cases he
        · exact ⟨x', hx', he⟩
      simp only [bind, Except.bind, h, ih (fun x hx => hall x (List.mem_cons_of_mem _ hx)) hx']

theorem forall₂_exists_of_mem {α β : Type} {R : α → β → Prop} {l : List α} {l' : List β}
    (h : List.Forall₂ R l l') {a : α} (ha : a ∈ l) : ∃ b ∈ l', R a b := by
  induction h with
  | nil => cases ha
  | cons hab _ ih =>
    rcases List.mem_cons.mp ha with rfl | ha
    · exact ⟨_, List.mem_cons_self _ _, hab⟩
    · obtain ⟨b, hb, hr⟩ := ih ha
      exact ⟨b, List.mem_cons_of_mem _ hb, hr⟩

theorem forall₂_exists_of_mem_right {α β : Type} {R : α → β → Prop} {l : List α} {l' : List β}
    (h : List.Forall₂ R l l') {b : β} (hb : b ∈ l') : ∃ a ∈ l, R a b := by
  induction h with
  | nil => cases hb
  | cons hab _ ih =>
    rcases List.mem_cons.mp hb with rfl | hb
    · exact ⟨_, List.mem_cons_self _ _, hab⟩
    · obtain ⟨a, ha, hr⟩ := ih hb
      exact ⟨a, List.mem_cons_of_mem _ ha, hr⟩

/-! ## The stages -/

/-- The analyses and pattern sets the pass takes from other files. -/
structure ExternalStages where
  /-- `ModuleMembarAnalysis::run` over the allocation of `ModuleAllocation`:
  barriers inserted into a function body, which keeps every operation. -/
  membar : List Op → List Op
  membar_keeps : ∀ ops : List Op, ops.Sublist (membar ops)
  membar_inserts : ∀ ops : List Op, ∀ op ∈ membar ops, op ∈ ops ∨ op = .generic .gpu "gpu.barrier"
  /-- The patterns of the main conversion: the replacement of an operation, and
  the declarations and globals the pattern creates at the start of the module
  (those the lowering of `tt.print` and `tt.assert` calls and reads). -/
  mainPattern : Op → Except PatternError (List Op × List TopOp)

/-- The SSA values the builders create: the block argument `amendFuncOp` adds,
and the constant `0` that replaces a cluster CTA id. -/
structure SSANames where
  spArg : FuncOp → Nat
  ctaIdZero : Value → Value

/-- `FuncOpConversion` on a top-level operation. -/
def funcStageOp (numWarps threadsPerWarp : Int) (target : Target) (spArg : FuncOp → Nat) :
    TopOp → Except PassFailure TopOp
  | .func f =>
    let r := funcOpConversion funcStageOptions numWarps threadsPerWarp target f (spArg f)
    applyPattern (.func r.residual) .llvmFunc r.result
  | t => .ok t

def funcStage (numWarps threadsPerWarp : Int) (target : Target) (spArg : FuncOp → Nat)
    (body : List TopOp) : Except PassFailure (List TopOp) :=
  (body.mapM (funcStageOp numWarps threadsPerWarp target spArg)).bind (legalize (functionConversionTarget target))

/-- The global `initSharedMemory` creates: an external `[0 x i8]` in address
space 3, aligned to 16 bytes. -/
def globalSmem : GlobalOp := ⟨"global_smem", .llvmArray (.int 8) 0, false, .external, 16, 3⟩

def initSharedMemory (target : Target) (body : List TopOp) : List TopOp :=
  match target with
  | .nvvm | .rocdl => .global globalSmem :: body
  | .genx => body

/-- The operands a pattern's adaptor holds: each operand with its converted
type; `none` when a type does not convert and the driver does not call the
pattern. -/
def adaptorOperands (o : LowerToLLVMOptions) (vs : List Value) : Option (List Value) :=
  (convertTypes o (vs.map Value.ty)).map fun ts => (vs.zip ts).map fun vt => ⟨vt.1.id, vt.2⟩

def FuncOp.toCaller (f : FuncOp) : Caller := ⟨f.isPublic, f.attrs, f.args⟩

/-- `ReturnOpConversion` and `CallOpConversion` on one operation of a function
body; `funcOp` is the enclosing `llvm.func`, if any. -/
def callReturnOp (funcOp : Option LLVMFuncOp) (caller : Caller) : Op → Except PassFailure Op
  | .ret op =>
    match adaptorOperands callStageOptions op.operands with
    | some vs => applyPattern (.ret op) .llvmRet (returnOpConversion callStageOptions funcOp op vs)
    | none => .ok (.ret op)
  | .call op =>
    match adaptorOperands callStageOptions op.operands with
    | some vs => applyPattern (.call op) (fun r => .llvmCall r.1) (callOpConversion callStageOptions caller op vs)
    | none => .ok (.call op)
  | op => .ok op

def callReturnTop : TopOp → Except PassFailure TopOp
  | .func f => (f.body.mapM (callReturnOp none f.toCaller)).map fun body => .func { f with body }
  | .llvmFunc f => (f.body.mapM (callReturnOp (some f) f.toCaller)).map fun body => .llvmFunc { f with body }
  | .global g => .ok (.global g)

def callReturnStage (target : Target) (body : List TopOp) : Except PassFailure (List TopOp) :=
  (body.mapM callReturnTop).bind (legalize (functionConversionTarget target))

def TopOp.symbol : TopOp → String × Bool
  | .func f => (f.name, false)
  | .llvmFunc f => (f.name, false)
  | .global g => (g.name, true)

/-- `lookupSymbol` before a builder at the start of the module: a pattern
creates a declaration or a global only when no symbol of its name is there. -/
def insertSymbol (body : List TopOp) (t : TopOp) : List TopOp :=
  if body.any fun t' => t'.symbol.1 == t.symbol.1 then body else t :: body

/-- The main conversion of one top-level operation: the replacements of the
operations of its body, and the top-level operations their patterns create. -/
def mainStageOp (ext : ExternalStages) (t : TopOp) : Except PassFailure (TopOp × List TopOp) :=
  (t.ops.mapM fun op => applyPattern ([op], []) id (ext.mainPattern op)).map fun rs =>
    (t.mapOps fun _ => (rs.map Prod.fst).flatten, (rs.map Prod.snd).flatten)

/-- The main conversion. Each created operation goes to the start of the
module, so the last created stands first. -/
def mainStage (ext : ExternalStages) (target : Target) (body : List TopOp) :
    Except PassFailure (List TopOp) :=
  (body.mapM (mainStageOp ext)).bind fun cs =>
    legalize (llvmConversionTarget target) (List.foldl insertSymbol (cs.map Prod.fst) (cs.map Prod.snd).flatten)

/-- The folding of a cluster CTA id: a constant `0` before it takes its uses. -/
def foldCTAId (zero : Value → Value) : Op → List Op
  | .clusterCTAId r => [.constantI32 (zero r) 0, .clusterCTAId r]
  | op => [op]

def runOnOperation (ext : ExternalStages) (names : SSANames) (caps : AsyncCapabilities)
    (computeCapability : Int) (target : Target) (axisInfo : AxisInfo) (mod : ModuleOp) :
    Except PassFailure ModuleOp := do
  let numWarps := wrapInt32 (mod.numWarps * mod.numWarpGroupsPerCTA.getD 1)
  let mod ← (decomposeInsertSliceAsyncOp caps computeCapability target axisInfo mod).mapError
    PassFailure.ofPatternError
  let mod := mod.mapOps ext.membar
  let (cleanedUp, mod) ← (cleanupStage mod).elim (.error (.nonTermination "applyOpPatternsAndFold")) .ok
  let body ← funcStage numWarps mod.threadsPerWarp target names.spArg mod.body
  let body ← callReturnStage target (initSharedMemory target body)
  let body ← mainStage ext target body
  let mod := { mod with body }
  let mod := if mod.numCTAs = 1 then mod.mapOps (·.flatMap (foldCTAId names.ctaIdZero)) else mod
  if cleanedUp then pure mod else .error (.signalPassFailure "applyOpPatternsAndFold")

/-! ## Stage lemmas -/

theorem funcStage_ok {numWarps threadsPerWarp : Int} {target : Target} {spArg : FuncOp → Nat}
    {body b : List TopOp} :
    funcStage numWarps threadsPerWarp target spArg body = .ok b ↔
      List.Forall₂ (fun t t' => funcStageOp numWarps threadsPerWarp target spArg t = .ok t') body b := by
  rw [← mapM_ok_iff, funcStage]
  cases body.mapM (funcStageOp numWarps threadsPerWarp target spArg) <;>
    simp [Except.bind, legalize_functionConversionTarget]

theorem callReturnStage_ok {target : Target} {body b : List TopOp} :
    callReturnStage target body = .ok b ↔ List.Forall₂ (fun t t' => callReturnTop t = .ok t') body b := by
  rw [← mapM_ok_iff, callReturnStage]
  cases body.mapM callReturnTop <;> simp [Except.bind, legalize_functionConversionTarget]

theorem callReturnOp_ok {funcOp : Option LLVMFuncOp} {caller : Caller} {op op' : Op}
    (h : callReturnOp funcOp caller op = .ok op') :
    op' = op ∨
      (∃ r ws ret, op = .ret r ∧ adaptorOperands callStageOptions r.operands = some ws ∧
        returnOpConversion callStageOptions funcOp r ws = .ok ret ∧ op' = .llvmRet ret) ∨
      (∃ c ws res, op = .call c ∧ adaptorOperands callStageOptions c.operands = some ws ∧
        callOpConversion callStageOptions caller c ws = .ok res ∧ op' = .llvmCall res.1) := by
  cases op with
  | ret r =>
    cases hws : adaptorOperands callStageOptions r.operands <;> simp only [callReturnOp, hws] at h
    · cases h; exact .inl rfl
    · rcases applyPattern_ok h with ⟨ret, hr, rfl⟩ | ⟨_, -, rfl⟩
      · exact .inr (.inl ⟨r, _, ret, rfl, hws, hr, rfl⟩)
      · exact .inl rfl
  | call c =>
    cases hws : adaptorOperands callStageOptions c.operands <;> simp only [callReturnOp, hws] at h
    · cases h; exact .inl rfl
    · rcases applyPattern_ok h with ⟨res, hr, rfl⟩ | ⟨_, -, rfl⟩
      · exact .inr (.inr ⟨c, _, res, rfl, hws, hr, rfl⟩)
      · exact .inl rfl
  | _ => cases h; exact .inl rfl

theorem callReturnTop_llvmFunc {g : LLVMFuncOp} {t : TopOp} (h : callReturnTop (.llvmFunc g) = .ok t) :
    ∃ body, t = .llvmFunc { g with body } ∧
      List.Forall₂ (fun op op' => callReturnOp (some g) g.toCaller op = .ok op') g.body body := by
  obtain ⟨body, hb, rfl⟩ := map_eq_ok.mp h
  exact ⟨body, rfl, mapM_ok_iff.mp hb⟩

theorem mem_initSharedMemory {target : Target} {body : List TopOp} {t : TopOp} (ht : t ∈ body) :
    t ∈ initSharedMemory target body := by
  cases target <;> simp [initSharedMemory, ht]

theorem legalize_ok {target : ConversionTarget} {body b : List TopOp} (h : legalize target body = .ok b) : b = body := by
  unfold legalize at h
  split at h <;> cases h
  rfl

theorem funcOpConversion_residual_name (o : LowerToLLVMOptions) (numWarps threadsPerWarp : Int) (target : Target)
    (f : FuncOp) (spId : Nat) : (funcOpConversion o numWarps threadsPerWarp target f spId).residual.name = f.name := by
  simp only [funcOpConversion]
  split
  · rfl
  · split <;> split_ifs <;> rfl

theorem funcOpConversion_residual_body (o : LowerToLLVMOptions) (numWarps threadsPerWarp : Int) (target : Target)
    (f : FuncOp) (spId : Nat) : (funcOpConversion o numWarps threadsPerWarp target f spId).residual.body = f.body := by
  simp only [funcOpConversion]
  split
  · rfl
  · split <;> split_ifs <;> rfl

theorem runOnOperation_ok {ext : ExternalStages} {names : SSANames} {caps : AsyncCapabilities}
    {cc : Int} {target : Target} {axisInfo : AxisInfo} {m m' : ModuleOp}
    (h : runOnOperation ext names caps cc target axisInfo m = .ok m') :
    ∃ m1 m2 b1 b2 b3, decomposeInsertSliceAsyncOp caps cc target axisInfo m = .ok m1 ∧
      cleanupStage (m1.mapOps ext.membar) = some (true, m2) ∧
      funcStage (wrapInt32 (m.numWarps * m.numWarpGroupsPerCTA.getD 1)) m2.threadsPerWarp target names.spArg
        m2.body = .ok b1 ∧
      callReturnStage target (initSharedMemory target b1) = .ok b2 ∧ mainStage ext target b2 = .ok b3 ∧
      m' = if m2.numCTAs = 1 then { m2 with body := b3 }.mapOps (·.flatMap (foldCTAId names.ctaIdZero))
        else { m2 with body := b3 } := by
  obtain ⟨m1, h0, h⟩ := bind_eq_ok.mp h
  obtain ⟨⟨c, m2⟩, hc, h⟩ := bind_eq_ok.mp h
  obtain ⟨b1, h1, h⟩ := bind_eq_ok.mp h
  obtain ⟨b2, h2, h⟩ := bind_eq_ok.mp h
  obtain ⟨b3, h3, h⟩ := bind_eq_ok.mp h
  have hc' : cleanupStage (m1.mapOps ext.membar) = some (c, m2) := by
    cases hcs : cleanupStage (m1.mapOps ext.membar) <;>
      simp only [hcs, Option.elim_none, Option.elim_some, Except.ok.injEq, reduceCtorEq] at hc
    exact congrArg some hc
  cases c
  · cases h
  · cases h
    exact ⟨m1, m2, b1, b2, b3, mapError_eq_ok.mp h0, hc', h1, h2, h3, rfl⟩

theorem runOnOperation_funcStage_error {ext : ExternalStages} {names : SSANames} {caps : AsyncCapabilities}
    {cc : Int} {target : Target} {axisInfo : AxisInfo} {m m1 m2 : ModuleOp} {c : Bool} {e : PassFailure}
    (h0 : decomposeInsertSliceAsyncOp caps cc target axisInfo m = .ok m1)
    (hc : cleanupStage (m1.mapOps ext.membar) = some (c, m2))
    (h1 : funcStage (wrapInt32 (m.numWarps * m.numWarpGroupsPerCTA.getD 1)) m2.threadsPerWarp target names.spArg
      m2.body = .error e) :
    runOnOperation ext names caps cc target axisInfo m = .error e := by
  simp only [runOnOperation, h0, hc, Except.mapError, bind, Except.bind, Option.elim_some, h1]

theorem runOnOperation_callReturnStage_error {ext : ExternalStages} {names : SSANames} {caps : AsyncCapabilities}
    {cc : Int} {target : Target} {axisInfo : AxisInfo} {m m1 m2 : ModuleOp} {c : Bool} {b1 : List TopOp}
    {e : PassFailure} (h0 : decomposeInsertSliceAsyncOp caps cc target axisInfo m = .ok m1)
    (hc : cleanupStage (m1.mapOps ext.membar) = some (c, m2))
    (h1 : funcStage (wrapInt32 (m.numWarps * m.numWarpGroupsPerCTA.getD 1)) m2.threadsPerWarp target names.spArg
      m2.body = .ok b1)
    (h2 : callReturnStage target (initSharedMemory target b1) = .error e) :
    runOnOperation ext names caps cc target axisInfo m = .error e := by
  simp only [runOnOperation, h0, hc, Except.mapError, bind, Except.bind, Option.elim_some, h1, h2]

theorem insertSlices_membar {ext : ExternalStages} {m : ModuleOp} (h : m.insertSlices = []) :
    (m.mapOps ext.membar).insertSlices = [] := by
  simp only [ModuleOp.insertSlices, List.filterMap_eq_nil_iff, ModuleOp.ops, ModuleOp.mapOps, List.flatMap_map,
    List.mem_flatMap, forall_exists_index, and_imp] at h ⊢
  intro op t ht hop
  have hbarrier : ∀ ops, op ∈ ext.membar ops → (∀ o ∈ ops, o.insertSliceTMA? = none) → op.insertSliceTMA? = none :=
    fun ops hop hops => (ext.membar_inserts ops op hop).elim (hops op) (by rintro rfl; rfl)
  cases t with
  | func f => exact hbarrier _ hop fun o ho => h o _ ht ho
  | llvmFunc f => exact hbarrier _ hop fun o ho => h o _ ht ho
  | global g => cases hop

/-! ## A function the function stage cannot convert -/

/-- A device function whose parameter has no LLVM type: the function stage
succeeds and leaves the `tt.func` in place, since its target declares nothing
illegal, and the call/return stage then runs `ReturnOpConversion` on a
`tt.return` with no enclosing `llvm.func`, whatever the other stages do. -/
theorem unconverted_func_crashes_return_conversion (ext : ExternalStages) (names : SSANames)
    (caps : AsyncCapabilities) (cc : Int) (axisInfo : AxisInfo) :
    (∃ body, funcStage 4 32 .nvvm names.spArg
        [.func ⟨"f", false, [.noneType], [], .empty, some [.empty], [⟨0, .noneType⟩], [.ret ⟨[], .empty⟩]⟩] =
          .ok body ∧ ∃ f, TopOp.func f ∈ body) ∧
      runOnOperation ext names caps cc .nvvm axisInfo
        ⟨4, 1, 32, none,
          [.func ⟨"f", false, [.noneType], [], .empty, some [.empty], [⟨0, .noneType⟩], [.ret ⟨[], .empty⟩]⟩]⟩ =
        .error (.crash "funcOp->hasAttr on a null LLVMFuncOp") := by
  refine ⟨⟨_, rfl, _, List.mem_singleton_self _⟩, runOnOperation_callReturnStage_error rfl
    (cleanupStage_of_insertSlices_nil (insertSlices_membar rfl)) (funcStage_ok.mpr (.cons rfl .nil)) ?_⟩
  have hcrash : ∀ caller, (ext.membar [.ret ⟨[], .empty⟩]).mapM (callReturnOp none caller) =
      .error (.crash "funcOp->hasAttr on a null LLVMFuncOp") := fun caller =>
    mapM_eq_error (fun op hop => by
        rcases ext.membar_inserts _ op hop with h | rfl
        · rw [List.mem_singleton.mp h]; exact .inl rfl
        · exact .inr ⟨_, rfl⟩)
      ⟨_, (ext.membar_keeps _).subset (List.mem_singleton_self _), rfl⟩
  simp only [callReturnStage, initSharedMemory, List.mapM_cons, callReturnTop, funcOpConversion_residual_body, hcrash]
  rfl

end TritonGPUToLLVM
