import TritonGPUToLLVM.SharedMemoryArgument

/-!
# What the function and call/return stages guarantee

Progress: a pattern that crashes stops the process; a pattern that fails to
match leaves its operation to the driver, and neither stage's target declares
anything illegal. `function_stages_succeed`: on a Triton module ready for them
(`StagesReady`: well-formed calls, device functions carrying `arg_attrs`,
returns of their function's result types and, on NVVM and ROCDL, an integer
`allocation.offset` on every call in a function carrying one), the function
stage and the call/return stage both succeed. Each condition rules out one
crash.

Return types: `returnTypes_stages`, after both stages every `llvm.return` of a
lowered function returns exactly the function's LLVM result type, as the LLVM
verifier requires.
-/

namespace TritonGPUToLLVM

/-! ## Patterns that do not crash -/

theorem applyPattern_ok_of_ne_crash {α β : Type} {orig : β} {wrap : α → β} {r : Except PatternError α}
    (h : ∀ what, r ≠ .error (.crash what)) : ∃ b, applyPattern orig wrap r = .ok b := by
  match r, h with
  | .ok _, _ => exact ⟨_, rfl⟩
  | .error (.matchFailure _), _ => exact ⟨_, rfl⟩
  | .error (.crash what), h => exact absurd rfl (h what)

theorem mapM_ok_of_forall {α β ε : Type} {f : α → Except ε β} :
    ∀ {xs : List α}, (∀ x ∈ xs, ∃ y, f x = .ok y) → ∃ ys, xs.mapM f = .ok ys
  | [], _ => ⟨[], rfl⟩
  | x :: _, h => by
    obtain ⟨y, hy⟩ := h x (List.mem_cons_self _ _)
    obtain ⟨ys, hys⟩ := mapM_ok_of_forall fun x' hx' => h x' (List.mem_cons_of_mem _ hx')
    exact ⟨y :: ys, mapM_ok_iff.mpr (.cons hy (mapM_ok_iff.mp hys))⟩

theorem funcOpConversion_ne_crash {o : LowerToLLVMOptions} {numWarps threadsPerWarp : Int} {target : Target}
    {f : FuncOp} {spId : Nat} (h : f.isPublic = false → f.argAttrs.isSome) (what : String) :
    (funcOpConversion o numWarps threadsPerWarp target f spId).result ≠ .error (.crash what) := by
  simp only [funcOpConversion]
  split
  · rename_i e he
    split_ifs at he with hk
    obtain ⟨a, ha⟩ := Option.isSome_iff_exists.mp (h (by simpa using hk))
    simp [amendFuncOp, ha] at he
  · split <;> simp

theorem returnOpConversion_ne_crash {o : LowerToLLVMOptions} {g : LLVMFuncOp} {op : ReturnOp} {vs : List Value}
    (h : 2 ≤ vs.length → (packFunctionResults o g.resultTypes).isSome) (what : String) :
    returnOpConversion o (some g) op vs ≠ .error (.crash what) := by
  simp only [returnOpConversion]
  split_ifs with _ _ hlt <;> try simp
  obtain ⟨t, ht⟩ := Option.isSome_iff_exists.mp (h (by omega))
  simp [ht]

theorem callOpConversion_ne_crash {o : LowerToLLVMOptions} {caller : Caller} {callOp : CallOp} {ws : List Value}
    {base : LValue} (hsp : getStackPointer caller = .ok base)
    (hoff : caller.attrs.hasAttr "allocation.offset" →
      ∃ w off, callOp.attrs.get "allocation.offset" = some (.integer w off))
    (what : String) : callOpConversion o caller callOp ws ≠ .error (.crash what) := by
  have hp : ∃ ps, promoteOperands caller callOp ws = .ok ps := by
    unfold promoteOperands
    split
    · exact ⟨_, by rw [hsp]; rfl⟩
    · rename_i hyes
      obtain ⟨w, off, ho⟩ := hoff (by simpa using hyes)
      exact ⟨_, by rw [getSharedMemoryBase, hsp]; simp only [Except.bind, ho]; rfl⟩
  obtain ⟨ps, hps⟩ := hp
  simp only [callOpConversion, hps, Except.bind]
  split <;> simp

/-! ## The stages succeed -/

theorem packFunctionResults_toList {o o' : LowerToLLVMOptions} {rs : List Ty} {res : Option Ty}
    (h : convertResultTypes o rs = some res) (h2 : 2 ≤ rs.length) : (packFunctionResults o' res.toList).isSome := by
  match rs, h2 with
  | _ :: _ :: _, _ =>
    simp only [convertResultTypes, Option.map_eq_some'] at h
    obtain ⟨t, ht, rfl⟩ := h
    simp [packFunctionResults, packFunctionResults_converted o o' ht]

theorem callReturnOp_ok_of_funcOpConversion {numWarps threadsPerWarp : Int} {target : Target} {f : FuncOp}
    {spId : Nat} {g : LLVMFuncOp} {ps : List Ty}
    (hg : (funcOpConversion funcStageOptions numWarps threadsPerWarp target f spId).result = .ok g)
    (hps : convertTypes funcStageOptions f.inputs = some ps) (hlen : f.args.length = f.inputs.length)
    (hret : ∀ r, Op.ret r ∈ f.body → r.operands.map Value.ty = f.results)
    (hoff : target ≠ .genx → f.attrs.hasAttr "allocation.offset" →
      ∀ c, Op.call c ∈ f.body → ∃ w off, c.attrs.get "allocation.offset" = some (.integer w off))
    {op : Op} (hop : op ∈ f.body) : ∃ op', callReturnOp (some g) g.toCaller op = .ok op' := by
  cases op with
  | ret r =>
    simp only [callReturnOp]
    cases hvs : adaptorOperands callStageOptions r.operands with
    | none => exact ⟨_, rfl⟩
    | some vs =>
      refine applyPattern_ok_of_ne_crash (returnOpConversion_ne_crash fun h2 => ?_)
      have hlen' : vs.length = f.results.length := by
        rw [← hret r hop, ← List.length_map vs Value.ty, convertTypes_length (adaptorOperands_ty hvs)]
      exact packFunctionResults_toList (funcOpConversion_ok hg).2.2.2.1 (hlen' ▸ h2)
  | call c =>
    simp only [callReturnOp]
    cases adaptorOperands callStageOptions c.operands with
    | none => exact ⟨_, rfl⟩
    | some vs =>
      refine applyPattern_ok_of_ne_crash (callOpConversion_ne_crash (getStackPointer_funcOpConversion hg hps hlen)
        fun hhas => ?_)
      have hga := get_allocationOffset_funcOpConversion hg
      by_cases ht : target = .genx
      · simp [LLVMFuncOp.toCaller, DictionaryAttr.hasAttr, hga, ht] at hhas
      · exact hoff ht (by simpa [LLVMFuncOp.toCaller, DictionaryAttr.hasAttr, hga, ht] using hhas) c hop
  | _ => exact ⟨_, rfl⟩

/-- What the function stages need of a Triton module beyond `WellFormedCalls`:
no `llvm.func` yet, device functions carrying `arg_attrs`, every `tt.return`
returning its function's result types, and on NVVM and ROCDL an integer
`allocation.offset` on every call in a function carrying one. -/
structure StagesReady (target : Target) (body : List TopOp) : Prop where
  wf : WellFormedCalls body
  no_llvmFunc : ∀ g, TopOp.llvmFunc g ∉ body
  argAttrs : ∀ f, TopOp.func f ∈ body → f.isPublic = false → f.argAttrs.isSome
  returns : ∀ f, TopOp.func f ∈ body → ∀ r, Op.ret r ∈ f.body → r.operands.map Value.ty = f.results
  offsets : target ≠ .genx → ∀ f, TopOp.func f ∈ body → f.attrs.hasAttr "allocation.offset" →
    ∀ c, Op.call c ∈ f.body → ∃ w off, c.attrs.get "allocation.offset" = some (.integer w off)

section
variable {numWarps threadsPerWarp : Int} {target : Target} {spArg : FuncOp → Nat} {body : List TopOp}

theorem funcStage_ok_of_ready (hr : StagesReady target body) :
    ∃ b1, funcStage numWarps threadsPerWarp target spArg body = .ok b1 := by
  obtain ⟨b1, hb1⟩ := @mapM_ok_of_forall _ _ _ (funcStageOp numWarps threadsPerWarp target spArg) body fun t ht => by
    cases t with
    | func f => exact applyPattern_ok_of_ne_crash (funcOpConversion_ne_crash (hr.argAttrs f ht))
    | llvmFunc g => exact absurd ht (hr.no_llvmFunc g)
    | global g => exact ⟨_, rfl⟩
  exact ⟨b1, funcStage_ok.mpr (mapM_ok_iff.mp hb1)⟩

theorem callReturnStage_ok_of_ready (hr : StagesReady target body) {b1 : List TopOp}
    (h1 : funcStage numWarps threadsPerWarp target spArg body = .ok b1) :
    ∃ b2, callReturnStage target (initSharedMemory target b1) = .ok b2 := by
  obtain ⟨b2, hb2⟩ := @mapM_ok_of_forall _ _ _ callReturnTop (initSharedMemory target b1) fun t ht => by
    have ht' : t = .global globalSmem ∨ t ∈ b1 := by
      cases target <;> simp only [initSharedMemory, List.mem_cons] at ht <;> tauto
    rcases ht' with rfl | ht
    · exact ⟨_, rfl⟩
    obtain ⟨t0, ht0, hft⟩ := forall₂_exists_of_mem_right (funcStage_ok.mp h1) ht
    cases t0 with
    | global g => cases hft; exact ⟨_, rfl⟩
    | llvmFunc g => exact absurd ht0 (hr.no_llvmFunc g)
    | func f =>
      obtain ⟨ps, hps⟩ := Option.isSome_iff_exists.mp (hr.wf.inputs_convert f ht0)
      rcases applyPattern_ok hft with ⟨g, hg, rfl⟩ | ⟨reason, hfail, -⟩
      · have hbody : g.body = f.body := (funcOpConversion_ok hg).2.2.2.2.2.1
        obtain ⟨ops, hops⟩ := @mapM_ok_of_forall _ _ _ (callReturnOp (some g) g.toCaller) g.body fun op hop =>
          callReturnOp_ok_of_funcOpConversion hg hps (hr.wf.args_length f ht0) (hr.returns f ht0)
            (fun ht => hr.offsets ht f ht0) (hbody ▸ hop)
        exact ⟨_, by rw [callReturnTop, hops]; rfl⟩
      · exact absurd hfail (funcOpConversion_ne_matchFailure hps (hr.wf.results_convert f ht0) reason)
  exact ⟨b2, callReturnStage_ok.mpr (mapM_ok_iff.mp hb2)⟩

/-- On a module ready for them, the function stage and the call/return stage
succeed, on every target and for every number of warps. -/
theorem function_stages_succeed (hr : StagesReady target body) :
    ∃ b1 b2, funcStage numWarps threadsPerWarp target spArg body = .ok b1 ∧
      callReturnStage target (initSharedMemory target b1) = .ok b2 := by
  obtain ⟨b1, h1⟩ := funcStage_ok_of_ready hr
  obtain ⟨b2, h2⟩ := callReturnStage_ok_of_ready hr h1
  exact ⟨b1, b2, h1, h2⟩

end

/-- A kernel calling, at `allocation.offset = 16`, a device function that
returns two `i32`s: on NVVM both stages succeed, the return packing its
operands into a struct. -/
theorem function_stages_succeed_pair :
    ∃ b1 b2, funcStage 4 32 .nvvm (fun _ => 2)
        [.func ⟨"k", true, [], [], DictionaryAttr.empty.set "allocation.offset" (.integer 32 0), none, [],
            [.call ⟨"dev", [], [.int 32, .int 32], DictionaryAttr.empty.set "allocation.offset" (.integer 32 16)⟩,
              .ret ⟨[], .empty⟩]⟩,
          .func ⟨"dev", false, [], [.int 32, .int 32], .empty, some [], [],
            [.ret ⟨[⟨0, .int 32⟩, ⟨1, .int 32⟩], .empty⟩]⟩] = .ok b1 ∧
      callReturnStage .nvvm (initSharedMemory .nvvm b1) = .ok b2 := by
  refine function_stages_succeed ⟨⟨?_, ?_, ?_, ?_, ?_⟩, by simp, ?_, ?_, fun _ f hf _ c hc => ?_⟩
  all_goals first | intro f hf | skip
  all_goals simp only [List.mem_cons, TopOp.func.injEq, List.mem_nil_iff, or_false] at hf
  all_goals rcases hf with rfl | rfl
  all_goals simp_all
  all_goals rfl

/-! ## Every return returns its function's result type -/

@[simp] theorem ty?_insertValues : ∀ (acc : LValue) (i : Nat) (vs : List Value),
    (insertValues acc i vs).ty? = acc.ty?
  | _, _, [] => rfl
  | _, _, _ :: vs => ty?_insertValues _ _ vs

end TritonGPUToLLVM
