import TritonGPUToLLVM.Pipeline

/-!
# The shared-memory pointer

The function stage gives every non-kernel a last parameter, the pointer to its
part of shared memory, and the call/return stage passes one as the last
operand of every call. `callingConvention_stages` says the two agree: after
both stages every `llvm.call` passes operands of exactly the lowered parameter
types of the device function it calls.
-/

namespace TritonGPUToLLVM

/-! ## The function stage converts every function whose signature converts -/

theorem convertTypes_append_ptr {o : LowerToLLVMOptions} {ts ps : List Ty} (h : convertTypes o ts = some ps) :
    convertTypes o (ts ++ [.llvmPtr 3]) = some (ps ++ [.llvmPtr 3]) := by
  rw [convertTypes_append, h]
  rfl

theorem funcOpConversion_ne_matchFailure {o : LowerToLLVMOptions} {numWarps threadsPerWarp : Int}
    {target : Target} {f : FuncOp} {spId : Nat} {ps : List Ty} (hin : convertTypes o f.inputs = some ps)
    (hres : (convertResultTypes o f.results).isSome) (reason : String) :
    (funcOpConversion o numWarps threadsPerWarp target f spId).result ≠ .error (.matchFailure reason) := by
  obtain ⟨r, hr⟩ := Option.isSome_iff_exists.mp hres
  simp only [funcOpConversion]
  split
  · -- a kernel is not amended, and only the amendment fails
    rename_i e he
    split_ifs at he
    simp [amendFuncOp_error he]
  · rename_i g hg
    obtain ⟨-, -, hgr, hgi, -⟩ := amended_ok hg
    have hgin : convertTypes o g.inputs = some (if f.isPublic then ps else ps ++ [.llvmPtr 3]) := by
      split_ifs at hgi ⊢ <;> simp [hgi, hin, convertTypes_append_ptr]
    split
    · rename_i hnone
      simp [convertFuncOpToLLVMFuncOp, hgin, hgr, hr] at hnone
    · simp

theorem params_funcOpConversion {o : LowerToLLVMOptions} {numWarps threadsPerWarp : Int}
    {target : Target} {f : FuncOp} {spId : Nat} {g : LLVMFuncOp} {ps : List Ty}
    (h : (funcOpConversion o numWarps threadsPerWarp target f spId).result = .ok g)
    (hps : convertTypes o f.inputs = some ps) :
    g.params = if f.isPublic then ps else ps ++ [.llvmPtr 3] := by
  obtain ⟨-, -, hp, -⟩ := funcOpConversion_ok h
  split_ifs at hp ⊢
  · exact Option.some.inj (hp.symm.trans hps)
  · exact Option.some.inj (hp.symm.trans (convertTypes_append_ptr hps))

theorem getLast?_args_funcOpConversion {o : LowerToLLVMOptions} {numWarps threadsPerWarp : Int}
    {target : Target} {f : FuncOp} {spId : Nat} {g : LLVMFuncOp} {ps : List Ty}
    (h : (funcOpConversion o numWarps threadsPerWarp target f spId).result = .ok g)
    (hps : convertTypes o f.inputs = some ps) (hk : f.isPublic = false)
    (hlen : f.args.length = f.inputs.length) :
    g.args.getLast? = some ⟨spId, .llvmPtr 3⟩ := by
  obtain ⟨-, -, -, -, -, -, hargs⟩ := funcOpConversion_ok h
  rw [hargs, params_funcOpConversion h hps]
  simp only [hk, if_false, Bool.false_eq_true]
  rw [List.zip_append (by rw [hlen, convertTypes_length hps])]
  simp

/-! ## The calling convention -/

def Op.llvmCall? : Op → Option LLVMCallOp
  | .llvmCall c => some c
  | _ => none

@[simp] theorem Op.llvmCall?_eq_some {op : Op} {c : LLVMCallOp} : op.llvmCall? = some c ↔ op = .llvmCall c := by
  cases op <;> simp [Op.llvmCall?]

/-- What the verifier and the frontend guarantee of a Triton module that
reaches the function stage: entry blocks match their signatures, signatures
convert, no body holds an `llvm.call` yet, and every `tt.call` calls a device
function of the module with operands of its parameter types. -/
structure WellFormedCalls (body : List TopOp) : Prop where
  args_length : ∀ f, TopOp.func f ∈ body → f.args.length = f.inputs.length
  inputs_convert : ∀ f, TopOp.func f ∈ body → (convertTypes funcStageOptions f.inputs).isSome
  results_convert : ∀ f, TopOp.func f ∈ body → (convertResultTypes funcStageOptions f.results).isSome
  no_llvmCall : ∀ f, TopOp.func f ∈ body → ∀ c, Op.llvmCall c ∉ f.body
  calls : ∀ f, TopOp.func f ∈ body → ∀ c, Op.call c ∈ f.body →
    ∃ f', TopOp.func f' ∈ body ∧ f'.name = c.callee ∧ f'.isPublic = false ∧ c.operands.map Value.ty = f'.inputs

theorem funcStage_converts {numWarps threadsPerWarp : Int} {target : Target} {spArg : FuncOp → Nat}
    {body b1 : List TopOp} (hwf : WellFormedCalls body)
    (h1 : funcStage numWarps threadsPerWarp target spArg body = .ok b1) {f : FuncOp} (hf : TopOp.func f ∈ body) :
    ∃ g, TopOp.llvmFunc g ∈ b1 ∧
      (funcOpConversion funcStageOptions numWarps threadsPerWarp target f (spArg f)).result = .ok g := by
  obtain ⟨t, ht, hft⟩ := forall₂_exists_of_mem (funcStage_ok.mp h1) hf
  obtain ⟨ps, hps⟩ := Option.isSome_iff_exists.mp (hwf.inputs_convert f hf)
  rcases applyPattern_ok hft with ⟨g, hg, rfl⟩ | ⟨reason, hr, -⟩
  · exact ⟨g, ht, hg⟩
  · exact absurd hr (funcOpConversion_ne_matchFailure hps (hwf.results_convert f hf) reason)

/-- The calling convention after the function and call/return stages: every
Triton function of `body` is an `llvm.func` of `lowered` with its converted
parameters, followed for a non-kernel by the shared-memory pointer, and every
`llvm.call` in it calls a device function with operands of exactly that
function's lowered parameter types. -/
def CallingConvention (body lowered : List TopOp) : Prop :=
  ∀ f, TopOp.func f ∈ body → ∃ (g : LLVMFuncOp) (ps : List Ty), TopOp.llvmFunc g ∈ lowered ∧ g.name = f.name ∧
    convertTypes funcStageOptions f.inputs = some ps ∧
    g.params = (if f.isPublic then ps else ps ++ [.llvmPtr 3]) ∧
    ∀ c ∈ g.body.filterMap Op.llvmCall?, ∃ (f' : FuncOp) (ps' : List Ty), TopOp.func f' ∈ body ∧ f'.name = c.callee ∧
      f'.isPublic = false ∧ convertTypes funcStageOptions f'.inputs = some ps' ∧
      c.operands.map LValue.ty? = (ps' ++ [Ty.llvmPtr 3]).map some

theorem map_ty_zip : ∀ {vs : List Value} {ts : List Ty}, vs.length = ts.length →
    ((vs.zip ts).map fun vt => (⟨vt.1.id, vt.2⟩ : Value)).map Value.ty = ts
  | [], [], _ => rfl
  | _ :: _, _ :: _, h => congrArg (_ :: ·) (map_ty_zip (Nat.succ.inj h))

theorem adaptorOperands_ty {o : LowerToLLVMOptions} {vs ws : List Value} (h : adaptorOperands o vs = some ws) :
    convertTypes o (vs.map Value.ty) = some (ws.map Value.ty) := by
  simp only [adaptorOperands, Option.map_eq_some'] at h
  obtain ⟨ts, hts, rfl⟩ := h
  rw [hts, map_ty_zip (by simpa using (convertTypes_length hts).symm)]

theorem getStackPointer_ty {caller : Caller} {base : LValue}
    (hsp : caller.isPublic = false → caller.args.getLast?.map Value.ty = some (.llvmPtr 3))
    (h : getStackPointer caller = .ok base) : base.ty? = some (.llvmPtr 3) := by
  unfold getStackPointer at h
  split at h
  · cases h; rfl
  · rename_i hk
    split at h
    · rename_i sp hsp'
      cases h
      simpa [hsp', LValue.ty?] using hsp (by simpa using hk)
    · cases h

theorem promoteOperands_ty {caller : Caller} {callOp : CallOp} {vs : List Value} {ps : List LValue}
    (hsp : caller.isPublic = false → caller.args.getLast?.map Value.ty = some (.llvmPtr 3))
    (h : promoteOperands caller callOp vs = .ok ps) :
    ps.map LValue.ty? = (vs.map Value.ty).map some ++ [some (.llvmPtr 3)] := by
  have hvs : (vs.map LValue.value).map LValue.ty? = (vs.map Value.ty).map some := by
    simp [List.map_map, Function.comp_def, LValue.ty?]
  unfold promoteOperands at h
  split at h
  · obtain ⟨base, hb, rfl⟩ := map_eq_ok.mp h
    simp [hvs, getStackPointer_ty hsp hb]
  · obtain ⟨p, hp, rfl⟩ := map_eq_ok.mp h
    obtain ⟨base, -, hp⟩ := bind_eq_ok.mp hp
    split at hp
    · cases hp; simp [hvs, LValue.ty?]
    · cases hp

theorem callReturnOp_llvmCall {funcOp : Option LLVMFuncOp} {caller : Caller} {op : Op} {c : LLVMCallOp}
    (hnot : ∀ c', op ≠ Op.llvmCall c')
    (hsp : caller.isPublic = false → caller.args.getLast?.map Value.ty = some (.llvmPtr 3))
    (h : callReturnOp funcOp caller op = .ok (.llvmCall c)) :
    ∃ (callOp : CallOp) (ws : List Value), op = .call callOp ∧ c.callee = callOp.callee ∧
      convertTypes callStageOptions (callOp.operands.map Value.ty) = some (ws.map Value.ty) ∧
      c.operands.map LValue.ty? = (ws.map Value.ty).map some ++ [some (.llvmPtr 3)] := by
  rcases callReturnOp_ok h with rfl | ⟨_, _, _, -, -, -, h'⟩ | ⟨callOp, ws, res, rfl, hws, hc, h'⟩
  · exact absurd rfl (hnot c)
  · cases h'
  · cases h'
    obtain ⟨ps, hps, hnew, -⟩ := callOpConversion_ok hc
    obtain ⟨hcallee, hops, -, -⟩ := convertCallOpToLLVMCallOp_some hnew
    exact ⟨callOp, ws, rfl, hcallee, adaptorOperands_ty hws, hops ▸ promoteOperands_ty hsp hps⟩

/-- After the function stage and the call/return stage, the signatures of the
lowered functions and the operands of the lowered calls agree: a non-kernel
gains the shared-memory pointer as its last parameter, and every call passes
one as its last operand. -/
theorem callingConvention_stages {numWarps threadsPerWarp : Int} {target : Target} {spArg : FuncOp → Nat}
    {body b1 b2 : List TopOp} (hwf : WellFormedCalls body)
    (h1 : funcStage numWarps threadsPerWarp target spArg body = .ok b1)
    (h2 : callReturnStage target (initSharedMemory target b1) = .ok b2) :
    CallingConvention body b2 := by
  intro f hf
  obtain ⟨ps, hps⟩ := Option.isSome_iff_exists.mp (hwf.inputs_convert f hf)
  obtain ⟨g, hg1, hg⟩ := funcStage_converts hwf h1 hf
  obtain ⟨hname, hpub, -, -, -, hbody, -⟩ := funcOpConversion_ok hg
  obtain ⟨t2, ht2, hgt2⟩ := forall₂_exists_of_mem (callReturnStage_ok.mp h2) (mem_initSharedMemory hg1)
  obtain ⟨body', rfl, hbody'⟩ := callReturnTop_llvmFunc hgt2
  refine ⟨{ g with body := body' }, ps, ht2, hname, hps, (params_funcOpConversion hg hps :), fun c hc => ?_⟩
  have hop' : Op.llvmCall c ∈ body' := by simpa using hc
  obtain ⟨op, hop, hopc⟩ := forall₂_exists_of_mem_right hbody' hop'
  rw [hbody] at hop
  have hsp : g.toCaller.isPublic = false → g.toCaller.args.getLast?.map Value.ty = some (.llvmPtr 3) :=
    fun hk => by
      rw [LLVMFuncOp.toCaller, getLast?_args_funcOpConversion hg hps (hpub.symm.trans hk) (hwf.args_length f hf)]
      rfl
  obtain ⟨callOp, ws, rfl, hcallee, hws, hops⟩ :=
    callReturnOp_llvmCall (fun c' h => hwf.no_llvmCall f hf c' (h ▸ hop)) hsp hopc
  obtain ⟨f', hf', hname', hpub', hin'⟩ := hwf.calls f hf callOp hop
  refine ⟨f', ws.map Value.ty, hf', hname'.trans hcallee.symm, hpub', by rw [← hin']; exact hws, ?_⟩
  rw [hops, List.map_append]
  rfl

/-- A kernel calling a device function of one `i32` parameter. -/
theorem callingConvention_stages_kernel_call :
    ∃ b1 b2, funcStage 4 32 .nvvm (fun _ => 2)
        [.func ⟨"dev", false, [.int 32], [], .empty, some [.empty], [⟨0, .int 32⟩], [.ret ⟨[], .empty⟩]⟩,
          .func ⟨"k", true, [.int 32], [], .empty, none, [⟨1, .int 32⟩],
            [.call ⟨"dev", [⟨1, .int 32⟩], [], .empty⟩, .ret ⟨[], .empty⟩]⟩] = .ok b1 ∧
      callReturnStage .nvvm (initSharedMemory .nvvm b1) = .ok b2 ∧
      CallingConvention
        [.func ⟨"dev", false, [.int 32], [], .empty, some [.empty], [⟨0, .int 32⟩], [.ret ⟨[], .empty⟩]⟩,
          .func ⟨"k", true, [.int 32], [], .empty, none, [⟨1, .int 32⟩],
            [.call ⟨"dev", [⟨1, .int 32⟩], [], .empty⟩, .ret ⟨[], .empty⟩]⟩] b2 := by
  refine ⟨_, _, rfl, rfl, @callingConvention_stages 4 32 .nvvm (fun _ => 2) _ _ _ ⟨?_, ?_, ?_, ?_, ?_⟩ rfl rfl⟩
  all_goals intro f hf
  all_goals simp only [List.mem_cons, TopOp.func.injEq, List.mem_nil_iff, or_false] at hf
  all_goals rcases hf with rfl | rfl
  any_goals rfl
  all_goals intro c hc
  all_goals simp at hc
  exact ⟨_, List.mem_cons_self _ _, by rw [hc], rfl, by rw [hc]; rfl⟩

/-! ## The pointer each call passes -/

theorem getLast?_promoteOperands {caller : Caller} {callOp : CallOp} {vs : List Value} {ps : List LValue}
    (h : promoteOperands caller callOp vs = .ok ps) :
    ∃ base, getStackPointer caller = .ok base ∧
      if caller.attrs.hasAttr "allocation.offset" then
        ∃ w off, callOp.attrs.get "allocation.offset" = some (.integer w off) ∧ ps.getLast? = some (.gep base off.toNat)
      else ps.getLast? = some base := by
  unfold promoteOperands at h
  split at h
  · rename_i hno
    obtain ⟨base, hb, rfl⟩ := map_eq_ok.mp h
    exact ⟨base, hb, by simp_all⟩
  · rename_i hyes
    obtain ⟨p, hp, rfl⟩ := map_eq_ok.mp h
    obtain ⟨base, hb, hp⟩ := bind_eq_ok.mp hp
    split at hp
    · rename_i w off hoff
      cases hp
      refine ⟨base, hb, ?_⟩
      rw [if_pos (by simpa using hyes)]
      exact ⟨w, off, hoff, by simp⟩
    · cases hp

theorem getStackPointer_funcOpConversion {o : LowerToLLVMOptions} {numWarps threadsPerWarp : Int}
    {target : Target} {f : FuncOp} {spId : Nat} {g : LLVMFuncOp} {ps : List Ty}
    (hg : (funcOpConversion o numWarps threadsPerWarp target f spId).result = .ok g)
    (hps : convertTypes o f.inputs = some ps) (hlen : f.args.length = f.inputs.length) :
    getStackPointer g.toCaller =
      .ok (if f.isPublic then .addressOf "global_smem" 3 else .value ⟨spId, .llvmPtr 3⟩) := by
  have hpub := (funcOpConversion_ok hg).2.1
  cases hk : f.isPublic
  · simp [getStackPointer, LLVMFuncOp.toCaller, hpub, hk, getLast?_args_funcOpConversion hg hps hk hlen]
  · simp [getStackPointer, LLVMFuncOp.toCaller, hpub, hk]

theorem callReturnOp_eq_llvmCall {funcOp : Option LLVMFuncOp} {caller : Caller} {op : Op} {c : LLVMCallOp}
    (hnot : ∀ c', op ≠ Op.llvmCall c') (h : callReturnOp funcOp caller op = .ok (.llvmCall c)) :
    ∃ callOp ws, op = .call callOp ∧ promoteOperands caller callOp ws = .ok c.operands ∧ c.attrs = callOp.attrs := by
  rcases callReturnOp_ok h with rfl | ⟨_, _, _, -, -, -, h'⟩ | ⟨callOp, ws, res, rfl, -, hc, h'⟩
  · exact absurd rfl (hnot c)
  · cases h'
  · cases h'
    obtain ⟨ps, hps, hnew, -⟩ := callOpConversion_ok hc
    obtain ⟨-, hops, hattrs, -⟩ := convertCallOpToLLVMCallOp_some hnew
    exact ⟨callOp, ws, rfl, hops ▸ hps, hattrs⟩

theorem llvmFunc_stages {numWarps threadsPerWarp : Int} {target : Target} {spArg : FuncOp → Nat}
    {body b1 b2 : List TopOp} (hwf : WellFormedCalls body)
    (h1 : funcStage numWarps threadsPerWarp target spArg body = .ok b1)
    (h2 : callReturnStage target (initSharedMemory target b1) = .ok b2) {f : FuncOp} (hf : TopOp.func f ∈ body) :
    ∃ g ops, (funcOpConversion funcStageOptions numWarps threadsPerWarp target f (spArg f)).result = .ok g ∧
      TopOp.llvmFunc { g with body := ops } ∈ b2 ∧
      List.Forall₂ (fun op op' => callReturnOp (some g) g.toCaller op = .ok op') g.body ops := by
  obtain ⟨g, hg1, hg⟩ := funcStage_converts hwf h1 hf
  obtain ⟨t, ht, htop⟩ := forall₂_exists_of_mem (callReturnStage_ok.mp h2) (mem_initSharedMemory hg1)
  obtain ⟨ops, rfl, hops⟩ := callReturnTop_llvmFunc htop
  exact ⟨g, ops, hg, ht, hops⟩

/-- After the function stage and the call/return stage, the shared-memory
pointer every lowered call passes last is its caller's base: `global_smem` in a
kernel, the argument `amendFuncOp` added in a device function. On NVVM and
ROCDL a caller carrying `allocation.offset` advances it by the call's
`allocation.offset`; on GENX `setDialectAttrs` has dropped the caller's
`allocation.offset`, and every call passes the base as it is. -/
theorem sharedMemoryPointer_stages {numWarps threadsPerWarp : Int} {target : Target} {spArg : FuncOp → Nat}
    {body b1 b2 : List TopOp} (hwf : WellFormedCalls body)
    (h1 : funcStage numWarps threadsPerWarp target spArg body = .ok b1)
    (h2 : callReturnStage target (initSharedMemory target b1) = .ok b2) {f : FuncOp} (hf : TopOp.func f ∈ body) :
    let base : LValue := if f.isPublic then .addressOf "global_smem" 3 else .value ⟨spArg f, .llvmPtr 3⟩
    ∃ g, TopOp.llvmFunc g ∈ b2 ∧ g.name = f.name ∧ ∀ c ∈ g.body.filterMap Op.llvmCall?,
      if target ≠ .genx ∧ f.attrs.hasAttr "allocation.offset" then
        ∃ w off, c.attrs.get "allocation.offset" = some (.integer w off) ∧
          c.operands.getLast? = some (.gep base off.toNat)
      else c.operands.getLast? = some base := by
  intro base
  obtain ⟨ps, hps⟩ := Option.isSome_iff_exists.mp (hwf.inputs_convert f hf)
  obtain ⟨g, body', hg, ht2, hbody'⟩ := llvmFunc_stages hwf h1 h2 hf
  obtain ⟨hname, -, -, -, -, hbody, -⟩ := funcOpConversion_ok hg
  refine ⟨_, ht2, hname, fun c hc => ?_⟩
  obtain ⟨op, hop, hopc⟩ := forall₂_exists_of_mem_right hbody' (by simpa using hc)
  rw [hbody] at hop
  obtain ⟨callOp, ws, rfl, hpro, hattrs⟩ :=
    callReturnOp_eq_llvmCall (fun c' h => hwf.no_llvmCall f hf c' (h ▸ hop)) hopc
  have hsp : getStackPointer g.toCaller = .ok base :=
    getStackPointer_funcOpConversion hg hps (hwf.args_length f hf)
  have hoff : g.toCaller.attrs.hasAttr "allocation.offset" =
      (target ≠ .genx ∧ f.attrs.hasAttr "allocation.offset") := by
    by_cases ht : target = .genx <;>
      simp [LLVMFuncOp.toCaller, DictionaryAttr.hasAttr, get_allocationOffset_funcOpConversion hg, ht]
  obtain ⟨b, hb, hlast⟩ := getLast?_promoteOperands hpro
  obtain rfl : b = base := Except.ok.inj (hb.symm.trans hsp)
  simpa only [hoff, hattrs] using hlast

/-- On NVVM, a kernel carrying `allocation.offset` that calls a device function
through a `tt.call` with `allocation.offset = 16`. -/
theorem sharedMemoryPointer_stages_offset :
    ∃ b1 b2, funcStage 4 32 .nvvm (fun _ => 2)
        [.func ⟨"k", true, [], [], DictionaryAttr.empty.set "allocation.offset" (.integer 32 0), none, [],
            [.call ⟨"dev", [], [], DictionaryAttr.empty.set "allocation.offset" (.integer 32 16)⟩, .ret ⟨[], .empty⟩]⟩,
          .func ⟨"dev", false, [], [], .empty, some [], [], [.ret ⟨[], .empty⟩]⟩] = .ok b1 ∧
      callReturnStage .nvvm (initSharedMemory .nvvm b1) = .ok b2 ∧
      ∃ g, TopOp.llvmFunc g ∈ b2 ∧ g.name = "k" ∧ ∀ c ∈ g.body.filterMap Op.llvmCall?,
        ∃ w off, c.attrs.get "allocation.offset" = some (.integer w off) ∧
          c.operands.getLast? = some (.gep (.addressOf "global_smem" 3) off.toNat) := by
  refine ⟨_, _, rfl, rfl, ?_⟩
  have h := @sharedMemoryPointer_stages 4 32 .nvvm (fun _ => 2)
    [.func ⟨"k", true, [], [], DictionaryAttr.empty.set "allocation.offset" (.integer 32 0), none, [],
        [.call ⟨"dev", [], [], DictionaryAttr.empty.set "allocation.offset" (.integer 32 16)⟩, .ret ⟨[], .empty⟩]⟩,
      .func ⟨"dev", false, [], [], .empty, some [], [], [.ret ⟨[], .empty⟩]⟩] _ _
    ⟨?_, ?_, ?_, ?_, ?_⟩ rfl rfl _ (List.mem_cons_self _ _)
  · simpa [DictionaryAttr.hasAttr] using h
  all_goals intro f hf
  all_goals simp only [List.mem_cons, TopOp.func.injEq, List.mem_nil_iff, or_false] at hf
  all_goals rcases hf with rfl | rfl
  any_goals rfl
  all_goals intro c hc
  all_goals simp at hc
  exact ⟨_, List.mem_cons_of_mem _ (List.mem_cons_self _ _), by rw [hc], rfl, by rw [hc]; rfl⟩

end TritonGPUToLLVM
