import TritonGPUToLLVM.FuncOp

/-!
# `ReturnOpConversion` and `CallOpConversion`

A device function returning two or more values packs them into one struct,
field `i` holding operand `i`; a call to it extracts field `i` for result `i`.
Every call gets one more operand, the shared-memory pointer, chosen by
`promoteOperands` from an attribute of the caller. Both patterns build what
their targets accept: an `llvm.return` of at most one value
(`returnOpConversion_operands_length`) and as many values replacing a call
as it has results (`callOpConversion_results_length`).
-/

namespace TritonGPUToLLVM

def LLVMFuncOp.resultTypes (f : LLVMFuncOp) : List Ty := f.result.toList

/-- The loop `for (auto it : llvm::enumerate(adaptor.getOperands()))` of
`ReturnOpConversion`: `insert_val` of operand `i + k` at field `i + k`. -/
def insertValues (acc : LValue) (i : Nat) : List Value → LValue
  | [] => acc
  | v :: vs => insertValues (.insertValue acc (.value v) i) (i + 1) vs

/-- `ReturnOpConversion::matchAndRewrite`: the `llvm.return` replacing `op`.
`funcOp` is what `getParentOfType<LLVM::LLVMFuncOp>` finds. -/
def returnOpConversion (o : LowerToLLVMOptions) (funcOp : Option LLVMFuncOp) (op : ReturnOp)
    (adaptorOperands : List Value) : Except PatternError LLVMReturnOp :=
  match funcOp with
  | none => .error (.crash "funcOp->hasAttr on a null LLVMFuncOp")
  | some funcOp =>
    if funcOp.attrs.hasAttr "nvvm.kernel" then
      if op.operands.length > 0 then
        .error (.matchFailure "Kernel functions do not support return with operands")
      else .ok ⟨[], op.attrs⟩
    else if adaptorOperands.length < 2 then
      .ok ⟨adaptorOperands.map .value, op.attrs⟩
    else
      match packFunctionResults o funcOp.resultTypes with
      | none => .error (.crash "LLVM::UndefOp of a null type")
      | some packedResultsTy => .ok ⟨[insertValues (.undefValue packedResultsTy) 0 adaptorOperands], op.attrs⟩

theorem returnOpConversion_ok {o : LowerToLLVMOptions} {funcOp : LLVMFuncOp} {op : ReturnOp}
    {vs : List Value} {ret : LLVMReturnOp} (h : returnOpConversion o (some funcOp) op vs = .ok ret) :
    ret.attrs = op.attrs ∧
      ((funcOp.attrs.hasAttr "nvvm.kernel" ∧ op.operands = [] ∧ ret.operands = []) ∨
        (¬ funcOp.attrs.hasAttr "nvvm.kernel" ∧ vs.length < 2 ∧ ret.operands = vs.map .value) ∨
        (¬ funcOp.attrs.hasAttr "nvvm.kernel" ∧ 2 ≤ vs.length ∧ ∃ packedResultsTy,
          packFunctionResults o funcOp.resultTypes = some packedResultsTy ∧
          ret.operands = [insertValues (.undefValue packedResultsTy) 0 vs])) := by
  simp only [returnOpConversion] at h
  split at h
  · split at h
    · cases h
    · cases h; exact ⟨rfl, .inl ⟨‹_›, List.length_eq_zero.mp (by omega), rfl⟩⟩
  · split at h
    · cases h; exact ⟨rfl, .inr (.inl ⟨‹_›, ‹_›, rfl⟩)⟩
    · split at h
      · cases h
      · cases h; exact ⟨rfl, .inr (.inr ⟨‹_›, by omega, _, ‹_›, rfl⟩)⟩

theorem returnOpConversion_operands_of_lt {o : LowerToLLVMOptions} {funcOp : LLVMFuncOp} {op : ReturnOp}
    {vs : List Value} {ret : LLVMReturnOp} (h : returnOpConversion o (some funcOp) op vs = .ok ret)
    (hlen : vs.length = op.operands.length) (hlt : vs.length < 2) : ret.operands = vs.map .value := by
  rcases (returnOpConversion_ok h).2 with ⟨-, hops, hro⟩ | ⟨-, -, hro⟩ | ⟨-, hge, -⟩
  · rw [hro, List.length_eq_zero.mp (hlen.trans (by rw [hops]; rfl))]; rfl
  · exact hro
  · omega

theorem returnOpConversion_operands_of_le {o : LowerToLLVMOptions} {funcOp : LLVMFuncOp} {op : ReturnOp}
    {vs : List Value} {ret : LLVMReturnOp} (h : returnOpConversion o (some funcOp) op vs = .ok ret)
    (hlen : vs.length = op.operands.length) (hge : 2 ≤ vs.length) {us : List Ty}
    (hres : funcOp.result = some (.llvmStruct us)) (hus : convertType o (.llvmStruct us) = some (.llvmStruct us)) :
    ret.operands = [insertValues (.undefValue (.llvmStruct us)) 0 vs] := by
  rcases (returnOpConversion_ok h).2 with ⟨-, hops, -⟩ | ⟨-, hlt, -⟩ | ⟨-, -, S, hS, hro⟩
  · rw [hlen, hops] at hge; cases hge
  · omega
  · rw [LLVMFuncOp.resultTypes, hres] at hS
    rw [hro, Option.some.inj (hS.symm.trans hus)]

/-! ## Calls -/

/-- What `CallOpConversion` reads of the function enclosing a call. -/
structure Caller where
  isPublic : Bool
  attrs : DictionaryAttr
  args : List Value

def LLVMFuncOp.toCaller (f : LLVMFuncOp) : Caller := ⟨f.isPublic, f.attrs, f.args⟩

/-- Modelled from the spec: `LLVM::getStackPointer(rewriter, funcOp, target)`.
A kernel owns its base allocation, the global `global_smem`; any other
function receives its base as its trailing argument. -/
def getStackPointer (caller : Caller) : Except PatternError LValue :=
  if caller.isPublic then .ok (.addressOf "global_smem" 3)
  else match caller.args.getLast? with
    | some sp => .ok (.value sp)
    | none => .error (.crash "getArgument of a function without arguments")

/-- Modelled from the spec: `LLVM::getSharedMemoryBase(loc, rewriter, op, target)`,
the enclosing function's base advanced by `op`'s `allocation.offset`, which it
reads from `op`. -/
def getSharedMemoryBase (caller : Caller) (opAttrs : DictionaryAttr) : Except PatternError LValue :=
  (getStackPointer caller).bind fun base =>
    match opAttrs.get "allocation.offset" with
    | some (.integer _ offset) => .ok (.gep base offset.toNat)
    | _ => .error (.crash "allocation.offset is absent")

/-- `CallOpConversion::promoteOperands`. The converter's `promoteOperands`
passes every remapped operand through (no memref reaches a Triton call). -/
def promoteOperands (caller : Caller) (callOp : CallOp) (adaptorOperands : List Value) :
    Except PatternError (List LValue) :=
  let promotedOperands := adaptorOperands.map LValue.value
  if !caller.attrs.hasAttr "allocation.offset" then
    (getStackPointer caller).map fun base => promotedOperands ++ [base]
  else
    (getSharedMemoryBase caller callOp.attrs).map fun base => promotedOperands ++ [base]

/-- The operands `promoteOperands` passes follow the caller: the adaptor's
operands, then the caller's base, advanced by the call's integer
`allocation.offset` when the caller carries `allocation.offset` and passed
unadvanced, whatever the call carries, when it does not. -/
theorem promoteOperands_ok_iff {caller : Caller} {callOp : CallOp} {vs : List Value} {ps : List LValue} :
    promoteOperands caller callOp vs = .ok ps ↔ ∃ base, getStackPointer caller = .ok base ∧
      if caller.attrs.hasAttr "allocation.offset" then
        ∃ w off, callOp.attrs.get "allocation.offset" = some (.integer w off) ∧
          ps = vs.map .value ++ [.gep base off.toNat]
      else ps = vs.map .value ++ [base] := by
  unfold promoteOperands getSharedMemoryBase
  cases hsp : getStackPointer caller with
  | error e => simp [Except.map, Except.bind]
  | ok base =>
    cases hc : caller.attrs.hasAttr "allocation.offset"
    · simp [Except.map, eq_comm]
    · cases ho : callOp.attrs.get "allocation.offset" with
      | none => simp [Except.bind, Except.map, ho]
      | some a => cases a <;> simp [Except.bind, Except.map, ho, eq_comm, and_assoc]

/-- A device function without `allocation.offset`, whose trailing argument is
`%7`, calls through a `tt.call` carrying `allocation.offset = 16`: the pointer
passed is `%7`, not `%7` advanced by 16. -/
theorem promoteOperands_call_offset_ignored :
    promoteOperands ⟨false, .empty, [⟨7, .llvmPtr 3⟩]⟩
      ⟨"callee", [], [], DictionaryAttr.empty.set "allocation.offset" (.integer 32 16)⟩ [] =
      .ok [.value ⟨7, .llvmPtr 3⟩] :=
  rfl

def convertCallOpToLLVMCallOp (o : LowerToLLVMOptions) (callOp : CallOp)
    (promotedOperands : List LValue) : Option LLVMCallOp :=
  if callOp.resultTypes.length ≠ 0 then
    (packFunctionResults o callOp.resultTypes).map fun packedResult =>
      ⟨callOp.callee, some packedResult, promotedOperands, callOp.attrs⟩
  else some ⟨callOp.callee, none, promotedOperands, callOp.attrs⟩

def getCallOpResults (callOp : CallOp) (newCallOp : LLVMCallOp) : List LValue :=
  if callOp.resultTypes.length < 2 then newCallOp.resultType.toList.map fun _ => .callResult
  else (List.range callOp.resultTypes.length).map (.extractValue .callResult)

/-- `CallOpConversion::matchAndRewrite`: the new `llvm.call` and the values
replacing the results of `callOp`. -/
def callOpConversion (o : LowerToLLVMOptions) (caller : Caller) (callOp : CallOp)
    (adaptorOperands : List Value) : Except PatternError (LLVMCallOp × List LValue) :=
  (promoteOperands caller callOp adaptorOperands).bind fun promotedOperands =>
    match convertCallOpToLLVMCallOp o callOp promotedOperands with
    | none => .error (.matchFailure "convertCallOpToLLVMCallOp")
    | some newCallOp => .ok (newCallOp, getCallOpResults callOp newCallOp)

theorem callOpConversion_ok {o : LowerToLLVMOptions} {caller : Caller} {callOp : CallOp}
    {vs : List Value} {newCallOp : LLVMCallOp} {results : List LValue}
    (h : callOpConversion o caller callOp vs = .ok (newCallOp, results)) :
    ∃ promotedOperands, promoteOperands caller callOp vs = .ok promotedOperands ∧
      convertCallOpToLLVMCallOp o callOp promotedOperands = some newCallOp ∧
      results = getCallOpResults callOp newCallOp := by
  obtain ⟨ps, hp, h⟩ := bind_eq_ok.mp h
  split at h
  · cases h
  · cases h; exact ⟨ps, hp, ‹_›, rfl⟩

theorem convertCallOpToLLVMCallOp_some {o : LowerToLLVMOptions} {callOp : CallOp}
    {ps : List LValue} {newCallOp : LLVMCallOp}
    (h : convertCallOpToLLVMCallOp o callOp ps = some newCallOp) :
    newCallOp.callee = callOp.callee ∧ newCallOp.operands = ps ∧ newCallOp.attrs = callOp.attrs ∧
      convertResultTypes o callOp.resultTypes = some newCallOp.resultType := by
  simp only [convertCallOpToLLVMCallOp] at h
  split at h
  · simp only [Option.map_eq_some'] at h
    obtain ⟨t, ht, rfl⟩ := h
    refine ⟨rfl, rfl, rfl, ?_⟩
    cases hrs : callOp.resultTypes with
    | nil => simp_all
    | cons r rs => rw [hrs] at ht; simp [convertResultTypes, ht]
  · rename_i h0
    cases h
    exact ⟨rfl, rfl, rfl, by rw [List.length_eq_zero.mp (not_not.mp h0)]; rfl⟩

theorem getCallOpResults_of_lt {callOp : CallOp} (newCallOp : LLVMCallOp) (h : callOp.resultTypes.length < 2) :
    getCallOpResults callOp newCallOp = newCallOp.resultType.toList.map fun _ => .callResult := by
  simp [getCallOpResults, h]

theorem getCallOpResults_of_le {callOp : CallOp} (newCallOp : LLVMCallOp) (h : 2 ≤ callOp.resultTypes.length) :
    getCallOpResults callOp newCallOp = (List.range callOp.resultTypes.length).map (.extractValue .callResult) := by
  simp [getCallOpResults, Nat.not_lt.mpr h]

/-- The pattern replaces a call by exactly as many values as it has results,
as `replaceOp` requires. -/
theorem callOpConversion_results_length {o : LowerToLLVMOptions} {caller : Caller} {callOp : CallOp}
    {vs : List Value} {newCallOp : LLVMCallOp} {results : List LValue}
    (h : callOpConversion o caller callOp vs = .ok (newCallOp, results)) :
    results.length = callOp.resultTypes.length := by
  obtain ⟨_, -, hnew, rfl⟩ := callOpConversion_ok h
  obtain ⟨-, -, -, hres⟩ := convertCallOpToLLVMCallOp_some hnew
  have hsome := convertResultTypes_isSome hres
  rcases Nat.lt_or_ge callOp.resultTypes.length 2 with hlt | hge
  · rw [getCallOpResults_of_lt _ hlt, List.length_map]
    generalize callOp.resultTypes = ts at hlt hsome ⊢
    generalize newCallOp.resultType = r at hsome ⊢
    rcases ts with _ | ⟨_, _ | ⟨_, _⟩⟩
    · cases r <;> simp_all
    · cases r <;> simp_all
    · simp only [List.length_cons] at hlt
      omega
  · rw [getCallOpResults_of_le _ hge, List.length_map, List.length_range]

/-- A call of a device function returning `(i32, f32)`. -/
theorem callOpConversion_results_length_pair :
    ∃ newCallOp results, callOpConversion callStageOptions ⟨true, .empty, []⟩
        ⟨"f", [], [.int 32, .float 32], .empty⟩ [] = .ok (newCallOp, results) ∧ results.length = 2 :=
  ⟨_, _, rfl, @callOpConversion_results_length callStageOptions ⟨true, .empty, []⟩
    ⟨"f", [], [.int 32, .float 32], .empty⟩ [] _ _ rfl⟩

end TritonGPUToLLVM
