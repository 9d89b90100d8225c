import TritonGPUToLLVM.CallReturn

/-!
# The lowered calling convention

Values of the lowered code and how `undef`, `insertvalue` and `extractvalue`
compute them. `call_results_eq_return_operands`: after the call/return stage,
the values replacing a call's results are, in order, the values the callee's
`tt.return` passed, for every arity; the two patterns agree on the struct
type, the threshold of two results and the field order.
-/

namespace TritonGPUToLLVM

/-- Runtime values of the lowered code. -/
inductive LVal where
  | undefined
  | ptr (addrSpace : Nat) (addr : Nat)
  | struct (fields : List LVal)
  deriving Repr

mutual
def undefOf : Ty → LVal
  | .llvmStruct body => .struct (undefsOf body)
  | _ => .undefined
def undefsOf : List Ty → List LVal
  | [] => []
  | t :: ts => undefOf t :: undefsOf ts
end

theorem length_undefsOf : ∀ ts : List Ty, (undefsOf ts).length = ts.length
  | [] => rfl
  | _ :: ts => by simp [undefsOf, length_undefsOf ts]

def insertField : LVal → LVal → Nat → LVal
  | .struct fs, v, pos => .struct (fs.set pos v)
  | _, _, _ => .undefined

def extractField : LVal → Nat → LVal
  | .struct fs, pos => fs.getD pos .undefined
  | _, _ => .undefined

/-- What a lowered value is evaluated against: the values of the SSA values,
what the `llvm.call` being built returned, and the addresses of globals. -/
structure Env where
  values : Nat → LVal
  callResult : LVal
  globalAddr : String → Nat

def LValue.eval (ρ : Env) : LValue → LVal
  | .value v => ρ.values v.id
  | .undefValue ty => undefOf ty
  | .insertValue c v pos => insertField (c.eval ρ) (v.eval ρ) pos
  | .extractValue c pos => extractField (c.eval ρ) pos
  | .callResult => ρ.callResult
  | .addressOf g addrSpace => .ptr addrSpace (ρ.globalAddr g)
  | .gep b offset =>
    match b.eval ρ with
    | .ptr addrSpace addr => .ptr addrSpace (addr + offset)
    | _ => .undefined

/-- What an `llvm.call` returns: the value of its callee's `llvm.return` operand. -/
def LLVMReturnOp.returned (ret : LLVMReturnOp) (ρ : Env) : LVal :=
  match ret.operands with
  | [e] => e.eval ρ
  | _ => .undefined

/-! ## Packing and unpacking -/

theorem eval_insertValues (ρ : Env) :
    ∀ (vs : List Value) (i : Nat) (acc : LValue) (fs : List LVal),
      acc.eval ρ = .struct fs → i + vs.length ≤ fs.length →
      (insertValues acc i vs).eval ρ =
        .struct (fs.take i ++ vs.map (ρ.values ·.id) ++ fs.drop (i + vs.length))
  | [], i, acc, fs, h, _ => by simp [insertValues, h]
  | v :: vs, i, acc, fs, h, hl => by
    simp only [List.length_cons] at hl
    have hi : i < fs.length := by omega
    have hstep : (LValue.insertValue acc (.value v) i).eval ρ =
        .struct (fs.take i ++ ρ.values v.id :: fs.drop (i + 1)) := by
      simp [LValue.eval, h, insertField, List.set_eq_take_append_cons_drop, hi]
    rw [insertValues, eval_insertValues ρ vs (i + 1) _ _ hstep (by simp; omega)]
    simp [List.take_append_eq_append_take, List.drop_append_eq_append_drop, List.drop_drop,
      Nat.min_eq_left hi.le, show i + 1 + vs.length - i = vs.length + 1 by omega, List.take_take,
      List.drop_eq_nil_of_le (show (fs.take i).length ≤ i + 1 + vs.length by simp; omega),
      show i + 1 + vs.length = i + (vs.length + 1) by omega]

theorem map_extractField_range (xs : List LVal) :
    (List.range xs.length).map (extractField (.struct xs)) = xs := by
  apply List.ext_getElem (by simp)
  intro n h _
  simp [extractField, List.getElem?_eq_getElem (by simpa using h)]

theorem extract_insertValues (ρ : Env) (body : List Ty) (vs : List Value) (h : body.length = vs.length) :
    (List.range vs.length).map (fun i => extractField ((insertValues (.undefValue (.llvmStruct body)) 0 vs).eval ρ) i) =
      vs.map (ρ.values ·.id) := by
  rw [eval_insertValues ρ vs 0 _ (undefsOf body) (by simp [LValue.eval, undefOf]) (by simp [length_undefsOf, h])]
  simpa [List.drop_eq_nil_of_le (show (undefsOf body).length ≤ vs.length by simp [length_undefsOf, h])]
    using map_extractField_range (vs.map (ρ.values ·.id))

/-! ## The round trip -/

section
variable {numWarps threadsPerWarp : Int} {target : Target} {spId : Nat} {f : FuncOp}
  {callee : LLVMFuncOp} {callOp : CallOp} {op : ReturnOp} {caller : Caller} {args vs : List Value}
  {ret : LLVMReturnOp} {newCallOp : LLVMCallOp} {results : List LValue}

theorem call_return_shape
    (hf : (funcOpConversion funcStageOptions numWarps threadsPerWarp target f spId).result = .ok callee)
    (hcallTy : callOp.resultTypes = f.results)
    (hvs : convertTypes callStageOptions f.results = some (vs.map Value.ty))
    (hadaptor : vs.length = op.operands.length)
    (hret : returnOpConversion callStageOptions (some callee) op vs = .ok ret)
    (hcall : callOpConversion callStageOptions caller callOp args = .ok (newCallOp, results)) :
    newCallOp.resultType = callee.result ∧
      (vs.length < 2 → ret.operands = vs.map .value ∧ newCallOp.resultType = vs.head?.map Value.ty ∧
        results = newCallOp.resultType.toList.map fun _ => .callResult) ∧
      (2 ≤ vs.length → ∃ body, callee.result = some (.llvmStruct body) ∧ body = vs.map Value.ty ∧
        ret.operands = [insertValues (.undefValue (.llvmStruct body)) 0 vs] ∧
        results = (List.range vs.length).map (.extractValue .callResult)) := by
  obtain ⟨-, -, -, hres, -⟩ := funcOpConversion_ok hf
  obtain ⟨ps, -, hconv, rfl⟩ := callOpConversion_ok hcall
  obtain ⟨-, -, -, hrt⟩ := convertCallOpToLLVMCallOp_some hconv
  have hN : callOp.resultTypes.length = vs.length := by
    rw [hcallTy]; simpa using (convertTypes_length hvs).symm
  have hcallee : callee.result = packedResultType (vs.map Value.ty) :=
    Option.some.inj (hres.symm.trans (convertResultTypes_eq hvs))
  have hty : newCallOp.resultType = callee.result := by
    rw [hcallTy] at hrt; exact Option.some.inj (hrt.symm.trans hres)
  refine ⟨hty, fun hlt => ⟨returnOpConversion_operands_of_lt hret hadaptor hlt, ?_,
    getCallOpResults_of_lt newCallOp (by omega)⟩, fun hge => ?_⟩
  · rw [hty, hcallee, packedResultType_of_lt (by simpa using hlt), List.head?_map]
  · have hsome : callee.result = some (.llvmStruct (vs.map Value.ty)) := by
      rw [hcallee, packedResultType_of_le (by simpa using hge)]
    have hus : convertType callStageOptions (.llvmStruct (vs.map Value.ty)) = some (.llvmStruct (vs.map Value.ty)) := by
      simp [convertType, convertTypes_converted _ _ _ _ hvs]
    exact ⟨_, hsome, rfl, returnOpConversion_operands_of_le hret hadaptor hge hsome hus,
      (getCallOpResults_of_le newCallOp (by omega)).trans (by rw [hN])⟩

/-- Return packing and call unpacking are inverse: whatever values the
callee's `tt.return` passes, the values replacing the call's results are
those values, in order, for every number of results; the struct appears on
both sides exactly from two results on. -/
theorem call_results_eq_return_operands
    (hf : (funcOpConversion funcStageOptions numWarps threadsPerWarp target f spId).result = .ok callee)
    (hcallTy : callOp.resultTypes = f.results)
    (hvs : convertTypes callStageOptions f.results = some (vs.map Value.ty))
    (hadaptor : vs.length = op.operands.length)
    (hret : returnOpConversion callStageOptions (some callee) op vs = .ok ret)
    (hcall : callOpConversion callStageOptions caller callOp args = .ok (newCallOp, results)) :
    (newCallOp.resultType = callee.result ∧
      (vs.length < 2 → ret.operands = vs.map .value ∧ newCallOp.resultType = vs.head?.map Value.ty ∧
        results = newCallOp.resultType.toList.map fun _ => .callResult) ∧
      (2 ≤ vs.length → ∃ body, callee.result = some (.llvmStruct body) ∧ body = vs.map Value.ty ∧
        ret.operands = [insertValues (.undefValue (.llvmStruct body)) 0 vs] ∧
        results = (List.range vs.length).map (.extractValue .callResult))) ∧
      ∀ ρ ρ' : Env, results.map (LValue.eval { ρ' with callResult := ret.returned ρ }) =
        vs.map (ρ.values ·.id) := by
  have hshape := call_return_shape hf hcallTy hvs hadaptor hret hcall
  refine ⟨hshape, fun ρ ρ' => ?_⟩
  obtain ⟨-, hlt, hge⟩ := hshape
  by_cases h2 : vs.length < 2
  · obtain ⟨hops, hrt, rfl⟩ := hlt h2
    match vs, h2, hops, hrt with
    | [], _, _, hrt => simp [hrt]
    | [v], _, hops, hrt => simp [hrt, LLVMReturnOp.returned, hops, LValue.eval]
  · obtain ⟨body, -, hbody, hops, rfl⟩ := hge (by omega)
    simp only [List.map_map, LLVMReturnOp.returned, hops]
    exact extract_insertValues ρ body vs (by simp [hbody])

end

/-- A device function returning `(i32, f32)`, called from a kernel. -/
theorem call_results_eq_return_operands_pair :
    ∃ callee ret newCallOp results,
      (funcOpConversion funcStageOptions 4 32 .nvvm
          ⟨"f", false, [], [.int 32, .float 32], .empty, some [], [], []⟩ 0).result = .ok callee ∧
      returnOpConversion callStageOptions (some callee) ⟨[⟨1, .int 32⟩, ⟨2, .float 32⟩], .empty⟩
          [⟨1, .int 32⟩, ⟨2, .float 32⟩] = .ok ret ∧
      callOpConversion callStageOptions ⟨true, .empty, []⟩ ⟨"f", [], [.int 32, .float 32], .empty⟩ [] =
          .ok (newCallOp, results) ∧
      newCallOp.resultType = callee.result ∧
      ∀ ρ ρ' : Env, results.map (LValue.eval { ρ' with callResult := ret.returned ρ }) =
        [ρ.values 1, ρ.values 2] :=
  let h := @call_results_eq_return_operands 4 32 .nvvm 0
    ⟨"f", false, [], [.int 32, .float 32], .empty, some [], [], []⟩ _ ⟨"f", [], [.int 32, .float 32], .empty⟩
    ⟨[⟨1, .int 32⟩, ⟨2, .float 32⟩], .empty⟩ ⟨true, .empty, []⟩ [] [⟨1, .int 32⟩, ⟨2, .float 32⟩] _ _ _
    rfl rfl rfl rfl rfl rfl
  ⟨_, _, _, _, rfl, rfl, rfl, h.1.1, h.2⟩

/-! ## Kernel returns -/

/-- On GENX the kernel `tt.func public @k() -> i32` returning `%0 : i32` is
lowered, and its `tt.return` becomes an `llvm.return` carrying `%0`. -/
theorem genx_kernel_return_with_operand :
    ∃ k, (funcOpConversion funcStageOptions 4 16 .genx
        ⟨"k", true, [], [.int 32], .empty, none, [], [.ret ⟨[⟨0, .int 32⟩], .empty⟩]⟩ 1).result = .ok k ∧
      k.isPublic ∧
      returnOpConversion callStageOptions (some k) ⟨[⟨0, .int 32⟩], .empty⟩ [⟨0, .int 32⟩] =
        .ok ⟨[.value ⟨0, .int 32⟩], .empty⟩ :=
  ⟨_, rfl, rfl, rfl⟩

end TritonGPUToLLVM
