import TritonGPUToLLVM.Attributes
import TritonGPUToLLVM.Types

/-!
# The IR the pass rewrites

Values, the operations the pass creates or rewrites, functions, globals and
the module, with the two conversion targets of the source. A function body is
the sequence of its operations in the order `walk` visits them; the operations
of a nested region are listed with the rest.
-/

namespace TritonGPUToLLVM

inductive Target where
  | nvvm
  | rocdl
  | genx
  deriving DecidableEq, Repr

structure Value where
  id : Nat
  ty : Ty
  deriving Repr

/-- The values the lowered code computes: SSA values already in the IR, and
the results of `llvm.mlir.undef`, `llvm.insertvalue`, `llvm.extractvalue`, the
`llvm.call` a pattern creates, `llvm.mlir.addressof` and an `i8`
`llvm.getelementptr` in address space 3. -/
inductive LValue where
  | value (v : Value)
  | undefValue (ty : Ty)
  | insertValue (container val : LValue) (pos : Nat)
  | extractValue (container : LValue) (pos : Nat)
  | callResult
  | addressOf (global : String) (addrSpace : Nat)
  | gep (base : LValue) (offset : Nat)
  deriving Repr

def LValue.ty? : LValue → Option Ty
  | .value v => some v.ty
  | .undefValue ty => some ty
  | .insertValue c _ _ => c.ty?
  | .extractValue c pos =>
    match c.ty? with
    | some (.llvmStruct body) => body[pos]?
    | _ => none
  | .callResult => none
  | .addressOf _ addrSpace => some (.llvmPtr addrSpace)
  | .gep _ _ => some (.llvmPtr 3)

/-! ## Operations -/

inductive CacheModifier where
  | none | ca | cg | wb | cs | wt
  deriving DecidableEq, Repr

inductive EvictionPolicy where
  | normal | evictFirst | evictLast
  deriving DecidableEq, Repr

inductive OpFoldResult where
  | attr (v : Int)
  | value (v : Value)
  deriving Repr

structure ReturnOp where
  operands : List Value
  attrs : DictionaryAttr

structure CallOp where
  callee : String
  operands : List Value
  resultTypes : List Ty
  attrs : DictionaryAttr

structure LLVMReturnOp where
  operands : List LValue
  attrs : DictionaryAttr

structure LLVMCallOp where
  callee : String
  resultType : Option Ty
  operands : List LValue
  attrs : DictionaryAttr

structure InsertSliceAsyncOp where
  src : Value
  dst : Value
  index : Value
  mask : Option Value
  other : Option Value
  cache : CacheModifier
  evict : EvictionPolicy
  isVolatile : Bool
  axis : Nat
  attrs : DictionaryAttr

structure LoadOp where
  resultTy : Ty
  ptr : Value
  mask : Option Value
  other : Option Value
  boundaryCheck : Option (List Nat)
  padding : Option Nat
  cache : CacheModifier
  evict : EvictionPolicy
  isVolatile : Bool
  attrs : DictionaryAttr

structure InsertSliceOp where
  dest : Value
  offsets : List OpFoldResult
  sizes : List OpFoldResult
  strides : List OpFoldResult
  attrs : DictionaryAttr

structure AsyncWaitOp where
  num : Int
  attrs : DictionaryAttr

/-- `triton_nvidia_gpu.insert_slice_tma`, with the operation's identity and the
one operand the pass reads, its mask. -/
structure InsertSliceTMAOp where
  id : Nat
  mask : Option Value

inductive Dialect where
  | triton | tritonGPU | tritonNvidiaGPU | gpu | nvgpu | llvm | nvvm | genx | index
  | arith | math | cf | tensor | builtin
  deriving DecidableEq, Repr

/-- An operation in a function body. `generic` is any operation the pass only
hands to the lowering patterns of other files. -/
inductive Op where
  | ret (op : ReturnOp)
  | call (op : CallOp)
  | llvmRet (op : LLVMReturnOp)
  | llvmCall (op : LLVMCallOp)
  | insertSliceAsync (op : InsertSliceAsyncOp)
  | asyncCommitGroup (attrs : DictionaryAttr)
  | asyncWait (op : AsyncWaitOp)
  | load (op : LoadOp)
  | insertSlice (op : InsertSliceOp)
  | clusterCTAId (result : Value)
  | constantI32 (result : Value) (value : Int)
  | splat (result src : Value)
  | insertSliceTMA (op : InsertSliceTMAOp)
  | generic (dialect : Dialect) (name : String)

def Op.dialect : Op → Dialect
  | .ret _ | .call _ | .load _ | .splat _ _ => .triton
  | .llvmRet _ | .llvmCall _ | .constantI32 _ _ => .llvm
  | .insertSliceAsync _ | .asyncCommitGroup _ | .asyncWait _ => .tritonGPU
  | .insertSliceTMA _ => .tritonNvidiaGPU
  | .insertSlice _ => .tensor
  | .clusterCTAId _ => .nvgpu
  | .generic d _ => d

inductive PatternError where
  /-- `failure()` or `notifyMatchFailure`: the driver keeps the operation or
  tries another pattern -/
  | matchFailure (reason : String)
  /-- the source reads through a null handle or an absent attribute: the
  process stops -/
  | crash (what : String)
  deriving DecidableEq, Repr

/-! ## Functions, globals, module -/

/-- `tt.func`. A public function is a kernel (`LLVM::isKernel`). `argAttrs` is
`arg_attrs`, absent when no argument has attributes. -/
structure FuncOp where
  name : String
  isPublic : Bool
  inputs : List Ty
  results : List Ty
  attrs : DictionaryAttr
  argAttrs : Option (List DictionaryAttr)
  args : List Value
  body : List Op

structure LLVMFuncOp where
  name : String
  isPublic : Bool
  params : List Ty
  result : Option Ty
  attrs : DictionaryAttr
  argAttrs : Option (List DictionaryAttr)
  passthrough : List String
  args : List Value
  body : List Op

inductive Linkage where
  | external | internal
  deriving DecidableEq, Repr

structure GlobalOp where
  name : String
  ty : Ty
  isConstant : Bool
  linkage : Linkage
  alignment : Nat
  addrSpace : Nat

inductive TopOp where
  | func (f : FuncOp)
  | llvmFunc (f : LLVMFuncOp)
  | global (g : GlobalOp)

/-- `builtin.module` with the attributes the pass reads: `triton_gpu.num-warps`,
`triton_gpu.num-ctas`, `triton_gpu.threads-per-warp` and, when present,
`triton_gpu.num-warp-groups-per-cta`. -/
structure ModuleOp where
  numWarps : Int
  numCTAs : Int
  threadsPerWarp : Int
  numWarpGroupsPerCTA : Option Int
  body : List TopOp

def TopOp.ops : TopOp → List Op
  | .func f => f.body
  | .llvmFunc f => f.body
  | .global _ => []

def TopOp.mapOps (g : List Op → List Op) : TopOp → TopOp
  | .func f => .func { f with body := g f.body }
  | .llvmFunc f => .llvmFunc { f with body := g f.body }
  | .global gl => .global gl

def ModuleOp.ops (m : ModuleOp) : List Op := m.body.flatMap TopOp.ops

def ModuleOp.mapOps (g : List Op → List Op) (m : ModuleOp) : ModuleOp :=
  { m with body := m.body.map (TopOp.mapOps g) }

theorem TopOp.ops_mapOps_flatMap (f : Op → List Op) (t : TopOp) :
    (t.mapOps (·.flatMap f)).ops = t.ops.flatMap f := by
  cases t <;> rfl

theorem ModuleOp.ops_mapOps_flatMap (f : Op → List Op) (m : ModuleOp) :
    (m.mapOps (·.flatMap f)).ops = m.ops.flatMap f := by
  simp only [ModuleOp.ops, ModuleOp.mapOps, List.flatMap_map, TopOp.ops_mapOps_flatMap]
  induction m.body with
  | nil => rfl
  | cons t ts ih => simp [List.flatMap_cons, ih, List.flatMap_append]

/-! ## Conversion targets -/

inductive Legality where
  | legal | illegal | unknown
  deriving DecidableEq, Repr

/-- A `ConversionTarget`: legal and illegal dialects; every other dialect is
of unknown legality. `UnrealizedConversionCastOp`, legal in both targets of
the source, never occurs in the model. -/
structure ConversionTarget where
  legalDialects : List Dialect
  illegalDialects : List Dialect

def ConversionTarget.legality (t : ConversionTarget) (d : Dialect) : Legality :=
  if d ∈ t.legalDialects then .legal else if d ∈ t.illegalDialects then .illegal else .unknown

/-- `TritonLLVMFunctionConversionTarget`. -/
def functionConversionTarget (target : Target) : ConversionTarget where
  legalDialects := [.index, .llvm] ++
    match target with
    | .nvvm => [.nvvm]
    | .genx => [.genx]
    | .rocdl => []
  illegalDialects := []

/-- `TritonLLVMConversionTarget`. -/
def llvmConversionTarget (target : Target) : ConversionTarget where
  legalDialects := [.llvm] ++
    match target with
    | .nvvm => [.nvvm, .nvgpu]
    | .genx => [.genx]
    | .rocdl => []
  illegalDialects := [.triton, .tritonGPU, .tritonNvidiaGPU, .gpu]

theorem functionConversionTarget_legality_ne_illegal (target : Target) (d : Dialect) :
    (functionConversionTarget target).legality d ≠ .illegal := by
  simp only [ConversionTarget.legality, functionConversionTarget, List.not_mem_nil, if_false]
  split <;> simp

/-! ## Successful `Except` computations

A pattern or a stage that succeeds succeeded at each of its steps. -/

theorem bind_eq_ok {ε α β : Type} {x : Except ε α} {f : α → Except ε β} {b : β} :
    x.bind f = .ok b ↔ ∃ a, x = .ok a ∧ f a = .ok b := by
  cases x <;> simp [Except.bind]

theorem map_eq_ok {ε α β : Type} {x : Except ε α} {f : α → β} {b : β} :
    x.map f = .ok b ↔ ∃ a, x = .ok a ∧ f a = b := by
  cases x <;> simp [Except.map]

theorem bind_eq_error {ε α β : Type} {x : Except ε α} {f : α → Except ε β} {e : ε} :
    x.bind f = .error e ↔ x = .error e ∨ ∃ a, x = .ok a ∧ f a = .error e := by
  cases x <;> simp [Except.bind]

theorem map_eq_error {ε α β : Type} {x : Except ε α} {f : α → β} {e : ε} :
    x.map f = .error e ↔ x = .error e := by
  cases x <;> simp [Except.map]

theorem mapError_eq_ok {ε ε' α : Type} {x : Except ε α} {f : ε → ε'} {a : α} :
    x.mapError f = .ok a ↔ x = .ok a := by
  cases x <;> simp [Except.mapError]

end TritonGPUToLLVM
