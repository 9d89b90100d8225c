import Mathlib.Data.List.Forall2

/-!
# Types and the type converter

The types that reach the pass's three type converters, and the converter
`TritonGPUToLLVMTypeConverter` as a function of its `LowerToLLVMOptions`.
Only the index bit width of the options changes a conversion
(`convertType_eq_of_not_containsIndex`): the main converter of
`runOnOperation` asks for 32 bits, the converters of the function stage and of
the call/return stage keep the default 64, and the two disagree on `index`.
-/

namespace TritonGPUToLLVM

inductive Encoding where
  /-- `#blocked`; `elemsPerThread` is what `getTotalElemsPerThread` gives for
  the tensor -/
  | blocked (elemsPerThread : Nat)
  /-- another distributed layout (`#mma`, `#slice`, `#dot_op`) -/
  | distributed (elemsPerThread : Nat)
  | shared (vec : Nat)
  /-- no encoding: the null attribute -/
  | none
  deriving DecidableEq, Repr

inductive Ty where
  | int (width : Nat)
  | index
  | float (width : Nat)
  | bf16
  | ptr (pointee : Ty) (addrSpace : Nat)
  | tensor (shape : List Nat) (elem : Ty) (enc : Encoding)
  | llvmPtr (addrSpace : Nat)
  | llvmStruct (body : List Ty)
  | llvmArray (elem : Ty) (size : Nat)
  /-- a builtin type no conversion applies to (`none`, `tuple<...>`) -/
  | noneType
  deriving Repr

mutual
def Ty.containsIndex : Ty → Bool
  | .index => true
  | .ptr p _ => p.containsIndex
  | .tensor _ e _ => e.containsIndex
  | .llvmStruct body => Ty.anyContainsIndex body
  | .llvmArray e _ => e.containsIndex
  | _ => false
def Ty.anyContainsIndex : List Ty → Bool
  | [] => false
  | t :: ts => t.containsIndex || Ty.anyContainsIndex ts
end

/-! ## Options and the converter -/

structure LowerToLLVMOptions where
  indexBitwidth : Nat
  deriving DecidableEq, Repr

/-- `LowerToLLVMOptions(context)`: the index bit width is derived from the
default data layout, which gives 64. -/
def LowerToLLVMOptions.default : LowerToLLVMOptions := ⟨64⟩

def LowerToLLVMOptions.overrideIndexBitwidth (o : LowerToLLVMOptions) (bitwidth : Nat) :
    LowerToLLVMOptions :=
  { o with indexBitwidth := bitwidth }

def convertTritonPointerType (pointee : Ty) (addrSpace : Nat) : Ty :=
  match pointee with
  | .tensor shape _ _ =>
    .llvmStruct (List.replicate shape.length (.int 32) ++
      List.replicate (2 * shape.length) (.int 64) ++ [.llvmPtr addrSpace])
  | _ => .llvmPtr addrSpace

mutual
def convertType (o : LowerToLLVMOptions) : Ty → Option Ty
  | .int w => some (.int w)
  | .index => some (.int o.indexBitwidth)
  | .float w => some (.float w)
  | .bf16 => some (.int 16)
  | .ptr p addrSpace => some (convertTritonPointerType p addrSpace)
  | .tensor shape _ (.shared _) =>
    some (.llvmStruct (.llvmPtr 3 :: List.replicate (2 * shape.length) (.int 32)))
  | .tensor _ elem (.blocked n) | .tensor _ elem (.distributed n) =>
    (convertType o elem).map fun e => .llvmStruct (List.replicate n e)
  | .tensor _ _ .none => none
  | .llvmPtr addrSpace => some (.llvmPtr addrSpace)
  | .llvmStruct body => (convertTypes o body).map .llvmStruct
  | .llvmArray elem size => (convertType o elem).map (.llvmArray · size)
  | .noneType => none
def convertTypes (o : LowerToLLVMOptions) : List Ty → Option (List Ty)
  | [] => some []
  | t :: ts => (convertType o t).bind fun t' => (convertTypes o ts).map (t' :: ·)
end

def packFunctionResults (o : LowerToLLVMOptions) : List Ty → Option Ty
  | [] => none
  | [t] => convertType o t
  | ts => (convertTypes o ts).map .llvmStruct

@[simp] theorem convertTypes_nil (o : LowerToLLVMOptions) : convertTypes o [] = some [] := rfl

theorem convertTypes_cons (o : LowerToLLVMOptions) (t : Ty) (ts : List Ty) :
    convertTypes o (t :: ts) = (convertType o t).bind fun t' => (convertTypes o ts).map (t' :: ·) :=
  rfl

theorem convertTypes_eq_some {o : LowerToLLVMOptions} :
    ∀ {ts ts' : List Ty}, convertTypes o ts = some ts' ↔ List.Forall₂ (fun t t' => convertType o t = some t') ts ts'
  | [], ts' => by cases ts' <;> simp [eq_comm]
  | t :: ts, ts' => by
    cases ts' with
    | nil => simp [convertTypes_cons, Option.bind_eq_some]
    | cons t' ts' =>
      have ih := @convertTypes_eq_some o ts ts'
      simp [convertTypes_cons, Option.bind_eq_some, ← ih]

theorem convertTypes_length {o : LowerToLLVMOptions} {ts ts' : List Ty}
    (h : convertTypes o ts = some ts') : ts'.length = ts.length :=
  (convertTypes_eq_some.mp h).length_eq.symm

theorem convertTypes_append (o : LowerToLLVMOptions) (as bs : List Ty) :
    convertTypes o (as ++ bs) = (convertTypes o as).bind fun as' => (convertTypes o bs).map (as' ++ ·) := by
  induction as with
  | nil => simp
  | cons a as ih =>
    simp only [List.cons_append, convertTypes_cons, ih]
    cases convertType o a <;> cases convertTypes o as <;> cases convertTypes o bs <;> rfl

theorem convertTypes_replicate {o : LowerToLLVMOptions} {t : Ty} (h : convertType o t = some t) :
    ∀ n, convertTypes o (List.replicate n t) = some (List.replicate n t)
  | 0 => rfl
  | n + 1 => by simp [List.replicate_succ, convertTypes_cons, h, convertTypes_replicate h n]

/-! ## Converted types convert to themselves -/

theorem convertTritonPointerType_converted (o : LowerToLLVMOptions) (pointee : Ty) (addrSpace : Nat) :
    convertType o (convertTritonPointerType pointee addrSpace) = some (convertTritonPointerType pointee addrSpace) := by
  cases pointee with
  | tensor shape _ _ =>
    simp [convertType, convertTritonPointerType, convertTypes_append,
      convertTypes_replicate (show convertType o (.int 32) = some (.int 32) from rfl),
      convertTypes_replicate (show convertType o (.int 64) = some (.int 64) from rfl), convertTypes_cons]
  | _ => rfl

mutual
theorem convertType_converted (o o' : LowerToLLVMOptions) :
    ∀ t t' : Ty, convertType o t = some t' → convertType o' t' = some t'
  | .int _, _, h | .index, _, h | .float _, _, h | .bf16, _, h | .llvmPtr _, _, h => by
    cases h; rfl
  | .ptr p addrSpace, _, h => by
    cases h
    exact convertTritonPointerType_converted o' p addrSpace
  | .tensor shape _ (.shared _), _, h => by
    cases h
    simp [convertType, convertTypes_cons,
      convertTypes_replicate (show convertType o' (.int 32) = some (.int 32) from rfl)]
  | .tensor _ e (.blocked n), _, h | .tensor _ e (.distributed n), _, h => by
    simp only [convertType, Option.map_eq_some'] at h
    obtain ⟨e', he, rfl⟩ := h
    simp [convertType, convertTypes_replicate (convertType_converted o o' e e' he)]
  | .tensor _ _ .none, _, h => by cases h
  | .llvmStruct body, _, h => by
    simp only [convertType, Option.map_eq_some'] at h
    obtain ⟨body', hb, rfl⟩ := h
    simp [convertType, convertTypes_converted o o' body body' hb]
  | .llvmArray e _, _, h => by
    simp only [convertType, Option.map_eq_some'] at h
    obtain ⟨e', he, rfl⟩ := h
    simp [convertType, convertType_converted o o' e e' he]
  | .noneType, _, h => by cases h
theorem convertTypes_converted (o o' : LowerToLLVMOptions) :
    ∀ ts ts' : List Ty, convertTypes o ts = some ts' → convertTypes o' ts' = some ts'
  | [], _, h => by cases h; rfl
  | t :: ts, _, h => by
    simp only [convertTypes_cons, Option.bind_eq_some, Option.map_eq_some'] at h
    obtain ⟨t', ht, ts', hts, rfl⟩ := h
    simp [convertTypes_cons, convertType_converted o o' t t' ht, convertTypes_converted o o' ts ts' hts]
end

theorem packFunctionResults_converted (o o' : LowerToLLVMOptions) {ts : List Ty} {t' : Ty}
    (h : packFunctionResults o ts = some t') : convertType o' t' = some t' := by
  match ts, h with
  | [t], h => exact convertType_converted o o' t t' h
  | _ :: _ :: _, h =>
    simp only [packFunctionResults, Option.map_eq_some'] at h
    obtain ⟨body, hb, rfl⟩ := h
    simp [convertType, convertTypes_converted o o' _ body hb]

/-! ## Only the index bit width matters -/

mutual
theorem convertType_eq_of_not_containsIndex (o o' : LowerToLLVMOptions) :
    ∀ t : Ty, t.containsIndex = false → convertType o t = convertType o' t
  | .int _, _ => rfl
  | .index, h => by simp [Ty.containsIndex] at h
  | .float _, _ => rfl
  | .bf16, _ => rfl
  | .ptr _ _, _ => rfl
  | .tensor _ _ (.shared _), _ => rfl
  | .tensor _ e (.blocked _), h | .tensor _ e (.distributed _), h => by
    simp only [convertType, convertType_eq_of_not_containsIndex o o' e (by simpa [Ty.containsIndex] using h)]
  | .tensor _ _ .none, _ => rfl
  | .llvmPtr _, _ => rfl
  | .llvmStruct body, h => by
    simp only [convertType, convertTypes_eq_of_not_containsIndex o o' body
      (by simpa [Ty.containsIndex] using h)]
  | .llvmArray e _, h => by
    simp only [convertType, convertType_eq_of_not_containsIndex o o' e (by simpa [Ty.containsIndex] using h)]
  | .noneType, _ => rfl
theorem convertTypes_eq_of_not_containsIndex (o o' : LowerToLLVMOptions) :
    ∀ ts : List Ty, Ty.anyContainsIndex ts = false → convertTypes o ts = convertTypes o' ts
  | [], _ => rfl
  | t :: ts, h => by
    simp only [Ty.anyContainsIndex, Bool.or_eq_false_iff] at h
    simp only [convertTypes_cons, convertType_eq_of_not_containsIndex o o' t h.1,
      convertTypes_eq_of_not_containsIndex o o' ts h.2]
end

/-! ## The three converters of `runOnOperation` -/

/-- The converter of the main legalization and of `initSharedMemory`:
`option.overrideIndexBitwidth(32)`. -/
def mainOptions : LowerToLLVMOptions := LowerToLLVMOptions.default.overrideIndexBitwidth 32

/-- The converter of the function stage: a fresh `LowerToLLVMOptions(context)`. -/
def funcStageOptions : LowerToLLVMOptions := LowerToLLVMOptions.default

/-- The converter of the call/return stage: a fresh `LowerToLLVMOptions(context)`. -/
def callStageOptions : LowerToLLVMOptions := LowerToLLVMOptions.default

/-- At `index` the function-stage and call/return-stage converters give `i64`
and the main converter `i32`; on every type without `index` the three agree. -/
theorem convertType_index_stages :
    convertType funcStageOptions .index = some (.int 64) ∧
      convertType callStageOptions .index = some (.int 64) ∧
      convertType mainOptions .index = some (.int 32) ∧
      ∀ t : Ty, t.containsIndex = false →
        convertType funcStageOptions t = convertType mainOptions t ∧
          convertType callStageOptions t = convertType mainOptions t :=
  ⟨rfl, rfl, rfl, fun t ht =>
    ⟨convertType_eq_of_not_containsIndex _ _ t ht, convertType_eq_of_not_containsIndex _ _ t ht⟩⟩

end TritonGPUToLLVM
