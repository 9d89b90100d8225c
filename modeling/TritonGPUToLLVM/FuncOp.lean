import Mathlib.Data.String.Basic
import TritonGPUToLLVM.IR

/-!
# `FuncOpConversion`

A non-kernel `tt.func` is first amended (`amendFuncOp`): its type gains a
trailing `ptr<3>`, its argument attributes a trailing empty dictionary, its
entry block a trailing argument. The amended function is converted to an
`llvm.func` (`convertFuncOpToLLVMFuncOp`), which then receives the target's
kernel and thread-count attributes. `funcOpConversion_ok` says what a
successful rewrite produces.
-/

namespace TritonGPUToLLVM

/-- A C++ `int` result: the value wrapped into the 32-bit two's complement
range, `2147483648 = 2^31` and `4294967296 = 2^32`. -/
def wrapInt32 (x : Int) : Int := (x + 2147483648) % 4294967296 - 2147483648

theorem wrapInt32_eq_sub (b : Int) : wrapInt32 b = b - 4294967296 * ((b + 2147483648) / 4294967296) := by
  have := Int.emod_add_ediv (b + 2147483648) 4294967296
  unfold wrapInt32
  omega

theorem wrapInt32_mul_wrapInt32 (a b : Int) : wrapInt32 (a * wrapInt32 b) = wrapInt32 (a * b) := by
  rw [wrapInt32_eq_sub b, Int.mul_sub, Int.mul_left_comm]
  unfold wrapInt32
  rw [show a * b - 4294967296 * (a * ((b + 2147483648) / 4294967296)) + 2147483648 =
      a * b + 2147483648 + 4294967296 * (-(a * ((b + 2147483648) / 4294967296))) by omega,
    Int.add_mul_emod_self_left]

namespace DictionaryAttr

def filter (d : DictionaryAttr) (p : NamedAttribute → Bool) : DictionaryAttr :=
  ⟨d.entries.filter p, d.nodup.sublist ((List.filter_sublist d.entries).map _)⟩

/-- `Operation::setDialectAttrs`: the given attributes, and of the old ones
those whose name has no dot. -/
def setDialectAttrs (d : DictionaryAttr) (attrs : List NamedAttribute) : DictionaryAttr :=
  attrs.foldl (fun d a => d.set a.name a.value) (d.filter fun a => !a.name.contains '.')

end DictionaryAttr

theorem lookupAttr_filter (k : String) (q : String → Bool) :
    ∀ as : List NamedAttribute, lookupAttr k (as.filter fun a => q a.name) = if q k then lookupAttr k as else none
  | [] => by simp
  | a :: as => by
    by_cases ha : a.name = k
    · subst ha
      by_cases hq : q a.name <;> simp [List.filter_cons, hq, lookupAttr_cons, lookupAttr_filter a.name q as]
    · by_cases hq : q a.name <;> simp [List.filter_cons, hq, lookupAttr_cons, ha, lookupAttr_filter k q as]

theorem DictionaryAttr.get_filter (d : DictionaryAttr) (q : String → Bool) (k : String) :
    (d.filter fun a => q a.name).get k = if q k then d.get k else none :=
  lookupAttr_filter k q d.entries

theorem DictionaryAttr.get_foldl_set (k : String) :
    ∀ (attrs : List NamedAttribute) (d : DictionaryAttr), k ∉ attrs.map NamedAttribute.name →
      (attrs.foldl (fun d a => d.set a.name a.value) d).get k = d.get k
  | [], _, _ => rfl
  | a :: as, d, h => by
    simp only [List.map_cons, List.mem_cons, not_or] at h
    simp [DictionaryAttr.get_foldl_set k as _ h.2, Ne.symm h.1]

/-- Modelled from the spec: `filterFuncAttributes(funcOp, /*filterArgAttrs=*/true, ...)`,
the function's attributes without the symbol name, the function type, the
varargs marker and the argument attributes. -/
def filterFuncAttributes (attrs : DictionaryAttr) : DictionaryAttr :=
  attrs.filter fun a =>
    !(a.name = "sym_name" || a.name = "function_type" || a.name = "std.varargs" || a.name = "arg_attrs")

theorem get_allocationOffset_filterFuncAttributes (attrs : DictionaryAttr) :
    (filterFuncAttributes attrs).get "allocation.offset" = attrs.get "allocation.offset" :=
  (DictionaryAttr.get_filter attrs
    (fun n => !(n = "sym_name" || n = "function_type" || n = "std.varargs" || n = "arg_attrs")) _).trans (by simp)

/-- `FuncOpConversion::amendFuncOp`. `spId` names the block argument that
`region.addArgument` creates. `getAllArgAttrs()` is a null `ArrayAttr` when no
argument has attributes, and `llvm::to_vector` reads through it. -/
def amendFuncOp (funcOp : FuncOp) (spId : Nat) : Except PatternError FuncOp :=
  match funcOp.argAttrs with
  | none => .error (.crash "llvm::to_vector on the null ArrayAttr of getAllArgAttrs()")
  | some argAttrs =>
    .ok { funcOp with
      inputs := funcOp.inputs ++ [.llvmPtr 3]
      attrs := filterFuncAttributes funcOp.attrs
      argAttrs := some (argAttrs ++ [DictionaryAttr.empty])
      args := funcOp.args ++ [⟨spId, .llvmPtr 3⟩] }

def convertResultTypes (o : LowerToLLVMOptions) : List Ty → Option (Option Ty)
  | [] => some none
  | rs => (packFunctionResults o rs).map some

theorem convertResultTypes_isSome {o : LowerToLLVMOptions} {ts : List Ty} {r : Option Ty}
    (h : convertResultTypes o ts = some r) : r.isSome = !ts.isEmpty := by
  cases ts with
  | nil => cases h; rfl
  | cons t ts =>
    simp only [convertResultTypes, Option.map_eq_some'] at h
    obtain ⟨_, -, rfl⟩ := h
    rfl

def packedResultType : List Ty → Option Ty
  | [] => none
  | [u] => some u
  | us => some (.llvmStruct us)

theorem packedResultType_of_lt {us : List Ty} (h : us.length < 2) : packedResultType us = us.head? := by
  match us, h with
  | [], _ | [_], _ => rfl

theorem packedResultType_of_le {us : List Ty} (h : 2 ≤ us.length) : packedResultType us = some (.llvmStruct us) := by
  match us, h with
  | _ :: _ :: _, _ => rfl

theorem convertResultTypes_eq {o : LowerToLLVMOptions} {ts us : List Ty}
    (h : convertTypes o ts = some us) : convertResultTypes o ts = some (packedResultType us) := by
  match ts, us, convertTypes_eq_some.mp h with
  | [], [], _ => rfl
  | [t], [u], .cons ht .nil => simp [convertResultTypes, packFunctionResults, packedResultType, ht]
  | _ :: _ :: _, _ :: _ :: _, _ => simp [convertResultTypes, packFunctionResults, packedResultType, h]

/-- `FuncOpConversionBase::convertFuncOpToLLVMFuncOp`: `none` when a parameter
or result type has no conversion. Parameters convert one to one (no memref
reaches a Triton function), results are packed, and the entry block's
arguments take the converted parameter types. -/
def convertFuncOpToLLVMFuncOp (o : LowerToLLVMOptions) (funcOp : FuncOp) : Option LLVMFuncOp :=
  (convertTypes o funcOp.inputs).bind fun params =>
    (convertResultTypes o funcOp.results).map fun result =>
    { name := funcOp.name
      isPublic := funcOp.isPublic
      params
      result
      attrs := filterFuncAttributes funcOp.attrs
      argAttrs := funcOp.argAttrs
      passthrough := []
      args := (funcOp.args.zip params).map fun ap => (⟨ap.1.id, ap.2⟩ : Value)
      body := funcOp.body }

/-- The attributes `FuncOpConversion::matchAndRewrite` sets on the new
`llvm.func`: the kernel marker and the thread counts of the target. -/
def targetFuncAttrs (target : Target) (numWarps threadsPerWarp : Int) (isKernel : Bool)
    (attrs : DictionaryAttr) : DictionaryAttr :=
  match target with
  | .nvvm | .rocdl =>
    let attrs := if isKernel then attrs.set "nvvm.kernel" (.integer 1 1) else attrs
    attrs.set "nvvm.maxntid" (.denseI32Array [wrapInt32 (32 * numWarps)])
  | .genx =>
    attrs.setDialectAttrs
      ((if isKernel then [⟨"genx.kernel", .integer 32 1⟩] else []) ++
        [⟨"genx.max_work_group_size", .i32Array [wrapInt32 (threadsPerWarp * numWarps), 1, 1]⟩,
         ⟨"genx.reqd_sub_group_size", .i32Array [threadsPerWarp]⟩])

/-- The outcome of `FuncOpConversion::matchAndRewrite` on one `tt.func`: the
new `llvm.func`, or why the pattern gave up; and the original function as the
driver finds it once it has undone the rewriter's recorded changes (the
block argument `amendFuncOp` adds goes straight into the region). -/
structure FuncRewrite where
  result : Except PatternError LLVMFuncOp
  residual : FuncOp

/-- `FuncOpConversion::matchAndRewrite`. -/
def funcOpConversion (o : LowerToLLVMOptions) (numWarps threadsPerWarp : Int) (target : Target)
    (funcOp : FuncOp) (spId : Nat) : FuncRewrite :=
  let isKernel := funcOp.isPublic
  let amended : Except PatternError FuncOp := if isKernel then .ok funcOp else amendFuncOp funcOp spId
  let residual := if isKernel then funcOp else { funcOp with args := funcOp.args ++ [⟨spId, .llvmPtr 3⟩] }
  match amended with
  | .error e => ⟨.error e, funcOp⟩
  | .ok amendedFuncOp =>
    match convertFuncOpToLLVMFuncOp o amendedFuncOp with
    | none => ⟨.error (.matchFailure "convertFuncOpToLLVMFuncOp"), residual⟩
    | some newFuncOp =>
      ⟨.ok { newFuncOp with
          attrs := targetFuncAttrs target numWarps threadsPerWarp isKernel newFuncOp.attrs
          passthrough := if isKernel then newFuncOp.passthrough else ["noinline"] }, residual⟩

theorem get_maxntid_targetFuncAttrs {target : Target} (numWarps threadsPerWarp : Int) (isKernel : Bool)
    (attrs : DictionaryAttr) (ht : target ≠ .genx) :
    (targetFuncAttrs target numWarps threadsPerWarp isKernel attrs).get "nvvm.maxntid" =
      some (.denseI32Array [wrapInt32 (32 * numWarps)]) := by
  cases target <;> simp_all [targetFuncAttrs]

theorem get_maxWorkGroupSize_targetFuncAttrs (numWarps threadsPerWarp : Int) (isKernel : Bool)
    (attrs : DictionaryAttr) :
    (targetFuncAttrs .genx numWarps threadsPerWarp isKernel attrs).get "genx.max_work_group_size" =
      some (.i32Array [wrapInt32 (threadsPerWarp * numWarps), 1, 1]) := by
  simp [targetFuncAttrs, DictionaryAttr.setDialectAttrs, List.foldl_append]

theorem get_allocationOffset_targetFuncAttrs (target : Target) (numWarps threadsPerWarp : Int) (isKernel : Bool)
    (attrs : DictionaryAttr) :
    (targetFuncAttrs target numWarps threadsPerWarp isKernel attrs).get "allocation.offset" =
      if target = .genx then none else attrs.get "allocation.offset" := by
  cases target
  · cases isKernel <;> simp [targetFuncAttrs]
  · cases isKernel <;> simp [targetFuncAttrs]
  · simp only [targetFuncAttrs, DictionaryAttr.setDialectAttrs, if_true]
    rw [DictionaryAttr.get_foldl_set _ _ _ (by cases isKernel <;> simp),
      DictionaryAttr.get_filter attrs (fun n => !n.contains '.')]
    simp +decide [String.contains, String.any, String.anyAux]

/-! ## What a successful rewrite produces -/

theorem amendFuncOp_ok {funcOp g : FuncOp} {spId : Nat} (h : amendFuncOp funcOp spId = .ok g) :
    g.name = funcOp.name ∧ g.isPublic = funcOp.isPublic ∧ g.results = funcOp.results ∧
      g.inputs = funcOp.inputs ++ [.llvmPtr 3] ∧ g.args = funcOp.args ++ [⟨spId, .llvmPtr 3⟩] ∧
      g.body = funcOp.body ∧ g.attrs = filterFuncAttributes funcOp.attrs ∧
      ∃ argAttrs, funcOp.argAttrs = some argAttrs ∧ g.argAttrs = some (argAttrs ++ [DictionaryAttr.empty]) := by
  unfold amendFuncOp at h
  split at h
  · cases h
  · cases h; exact ⟨rfl, rfl, rfl, rfl, rfl, rfl, rfl, _, ‹_›, rfl⟩

theorem amendFuncOp_error {funcOp : FuncOp} {spId : Nat} {e : PatternError}
    (h : amendFuncOp funcOp spId = .error e) :
    e = .crash "llvm::to_vector on the null ArrayAttr of getAllArgAttrs()" := by
  unfold amendFuncOp at h
  split at h <;> cases h
  rfl

theorem amended_ok {funcOp g : FuncOp} {spId : Nat}
    (h : (if funcOp.isPublic then Except.ok funcOp else amendFuncOp funcOp spId) = .ok g) :
    g.name = funcOp.name ∧ g.isPublic = funcOp.isPublic ∧ g.results = funcOp.results ∧
      g.inputs = (if funcOp.isPublic then funcOp.inputs else funcOp.inputs ++ [.llvmPtr 3]) ∧
      g.args = (if funcOp.isPublic then funcOp.args else funcOp.args ++ [⟨spId, .llvmPtr 3⟩]) ∧
      g.body = funcOp.body := by
  split_ifs at h ⊢
  · cases h; exact ⟨rfl, rfl, rfl, rfl, rfl, rfl⟩
  · obtain ⟨h1, h2, h3, h4, h5, h6, -⟩ := amendFuncOp_ok h
    exact ⟨h1, h2, h3, h4, h5, h6⟩

theorem get_allocationOffset_amended {funcOp g : FuncOp} {spId : Nat}
    (h : (if funcOp.isPublic then Except.ok funcOp else amendFuncOp funcOp spId) = .ok g) :
    g.attrs.get "allocation.offset" = funcOp.attrs.get "allocation.offset" := by
  split_ifs at h
  · cases h; rfl
  · unfold amendFuncOp at h
    split at h
    · cases h
    · cases h; exact get_allocationOffset_filterFuncAttributes _

theorem convertFuncOpToLLVMFuncOp_some {o : LowerToLLVMOptions} {funcOp : FuncOp} {f : LLVMFuncOp}
    (h : convertFuncOpToLLVMFuncOp o funcOp = some f) :
    convertTypes o funcOp.inputs = some f.params ∧ convertResultTypes o funcOp.results = some f.result ∧
      f.name = funcOp.name ∧ f.isPublic = funcOp.isPublic ∧
      f.args = (funcOp.args.zip f.params).map (fun ap => ⟨ap.1.id, ap.2⟩) ∧ f.body = funcOp.body := by
  simp only [convertFuncOpToLLVMFuncOp, Option.bind_eq_some, Option.map_eq_some'] at h
  obtain ⟨params, hp, result, hr, rfl⟩ := h
  exact ⟨hp, hr, rfl, rfl, rfl, rfl⟩

theorem funcOpConversion_ok {o : LowerToLLVMOptions} {numWarps threadsPerWarp : Int} {target : Target}
    {funcOp : FuncOp} {spId : Nat} {f : LLVMFuncOp}
    (h : (funcOpConversion o numWarps threadsPerWarp target funcOp spId).result = .ok f) :
    f.name = funcOp.name ∧ f.isPublic = funcOp.isPublic ∧
      convertTypes o (if funcOp.isPublic then funcOp.inputs else funcOp.inputs ++ [.llvmPtr 3]) =
        some f.params ∧
      convertResultTypes o funcOp.results = some f.result ∧
      (∃ attrs, f.attrs = targetFuncAttrs target numWarps threadsPerWarp funcOp.isPublic attrs) ∧
      f.body = funcOp.body ∧
      f.args = ((if funcOp.isPublic then funcOp.args else funcOp.args ++ [⟨spId, .llvmPtr 3⟩]).zip f.params).map
        fun ap => ⟨ap.1.id, ap.2⟩ := by
  simp only [funcOpConversion] at h
  split at h
  · cases h
  · rename_i g hg
    obtain ⟨hn, hv, hres, hin, hargs, hbody⟩ := amended_ok hg
    split at h
    · cases h
    · rename_i f' hf'
      obtain ⟨hp, hr, hn', hv', hargs', hbody'⟩ := convertFuncOpToLLVMFuncOp_some hf'
      cases h
      exact ⟨hn'.trans hn, hv'.trans hv, hin ▸ hp, hres ▸ hr, ⟨_, rfl⟩, hbody'.trans hbody, hargs ▸ hargs'⟩

theorem get_allocationOffset_funcOpConversion {o : LowerToLLVMOptions} {numWarps threadsPerWarp : Int}
    {target : Target} {funcOp : FuncOp} {spId : Nat} {f : LLVMFuncOp}
    (h : (funcOpConversion o numWarps threadsPerWarp target funcOp spId).result = .ok f) :
    f.attrs.get "allocation.offset" = if target = .genx then none else funcOp.attrs.get "allocation.offset" := by
  simp only [funcOpConversion] at h
  split at h
  · cases h
  · rename_i g hg
    split at h
    · cases h
    · rename_i f' hf'
      simp only [convertFuncOpToLLVMFuncOp, Option.bind_eq_some, Option.map_eq_some'] at hf'
      obtain ⟨_, -, _, -, rfl⟩ := hf'
      cases h
      rw [get_allocationOffset_targetFuncAttrs, get_allocationOffset_filterFuncAttributes,
        get_allocationOffset_amended hg]

/-! ## What a failed rewrite leaves -/

theorem funcOpConversion_error {o : LowerToLLVMOptions} {numWarps threadsPerWarp : Int} {target : Target}
    {funcOp : FuncOp} {spId : Nat} {e : PatternError}
    (h : (funcOpConversion o numWarps threadsPerWarp target funcOp spId).result = .error e) :
    e = .crash "llvm::to_vector on the null ArrayAttr of getAllArgAttrs()" ∨
      e = .matchFailure "convertFuncOpToLLVMFuncOp" := by
  simp only [funcOpConversion] at h
  split at h
  · rename_i he
    cases h
    split_ifs at he
    exact .inl (amendFuncOp_error he)
  · split at h <;> cases h
    exact .inr rfl

theorem funcOpConversion_of_argAttrs_none {o : LowerToLLVMOptions} {numWarps threadsPerWarp : Int}
    {target : Target} {funcOp : FuncOp} {spId : Nat} (hk : funcOp.isPublic = false) (hn : funcOp.argAttrs = none) :
    (funcOpConversion o numWarps threadsPerWarp target funcOp spId).result =
      .error (.crash "llvm::to_vector on the null ArrayAttr of getAllArgAttrs()") := by
  simp [funcOpConversion, hk, amendFuncOp, hn]

theorem funcOpConversion_residual_of_matchFailure {o : LowerToLLVMOptions} {numWarps threadsPerWarp : Int}
    {target : Target} {funcOp : FuncOp} {spId : Nat} {reason : String}
    (h : (funcOpConversion o numWarps threadsPerWarp target funcOp spId).result = .error (.matchFailure reason))
    (hk : funcOp.isPublic = false) :
    (funcOpConversion o numWarps threadsPerWarp target funcOp spId).residual =
      { funcOp with args := funcOp.args ++ [⟨spId, .llvmPtr 3⟩] } := by
  simp only [funcOpConversion, hk, Bool.false_eq_true, ↓reduceIte] at h ⊢
  cases ha : amendFuncOp funcOp spId with
  | error e =>
    obtain rfl := amendFuncOp_error ha
    simp only [ha] at h
    cases h
  | ok g =>
    cases hc : convertFuncOpToLLVMFuncOp o g <;> simp only [ha, hc] at h ⊢

end TritonGPUToLLVM
