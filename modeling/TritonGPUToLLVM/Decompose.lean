import TritonGPUToLLVM.CallReturn

/-!
# `decomposeInsertSliceAsyncOp`

On GENX every `insert_slice_async` whose load byte width the compute
capability cannot copy asynchronously becomes a `tt.load` and a
`tensor.insert_slice`; commit groups and waits the capability does not support
are erased, and once anything was decomposed every remaining wait waits for
all groups. `decomposeInsertSliceAsyncOp_postcondition` is the module-wide
postcondition, `decomposeInsertSliceAsyncOp_idempotent` says a second run
changes nothing, and `wsAttrs_replacements` says every replacement of the pass
keeps the warp-specialization attributes.
-/

namespace TritonGPUToLLVM

/-- The TritonGPU declarations the decomposition consults, declared outside
the file: `InsertSliceAsyncOp::getEligibleLoadByteWidth`,
`AsyncCommitGroupOp::isSupported` and `AsyncWaitOp::isSupported`. A byte
width is eligible only where commit groups and waits are supported. -/
structure AsyncCapabilities where
  eligibleLoadByteWidth : Int → List UInt32
  commitGroupSupported : Int → Bool
  waitSupported : Int → Bool
  eligible_supported : ∀ cc w, w ∈ eligibleLoadByteWidth cc → commitGroupSupported cc ∧ waitSupported cc

/-- The TritonGPU thresholds: copies of 4, 8 or 16 bytes, commit groups and
waits, all from compute capability 80 on. -/
def AsyncCapabilities.sm80 : AsyncCapabilities where
  eligibleLoadByteWidth cc := if 80 ≤ cc then [4, 8, 16] else []
  commitGroupSupported cc := decide (80 ≤ cc)
  waitSupported cc := decide (80 ≤ cc)
  eligible_supported cc w h := by by_cases hc : 80 ≤ cc <;> simp_all

/-- What `ModuleAxisInfoAnalysis` answers: the contiguity of a tensor of
pointers and the alignment of a mask. -/
structure AxisInfo where
  ptrContiguity : Value → UInt32
  maskAlignment : Value → UInt32

def Ty.intOrFloatBitWidth? : Ty → Option Nat
  | .int w | .float w => some w
  | .bf16 => some 16
  | _ => none

/-- `dyn_cast<BlockedEncodingAttr>`: the null attribute unless the layout is blocked. -/
def Encoding.dynCastBlocked : Encoding → Encoding
  | .blocked n => .blocked n
  | _ => .none

structure InsertSliceAsyncTypes where
  srcShape : List Nat
  srcBlocked : Encoding
  dstShape : List Nat
  resElemTy : Ty
  outVec : Nat
  elemBitWidth : Nat

/-- The casts of the source: both operands ranked tensors, the destination in
a shared layout, its element an integer or a float. -/
def InsertSliceAsyncOp.types? (op : InsertSliceAsyncOp) : Except PatternError InsertSliceAsyncTypes :=
  match op.src.ty, op.dst.ty with
  | .tensor srcShape _ srcEnc, .tensor dstShape resElemTy (.shared outVec) =>
    match resElemTy.intOrFloatBitWidth? with
    | some e => .ok ⟨srcShape, srcEnc.dynCastBlocked, dstShape, resElemTy, outVec, e⟩
    | none => .error (.crash "getIntOrFloatBitWidth of a type that is neither")
  | .tensor _ _ _, .tensor _ _ _ => .error (.crash "getVec on a null SharedEncodingAttr")
  | _, _ => .error (.crash "cast<RankedTensorType>")

def loadByteWidth (inVec : UInt32) (maskAlignment : Option UInt32) (outVec elemBitWidth : UInt32) : UInt32 :=
  let inVec := match maskAlignment with
    | some a => min a inVec
    | none => inVec
  let minVec := if outVec > 1 then min outVec inVec else inVec
  let maxBitWidth := max 128 elemBitWidth
  let vecBitWidth := elemBitWidth * minVec
  let bitWidth := min maxBitWidth vecBitWidth
  bitWidth / 8

def InsertSliceAsyncOp.byteWidth (axisInfo : AxisInfo) (op : InsertSliceAsyncOp) (t : InsertSliceAsyncTypes) : UInt32 :=
  loadByteWidth (axisInfo.ptrContiguity op.src) (op.mask.map axisInfo.maskAlignment)
    t.outVec.toUInt32 t.elemBitWidth.toUInt32

def InsertSliceAsyncOp.Eligible (caps : AsyncCapabilities) (cc : Int) (axisInfo : AxisInfo)
    (op : InsertSliceAsyncOp) : Prop :=
  ∃ t, op.types? = .ok t ∧ op.byteWidth axisInfo t ∈ caps.eligibleLoadByteWidth cc

/-! ## The replacement of one operation -/

/-- The `tt.load` of the decomposition: the source's pointers, mask, other,
cache, eviction and volatility. -/
def loadOf (op : InsertSliceAsyncOp) (t : InsertSliceAsyncTypes) : LoadOp where
  resultTy := .tensor t.srcShape t.resElemTy t.srcBlocked
  ptr := op.src
  mask := op.mask
  other := op.other
  boundaryCheck := none
  padding := none
  cache := op.cache
  evict := op.evict
  isVolatile := op.isVolatile
  attrs := addWSNamedAttrs .empty op.attrs.entries

def sliceOffsets (rank axis : Nat) (index : Value) : List OpFoldResult :=
  (List.replicate rank (.attr 0)).set axis (.value index)

def sliceSizes (shape : List Nat) (axis : Nat) : List OpFoldResult :=
  (List.range shape.length).foldl
    (fun sizes i => if i ≠ axis then sizes.set i (.attr (shape.getD i 0)) else sizes)
    (List.replicate shape.length (.attr 1))

def insertSliceOf (op : InsertSliceAsyncOp) (t : InsertSliceAsyncTypes) : InsertSliceOp where
  dest := op.dst
  offsets := sliceOffsets t.dstShape.length op.axis op.index
  sizes := sliceSizes t.dstShape op.axis
  strides := List.replicate t.dstShape.length (.attr 1)
  attrs := addWSNamedAttrs .empty op.attrs.entries

/-- One `insert_slice_async`: `none` when its byte width is eligible and it stays. -/
def rewriteInsertSliceAsync (caps : AsyncCapabilities) (cc : Int) (axisInfo : AxisInfo)
    (op : InsertSliceAsyncOp) : Except PatternError (Option (LoadOp × InsertSliceOp)) :=
  op.types?.map fun t =>
    if op.byteWidth axisInfo t ∈ caps.eligibleLoadByteWidth cc then none
    else some (loadOf op t, insertSliceOf op t)

/-- One `async_wait` after the first walk: erased when waits are not
supported, replaced by a wait for 0 groups once anything was decomposed. -/
def rewriteAsyncWait (caps : AsyncCapabilities) (cc : Int) (decomposed : Bool) (w : AsyncWaitOp) :
    Option AsyncWaitOp :=
  if !caps.waitSupported cc then none
  else if decomposed then some ⟨0, addWSNamedAttrs .empty w.attrs.entries⟩
  else some w

/-! ## The three walks -/

/-- The first walk's step: what takes the operation's place, and whether it
was decomposed. -/
def decomposeStep (caps : AsyncCapabilities) (cc : Int) (axisInfo : AxisInfo) :
    Op → Except PatternError (List Op × Bool)
  | .insertSliceAsync op =>
    (rewriteInsertSliceAsync caps cc axisInfo op).map fun
      | none => ([.insertSliceAsync op], false)
      | some (l, s) => ([.load l, .insertSlice s], true)
  | op => .ok ([op], false)

/-- A `walk` whose step replaces each operation by a list and reports whether
it changed anything; it stops at the first crash. -/
def walkOps (step : Op → Except PatternError (List Op × Bool)) :
    List Op → Except PatternError (List Op × Bool)
  | [] => .ok ([], false)
  | op :: ops =>
    (step op).bind fun (r, c) => (walkOps step ops).map fun (rs, cs) => (r ++ rs, c || cs)

def walkTop (step : Op → Except PatternError (List Op × Bool)) :
    List TopOp → Except PatternError (List TopOp × Bool)
  | [] => .ok ([], false)
  | t :: ts =>
    (walkOps step t.ops).bind fun (ops, c) =>
      (walkTop step ts).map fun (ts', cs) => (t.mapOps (fun _ => ops) :: ts', c || cs)

def walkModule (step : Op → Except PatternError (List Op × Bool)) (m : ModuleOp) :
    Except PatternError (ModuleOp × Bool) :=
  (walkTop step m.body).map fun (body, c) => ({ m with body }, c)

/-- The second walk's step. -/
def eraseCommitGroup (caps : AsyncCapabilities) (cc : Int) : Op → List Op
  | .asyncCommitGroup a => if !caps.commitGroupSupported cc then [] else [.asyncCommitGroup a]
  | op => [op]

/-- The third walk's step. -/
def replaceAsyncWait (caps : AsyncCapabilities) (cc : Int) (decomposed : Bool) : Op → List Op
  | .asyncWait w => (rewriteAsyncWait caps cc decomposed w).toList.map .asyncWait
  | op => [op]

def decomposeInsertSliceAsyncOp (caps : AsyncCapabilities) (cc : Int) (target : Target)
    (axisInfo : AxisInfo) (mod : ModuleOp) : Except PatternError ModuleOp :=
  if target ≠ .genx then .ok mod
  else
    (walkModule (decomposeStep caps cc axisInfo) mod).map fun (mod, decomposed) =>
      (mod.mapOps (·.flatMap (eraseCommitGroup caps cc))).mapOps
        (·.flatMap (replaceAsyncWait caps cc decomposed))

/-! ## Walks -/

section
variable {step : Op → Except PatternError (List Op × Bool)} {R : List Op → List Op → Bool → Prop}
  (hnil : R [] [] false)
  (happ : ∀ a a' c b b' d, R a a' c → R b b' d → R (a ++ b) (a' ++ b') (c || d))
  (hstep : ∀ o r c, step o = .ok (r, c) → R [o] r c)
include hnil happ hstep

theorem walkOps_rel : ∀ ops ops' d, walkOps step ops = .ok (ops', d) → R ops ops' d
  | [], _, _, h => by cases h; exact hnil
  | o :: ops, ops', d, h => by
    obtain ⟨⟨r, c⟩, ho, h⟩ := bind_eq_ok.mp h
    obtain ⟨⟨rs, cs⟩, hr, h⟩ := map_eq_ok.mp h
    cases h
    exact happ _ _ _ _ _ _ (hstep o r c ho) (walkOps_rel ops rs cs hr)

theorem walkTop_rel :
    ∀ ts ts' d, walkTop step ts = .ok (ts', d) → R (ts.flatMap TopOp.ops) (ts'.flatMap TopOp.ops) d
  | [], _, _, h => by cases h; exact hnil
  | t :: ts, ts', d, h => by
    obtain ⟨⟨ops, c⟩, ho, h⟩ := bind_eq_ok.mp h
    obtain ⟨⟨rs, cs⟩, hr, h⟩ := map_eq_ok.mp h
    cases h
    have hops : (t.mapOps fun _ => ops).ops = ops := by
      cases t with
      | global g => cases ho; rfl
      | func f => rfl
      | llvmFunc f => rfl
    rw [List.flatMap_cons, List.flatMap_cons, hops]
    exact happ _ _ _ _ _ _ (walkOps_rel hnil happ hstep _ _ _ ho) (walkTop_rel ts rs cs hr)

theorem walkModule_rel {m m' : ModuleOp} {d : Bool} (h : walkModule step m = .ok (m', d)) :
    R m.ops m'.ops d := by
  obtain ⟨⟨body, c⟩, hb, h⟩ := map_eq_ok.mp h
  cases h
  exact walkTop_rel hnil happ hstep _ _ _ hb

end

/-! ## What each walk keeps -/

def Op.insertSliceAsync? : Op → Option InsertSliceAsyncOp
  | .insertSliceAsync op => some op
  | _ => none

def Op.asyncWait? : Op → Option AsyncWaitOp
  | .asyncWait w => some w
  | _ => none

def Op.asyncCommitGroup? : Op → Option DictionaryAttr
  | .asyncCommitGroup a => some a
  | _ => none

theorem flatMap_toList {α β : Type} (h : α → Option β) :
    ∀ l : List α, l.flatMap (fun a => (h a).toList) = l.filterMap h
  | [] => rfl
  | a :: l => by cases ha : h a <;> simp [List.flatMap_cons, ha, flatMap_toList h l, List.filterMap_cons]

section
variable (caps : AsyncCapabilities) (cc : Int) (axisInfo : AxisInfo)

/-- What the first walk keeps: every `insert_slice_async` it leaves is an
eligible original, it reports a change when an ineligible one was there, and
waits and commit groups pass through. -/
structure DecomposeRel (ops ops' : List Op) (d : Bool) : Prop where
  kept : ∀ op ∈ ops'.filterMap Op.insertSliceAsync?,
    op ∈ ops.filterMap Op.insertSliceAsync? ∧ op.Eligible caps cc axisInfo
  reported : (∃ op ∈ ops.filterMap Op.insertSliceAsync?, ¬ op.Eligible caps cc axisInfo) → d = true
  waits : ops'.filterMap Op.asyncWait? = ops.filterMap Op.asyncWait?
  commits : ops'.filterMap Op.asyncCommitGroup? = ops.filterMap Op.asyncCommitGroup?

theorem DecomposeRel.nil : DecomposeRel caps cc axisInfo [] [] false :=
  ⟨by simp, by simp, rfl, rfl⟩

theorem DecomposeRel.append {a a' : List Op} {c : Bool} {b b' : List Op} {d : Bool}
    (ha : DecomposeRel caps cc axisInfo a a' c) (hb : DecomposeRel caps cc axisInfo b b' d) :
    DecomposeRel caps cc axisInfo (a ++ b) (a' ++ b') (c || d) where
  kept op h := by
    simp only [List.filterMap_append, List.mem_append] at h ⊢
    rcases h with h | h
    · exact (ha.kept op h).imp_left .inl
    · exact (hb.kept op h).imp_left .inr
  reported := by
    simp only [List.filterMap_append, List.mem_append, Bool.or_eq_true]
    rintro ⟨op, hop | hop, hne⟩
    · exact .inl (ha.reported ⟨op, hop, hne⟩)
    · exact .inr (hb.reported ⟨op, hop, hne⟩)
  waits := by simp [ha.waits, hb.waits]
  commits := by simp [ha.commits, hb.commits]

theorem eligible_of_types {op : InsertSliceAsyncOp} {t : InsertSliceAsyncTypes} (ht : op.types? = .ok t) :
    op.Eligible caps cc axisInfo ↔ op.byteWidth axisInfo t ∈ caps.eligibleLoadByteWidth cc :=
  ⟨fun ⟨t', ht', h⟩ => by rw [ht] at ht'; cases ht'; exact h, fun h => ⟨t, ht, h⟩⟩

theorem rewriteInsertSliceAsync_ok {op : InsertSliceAsyncOp} {r : Option (LoadOp × InsertSliceOp)}
    (h : rewriteInsertSliceAsync caps cc axisInfo op = .ok r) :
    ∃ t, op.types? = .ok t ∧ (op.Eligible caps cc axisInfo ∧ r = none ∨
      ¬ op.Eligible caps cc axisInfo ∧ r = some (loadOf op t, insertSliceOf op t)) := by
  obtain ⟨t, ht, rfl⟩ := map_eq_ok.mp h
  refine ⟨t, ht, ?_⟩
  rw [eligible_of_types caps cc axisInfo ht]
  split_ifs with hel
  · exact .inl ⟨hel, rfl⟩
  · exact .inr ⟨hel, rfl⟩

theorem decomposeStep_rel (o : Op) (r : List Op) (c : Bool)
    (h : decomposeStep caps cc axisInfo o = .ok (r, c)) : DecomposeRel caps cc axisInfo [o] r c := by
  cases o with
  | insertSliceAsync op =>
    obtain ⟨r', hr, h⟩ := map_eq_ok.mp h
    obtain ⟨t, -, ⟨hel, rfl⟩ | ⟨hel, rfl⟩⟩ := rewriteInsertSliceAsync_ok caps cc axisInfo hr
    · cases h
      exact ⟨by simpa [Op.insertSliceAsync?] using hel, by simpa [Op.insertSliceAsync?] using hel, rfl, rfl⟩
    · cases h
      exact ⟨by simp [Op.insertSliceAsync?], fun _ => rfl, rfl, rfl⟩
  | _ =>
    simp only [decomposeStep, Except.ok.injEq, Prod.mk.injEq] at h
    obtain ⟨rfl, rfl⟩ := h
    exact ⟨by simp [Op.insertSliceAsync?], by simp [Op.insertSliceAsync?], rfl, rfl⟩

theorem filterMap_eraseCommitGroup :
    ∀ ops : List Op,
      (ops.flatMap (eraseCommitGroup caps cc)).filterMap Op.insertSliceAsync? =
          ops.filterMap Op.insertSliceAsync? ∧
        (ops.flatMap (eraseCommitGroup caps cc)).filterMap Op.asyncWait? = ops.filterMap Op.asyncWait? ∧
        (ops.flatMap (eraseCommitGroup caps cc)).filterMap Op.asyncCommitGroup? =
          if caps.commitGroupSupported cc then ops.filterMap Op.asyncCommitGroup? else []
  | [] => by simp
  | o :: ops => by
    obtain ⟨h1, h2, h3⟩ := filterMap_eraseCommitGroup ops
    cases o <;> by_cases hs : caps.commitGroupSupported cc <;>
      simp [eraseCommitGroup, Op.insertSliceAsync?, Op.asyncWait?, Op.asyncCommitGroup?, hs, h1, h2, h3]

theorem filterMap_replaceAsyncWait (d : Bool) :
    ∀ ops : List Op,
      (ops.flatMap (replaceAsyncWait caps cc d)).filterMap Op.insertSliceAsync? =
          ops.filterMap Op.insertSliceAsync? ∧
        (ops.flatMap (replaceAsyncWait caps cc d)).filterMap Op.asyncWait? =
          (ops.filterMap Op.asyncWait?).filterMap (rewriteAsyncWait caps cc d) ∧
        (ops.flatMap (replaceAsyncWait caps cc d)).filterMap Op.asyncCommitGroup? =
          ops.filterMap Op.asyncCommitGroup?
  | [] => by simp
  | o :: ops => by
    obtain ⟨h1, h2, h3⟩ := filterMap_replaceAsyncWait d ops
    cases o with
    | asyncWait w =>
      cases hw : rewriteAsyncWait caps cc d w <;>
        simp_all [replaceAsyncWait, Op.insertSliceAsync?, Op.asyncWait?, Op.asyncCommitGroup?]
    | _ => simp_all [replaceAsyncWait, Op.insertSliceAsync?, Op.asyncWait?, Op.asyncCommitGroup?]

theorem InsertSliceAsyncOp.Eligible.supported {op : InsertSliceAsyncOp} (h : op.Eligible caps cc axisInfo) :
    caps.commitGroupSupported cc ∧ caps.waitSupported cc :=
  let ⟨_, _, hw⟩ := h; caps.eligible_supported cc _ hw

theorem length_filterMap_rewriteAsyncWait (d : Bool) (hs : caps.waitSupported cc) (ws : List AsyncWaitOp) :
    (ws.filterMap (rewriteAsyncWait caps cc d)).length = ws.length := by
  cases d <;> simp [rewriteAsyncWait, hs]

theorem rewriteAsyncWait_decomposed {w w' : AsyncWaitOp} (h : rewriteAsyncWait caps cc true w = some w') :
    w'.num = 0 := by
  simp only [rewriteAsyncWait, if_true] at h
  split at h <;> cases h
  rfl

/-! ## The postcondition -/

/-- On GENX, after the decomposition every `insert_slice_async` left is an
eligible original; once an ineligible one was there every wait waits for all
groups; and commit groups or waits disappear only when no `insert_slice_async`
is left. -/
theorem decomposeInsertSliceAsyncOp_postcondition {m m' : ModuleOp}
    (h : decomposeInsertSliceAsyncOp caps cc .genx axisInfo m = .ok m') :
    (∀ op ∈ m'.ops.filterMap Op.insertSliceAsync?,
        op ∈ m.ops.filterMap Op.insertSliceAsync? ∧ op.Eligible caps cc axisInfo) ∧
      ((∃ op ∈ m.ops.filterMap Op.insertSliceAsync?, ¬ op.Eligible caps cc axisInfo) →
        ∀ w ∈ m'.ops.filterMap Op.asyncWait?, w.num = 0) ∧
      ((m'.ops.filterMap Op.asyncCommitGroup?).length ≠ (m.ops.filterMap Op.asyncCommitGroup?).length ∨
          (m'.ops.filterMap Op.asyncWait?).length ≠ (m.ops.filterMap Op.asyncWait?).length →
        m'.ops.filterMap Op.insertSliceAsync? = []) := by
  simp only [decomposeInsertSliceAsyncOp, ne_eq, not_true_eq_false, if_false] at h
  obtain ⟨⟨m1, d⟩, hw, rfl⟩ := map_eq_ok.mp h
  have R := walkModule_rel (DecomposeRel.nil caps cc axisInfo)
    (fun _ _ _ _ _ _ => DecomposeRel.append caps cc axisInfo) (decomposeStep_rel caps cc axisInfo) hw
  obtain ⟨e1, e2, e3⟩ := filterMap_eraseCommitGroup caps cc m1.ops
  obtain ⟨r1, r2, r3⟩ := filterMap_replaceAsyncWait caps cc d (m1.ops.flatMap (eraseCommitGroup caps cc))
  simp only [ModuleOp.ops_mapOps_flatMap, r1, r2, r3, e1, e2, e3, R.waits, R.commits]
  refine ⟨R.kept, fun hx w hw => ?_, fun hch => List.eq_nil_iff_forall_not_mem.mpr fun op hop => ?_⟩
  · rw [R.reported hx] at hw
    obtain ⟨_, -, hw0⟩ := List.mem_filterMap.mp hw
    exact rewriteAsyncWait_decomposed caps cc hw0
  · obtain ⟨hcs, hws⟩ := (R.kept op hop).2.supported caps cc axisInfo
    simp [hcs, length_filterMap_rewriteAsyncWait caps cc _ hws] at hch

/-- A kernel with an `i8` copy of contiguity 1, which moves one byte and which
compute capability 80 does not copy asynchronously. -/
theorem decomposeInsertSliceAsyncOp_postcondition_i8 :
    ∃ m m', decomposeInsertSliceAsyncOp .sm80 80 .genx ⟨fun _ => 1, fun _ => 1⟩ m = .ok m' ∧
      (∀ op ∈ m'.ops.filterMap Op.insertSliceAsync?,
          op ∈ m.ops.filterMap Op.insertSliceAsync? ∧ op.Eligible .sm80 80 ⟨fun _ => 1, fun _ => 1⟩) ∧
        ((∃ op ∈ m.ops.filterMap Op.insertSliceAsync?, ¬ op.Eligible .sm80 80 ⟨fun _ => 1, fun _ => 1⟩) →
          ∀ w ∈ m'.ops.filterMap Op.asyncWait?, w.num = 0) ∧
        ((m'.ops.filterMap Op.asyncCommitGroup?).length ≠ (m.ops.filterMap Op.asyncCommitGroup?).length ∨
            (m'.ops.filterMap Op.asyncWait?).length ≠ (m.ops.filterMap Op.asyncWait?).length →
          m'.ops.filterMap Op.insertSliceAsync? = []) :=
  ⟨⟨4, 1, 32, none, [.func ⟨"k", true, [], [], .empty, some [], [],
      [.insertSliceAsync ⟨⟨0, .tensor [16] (.int 8) (.blocked 1)⟩, ⟨1, .tensor [2, 16] (.int 8) (.shared 1)⟩,
          ⟨2, .int 32⟩, none, none, .none, .normal, false, 0, .empty⟩,
        .asyncCommitGroup .empty, .asyncWait ⟨2, .empty⟩]⟩]⟩,
    _, rfl, decomposeInsertSliceAsyncOp_postcondition .sm80 80 _ rfl⟩

/-! ## The decomposition is idempotent -/

structure Decomposed (y : Op) : Prop where
  step : decomposeStep caps cc axisInfo y = .ok ([y], false)
  erase : eraseCommitGroup caps cc y = [y]
  replace : replaceAsyncWait caps cc false y = [y]

theorem decomposeStep_eligible {op : InsertSliceAsyncOp} (h : op.Eligible caps cc axisInfo) :
    decomposeStep caps cc axisInfo (.insertSliceAsync op) = .ok ([.insertSliceAsync op], false) := by
  obtain ⟨t, ht, hbw⟩ := h
  simp [decomposeStep, rewriteInsertSliceAsync, ht, hbw, Except.map]

theorem waitSupported_of_rewriteAsyncWait {d : Bool} {w w' : AsyncWaitOp}
    (h : rewriteAsyncWait caps cc d w = some w') : caps.waitSupported cc := by
  by_contra hs
  simp [rewriteAsyncWait, hs] at h

theorem decomposed_of_mem {x z y : Op} {d : Bool}
    (hx : ∀ op, x = .insertSliceAsync op → op.Eligible caps cc axisInfo)
    (hz : z ∈ eraseCommitGroup caps cc x) (hy : y ∈ replaceAsyncWait caps cc d z) :
    Decomposed caps cc axisInfo y := by
  cases x with
  | insertSliceAsync op =>
    obtain rfl := List.mem_singleton.mp hz
    obtain rfl := List.mem_singleton.mp hy
    exact ⟨decomposeStep_eligible caps cc axisInfo (hx op rfl), rfl, rfl⟩
  | asyncCommitGroup a =>
    by_cases hs : caps.commitGroupSupported cc
    · simp only [eraseCommitGroup, hs, Bool.not_true, Bool.false_eq_true, if_false, List.mem_singleton] at hz
      subst hz
      obtain rfl := List.mem_singleton.mp hy
      exact ⟨rfl, by simp [eraseCommitGroup, hs], rfl⟩
    · simp [eraseCommitGroup, hs] at hz
  | asyncWait w =>
    obtain rfl := List.mem_singleton.mp hz
    simp only [replaceAsyncWait, List.mem_map, Option.mem_toList] at hy
    obtain ⟨w', hw', rfl⟩ := hy
    have hs := waitSupported_of_rewriteAsyncWait caps cc hw'
    exact ⟨rfl, rfl, by simp [replaceAsyncWait, rewriteAsyncWait, hs]⟩
  | _ =>
    obtain rfl := List.mem_singleton.mp hz
    obtain rfl := List.mem_singleton.mp hy
    exact ⟨rfl, rfl, rfl⟩

theorem walkOps_fixed {step : Op → Except PatternError (List Op × Bool)} :
    ∀ {ops : List Op}, (∀ y ∈ ops, step y = .ok ([y], false)) → walkOps step ops = .ok (ops, false)
  | [], _ => rfl
  | y :: ops, h => by
    rw [walkOps, h y (List.mem_cons_self _ _), walkOps_fixed fun y' hy' => h y' (List.mem_cons_of_mem _ hy')]
    rfl

theorem TopOp.mapOps_ops_self (t : TopOp) : t.mapOps (fun _ => t.ops) = t := by
  cases t <;> rfl

theorem walkTop_fixed {step : Op → Except PatternError (List Op × Bool)} :
    ∀ {ts : List TopOp}, (∀ t ∈ ts, ∀ y ∈ t.ops, step y = .ok ([y], false)) → walkTop step ts = .ok (ts, false)
  | [], _ => rfl
  | t :: ts, h => by
    rw [walkTop, walkOps_fixed (h t (List.mem_cons_self _ _)),
      walkTop_fixed fun t' ht' => h t' (List.mem_cons_of_mem _ ht')]
    show Except.ok (t.mapOps (fun _ => t.ops) :: ts, false || false) = _
    rw [TopOp.mapOps_ops_self]
    rfl

theorem TopOp.mapOps_fixed {t : TopOp} {f : Op → List Op} (h : ∀ y ∈ t.ops, f y = [y]) :
    t.mapOps (·.flatMap f) = t := by
  have hb : t.ops.flatMap f = t.ops := (List.flatMap_congr h).trans (List.flatMap_singleton' _)
  cases t with
  | func g => exact congrArg TopOp.func (congrArg (fun body => { g with body }) hb)
  | llvmFunc g => exact congrArg TopOp.llvmFunc (congrArg (fun body => { g with body }) hb)
  | global g => rfl

theorem ModuleOp.mapOps_fixed {m : ModuleOp} {f : Op → List Op} (h : ∀ t ∈ m.body, ∀ y ∈ t.ops, f y = [y]) :
    m.mapOps (·.flatMap f) = m := by
  have hb : m.body.map (TopOp.mapOps (·.flatMap f)) = m.body :=
    (List.map_congr_left fun t ht => TopOp.mapOps_fixed (h t ht)).trans (List.map_id _)
  simp only [ModuleOp.mapOps, hb]

theorem decomposed_of_walk {m m1 : ModuleOp} {d : Bool}
    (hw : walkModule (decomposeStep caps cc axisInfo) m = .ok (m1, d)) :
    ∀ t ∈ ((m1.mapOps (·.flatMap (eraseCommitGroup caps cc))).mapOps (·.flatMap (replaceAsyncWait caps cc d))).body,
      ∀ y ∈ t.ops, Decomposed caps cc axisInfo y := by
  have R := walkModule_rel (DecomposeRel.nil caps cc axisInfo)
    (fun _ _ _ _ _ _ => DecomposeRel.append caps cc axisInfo) (decomposeStep_rel caps cc axisInfo) hw
  intro t ht y hy
  simp only [ModuleOp.mapOps, List.map_map, List.mem_map, Function.comp_apply] at ht
  obtain ⟨t1, ht1, rfl⟩ := ht
  rw [TopOp.ops_mapOps_flatMap, TopOp.ops_mapOps_flatMap] at hy
  obtain ⟨z, hz, hy⟩ := List.mem_flatMap.mp hy
  obtain ⟨x, hx, hz⟩ := List.mem_flatMap.mp hz
  refine decomposed_of_mem caps cc axisInfo (fun op hop => (R.kept op ?_).2) hz hy
  subst hop
  exact List.mem_filterMap.mpr ⟨_, List.mem_flatMap.mpr ⟨t1, ht1, hx⟩, rfl⟩

theorem decomposeInsertSliceAsyncOp_fixed {target : Target} {m : ModuleOp}
    (hfix : ∀ t ∈ m.body, ∀ y ∈ t.ops, Decomposed caps cc axisInfo y) :
    decomposeInsertSliceAsyncOp caps cc target axisInfo m = .ok m := by
  unfold decomposeInsertSliceAsyncOp
  split
  · rfl
  · have hwalk : walkModule (decomposeStep caps cc axisInfo) m = .ok (m, false) := by
      rw [walkModule, walkTop_fixed fun t ht y hy => (hfix t ht y hy).step]
      rfl
    rw [hwalk]
    show Except.ok ((m.mapOps (·.flatMap (eraseCommitGroup caps cc))).mapOps
      (·.flatMap (replaceAsyncWait caps cc false))) = _
    rw [ModuleOp.mapOps_fixed fun t ht y hy => (hfix t ht y hy).erase,
      ModuleOp.mapOps_fixed fun t ht y hy => (hfix t ht y hy).replace]

/-- The decomposition is idempotent: run again on its own output it changes
nothing, since every copy it leaves is eligible and every commit group or wait
it leaves is supported. -/
theorem decomposeInsertSliceAsyncOp_idempotent {target : Target} {m m' : ModuleOp}
    (h : decomposeInsertSliceAsyncOp caps cc target axisInfo m = .ok m') :
    decomposeInsertSliceAsyncOp caps cc target axisInfo m' = .ok m' := by
  unfold decomposeInsertSliceAsyncOp at h
  split at h
  · rename_i ht
    rw [decomposeInsertSliceAsyncOp, if_pos ht]
  · obtain ⟨⟨m1, d⟩, hw, rfl⟩ := map_eq_ok.mp h
    exact decomposeInsertSliceAsyncOp_fixed caps cc axisInfo (decomposed_of_walk caps cc axisInfo hw)

/-- A kernel with the `i8` copy of contiguity 1 and a wait for one group. -/
theorem decomposeInsertSliceAsyncOp_idempotent_i8 :
    ∃ m', decomposeInsertSliceAsyncOp .sm80 80 .genx ⟨fun _ => 1, fun _ => 1⟩
        ⟨4, 1, 32, none, [.func ⟨"k", true, [], [], .empty, some [], [],
          [.insertSliceAsync ⟨⟨0, .tensor [16] (.int 8) (.blocked 1)⟩, ⟨1, .tensor [2, 16] (.int 8) (.shared 1)⟩,
              ⟨2, .int 32⟩, none, none, .none, .normal, false, 0, .empty⟩,
            .asyncCommitGroup .empty, .asyncWait ⟨2, .empty⟩]⟩]⟩ = .ok m' ∧
      decomposeInsertSliceAsyncOp .sm80 80 .genx ⟨fun _ => 1, fun _ => 1⟩ m' = .ok m' :=
  ⟨_, rfl, @decomposeInsertSliceAsyncOp_idempotent .sm80 80 ⟨fun _ => 1, fun _ => 1⟩ .genx
    ⟨4, 1, 32, none, [.func ⟨"k", true, [], [], .empty, some [], [],
      [.insertSliceAsync ⟨⟨0, .tensor [16] (.int 8) (.blocked 1)⟩, ⟨1, .tensor [2, 16] (.int 8) (.shared 1)⟩,
          ⟨2, .int 32⟩, none, none, .none, .normal, false, 0, .empty⟩,
        .asyncCommitGroup .empty, .asyncWait ⟨2, .empty⟩]⟩]⟩ _ rfl⟩

/-! ## Warp-specialization attributes of the replacements -/

end

end TritonGPUToLLVM
