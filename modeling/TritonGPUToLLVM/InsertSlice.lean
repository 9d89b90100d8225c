import TritonGPUToLLVM.AsyncCopies

/-!
# The slice the decomposition inserts

In place of every copy it cannot make asynchronous, `decomposeInsertSliceAsyncOp`
puts a `tt.load` and a `tensor.insert_slice` that writes the loaded tile where
`insert_slice_async` writes it: `decomposed_insertSlice_eq_ref` says so for
every module, rank, shape, axis and index. The semantics of
`tensor.insert_slice` are MLIR's: the source's dimensions are matched greedily
against the sizes and the unit dimensions left over are dropped. When other
unit dimensions follow the axis, the dropped one is the last of that run, and
the position read in the tile is the same as if the axis itself were dropped.
-/

namespace TritonGPUToLLVM

/-! ## Tensors and `tensor.insert_slice` -/

structure Tensor (α : Type) where
  shape : List Nat
  get : List Nat → α

def OpFoldResult.eval (ρ : Value → Int) : OpFoldResult → Int
  | .attr v => v
  | .value v => ρ v

def Ty.shape? : Ty → Option (List Nat)
  | .tensor shape _ _ => some shape
  | _ => none

/-- MLIR's `computeRankReductionMask` on static shapes: each dimension of the
original shape is matched greedily against the next one of the reduced shape;
one that does not match is dropped (`true`) and must be `1`. -/
def computeRankReductionMask : List Nat → List Nat → Option (List Bool)
  | [], [] => some []
  | [], _ :: _ => none
  | o :: os, [] => if o = 1 then (computeRankReductionMask os []).map (true :: ·) else none
  | o :: os, r :: rs =>
    if o = r then (computeRankReductionMask os rs).map (false :: ·)
    else if o = 1 then (computeRankReductionMask os (r :: rs)).map (true :: ·)
    else none

def dropDims : List Bool → List Nat → List Nat
  | true :: mask, _ :: q => dropDims mask q
  | false :: mask, x :: q => x :: dropDims mask q
  | _, _ => []

/-- The position of `p` in the slice with these offsets, sizes and strides;
`none` when `p` lies outside it. -/
def slicePos? : List Int → List Int → List Int → List Nat → Option (List Nat)
  | [], [], [], [] => some []
  | o :: os, s :: ss, t :: ts, x :: xs =>
    if o ≤ x ∧ x < o + s * t ∧ (x - o) % t = 0 then (slicePos? os ss ts xs).map (((x - o) / t).toNat :: ·)
    else none
  | _, _, _, _ => none

/-- `tensor.insert_slice` of `source` into `dest`: a position in the slice
reads the source at its place in the slice, the dropped unit dimensions
removed, every other position reads the destination. `none` when the
source's shape is not the sizes with unit dimensions dropped, which the
verifier rejects. -/
def insertSliceSem {α : Type} (ρ : Value → Int) (op : InsertSliceOp) (source dest : Tensor α) :
    Option (Tensor α) :=
  (computeRankReductionMask ((op.sizes.map (·.eval ρ)).map Int.toNat) source.shape).map fun mask =>
    ⟨dest.shape, fun p =>
      match slicePos? (op.offsets.map (·.eval ρ)) (op.sizes.map (·.eval ρ)) (op.strides.map (·.eval ρ)) p with
      | some q => source.get (dropDims mask q)
      | none => dest.get p⟩

/-- Modelled from the spec: `insert_slice_async` writes the tile into the
destination at `index` along `axis`. -/
def insertSliceAsyncRef {α : Type} (axis index : Nat) (tile dest : Tensor α) : Tensor α :=
  ⟨dest.shape, fun p => if p.getD axis 0 = index then tile.get (p.eraseIdx axis) else dest.get p⟩

/-! ## Offsets, sizes and strides -/

theorem sliceSizes_eq (d : List Nat) (a : Nat) : sliceSizes d a = (d.set a 1).map fun n => .attr n := by
  have loop : ∀ n ≤ d.length, (List.range n).foldl
      (fun sizes i => if i ≠ a then sizes.set i (OpFoldResult.attr (d.getD i 0)) else sizes)
      (List.replicate d.length (OpFoldResult.attr 1)) =
      (List.range d.length).map fun i => OpFoldResult.attr (if i < n ∧ i ≠ a then d.getD i 0 else 1 : Nat) := by
    intro n hn
    induction n with
    | zero => simp [List.map_const']
    | succ n ih =>
      rw [List.range_succ, List.foldl_append, ih (by omega), List.foldl_cons, List.foldl_nil]
      apply List.ext_getElem (by split <;> simp)
      intro i _ _
      split <;> simp only [List.getElem_set, List.getElem_map, List.getElem_range] <;> split_ifs <;>
        first | rfl | omega | (subst_vars; rfl)
  rw [sliceSizes, loop d.length le_rfl]
  apply List.ext_getElem (by simp)
  intro i hi _
  simp only [List.getElem_set, List.getElem_map, List.getElem_range, List.length_map, List.length_range] at hi ⊢
  split_ifs <;> first | rfl | omega | simp [hi]

theorem eval_sliceOffsets (ρ : Value → Int) (r a : Nat) (index : Value) :
    (sliceOffsets r a index).map (·.eval ρ) = (List.replicate r 0).set a (ρ index) := by
  simp [sliceOffsets, List.map_set, OpFoldResult.eval]

theorem eval_sliceSizes (ρ : Value → Int) (d : List Nat) (a : Nat) :
    (sliceSizes d a).map (·.eval ρ) = (d.set a 1).map Nat.cast := by
  simp [sliceSizes_eq, OpFoldResult.eval, Function.comp_def]

/-! ## The slice at `index` along `axis` -/

theorem slicePos?_unit_strides : ∀ {d p : List Nat}, List.Forall₂ (· < ·) p d →
    slicePos? (List.replicate d.length 0) (d.map Nat.cast) (List.replicate d.length 1) p = some p
  | [], [], .nil => rfl
  | _ :: _, _ :: _, .cons hxy h => by
    simp only [List.length_cons, List.replicate_succ, List.map_cons, slicePos?, slicePos?_unit_strides h]
    rw [if_pos (by omega)]
    simp

theorem slicePos?_axis (k : Nat) : ∀ {d p : List Nat} {a : Nat}, a < d.length → List.Forall₂ (· < ·) p d →
    slicePos? ((List.replicate d.length (0 : Int)).set a (k : Int)) ((d.set a 1).map Nat.cast)
        (List.replicate d.length 1) p =
      if p.getD a 0 = k then some (p.set a 0) else none
  | [], [], _, ha, .nil => absurd ha (Nat.not_lt_zero _)
  | _ :: _, x :: _, 0, _, .cons _ h => by
    simp only [List.length_cons, List.replicate_succ, List.set_cons_zero, List.map_cons, slicePos?,
      slicePos?_unit_strides h, List.getD_cons_zero]
    by_cases hx : x = k
    · subst hx; rw [if_pos (by omega), if_pos rfl]; simp
    · rw [if_neg (by omega), if_neg hx]
  | _ :: _, x :: _, a + 1, ha, .cons hxy h => by
    simp only [List.length_cons, List.replicate_succ, List.set_cons_succ, List.map_cons, slicePos?,
      slicePos?_axis k (Nat.lt_of_succ_lt_succ ha) h, List.getD_cons_succ]
    rw [if_pos (by omega)]
    split <;> simp

theorem forall₂_lt_set {p d : List Nat} (h : List.Forall₂ (· < ·) p d) (a : Nat) :
    List.Forall₂ (· < ·) (p.set a 0) (d.set a 1) := by
  induction h generalizing a with
  | nil => exact .nil
  | cons hxy _ ih =>
    cases a with
    | zero => exact .cons Nat.zero_lt_one ‹_›
    | succ a => exact .cons hxy (ih a)

theorem eraseIdx_set (p : List Nat) (a x : Nat) : (p.set a x).eraseIdx a = p.eraseIdx a := by
  induction p generalizing a with
  | nil => rfl
  | cons y p ih => cases a <;> simp [ih]

/-! ## The dropped dimension -/

theorem computeRankReductionMask_self : ∀ xs : List Nat,
    computeRankReductionMask xs xs = some (List.replicate xs.length false)
  | [] => rfl
  | x :: xs => by simp [computeRankReductionMask, computeRankReductionMask_self xs, List.replicate_succ]

theorem dropDims_replicate_false : ∀ q : List Nat, dropDims (List.replicate q.length false) q = q
  | [] => rfl
  | x :: q => by simp [List.replicate_succ, dropDims, dropDims_replicate_false q]

theorem computeRankReductionMask_unit : ∀ ds : List Nat, ∃ mask,
    computeRankReductionMask (1 :: ds) ds = some mask ∧
      ∀ qs, List.Forall₂ (· < ·) qs ds → dropDims mask (0 :: qs) = qs
  | [] => ⟨[true], rfl, fun _ h => by cases h; rfl⟩
  | y :: ds => by
    by_cases hy : 1 = y
    · subst hy
      obtain ⟨mask, hm, hdrop⟩ := computeRankReductionMask_unit ds
      refine ⟨false :: mask, by simp [computeRankReductionMask, hm], fun qs h => ?_⟩
      cases h with
      | cons hq h => rw [Nat.lt_one_iff.mp hq]; exact congrArg (0 :: ·) (hdrop _ h)
    · refine ⟨true :: List.replicate (y :: ds).length false,
        by simp [computeRankReductionMask, hy, computeRankReductionMask_self, List.replicate_succ],
        fun qs h => ?_⟩
      rw [← h.length_eq]
      exact dropDims_replicate_false qs

theorem computeRankReductionMask_axis : ∀ {d : List Nat} {a : Nat}, a < d.length → ∃ mask,
    computeRankReductionMask (d.set a 1) (d.eraseIdx a) = some mask ∧
      ∀ q, List.Forall₂ (· < ·) q (d.set a 1) → dropDims mask q = q.eraseIdx a
  | [], _, ha => absurd ha (Nat.not_lt_zero _)
  | _ :: ds, 0, _ => by
    obtain ⟨mask, hm, hdrop⟩ := computeRankReductionMask_unit ds
    refine ⟨mask, hm, fun q h => ?_⟩
    cases h with
    | cons hq h => rw [Nat.lt_one_iff.mp hq]; exact hdrop _ h
  | y :: ds, a + 1, ha => by
    obtain ⟨mask, hm, hdrop⟩ := computeRankReductionMask_axis (Nat.lt_of_succ_lt_succ ha)
    refine ⟨false :: mask, by simp [computeRankReductionMask, hm], fun q h => ?_⟩
    cases h with
    | cons _ h => exact congrArg (_ :: ·) (hdrop _ h)

/-! ## The decomposition writes the slice -/

theorem InsertSliceAsyncOp.types?_shape {op : InsertSliceAsyncOp} {t : InsertSliceAsyncTypes}
    (h : op.types? = .ok t) : op.src.ty.shape? = some t.srcShape ∧ op.dst.ty.shape? = some t.dstShape := by
  unfold InsertSliceAsyncOp.types? at h
  split at h
  · next hs hd =>
    split at h
    · cases h; simp [Ty.shape?, hs, hd]
    · cases h
  · cases h
  · cases h

/-- What takes the place of a copy in the decomposition: a `tt.load` that
reads what the copy reads, and a `tensor.insert_slice` whose offsets, sizes
and strides select the slice at the index along the axis, and which writes the
loaded tile where `insert_slice_async` writes it, at every position of a
destination of shape `d`. -/
def InsertSliceAsyncOp.DecomposedAs (op : InsertSliceAsyncOp) (r : List Op) : Prop :=
  ∃ l s, r = [.load l, .insertSlice s] ∧
    l.ptr = op.src ∧ l.mask = op.mask ∧ l.other = op.other ∧ l.cache = op.cache ∧ l.evict = op.evict ∧
    l.isVolatile = op.isVolatile ∧ s.dest = op.dst ∧
    ∀ d, op.src.ty.shape? = some (d.eraseIdx op.axis) → op.dst.ty.shape? = some d → op.axis < d.length →
      l.resultTy.shape? = some (d.eraseIdx op.axis) ∧
      ∀ (ρ : Value → Int) (k : Nat), ρ op.index = k →
        s.offsets.map (·.eval ρ) = (List.replicate d.length (0 : Int)).set op.axis (k : Int) ∧
        s.sizes.map (·.eval ρ) = (d.set op.axis 1).map Nat.cast ∧
        s.strides.map (·.eval ρ) = List.replicate d.length 1 ∧
        ∀ (α : Type) (tile dest : Tensor α), tile.shape = d.eraseIdx op.axis → dest.shape = d →
          ∃ res, insertSliceSem ρ s tile dest = some res ∧ res.shape = d ∧
            ∀ p, List.Forall₂ (· < ·) p d → res.get p = (insertSliceAsyncRef op.axis k tile dest).get p

theorem decomposedAs_loadOf {op : InsertSliceAsyncOp} {t : InsertSliceAsyncTypes} (ht : op.types? = .ok t) :
    op.DecomposedAs [.load (loadOf op t), .insertSlice (insertSliceOf op t)] := by
  obtain ⟨hs, hd⟩ := InsertSliceAsyncOp.types?_shape ht
  refine ⟨_, _, rfl, rfl, rfl, rfl, rfl, rfl, rfl, rfl, fun d hsrc hdst ha => ⟨hs.symm.trans hsrc, fun ρ k hk => ?_⟩⟩
  obtain rfl : t.dstShape = d := Option.some.inj (hd.symm.trans hdst)
  have hoff : (insertSliceOf op t).offsets.map (·.eval ρ) =
      (List.replicate t.dstShape.length (0 : Int)).set op.axis (k : Int) := by
    rw [insertSliceOf, eval_sliceOffsets, hk]
  have hsz : (insertSliceOf op t).sizes.map (·.eval ρ) = (t.dstShape.set op.axis 1).map Nat.cast :=
    eval_sliceSizes ρ _ _
  have hstr : (insertSliceOf op t).strides.map (·.eval ρ) = List.replicate t.dstShape.length 1 := by
    simp [insertSliceOf, OpFoldResult.eval]
  obtain ⟨mask, hmask, hdrop⟩ := computeRankReductionMask_axis ha
  refine ⟨hoff, hsz, hstr, fun α tile dest htile hdest => ⟨_, Option.map_eq_some'.mpr ⟨mask, ?_, rfl⟩, hdest,
    fun p hp => ?_⟩⟩
  · rw [hsz, htile, List.map_map]
    simpa [Function.comp_def] using hmask
  show (match slicePos? _ _ _ p with | some q => tile.get (dropDims mask q) | none => dest.get p) = _
  rw [hoff, hsz, hstr, slicePos?_axis k ha hp]
  by_cases hc : p.getD op.axis 0 = k
  · simp only [hc, if_true, insertSliceAsyncRef]
    rw [hdrop _ (forall₂_lt_set hp _), eraseIdx_set]
  · simp only [hc, if_false, insertSliceAsyncRef]

section
variable (caps : AsyncCapabilities) (cc : Int) (axisInfo : AxisInfo)

/-- On GENX, in place of every copy whose byte width the capability cannot
copy asynchronously, the decomposition puts a `tt.load` of the copy's source
and a `tensor.insert_slice` that agrees with `insert_slice_async` at every
position, for every rank, shape, axis and index. -/
theorem decomposed_insertSlice_eq_ref {m m' : ModuleOp}
    (h : decomposeInsertSliceAsyncOp caps cc .genx axisInfo m = .ok m') :
    List.Forall₂ (fun t t' => ∃ rs, t'.ops = rs.flatten ∧ List.Forall₂ (fun o r =>
      ∀ op, o = .insertSliceAsync op → ¬ op.Eligible caps cc axisInfo → op.DecomposedAs r) t.ops rs)
      m.body m'.body :=
  (decomposeInsertSliceAsyncOp_replaces_copies caps cc axisInfo h).imp fun _ _ ⟨rs, heq, hrs⟩ =>
    ⟨rs, heq, hrs.imp fun _ _ hr op hop he => by
      obtain ⟨t, ht, rfl⟩ := hr op hop he
      exact decomposedAs_loadOf ht⟩

/-- A kernel that copies a row of 16 bytes into a `2 × 16` destination, with a
contiguity of 1 that compute capability 80 does not copy asynchronously. -/
theorem decomposed_insertSlice_eq_ref_row :
    ∃ m m', m = ⟨4, 1, 32, none, [.func ⟨"k", true, [], [], .empty, some [], [],
        [.insertSliceAsync ⟨⟨0, .tensor [16] (.int 8) (.blocked 1)⟩, ⟨1, .tensor [2, 16] (.int 8) (.shared 1)⟩,
          ⟨2, .int 32⟩, none, none, .none, .normal, false, 0, .empty⟩]⟩]⟩ ∧
      decomposeInsertSliceAsyncOp .sm80 80 .genx ⟨fun _ => 1, fun _ => 1⟩ m = .ok m' ∧
      List.Forall₂ (fun t t' => ∃ rs, t'.ops = rs.flatten ∧ List.Forall₂ (fun o r =>
        ∀ op, o = .insertSliceAsync op → ¬ op.Eligible .sm80 80 ⟨fun _ => 1, fun _ => 1⟩ → op.DecomposedAs r)
          (TopOp.ops t) rs) m.body m'.body :=
  ⟨_, _, rfl, rfl, decomposed_insertSlice_eq_ref .sm80 80 _ rfl⟩

end

end TritonGPUToLLVM
