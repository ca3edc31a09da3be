import Mathlib

/-!
# Doubly linked lists in a heap

A heap is a list of nodes, a pointer an index into it or null. `Chain h p cells q` says that
the nodes of `cells` are linked one after the other in both directions, that the first one
points back to `p` and the last one on to `q`. The rules below follow the writes by which
code inserts into such a chain or cuts it in two:

* **`Chain.frame`** — a chain depends on its own nodes only;
* **`chain_append`** — a chain is cut at any place into two that point at each other;
* **`Chain.setNext_last`** / **`Chain.setPrev_first`** — redirecting an end of a chain.
-/

namespace LinkedList

/-- A node of a doubly linked list. -/
structure Node (α : Type*) where
  val : α
  prev : Option ℕ := none
  next : Option ℕ := none
deriving DecidableEq, Repr

/-- The allocated nodes; the address of a node is its index. -/
abbrev Heap (α : Type*) := List (Node α)

variable {α : Type*}

/-- Write the `next` pointer of a node. -/
def setNext (h : Heap α) (a : ℕ) (next : Option ℕ) : Heap α :=
  h.modify a fun n => { n with next }

/-- Write the `prev` pointer of a node. -/
def setPrev (h : Heap α) (a : ℕ) (prev : Option ℕ) : Heap α :=
  h.modify a fun n => { n with prev }

/-- Write the `prev` pointer of the node a pointer leads to, if there is one. -/
def setPrevAt (h : Heap α) (target prev : Option ℕ) : Heap α :=
  match target with
  | none => h
  | some a => setPrev h a prev

/-- The first address of a list of cells, or what follows them. -/
def firstOr (cells : List (ℕ × α)) (q : Option ℕ) : Option ℕ :=
  match cells with
  | [] => q
  | c :: _ => some c.1

/-- The last address of a list of cells, or what precedes them. -/
def lastOr (p : Option ℕ) (cells : List (ℕ × α)) : Option ℕ :=
  match cells with
  | [] => p
  | c :: rest => lastOr (some c.1) rest

/-- The last address of a list of cells behind the address `a`. -/
def lastAddr (a : ℕ) (cells : List (ℕ × α)) : ℕ :=
  match cells with
  | [] => a
  | c :: rest => lastAddr c.1 rest

/-- The cells are nodes of the heap, linked to each other in both directions. -/
def Chain (h : Heap α) (p : Option ℕ) (cells : List (ℕ × α)) (q : Option ℕ) : Prop :=
  match cells with
  | [] => True
  | c :: rest => h[c.1]? = some ⟨c.2, p, firstOr rest q⟩ ∧ Chain h (some c.1) rest q

/-- The addresses of the cells. -/
def addrs (cells : List (ℕ × α)) : List ℕ := cells.map Prod.fst

section Simp

variable (h : Heap α) (p q n : Option ℕ) (a b : ℕ) (c : ℕ × α) (xs ys : List (ℕ × α))

@[simp] theorem length_setNext : (setNext h a n).length = h.length := List.length_modify ..

@[simp] theorem length_setPrev : (setPrev h a n).length = h.length := List.length_modify ..

@[simp] theorem length_setPrevAt : (setPrevAt h p n).length = h.length := by
  cases p <;> simp [setPrevAt]

@[simp] theorem firstOr_nil : firstOr ([] : List (ℕ × α)) q = q := rfl

@[simp] theorem firstOr_cons : firstOr (c :: xs) q = some c.1 := rfl

@[simp] theorem lastOr_nil : lastOr p ([] : List (ℕ × α)) = p := rfl

@[simp] theorem lastOr_cons : lastOr p (c :: xs) = lastOr (some c.1) xs := rfl

@[simp] theorem lastAddr_nil : lastAddr a ([] : List (ℕ × α)) = a := rfl

@[simp] theorem lastAddr_cons : lastAddr a (c :: xs) = lastAddr c.1 xs := rfl

@[simp] theorem lastAddr_concat : lastAddr a (xs ++ [c]) = c.1 := by
  induction xs generalizing a with
  | nil => rfl
  | cons x xs ih => exact ih x.1

@[simp] theorem lastOr_concat : lastOr p (xs ++ [c]) = some c.1 := by
  induction xs generalizing p with
  | nil => rfl
  | cons x xs ih => exact ih (some x.1)

@[simp] theorem addrs_cons : addrs (c :: xs) = c.1 :: addrs xs := rfl

@[simp] theorem addrs_append : addrs (xs ++ ys) = addrs xs ++ addrs ys := List.map_append ..

theorem getElem?_setNext :
    (setNext h a n)[b]? = h[b]?.map fun m => if a = b then { m with next := n } else m :=
  List.getElem?_modify ..

theorem getElem?_setPrev :
    (setPrev h a n)[b]? = h[b]?.map fun m => if a = b then { m with prev := n } else m :=
  List.getElem?_modify ..

variable {h p q n a b c xs ys}

/-- Writes elsewhere are not seen. -/
theorem getElem?_setNext_of_ne (hab : a ≠ b) : (setNext h a n)[b]? = h[b]? := by
  simp [getElem?_setNext, hab]

theorem getElem?_setPrev_of_ne (hab : a ≠ b) : (setPrev h a n)[b]? = h[b]? := by
  simp [getElem?_setPrev, hab]

theorem getElem?_setPrevAt_of_ne (hab : p ≠ some b) : (setPrevAt h p n)[b]? = h[b]? := by
  cases p with
  | none => rfl
  | some a => exact getElem?_setPrev_of_ne fun heq => hab (by rw [heq])

end Simp

variable {h h' : Heap α} {p q n : Option ℕ} {a : ℕ} {v : α} {c : ℕ × α} {xs ys : List (ℕ × α)}

/-! ## Reading a chain -/

/-- A chain depends on its own nodes only. -/
theorem Chain.frame (hc : Chain h p xs q) (heq : ∀ a ∈ addrs xs, h'[a]? = h[a]?) :
    Chain h' p xs q := by
  induction xs generalizing p with
  | nil => trivial
  | cons c rest ih =>
    refine ⟨?_, ih hc.2 fun a ha => heq a (by simp [ha])⟩
    rw [heq c.1 (by simp), hc.1]

/-- A chain is two chains that point at each other. Induction on the first one. -/
theorem chain_append :
    Chain h p (xs ++ ys) q ↔ Chain h p xs (firstOr ys q) ∧ Chain h (lastOr p xs) ys q := by
  induction xs generalizing p with
  | nil => simp [Chain]
  | cons c rest ih =>
    have hfirst : firstOr (rest ++ ys) q = firstOr rest (firstOr ys q) := by
      cases rest <;> rfl
    simp only [List.cons_append, Chain, lastOr_cons, ih, hfirst, and_assoc]

/-- The node of a cell. -/
theorem Chain.getElem? (hc : Chain h p (xs ++ c :: ys) q) :
    h[c.1]? = some ⟨c.2, lastOr p xs, firstOr ys q⟩ :=
  (chain_append.mp hc).2.1

/-- The cells of a chain are allocated. -/
theorem Chain.lt_length (hc : Chain h p xs q) (ha : a ∈ addrs xs) : a < h.length := by
  obtain ⟨c, hmem, rfl⟩ := List.mem_map.mp ha
  obtain ⟨before, after, rfl⟩ := List.append_of_mem hmem
  exact (List.getElem?_eq_some_iff.mp hc.getElem?).1

/-- A chain of different nodes is no longer than the heap, so that a walk over it that may
take as many steps as the heap has nodes gets to its end. -/
theorem Chain.length_le (hc : Chain h p xs q) (hnd : (addrs xs).Nodup) :
    xs.length ≤ h.length := by
  have hsub : addrs xs ⊆ List.range h.length := fun a ha => List.mem_range.mpr (hc.lt_length ha)
  have hle := (hnd.subperm hsub).length_le
  simpa [addrs] using hle

/-! ## Writing to a chain -/

theorem Chain.setNext_of_notMem (hc : Chain h p xs q) (ha : a ∉ addrs xs) :
    Chain (setNext h a n) p xs q :=
  hc.frame fun _ hb => getElem?_setNext_of_ne fun heq => ha (heq ▸ hb)

theorem Chain.setPrev_of_notMem (hc : Chain h p xs q) (ha : a ∉ addrs xs) :
    Chain (setPrev h a n) p xs q :=
  hc.frame fun _ hb => getElem?_setPrev_of_ne fun heq => ha (heq ▸ hb)

theorem Chain.setPrevAt_of_notMem {target : Option ℕ} (hc : Chain h p xs q)
    (ha : ∀ a ∈ addrs xs, target ≠ some a) : Chain (setPrevAt h target n) p xs q :=
  hc.frame fun b hb => getElem?_setPrevAt_of_ne (ha b hb)

/-- A new node does not disturb a chain. -/
theorem Chain.alloc (hc : Chain h p xs q) (node : Node α) : Chain (h ++ [node]) p xs q :=
  hc.frame fun _ ha => List.getElem?_append_left (hc.lt_length ha)

/-- Redirecting the last node of a chain. -/
theorem Chain.setNext_last (hc : Chain h p (xs ++ [c]) q) (hnd : c.1 ∉ addrs xs) :
    Chain (setNext h c.1 n) p (xs ++ [c]) n := by
  obtain ⟨hxs, hlast, -⟩ := chain_append.mp hc
  refine chain_append.mpr ⟨hxs.setNext_of_notMem hnd, ?_, trivial⟩
  rw [getElem?_setNext, hlast]
  simp

/-- Redirecting the first node of a chain. -/
theorem Chain.setPrev_first (hc : Chain h p (c :: xs) q) (hnd : c.1 ∉ addrs xs) :
    Chain (setPrev h c.1 n) n (c :: xs) q := by
  obtain ⟨hfirst, hxs⟩ := hc
  refine ⟨?_, hxs.setPrev_of_notMem hnd⟩
  rw [getElem?_setPrev, hfirst]
  simp

/-- Redirecting whatever chain follows, if any does. -/
theorem Chain.setPrevAt_first (hc : Chain h p xs none) (hnd : (addrs xs).Nodup) :
    Chain (setPrevAt h (firstOr xs none) n) n xs none := by
  cases xs with
  | nil => trivial
  | cons c rest => exact hc.setPrev_first (List.nodup_cons.mp hnd).1

/-- The first pointer of a chain leads into it. -/
theorem firstOr_ne_some (ha : a ∉ addrs xs) : firstOr xs none ≠ some a := by
  cases xs with
  | nil => simp
  | cons c rest =>
    intro heq
    rw [firstOr_cons, Option.some_inj] at heq
    exact ha (by simp [heq])

/-! ## Insertion and cutting

Code that inserts the node `a` behind `node` writes four pointers; code that cuts the nodes
from `y` to `l` out of a chain, behind `node`, writes four pointers as well. The pointer
`next` to what follows may be null, then one write is left out. -/

/-- The writes of an insertion. -/
def link (h : Heap α) (a node : ℕ) (next : Option ℕ) : Heap α :=
  setNext (setPrev (setPrevAt (setNext h a next) next (some a)) a (some node)) node (some a)

/-- The writes of a cut. -/
def unlink (h : Heap α) (node y l : ℕ) (next : Option ℕ) : Heap α :=
  setNext (setPrev (setPrevAt (setNext h node next) next (some node)) y none) l none

@[simp] theorem length_link (h : Heap α) (a node : ℕ) (next : Option ℕ) :
    (link h a node next).length = h.length := by
  simp [link]

@[simp] theorem length_unlink (h : Heap α) (node y l : ℕ) (next : Option ℕ) :
    (unlink h node y l next).length = h.length := by
  simp [unlink]

/-- An insertion writes to three nodes only. -/
theorem getElem?_link_of_ne {b node : ℕ} (ha : a ≠ b) (hnode : node ≠ b) (hn : n ≠ some b) :
    (link h a node n)[b]? = h[b]? := by
  rw [link, getElem?_setNext_of_ne hnode, getElem?_setPrev_of_ne ha, getElem?_setPrevAt_of_ne hn,
    getElem?_setNext_of_ne ha]

/-- A cut writes to four nodes only. -/
theorem getElem?_unlink_of_ne {b node y l : ℕ} (hnode : node ≠ b) (hy : y ≠ b) (hl : l ≠ b)
    (hn : n ≠ some b) : (unlink h node y l n)[b]? = h[b]? := by
  rw [unlink, getElem?_setNext_of_ne hl, getElem?_setPrev_of_ne hy, getElem?_setPrevAt_of_ne hn,
    getElem?_setNext_of_ne hnode]

/-- **Inserting a freshly allocated node.** -/
theorem Chain.insert {node : ℕ × α} (hc : Chain h p (xs ++ node :: ys) none)
    (hnd : (addrs (xs ++ node :: ys)).Nodup) :
    Chain (link (h ++ [⟨v, none, none⟩]) h.length node.1 (firstOr ys none)) p
      (xs ++ node :: (h.length, v) :: ys) none := by
  have hlt : ∀ {a}, a ∈ addrs (xs ++ node :: ys) → a < h.length := fun ha => hc.lt_length ha
  have hfresh : ∀ {cs : List (ℕ × α)}, (∀ a ∈ addrs cs, a ∈ addrs (xs ++ node :: ys)) →
      h.length ∉ addrs cs := fun hsub hmem => (hlt (hsub _ hmem)).ne rfl
  have hcut : xs ++ node :: ys = (xs ++ [node]) ++ ys := by simp
  rw [hcut] at hc hnd hlt hfresh
  rw [addrs_append, List.nodup_append'] at hnd
  obtain ⟨hbefore, hys, hdisj⟩ := hnd
  obtain ⟨h₁, h₂⟩ := chain_append.mp (hc.alloc ⟨v, none, none⟩)
  rw [lastOr_concat] at h₂
  have hfresh₁ : h.length ∉ addrs (xs ++ [node]) := hfresh fun a ha => by
    rw [addrs_append]; exact List.mem_append_left _ ha
  have hfresh₂ : h.length ∉ addrs ys := hfresh fun a ha => by
    rw [addrs_append]; exact List.mem_append_right _ ha
  have hnode : node.1 ∉ addrs ys := fun hmem => hdisj (by simp) hmem
  have hne : h.length ≠ node.1 := fun heq => hfresh₁ (by simp [heq])
  -- the nodes up to `node`: only its `next` changes
  have hpre := (((h₁.setNext_of_notMem (n := firstOr ys none) hfresh₁).setPrevAt_of_notMem
    (n := some h.length) fun a ha => firstOr_ne_some fun hy => hdisj ha hy).setPrev_of_notMem
    (n := some node.1) hfresh₁).setNext_last (n := some h.length) (by
      intro hmem
      rw [addrs_append] at hbefore
      exact (List.nodup_append'.mp hbefore).2.2 hmem (by simp [addrs]))
  -- the nodes behind it: only the first one's `prev` changes
  have hpost := (((h₂.setNext_of_notMem (n := firstOr ys none) hfresh₂).setPrevAt_first
    (n := some h.length) hys).setPrev_of_notMem (n := some node.1) hfresh₂).setNext_of_notMem
    (n := some h.length) hnode
  -- the new node itself
  have hnew : (h ++ [(⟨v, none, none⟩ : Node α)])[h.length]? = some ⟨v, none, none⟩ := by simp
  have hsplit : xs ++ node :: (h.length, v) :: ys = (xs ++ [node]) ++ (h.length, v) :: ys := by
    simp
  rw [hsplit, chain_append]
  refine ⟨hpre, ?_, hpost⟩
  rw [lastOr_concat, link, getElem?_setNext_of_ne hne.symm, getElem?_setPrev,
    getElem?_setPrevAt_of_ne (firstOr_ne_some hfresh₂), getElem?_setNext, hnew]
  simp

/-- The last address is that of the last cell. -/
theorem lastAddr_eq {y l : ℕ × α} (hl : (y :: ys).getLast? = some l) : lastAddr y.1 ys = l.1 := by
  obtain ⟨init, hinit⟩ : ∃ init, y :: ys = init ++ [l] :=
    ⟨_, (List.dropLast_append_getLast? l hl).symm⟩
  rw [← lastAddr_cons 0 y ys, hinit, lastAddr_concat]

/-- **Cutting cells out of a chain.** The cells `y :: ys` between `node` and `zs` become a
chain of their own, with null at both ends. -/
theorem Chain.cut {node y l : ℕ × α} {zs : List (ℕ × α)}
    (hc : Chain h p (xs ++ node :: ((y :: ys) ++ zs)) none)
    (hnd : (addrs (xs ++ node :: ((y :: ys) ++ zs))).Nodup)
    (hl : (y :: ys).getLast? = some l) :
    Chain (unlink h node.1 y.1 l.1 (firstOr zs none)) p (xs ++ node :: zs) none ∧
      Chain (unlink h node.1 y.1 l.1 (firstOr zs none)) none (y :: ys) none := by
  have hcut : xs ++ node :: ((y :: ys) ++ zs) = (xs ++ [node]) ++ ((y :: ys) ++ zs) := by simp
  rw [hcut] at hc hnd
  obtain ⟨h₁, h₂₃⟩ := chain_append.mp hc
  obtain ⟨h₂, h₃⟩ := chain_append.mp h₂₃
  rw [addrs_append, List.nodup_append'] at hnd
  obtain ⟨hnd₁, hnd₂₃, hdisj⟩ := hnd
  rw [addrs_append, List.nodup_append'] at hnd₂₃
  obtain ⟨hnd₂, hnd₃, hdisj'⟩ := hnd₂₃
  -- where the nodes that are written stand
  have hlmem : l.1 ∈ addrs (y :: ys) := List.mem_map_of_mem (List.mem_of_getLast? hl)
  have hymem : y.1 ∈ addrs (y :: ys) := by simp
  have hmem₂ : ∀ {a}, a ∈ addrs (y :: ys) → a ∉ addrs (xs ++ [node]) := fun ha hmem =>
    hdisj hmem (by rw [addrs_append]; exact List.mem_append_left _ ha)
  have hmem₃ : ∀ {a}, a ∈ addrs zs → a ∉ addrs (xs ++ [node]) := fun ha hmem =>
    hdisj hmem (by rw [addrs_append]; exact List.mem_append_right _ ha)
  have hnode : node.1 ∈ addrs (xs ++ [node]) := by simp [addrs]
  have hnode₁ : node.1 ∉ addrs xs := fun hmem => by
    rw [addrs_append] at hnd₁
    exact (List.nodup_append'.mp hnd₁).2.2 hmem (by simp [addrs])
  have hzs : ∀ {a}, a ∉ addrs zs → firstOr zs none ≠ some a := firstOr_ne_some
  constructor
  · have hpre := (((h₁.setNext_last (n := firstOr zs none) hnode₁).setPrevAt_of_notMem
      (n := some node.1) fun a ha => hzs fun hz => hmem₃ hz ha).setPrev_of_notMem
      (n := none) (hmem₂ hymem)).setNext_of_notMem (n := none) (hmem₂ hlmem)
    have hpost := (((h₃.setNext_of_notMem (n := firstOr zs none) fun hz =>
      hmem₃ hz hnode).setPrevAt_first (n := some node.1) hnd₃).setPrev_of_notMem
      (n := none) fun hz => hdisj' hymem hz).setNext_of_notMem (n := none) fun hz =>
      hdisj' hlmem hz
    have hjoin : xs ++ node :: zs = (xs ++ [node]) ++ zs := by simp
    rw [hjoin, chain_append, lastOr_concat]
    exact ⟨hpre, hpost⟩
  · have hmid := ((h₂.setNext_of_notMem (n := firstOr zs none) fun hy =>
      hmem₂ hy hnode).setPrevAt_of_notMem (n := some node.1) fun a ha =>
      hzs fun hz => hdisj' ha hz).setPrev_first (n := none) (by
        rw [addrs_cons, List.nodup_cons] at hnd₂
        exact hnd₂.1)
    obtain ⟨init, hinit⟩ : ∃ init, y :: ys = init ++ [l] :=
      ⟨_, (List.dropLast_append_getLast? l hl).symm⟩
    rw [hinit] at hmid ⊢
    refine hmid.setNext_last fun hmem => ?_
    rw [hinit, addrs_append, List.nodup_append'] at hnd₂
    exact hnd₂.2.2 hmem (by simp [addrs])

end LinkedList
