import TcpStack.Lib.Run
import TcpStack.Model.LinkedRecvWindow

/-!
# TcpStack — the linked receive window refines the list of packets

`LinkedRecvWindow.Represents` relates the nodes in the heap to the list of packets that
`RecvWindow` keeps: linked in both directions behind the dummy head, no node twice.

* **`Represents.receivePacket_ok`** — where the function over lists returns, the one over
  pointers returns the same acknowledgement number and a detached chain of the same packets;
* **`Represents.receivePacket_error`** — where a check fails over lists, the same check
  fails over pointers.

So following the pointers neither meets a null pointer nor runs in a circle.
-/

namespace NetStack

open LinkedList Transition

namespace LinkedRecvWindow

/-- Nodes that hold packets. -/
def packed (cells : List (ℕ × Packet)) : List (ℕ × Option Packet) :=
  cells.map fun c => (c.1, some c.2)

/-- The nodes `cells` are the window's list, linked in both directions behind the head. -/
structure Kept (l : LinkedRecvWindow) (cells : List (ℕ × Packet)) : Prop where
  chain : Chain l.heap none ((l.head, none) :: packed cells) none
  nodup : (addrs ((l.head, none) :: packed cells)).Nodup

/-- The linked window has the fields and the packets of the window over lists. -/
structure Represents (l : LinkedRecvWindow) (w : RecvWindow) (cells : List (ℕ × Packet)) :
    Prop where
  base : l.recvBase = w.recvBase
  capacity : l.capacity = w.capacity
  pkts : cells.map Prod.snd = w.pkts
  kept : l.Kept cells

@[simp] theorem packed_nil : packed [] = [] := rfl

@[simp] theorem packed_cons (c : ℕ × Packet) (cells : List (ℕ × Packet)) :
    packed (c :: cells) = (c.1, some c.2) :: packed cells := rfl

@[simp] theorem packed_append (xs ys : List (ℕ × Packet)) :
    packed (xs ++ ys) = packed xs ++ packed ys := List.map_append ..

@[simp] theorem length_packed (cells : List (ℕ × Packet)) :
    (packed cells).length = cells.length := List.length_map ..

/-! ## The walks -/

section Walks

variable {heap : Heap (Option Packet)} {newPkt : Packet} {p : Option ℕ} {a : ℕ}
  {v : Option Packet} {cells : List (ℕ × Packet)} {fuel : ℕ}

theorem deref_of_getElem? {n : Node (Option Packet)} (h : heap[a]? = some n) :
    deref heap a = .ok n := by
  rw [deref, h]

theorem derefPkt_of_getElem? {pkt : Packet} {prev next : Option ℕ}
    (h : heap[a]? = some ⟨some pkt, prev, next⟩) : derefPkt heap a = .ok pkt := by
  rw [derefPkt, deref_of_getElem? h, ok_bind]

/-- The insertion walk stops behind the same packets as the one over the list. Induction on
the nodes that are left. -/
theorem insertWalk_ok (hc : Chain heap p ((a, v) :: packed cells) none)
    (hfuel : cells.length < fuel) {before after : List Packet}
    (h : RecvWindow.insertWalk newPkt (cells.map Prod.snd) = .ok (before, after)) :
    ∃ xs ys, cells = xs ++ ys ∧ before = xs.map Prod.snd ∧ after = ys.map Prod.snd ∧
      insertWalk heap newPkt fuel a = .ok (lastAddr a (packed xs)) := by
  induction cells generalizing a v p fuel before with
  | nil =>
    obtain ⟨fuel, rfl⟩ := Nat.exists_eq_add_one.mpr hfuel
    simp only [List.map_nil, RecvWindow.insertWalk, Except.ok.injEq, Prod.mk.injEq] at h
    obtain ⟨rfl, rfl⟩ := h
    refine ⟨[], [], rfl, rfl, rfl, ?_⟩
    rw [insertWalk, deref_of_getElem? hc.1, ok_bind]
    rfl
  | cons c rest ih =>
    obtain ⟨fuel, rfl⟩ := Nat.exists_eq_add_one.mpr (Nat.lt_of_le_of_lt (Nat.zero_le _) hfuel)
    obtain ⟨hnode, hrest⟩ := hc
    rw [insertWalk, deref_of_getElem? hnode, ok_bind]
    simp only [packed_cons, firstOr_cons]
    rw [derefPkt_of_getElem? hrest.1, ok_bind]
    rw [List.map_cons, RecvWindow.insertWalk] at h
    split at h
    · rename_i hgt
      rw [if_pos hgt]
      split at h
      · rename_i hge
        rw [if_pos hge]
        obtain ⟨⟨before', after'⟩, hwalk, hret⟩ := bind_eq_ok.mp h
        obtain ⟨rfl, rfl⟩ := Prod.mk.inj (Except.ok.inj hret)
        have hlt : rest.length < fuel := by simpa using hfuel
        obtain ⟨xs, ys, rfl, rfl, rfl, heq⟩ := ih hrest hlt hwalk
        refine ⟨c :: xs, ys, rfl, rfl, rfl, ?_⟩
        rw [heq, packed_cons, lastAddr_cons]
      · cases h
    · rename_i hle
      rw [if_neg hle]
      obtain ⟨rfl, rfl⟩ := Prod.mk.inj (Except.ok.inj h)
      exact ⟨[], c :: rest, rfl, rfl, rfl, rfl⟩

/-- The insertion walk fails the check that fails over the list. -/
theorem insertWalk_error (hc : Chain heap p ((a, v) :: packed cells) none)
    (hfuel : cells.length < fuel) {e : Fatal}
    (h : RecvWindow.insertWalk newPkt (cells.map Prod.snd) = .error e) :
    insertWalk heap newPkt fuel a = .error (.fatal e) := by
  induction cells generalizing a v p fuel with
  | nil => cases h
  | cons c rest ih =>
    obtain ⟨fuel, rfl⟩ := Nat.exists_eq_add_one.mpr (Nat.lt_of_le_of_lt (Nat.zero_le _) hfuel)
    obtain ⟨hnode, hrest⟩ := hc
    rw [insertWalk, deref_of_getElem? hnode, ok_bind]
    simp only [packed_cons, firstOr_cons]
    rw [derefPkt_of_getElem? hrest.1, ok_bind]
    rw [List.map_cons, RecvWindow.insertWalk] at h
    split at h
    · rename_i hgt
      rw [if_pos hgt]
      split at h
      · rename_i hge
        rw [if_pos hge]
        have hlt : rest.length < fuel := by simpa using hfuel
        refine ih hrest hlt ?_
        cases hwalk : RecvWindow.insertWalk newPkt (rest.map Prod.snd) with
        | error e' =>
          rw [hwalk] at h
          exact h
        | ok r =>
          rw [hwalk] at h
          cases h
      · rename_i hlt
        obtain rfl := Except.error.inj h
        rw [if_neg hlt]
    · cases h

/-- The delivery walk stops behind the same packets as the one over the list. -/
theorem chainWalk_ok {pkt : Packet} (hc : Chain heap p ((a, some pkt) :: packed cells) none)
    (hfuel : cells.length < fuel) :
    ∃ xs ys, cells = xs ++ ys ∧
      RecvWindow.chainWalk pkt (cells.map Prod.snd) = (xs.map Prod.snd, ys.map Prod.snd) ∧
      chainWalk heap fuel a = .ok (lastAddr a (packed xs)) := by
  induction cells generalizing a pkt p fuel with
  | nil =>
    obtain ⟨fuel, rfl⟩ := Nat.exists_eq_add_one.mpr hfuel
    refine ⟨[], [], rfl, rfl, ?_⟩
    rw [chainWalk, deref_of_getElem? hc.1, ok_bind]
    rfl
  | cons c rest ih =>
    obtain ⟨fuel, rfl⟩ := Nat.exists_eq_add_one.mpr (Nat.lt_of_le_of_lt (Nat.zero_le _) hfuel)
    obtain ⟨hnode, hrest⟩ := hc
    have hlt : rest.length < fuel := by simpa using hfuel
    rw [chainWalk, deref_of_getElem? hnode, ok_bind]
    simp only [packed_cons, firstOr_cons]
    rw [derefPkt_of_getElem? hnode, ok_bind, derefPkt_of_getElem? hrest.1, ok_bind]
    rw [List.map_cons, RecvWindow.chainWalk]
    by_cases hnext : pkt.tcpHeader.seqNum + pkt.payloadSize = c.2.tcpHeader.seqNum
    · rw [if_pos hnext, if_pos hnext]
      obtain ⟨xs, ys, rfl, hwalk, heq⟩ := ih hrest hlt
      refine ⟨c :: xs, ys, rfl, by rw [hwalk]; rfl, ?_⟩
      rw [heq, packed_cons, lastAddr_cons]
    · rw [if_neg hnext, if_neg hnext]
      exact ⟨[], c :: rest, rfl, rfl, rfl⟩

end Walks

/-! ## The writes -/

section Writes

variable {heap : Heap (Option Packet)} {newPkt : Packet} {p n : Option ℕ} {a b : ℕ}

@[simp] theorem derefPkt_setNext : derefPkt (setNext heap a n) b = derefPkt heap b := by
  rw [derefPkt, derefPkt, deref, deref, getElem?_setNext]
  cases heap[b]? with
  | none => rfl
  | some m =>
    by_cases hab : a = b
    · simp [hab]
    · simp [hab]

@[simp] theorem derefPkt_setPrev : derefPkt (setPrev heap a n) b = derefPkt heap b := by
  rw [derefPkt, derefPkt, deref, deref, getElem?_setPrev]
  cases heap[b]? with
  | none => rfl
  | some m =>
    by_cases hab : a = b
    · simp [hab]
    · simp [hab]

@[simp] theorem derefPkt_setPrevAt : derefPkt (setPrevAt heap p n) b = derefPkt heap b := by
  cases p with
  | none => rfl
  | some a => exact derefPkt_setPrev

@[simp] theorem derefPkt_unlink {node y l : ℕ} :
    derefPkt (unlink heap node y l n) b = derefPkt heap b := by
  simp [unlink]

/-- Linking a node in writes what an insertion writes, if the new packet does not run into
the next one; else the check fails. -/
theorem insertAfter_eq {xs : List (ℕ × Option Packet)} {node : ℕ × Option Packet}
    {ys : List (ℕ × Packet)} (hc : Chain heap p (xs ++ node :: packed ys) none) :
    insertAfter heap newPkt a node.1 =
      if RecvWindow.overlapsNext newPkt (ys.map Prod.snd) then .error (.fatal .rangesOverlap)
      else .ok (link heap a node.1 (firstOr (packed ys) none)) := by
  rw [insertAfter, deref_of_getElem? hc.getElem?, ok_bind]
  cases ys with
  | nil => rfl
  | cons y ys =>
    have hy : heap[y.1]? = some ⟨some y.2, lastOr p (xs ++ [node]), firstOr (packed ys) none⟩ := by
      have hsplit : xs ++ node :: packed (y :: ys) = (xs ++ [node]) ++ (y.1, some y.2) :: packed ys := by
        simp
      rw [hsplit] at hc
      exact hc.getElem?
    simp only [packed_cons, firstOr_cons, derefPkt_setPrevAt, derefPkt_setNext]
    rw [derefPkt_of_getElem? hy]
    simp only [List.map_cons, RecvWindow.overlapsNext, ok_bind]
    split <;> rfl

theorem cutChain_eq {xs ys : List (ℕ × Option Packet)} {node : ℕ × Option Packet} {head : ℕ}
    (hc : Chain heap p (xs ++ node :: ys) none) :
    cutChain heap head a node.1 = .ok (unlink heap head a node.1 (firstOr ys none)) := by
  rw [cutChain, deref_of_getElem? hc.getElem?, ok_bind]
  rfl

end Writes

/-! ## One call -/

/-- What a call leaves behind: the nodes `cells'` of the window and the nodes `given` it
hands over are the nodes `cells` from before and the new one, and no other node was
written. -/
structure Splits (l l' : LinkedRecvWindow) (cells cells' given : List (ℕ × Packet)) : Prop where
  chain : Chain l'.heap none (packed given) none
  nodup : (addrs ((l'.head, none) :: packed (cells' ++ given))).Nodup
  head : l'.head = l.head
  owned : ∀ a ∈ addrs (packed (cells' ++ given)), a ∈ addrs (packed cells) ∨ a = l.heap.length
  frame : ∀ a < l.heap.length, a ≠ l.head → a ∉ addrs (packed cells) → l'.heap[a]? = l.heap[a]?

variable {l : LinkedRecvWindow} {w w' : RecvWindow} {cells xs ys : List (ℕ × Packet)}
  {pkt : Packet} {ack : UInt32} {chain : List Packet}

/-- The node behind which the walk over `xs` stops. -/
theorem exists_stop (head : ℕ) (xs : List (ℕ × Packet)) : ∃ init node,
    (head, none) :: packed xs = init ++ [node] ∧ node.1 = lastAddr head (packed xs) := by
  have hne : (head, (none : Option Packet)) :: packed xs ≠ [] := by simp
  refine ⟨_, _, (List.dropLast_append_getLast hne).symm, ?_⟩
  exact (lastAddr_eq (y := (head, none)) (List.getLast?_eq_getLast_of_ne_nil hne)).symm

/-- The heap after the new packet was linked in between `xs` and `ys`. -/
def inserted (l : LinkedRecvWindow) (pkt : Packet) (xs ys : List (ℕ × Packet)) :
    Heap (Option Packet) :=
  link (l.heap ++ [⟨some pkt, none, none⟩]) l.heap.length (lastAddr l.head (packed xs))
    (firstOr (packed ys) none)

/-- Addresses of the window are allocated, so the new node's is not among them. -/
theorem Kept.fresh (h : l.Kept cells) : l.heap.length ∉ addrs ((l.head, none) :: packed cells) :=
  fun hmem => (h.chain.lt_length hmem).ne rfl

theorem Kept.inserted (h : l.Kept (xs ++ ys)) (pkt : Packet) :
    Chain (l.inserted pkt xs ys) none
      ((l.head, none) :: packed (xs ++ (l.heap.length, pkt) :: ys)) none ∧
    (addrs ((l.head, none) :: packed (xs ++ (l.heap.length, pkt) :: ys))).Nodup := by
  obtain ⟨init, node, hinit, hnode⟩ := exists_stop l.head xs
  have hcells : (l.head, none) :: packed (xs ++ ys) = init ++ node :: packed ys := by
    rw [packed_append, ← List.cons_append, hinit]
    simp
  have hnew : (l.head, none) :: packed (xs ++ (l.heap.length, pkt) :: ys) =
      init ++ node :: (l.heap.length, some pkt) :: packed ys := by
    rw [packed_append, ← List.cons_append, hinit]
    simp
  constructor
  · have hc := h.chain
    have hnd := h.nodup
    rw [hcells] at hc hnd
    rw [hnew, LinkedRecvWindow.inserted, ← hnode]
    exact hc.insert hnd
  · have hfresh := h.fresh
    have hnd := h.nodup
    have hperm : (addrs ((l.head, none) :: packed (xs ++ (l.heap.length, pkt) :: ys))).Perm
        (l.heap.length :: addrs ((l.head, none) :: packed (xs ++ ys))) := by
      simp only [packed_append, packed_cons, addrs_cons, addrs_append]
      rw [← List.cons_append, ← List.cons_append]
      exact List.perm_middle
    exact hperm.nodup_iff.mpr (List.nodup_cons.mpr ⟨hfresh, hnd⟩)

/-- Linking a packet in writes to nodes of the window and the new one only. -/
theorem inserted_frame {a : ℕ} (ha : a < l.heap.length) (hhead : a ≠ l.head)
    (hcells : a ∉ addrs (packed (xs ++ ys))) : (l.inserted pkt xs ys)[a]? = l.heap[a]? := by
  rw [packed_append, addrs_append, List.mem_append, not_or] at hcells
  have hstop : lastAddr l.head (packed xs) ≠ a := by
    obtain ⟨init, node, hinit, hnode⟩ := exists_stop l.head xs
    intro heq
    have hmem : node.1 ∈ addrs ((l.head, none) :: packed xs) := by
      rw [hinit, addrs_append]
      exact List.mem_append_right _ (by simp [addrs])
    rw [hnode, heq, addrs_cons, List.mem_cons] at hmem
    exact hmem.elim hhead hcells.1
  rw [inserted, getElem?_link_of_ne ha.ne' hstop (firstOr_ne_some hcells.2),
    List.getElem?_append_left ha]

/-- The writes of the insertion, with the check behind the insertion point. -/
theorem Kept.insertAfter_eq (h : l.Kept (xs ++ ys)) :
    insertAfter (l.heap ++ [⟨some pkt, none, none⟩]) pkt l.heap.length
        (lastAddr l.head (packed xs)) =
      if RecvWindow.overlapsNext pkt (ys.map Prod.snd) then .error (.fatal .rangesOverlap)
      else .ok (l.inserted pkt xs ys) := by
  obtain ⟨init, node, hinit, hnode⟩ := exists_stop l.head xs
  have halloc := h.chain.alloc ⟨some pkt, none, none⟩
  have hcells : (l.head, none) :: packed (xs ++ ys) = init ++ node :: packed ys := by
    rw [packed_append, ← List.cons_append, hinit]
    simp
  rw [hcells] at halloc
  rw [LinkedRecvWindow.inserted, ← hnode, LinkedRecvWindow.insertAfter_eq halloc]

/-- The heap is longer than the list, so both walks get to the end. -/
theorem Kept.length_lt (h : l.Kept cells) : cells.length < l.heap.length := by
  have hle := h.chain.length_le h.nodup
  simpa using hle

theorem Kept.length_lt_alloc (h : l.Kept cells) (node : Node (Option Packet)) :
    cells.length < (l.heap ++ [node]).length := by
  have := h.length_lt
  rw [List.length_append]
  omega

/-- A packet behind the receive base leaves the window alone. -/
theorem Represents.receivePacket_old (h : l.Represents w cells)
    (hold : pkt.tcpHeader.seqNum < w.recvBase) :
    l.receivePacket pkt = .ok (w.recvBase, none, l) := by
  rw [receivePacket, h.base, if_pos hold]

/-- The chain that starts with the new node, inserted at the front, is cut out behind the
head. -/
theorem Kept.deliverFrom_eq (h : l.Kept cells) (pkt : Packet) : ∃ given left l',
    RecvWindow.chainWalk pkt (cells.map Prod.snd) = (given.map Prod.snd, left.map Prod.snd) ∧
    l.deliverFrom (l.inserted pkt [] cells) l.heap.length =
      .ok (l'.recvBase, some l.heap.length, l') ∧
    l'.recvBase = RecvWindow.endOf ((given.map Prod.snd).getLast?.getD pkt) ∧
    l'.capacity = l.capacity ∧ l'.Kept left ∧
    Splits l l' cells left ((l.heap.length, pkt) :: given) := by
  have hkept : l.Kept ([] ++ cells) := h
  obtain ⟨hchain, hnodup⟩ := hkept.inserted pkt
  have hlen : cells.length < (l.inserted pkt [] cells).length := by
    have := h.length_lt
    simp only [LinkedRecvWindow.inserted, length_link, List.length_append]
    omega
  -- the delivery walk starts at the new node
  obtain ⟨given, left, rfl, hwalk, hstop⟩ := chainWalk_ok hchain.2 hlen
  obtain ⟨init, last, hlast⟩ : ∃ init last, (l.heap.length, pkt) :: given = init ++ [last] :=
    ⟨_, _, (List.dropLast_append_getLast (List.cons_ne_nil _ _)).symm⟩
  have hpacked : (l.heap.length, some pkt) :: packed given = packed init ++ [(last.1, some last.2)] := by
    rw [← packed_cons (l.heap.length, pkt), hlast]
    simp
  have haddr : lastAddr l.heap.length (packed given) = last.1 :=
    lastAddr_eq (y := (l.heap.length, some pkt)) (l := (last.1, some last.2)) (by
      simp [hpacked])
  have hpkt : (given.map Prod.snd).getLast?.getD pkt = last.2 := by
    have hmap := congrArg (fun cs => (cs.map Prod.snd).getLast?) hlast
    simpa [List.getLast?_cons] using hmap
  have hsplit : (l.head, none) :: packed ([] ++ (l.heap.length, pkt) :: (given ++ left)) =
      ((l.head, none) :: packed init) ++ (last.1, some last.2) :: packed left := by
    rw [List.nil_append, packed_cons, packed_append, ← List.cons_append, hpacked]
    simp
  have hat := hchain
  rw [hsplit] at hat
  have hparts : (l.head, none) :: packed ([] ++ (l.heap.length, pkt) :: (given ++ left)) =
      [] ++ (l.head, none) :: (((l.heap.length, some pkt) :: packed given) ++ packed left) := by
    simp
  rw [hparts] at hchain hnodup
  have hend : ((l.heap.length, some pkt) :: packed given).getLast? = some (last.1, some last.2) := by
    simp [hpacked]
  obtain ⟨hleft, hgiven⟩ := hchain.cut hnodup hend
  rw [← hparts] at hchain hnodup
  have hhead : deref (l.inserted pkt [] (given ++ left)) l.head =
      .ok ⟨none, none, some l.heap.length⟩ :=
    deref_of_getElem? hchain.1
  have hpkt' : derefPkt (l.inserted pkt [] (given ++ left)) last.1 = .ok last.2 :=
    derefPkt_of_getElem? hat.getElem?
  have hperm : (addrs ((l.head, none) :: packed (left ++ (l.heap.length, pkt) :: given))).Perm
      (addrs ((l.head, none) :: packed ([] ++ (l.heap.length, pkt) :: (given ++ left)))) := by
    simp only [packed_append, packed_cons, addrs_cons, addrs_append, List.nil_append]
    exact (List.perm_append_comm).cons l.head
  have hnd := hperm.nodup_iff.mpr hnodup
  refine ⟨given, left, { l with
    recvBase := RecvWindow.endOf last.2
    heap := unlink (l.inserted pkt [] (given ++ left)) l.head l.heap.length last.1
      (firstOr (packed left) none) }, hwalk, ?_, by rw [hpkt], rfl, ⟨hleft, ?_⟩, ?_⟩
  · rw [deliverFrom, hhead, ok_bind]
    simp only [ne_eq, not_true_eq_false, if_false]
    rw [hstop, ok_bind, haddr, cutChain_eq hat, ok_bind, derefPkt_unlink, hpkt', ok_bind]
    rfl
  · rw [packed_append, ← List.cons_append, addrs_append] at hnd
    exact (List.nodup_append'.mp hnd).1
  · refine ⟨hgiven, hnd, rfl, ?_, ?_⟩
    · intro a ha
      simp only [packed_append, packed_cons, addrs_cons, addrs_append, List.mem_append,
        List.mem_cons] at ha ⊢
      tauto
    · intro a hlt hhead hcells
      have hne : last.1 ≠ a := by
        intro heq
        have hmem : a ∈ addrs ((l.heap.length, some pkt) :: packed given) := by
          rw [hpacked, ← heq, addrs_append]
          exact List.mem_append_right _ (by simp [addrs])
        rw [addrs_cons, List.mem_cons] at hmem
        rcases hmem with hfresh | hmem
        · exact hlt.ne hfresh
        · exact hcells (by simp [hmem])
      have hzs : a ∉ addrs (packed left) := fun hmem => hcells (by simp [hmem])
      rw [getElem?_unlink_of_ne hhead.symm hlt.ne' hne (firstOr_ne_some hzs)]
      exact inserted_frame hlt hhead hcells

/-- **Where the function over lists returns, so does the one over pointers**, with the same
acknowledgement number, the same packets in the window and the same packets handed over. -/
theorem Represents.receivePacket_ok (h : l.Represents w cells)
    (hr : w.receivePacket pkt = .ok (ack, chain, w')) :
    ∃ l' cells' given, l.receivePacket pkt = .ok (ack, firstOr (packed given) none, l') ∧
      l'.Represents w' cells' ∧ given.map Prod.snd = chain ∧ Splits l l' cells cells' given := by
  rw [RecvWindow.receivePacket] at hr
  split at hr
  · -- behind the receive base: nothing is allocated
    rename_i hold
    obtain ⟨rfl, rfl, rfl⟩ := by simpa using hr
    refine ⟨l, cells, [], h.receivePacket_old hold, h, rfl, ⟨trivial, ?_, rfl, ?_, ?_⟩⟩
    · simpa using h.kept.nodup
    · intro a ha
      exact Or.inl (by simpa using ha)
    · exact fun _ _ _ _ => rfl
  · rename_i hnew
    obtain ⟨⟨before, after⟩, hwalk, hrest⟩ := bind_eq_ok.mp hr
    have hfuel := h.kept.length_lt_alloc ⟨some pkt, none, none⟩
    rw [← h.pkts] at hwalk
    obtain ⟨xs, ys, rfl, rfl, rfl, hstop⟩ := insertWalk_ok
      (h.kept.chain.alloc ⟨some pkt, none, none⟩) hfuel hwalk
    rw [receivePacket, h.base, if_neg hnew]
    simp only at hrest ⊢
    rw [hstop, ok_bind, h.kept.insertAfter_eq]
    split at hrest
    · cases hrest
    rename_i hno
    rw [if_neg hno, ok_bind]
    split at hrest
    · -- at the receive base: the chain from the new node on is cut out
      rename_i hbase
      split at hrest
      · cases hrest
      rename_i hfirst
      obtain rfl : xs = [] := by simpa using hfirst
      rw [List.nil_append] at h ⊢
      obtain ⟨given, left, l', hdeliver, hret, hend, hcap, hkept, hsplits⟩ :=
        h.kept.deliverFrom_eq pkt
      rw [if_pos hbase, hret]
      rw [hdeliver] at hrest
      simp only [Except.ok.injEq, Prod.mk.injEq] at hrest
      obtain ⟨rfl, rfl, rfl⟩ := hrest
      exact ⟨l', left, (l.heap.length, pkt) :: given, by rw [hend]; rfl,
        ⟨hend, hcap.trans h.capacity, rfl, hkept⟩, rfl, hsplits⟩
    · -- beyond it: the packet stays in the window
      rename_i hbase
      rw [if_neg hbase]
      obtain ⟨rfl, rfl, rfl⟩ := by simpa using hrest
      obtain ⟨hchain, hnodup⟩ := h.kept.inserted pkt
      refine ⟨_, xs ++ (l.heap.length, pkt) :: ys, [], rfl,
        ⟨rfl, h.capacity, by simp, hchain, hnodup⟩, rfl, ⟨trivial, ?_, rfl, ?_, ?_⟩⟩
      · simpa using hnodup
      · intro a ha
        simp only [List.append_nil, packed_append, packed_cons, addrs_cons, addrs_append,
          List.mem_append, List.mem_cons] at ha ⊢
        tauto
      · exact fun a hlt hhead hcells => inserted_frame hlt hhead hcells

/-- **Where a check fails over lists, the same check fails over pointers.** -/
theorem Represents.receivePacket_error (h : l.Represents w cells) {e : Fatal}
    (hr : w.receivePacket pkt = .error e) : l.receivePacket pkt = .error (.fatal e) := by
  rw [RecvWindow.receivePacket] at hr
  split at hr
  · cases hr
  · rename_i hnew
    have hfuel := h.kept.length_lt_alloc ⟨some pkt, none, none⟩
    rw [receivePacket, h.base, if_neg hnew]
    rw [← h.pkts] at hr
    cases hwalk : RecvWindow.insertWalk pkt (cells.map Prod.snd) with
    | error e' =>
      rw [hwalk] at hr
      obtain rfl : e' = e := Except.error.inj hr
      simp only
      rw [insertWalk_error (h.kept.chain.alloc ⟨some pkt, none, none⟩) hfuel hwalk]
      rfl
    | ok r =>
      obtain ⟨before, after⟩ := r
      obtain ⟨xs, ys, rfl, rfl, rfl, hstop⟩ := insertWalk_ok
        (h.kept.chain.alloc ⟨some pkt, none, none⟩) hfuel hwalk
      rw [hwalk, ok_bind] at hr
      simp only at hr ⊢
      rw [hstop, ok_bind, h.kept.insertAfter_eq]
      split at hr
      · rename_i hov
        obtain rfl := Except.error.inj hr
        rw [if_pos hov]
        rfl
      rename_i hno
      rw [if_neg hno, ok_bind]
      split at hr
      · rename_i hbase
        split at hr
        · rename_i hfirst
          obtain rfl := Except.error.inj hr
          rw [if_pos hbase, deliverFrom, deref_of_getElem? (h.kept.inserted pkt).1.1, ok_bind]
          -- the head points to the first of the nodes before the new one
          obtain ⟨x, xs, rfl⟩ : ∃ x xs', xs = x :: xs' :=
            List.exists_cons_of_ne_nil fun hnil => hfirst (by simp [hnil])
          have hne : x.1 ≠ l.heap.length := fun heq => h.kept.fresh (by simp [heq])
          simp [hne]
        · cases hr
      · cases hr

end LinkedRecvWindow

end NetStack
