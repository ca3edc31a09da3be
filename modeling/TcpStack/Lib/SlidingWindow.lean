import Mathlib

/-!
# A sliding-window protocol over lossy FIFO channels

One direction of a reliable stream, in its own terms. The sender registers segments in a
history and refers to them by index; the receiver has taken the first `rcvd` of them in
order and keeps some later ones aside. Two channels lose messages but do not reorder them:
`data` carries segment indices to the receiver, `acks` carries cumulative acknowledgements
together with a right edge up to which the sender may send.

Three rules make the protocol work, and they are all the sender and the receiver obey:

* a segment is transmitted when it is registered, or later if it is the oldest one that is
  not acknowledged (`Step.send`, `Step.resend`);
* as long as the first segment is not acknowledged, nothing else is transmitted;
* the receiver acknowledges what it has taken in order, and its right edge never moves back.

**`Inv`** is what every reachable state satisfies. Its core is `ahead`: an index in flight
beyond `rcvd` is a first transmission, so it is larger than everything set aside and
everything in front of it. In particular no segment is set aside twice.
-/

namespace SlidingWindow

variable {α : Type*}

/-- One direction of a connection. -/
structure State (α : Type*) where
  /-- All segments registered so far. -/
  hist : List α
  /-- The oldest segment the sender has no acknowledgement for. -/
  una : ℕ
  /-- The right edge the sender learnt last. -/
  credit : ℕ
  /-- The number of segments the receiver has taken in order. -/
  rcvd : ℕ
  /-- The right edge the receiver grants now. -/
  limit : ℕ
  /-- Segments set aside by the receiver, in the order of their arrival. -/
  ooo : List ℕ
  /-- Segments in flight, oldest first. -/
  data : List ℕ
  /-- Acknowledgements in flight, oldest first. -/
  acks : List (ℕ × ℕ)

/-- Nothing registered, nothing in flight; both ends agree on a first right edge. -/
def State.init (edge : ℕ) : State α := ⟨[], 0, edge, 0, edge, [], [], []⟩

/-- The moves of the protocol. -/
inductive Step : State α → State α → Prop where
  /-- Register a segment without transmitting it. -/
  | register (s : State α) (a : α) : Step s { s with hist := s.hist ++ [a] }
  /-- Register a segment and transmit it. -/
  | send (s : State α) (a : α) (h : s.hist = [] ∨ 1 ≤ s.una) :
      Step s { s with hist := s.hist ++ [a], data := s.data ++ [s.hist.length] }
  /-- Transmit the oldest unacknowledged segment again. -/
  | resend (s : State α) (h : s.una < s.hist.length) :
      Step s { s with data := s.data ++ [s.una] }
  /-- The channels lose messages. -/
  | lose (s : State α) {data : List ℕ} {acks : List (ℕ × ℕ)}
      (hd : data.Sublist s.data) (ha : acks.Sublist s.acks) : Step s { s with data, acks }
  /-- A segment that was taken before arrives again. -/
  | recvOld (s : State α) {i : ℕ} {rest : List ℕ} (h : s.data = i :: rest) (hi : i < s.rcvd) :
      Step s { s with data := rest }
  /-- A segment arrives too early and is set aside. -/
  | recvAhead (s : State α) {i : ℕ} {rest : List ℕ} (h : s.data = i :: rest)
      (hi : s.rcvd < i) : Step s { s with data := rest, ooo := s.ooo ++ [i] }
  /-- The next segment arrives; it is taken together with the run set aside behind it. -/
  | recvNext (s : State α) {rest left : List ℕ} {k : ℕ} (h : s.data = s.rcvd :: rest)
      (hrun : s.ooo = List.range' (s.rcvd + 1) k ++ left) (hgap : s.rcvd + k + 1 ∉ left) :
      Step s { s with data := rest, rcvd := s.rcvd + k + 1, ooo := left }
  /-- Acknowledge what has been taken. -/
  | ack (s : State α) (h : 1 ≤ s.rcvd) :
      Step s { s with acks := s.acks ++ [(s.rcvd, s.limit)] }
  /-- The receiver makes room. -/
  | grant (s : State α) {limit : ℕ} (h : s.limit ≤ limit) : Step s { s with limit }
  /-- An acknowledgement arrives. -/
  | recvAck (s : State α) {j l : ℕ} {rest : List (ℕ × ℕ)} (h : s.acks = (j, l) :: rest) :
      Step s { s with una := j, credit := l, acks := rest }

/-- Any number of moves. -/
abbrev Steps (s s' : State α) : Prop := Relation.ReflTransGen Step s s'

/-- The history only grows. -/
theorem Step.hist_prefix {s s' : State α} (h : Step s s') : s.hist <+: s'.hist := by
  cases h with
  | register a => exact List.prefix_append _ _
  | send a _ => exact List.prefix_append _ _
  | resend _ => exact List.prefix_refl _
  | lose _ _ => exact List.prefix_refl _
  | recvOld _ _ => exact List.prefix_refl _
  | recvAhead _ _ => exact List.prefix_refl _
  | recvNext _ _ _ => exact List.prefix_refl _
  | ack _ => exact List.prefix_refl _
  | grant _ => exact List.prefix_refl _
  | recvAck _ => exact List.prefix_refl _

theorem Steps.hist_prefix {s s' : State α} (h : Steps s s') : s.hist <+: s'.hist := by
  induction h with
  | refl => exact List.prefix_refl _
  | tail _ hstep ih => exact ih.trans hstep.hist_prefix

/-- What holds in every reachable state. -/
structure Inv (s : State α) : Prop where
  rcvd_le : s.rcvd ≤ s.hist.length
  /-- What the sender knows, what is on its way and what the receiver says: both the
  acknowledgements and the right edges only grow along the ack channel. -/
  mono : ((s.una, s.credit) :: (s.acks ++ [(s.rcvd, s.limit)])).Pairwise (· ≤ ·)
  acks_pos : ∀ a ∈ s.acks, 1 ≤ a.1
  ooo_sorted : s.ooo.Pairwise (· < ·)
  ooo_bounds : ∀ i ∈ s.ooo, s.rcvd < i ∧ i < s.hist.length
  data_lt : ∀ i ∈ s.data, i < s.hist.length
  /-- Beyond `rcvd` there are only first transmissions. -/
  ahead : s.data.Pairwise fun i j => s.rcvd < j → i < j
  ahead_ooo : ∀ j ∈ s.data, s.rcvd < j → ∀ i ∈ s.ooo, i < j
  /-- The first segment is never behind another one. -/
  first : s.data.Pairwise fun i j => j = 0 → i = 0
  first_rcvd : 0 ∈ s.data → s.rcvd ≤ 1 ∧ s.ooo = []
  /-- Until it is acknowledged, only the first segment is transmitted. -/
  opening : s.una = 0 → s.hist ≠ [] → (∀ i ∈ s.data, i = 0) ∧ s.rcvd ≤ 1 ∧ s.ooo = []

namespace Inv

variable {s s' : State α}

theorem una_le_rcvd (h : Inv s) : s.una ≤ s.rcvd := by
  have := (List.pairwise_cons.mp h.mono).1 (s.rcvd, s.limit) (by simp)
  exact this.1

theorem una_le (h : Inv s) : s.una ≤ s.hist.length := h.una_le_rcvd.trans h.rcvd_le

theorem credit_le_limit (h : Inv s) : s.credit ≤ s.limit := by
  have := (List.pairwise_cons.mp h.mono).1 (s.rcvd, s.limit) (by simp)
  exact this.2

/-- Every acknowledgement in flight is at least what the sender knows. -/
theorem le_of_mem_acks (h : Inv s) {a : ℕ × ℕ} (ha : a ∈ s.acks) :
    s.una ≤ a.1 ∧ s.credit ≤ a.2 := by
  have := (List.pairwise_cons.mp h.mono).1 a (by simp [ha])
  exact ⟨this.1, this.2⟩

/-- Every acknowledgement in flight is at most what the receiver has taken. -/
theorem mem_acks_le (h : Inv s) {a : ℕ × ℕ} (ha : a ∈ s.acks) :
    a.1 ≤ s.rcvd ∧ a.2 ≤ s.limit := by
  have := (List.pairwise_append.mp (List.pairwise_cons.mp h.mono).2).2.2 a ha _
    (List.mem_singleton_self _)
  exact ⟨this.1, this.2⟩

theorem acks_pairwise (h : Inv s) : s.acks.Pairwise (· ≤ ·) :=
  (List.pairwise_append.mp (List.pairwise_cons.mp h.mono).2).1

/-- While nothing is received, only the first segment is in flight. -/
theorem data_of_rcvd_zero (h : Inv s) (hr : s.rcvd = 0) {i : ℕ} (hi : i ∈ s.data) : i = 0 := by
  have hne : s.hist ≠ [] := by
    intro hnil
    have := h.data_lt i hi
    simp [hnil] at this
  have hu : s.una = 0 := by
    have := h.una_le_rcvd
    omega
  exact (h.opening hu hne).1 i hi

/-- The receiver's end of the ack channel may grow. -/
theorem mono_raise {p q r : ℕ × ℕ} {as : List (ℕ × ℕ)}
    (h : (p :: (as ++ [q])).Pairwise (· ≤ ·)) (hqr : q ≤ r) :
    (p :: (as ++ [r])).Pairwise (· ≤ ·) := by
  simp only [List.pairwise_cons, List.pairwise_append, List.mem_append, List.mem_singleton,
    List.Pairwise.nil, List.not_mem_nil, IsEmpty.forall_iff, implies_true, true_and,
    and_true] at h ⊢
  obtain ⟨hp, has, haq⟩ := h
  refine ⟨?_, has, ?_⟩
  · rintro a (ha | rfl)
    · exact hp a (Or.inl ha)
    · exact (hp q (Or.inr rfl)).trans hqr
  · rintro a ha b rfl
    exact (haq a ha q rfl).trans hqr

/-- Registering a segment keeps the invariant. -/
theorem register (h : Inv s) (a : α) : Inv { s with hist := s.hist ++ [a] } := by
  refine { h with
    rcvd_le := ?_, ooo_bounds := ?_, data_lt := ?_, opening := ?_ }
  · have := h.rcvd_le
    simp only [List.length_append, List.length_singleton]
    omega
  · intro i hi
    have := h.ooo_bounds i hi
    simp only [List.length_append, List.length_singleton]
    omega
  · intro i hi
    have := h.data_lt i hi
    simp only [List.length_append, List.length_singleton]
    omega
  · intro hu _
    by_cases hnil : s.hist = []
    · -- an empty history has nothing in flight
      have hr : s.rcvd = 0 := by
        have := h.rcvd_le
        simp only [hnil, List.length_nil] at this
        omega
      refine ⟨fun i hi => h.data_of_rcvd_zero hr hi, by simp [hr], ?_⟩
      apply List.eq_nil_iff_forall_not_mem.mpr
      intro i hi
      have := (h.ooo_bounds i hi).2
      simp [hnil] at this
    · exact h.opening hu hnil

/-- Transmitting a new segment: it is larger than everything registered before. -/
theorem send (h : Inv s) (a : α) (hgate : s.hist = [] ∨ 1 ≤ s.una) :
    Inv { s with hist := s.hist ++ [a], data := s.data ++ [s.hist.length] } := by
  have hn : ∀ i ∈ s.data, i < s.hist.length := h.data_lt
  refine { h with
    rcvd_le := ?_, ooo_bounds := ?_, data_lt := ?_, ahead := ?_, ahead_ooo := ?_,
    first := ?_, first_rcvd := ?_, opening := ?_ }
  · have := h.rcvd_le
    simp only [List.length_append, List.length_singleton]
    omega
  · intro i hi
    have := h.ooo_bounds i hi
    simp only [List.length_append, List.length_singleton]
    omega
  · intro i hi
    simp only [List.mem_append, List.mem_singleton] at hi
    simp only [List.length_append, List.length_singleton]
    rcases hi with hi | rfl
    · have := hn i hi
      omega
    · omega
  · -- everything in flight is older than the new segment
    refine List.pairwise_append.mpr ⟨h.ahead, by simp, ?_⟩
    intro i hi j hj _
    rw [List.mem_singleton.mp hj]
    exact hn i hi
  · intro j hj hrj i hi
    rcases List.mem_append.mp hj with hj | hj
    · exact h.ahead_ooo j hj hrj i hi
    · rw [List.mem_singleton.mp hj]
      exact (h.ooo_bounds i hi).2
  · refine List.pairwise_append.mpr ⟨h.first, by simp, ?_⟩
    intro i hi j hj hj0
    have := hn i hi
    rw [List.mem_singleton.mp hj] at hj0
    omega
  · intro h0
    rcases List.mem_append.mp h0 with h0 | h0
    · exact h.first_rcvd h0
    · -- the new segment is the first one
      have hlen := (List.mem_singleton.mp h0).symm
      have hr := h.rcvd_le
      refine ⟨show s.rcvd ≤ 1 by omega, List.eq_nil_iff_forall_not_mem.mpr fun i hi => ?_⟩
      have := (h.ooo_bounds i hi).2
      omega
  · intro hu _
    rcases hgate with hnil | hpos
    · -- nothing was registered before, so nothing can have arrived
      have hr : s.rcvd = 0 := by
        have := h.rcvd_le
        simp only [hnil, List.length_nil] at this
        omega
      refine ⟨?_, show s.rcvd ≤ 1 by omega, List.eq_nil_iff_forall_not_mem.mpr fun i hi => ?_⟩
      · intro i hi
        rcases List.mem_append.mp hi with hi | hi
        · have := hn i hi
          simp [hnil] at this
        · simpa [hnil] using hi
      · have := (h.ooo_bounds i hi).2
        simp [hnil] at this
    · exact absurd hu (Nat.one_le_iff_ne_zero.mp hpos)

/-- Transmitting the oldest unacknowledged segment again: it is never beyond `rcvd`. -/
theorem resend (h : Inv s) (hlt : s.una < s.hist.length) :
    Inv { s with data := s.data ++ [s.una] } := by
  have hur := h.una_le_rcvd
  refine { h with
    data_lt := ?_, ahead := ?_, ahead_ooo := ?_, first := ?_, first_rcvd := ?_, opening := ?_ }
  · intro i hi
    rcases List.mem_append.mp hi with hi | hi
    · exact h.data_lt i hi
    · rw [List.mem_singleton.mp hi]
      exact hlt
  · refine List.pairwise_append.mpr ⟨h.ahead, by simp, ?_⟩
    -- a retransmission is never beyond `rcvd`
    intro i _ j hj hrj
    rw [List.mem_singleton.mp hj] at hrj
    exact absurd hrj (not_lt.mpr hur)
  · intro j hj hrj i hi
    rcases List.mem_append.mp hj with hj | hj
    · exact h.ahead_ooo j hj hrj i hi
    · rw [List.mem_singleton.mp hj] at hrj
      exact absurd hrj (not_lt.mpr hur)
  · refine List.pairwise_append.mpr ⟨h.first, by simp, ?_⟩
    intro i hi j hj hj0
    rw [List.mem_singleton.mp hj] at hj0
    have hne : s.hist ≠ [] := List.ne_nil_of_length_pos (by omega)
    exact (h.opening hj0 hne).1 i hi
  · intro h0
    rcases List.mem_append.mp h0 with h0 | h0
    · exact h.first_rcvd h0
    · have hu := (List.mem_singleton.mp h0).symm
      have hne : s.hist ≠ [] := List.ne_nil_of_length_pos (by omega)
      exact (h.opening hu hne).2
  · intro hu hne
    refine ⟨?_, (h.opening hu hne).2⟩
    intro i hi
    rcases List.mem_append.mp hi with hi | hi
    · exact (h.opening hu hne).1 i hi
    · rw [List.mem_singleton.mp hi]
      exact hu

/-- Losing messages. -/
theorem lose (h : Inv s) {data : List ℕ} {acks : List (ℕ × ℕ)} (hd : data.Sublist s.data)
    (ha : acks.Sublist s.acks) : Inv { s with data, acks } := by
  refine { h with
    mono := ?_, acks_pos := fun a h' => h.acks_pos a (ha.subset h'),
    data_lt := fun i hi => h.data_lt i (hd.subset hi), ahead := h.ahead.sublist hd,
    ahead_ooo := fun j hj => h.ahead_ooo j (hd.subset hj), first := h.first.sublist hd,
    first_rcvd := fun h0 => h.first_rcvd (hd.subset h0), opening := ?_ }
  · exact h.mono.sublist ((ha.append_right _).cons_cons _)
  · intro hu hne
    exact ⟨fun i hi => (h.opening hu hne).1 i (hd.subset hi), (h.opening hu hne).2⟩

/-- Receiving a segment that was taken before. -/
theorem recvOld (h : Inv s) {i : ℕ} {rest : List ℕ} (hdata : s.data = i :: rest) :
    Inv { s with data := rest } := by
  have htail := hdata ▸ List.sublist_cons_self _ _
  refine { h with
    data_lt := fun i hi => h.data_lt i (htail.subset hi), ahead := h.ahead.sublist htail,
    ahead_ooo := fun j hj => h.ahead_ooo j (htail.subset hj),
    first := h.first.sublist htail,
    first_rcvd := fun h0 => h.first_rcvd (htail.subset h0), opening := ?_ }
  intro hu hne
  exact ⟨fun i hi => (h.opening hu hne).1 i (htail.subset hi), (h.opening hu hne).2⟩

/-- Setting a segment aside: it goes behind everything set aside before. -/
theorem recvAhead (h : Inv s) {i : ℕ} {rest : List ℕ} (hdata : s.data = i :: rest)
    (hi : s.rcvd < i) : Inv { s with data := rest, ooo := s.ooo ++ [i] } := by
  have htail : rest.Sublist s.data := hdata ▸ List.sublist_cons_self _ _
  have hmem : i ∈ s.data := by simp [hdata]
  have hpos : i ≠ 0 := by omega
  -- the first segment is not in flight any more, since `i` was in front of it
  have h0 : 0 ∉ s.data := by
    intro h0
    rw [hdata] at h0
    rcases List.mem_cons.mp h0 with h0 | h0
    · exact hpos h0.symm
    · have := h.first
      rw [hdata] at this
      exact hpos ((List.pairwise_cons.mp this).1 0 h0 rfl)
  refine { h with
    ooo_sorted := ?_, ooo_bounds := ?_, data_lt := fun i hi => h.data_lt i (htail.subset hi),
    ahead := h.ahead.sublist htail, ahead_ooo := ?_, first := h.first.sublist htail,
    first_rcvd := fun h0' => absurd (htail.subset h0') h0, opening := ?_ }
  · refine List.pairwise_append.mpr ⟨h.ooo_sorted, by simp, ?_⟩
    intro j hj i' hi'
    rw [List.mem_singleton.mp hi']
    exact h.ahead_ooo i hmem hi j hj
  · intro j hj
    rcases List.mem_append.mp hj with hj | hj
    · exact h.ooo_bounds j hj
    · rw [List.mem_singleton.mp hj]
      exact ⟨hi, h.data_lt i hmem⟩
  · intro j hj hrj i' hi'
    rcases List.mem_append.mp hi' with hi' | hi'
    · exact h.ahead_ooo j (htail.subset hj) hrj i' hi'
    · rw [List.mem_singleton.mp hi']
      have := h.ahead
      rw [hdata] at this
      exact (List.pairwise_cons.mp this).1 j hj hrj
  · intro hu hne
    exact absurd ((h.opening hu hne).1 i hmem) hpos

/-- Taking the next segment and the run behind it. -/
theorem recvNext (h : Inv s) {rest left : List ℕ} {k : ℕ} (hdata : s.data = s.rcvd :: rest)
    (hrun : s.ooo = List.range' (s.rcvd + 1) k ++ left) (hgap : s.rcvd + k + 1 ∉ left) :
    Inv { s with data := rest, rcvd := s.rcvd + k + 1, ooo := left } := by
  have htail : rest.Sublist s.data := hdata ▸ List.sublist_cons_self _ _
  have hleft : left.Sublist s.ooo := hrun ▸ List.sublist_append_right _ _
  have hmem : s.rcvd ∈ s.data := by simp [hdata]
  have hlt := h.data_lt _ hmem
  -- the run ends inside the history
  have hle : s.rcvd + k + 1 ≤ s.hist.length := by
    rcases Nat.eq_zero_or_pos k with hk | hk
    · omega
    · have hlast : s.rcvd + k ∈ s.ooo := by
        rw [hrun]
        exact List.mem_append_left _ (List.mem_range'_1.mpr ⟨by omega, by omega⟩)
      have := (h.ooo_bounds _ hlast).2
      omega
  -- what stays aside lies behind the gap
  have hbeyond : ∀ i ∈ left, s.rcvd + k + 1 < i := by
    intro i hi
    have hsorted := h.ooo_sorted
    rw [hrun] at hsorted
    have hne : i ≠ s.rcvd + k + 1 := fun he => hgap (he ▸ hi)
    rcases Nat.eq_zero_or_pos k with hk | hk
    · have := (h.ooo_bounds i (hleft.subset hi)).1
      omega
    · have := (List.pairwise_append.mp hsorted).2.2 (s.rcvd + k)
        (List.mem_range'_1.mpr ⟨by omega, by omega⟩) i hi
      omega
  -- if the first segment is still in flight, it is the one that arrived
  have hfirst : 0 ∈ rest → s.rcvd = 0 ∧ s.ooo = [] := by
    intro h0
    have := h.first
    rw [hdata] at this
    exact ⟨(List.pairwise_cons.mp this).1 0 h0 rfl, (h.first_rcvd (htail.subset h0)).2⟩
  have hrun_nil : s.ooo = [] → k = 0 ∧ left = [] := by
    intro hnil
    rw [hrun] at hnil
    obtain ⟨hr, hl⟩ := List.append_eq_nil_iff.mp hnil
    exact ⟨by simpa using hr, hl⟩
  refine { h with
    rcvd_le := hle, mono := ?_, ooo_sorted := h.ooo_sorted.sublist hleft, ooo_bounds := ?_,
    data_lt := fun i hi => h.data_lt i (htail.subset hi), ahead := ?_, ahead_ooo := ?_,
    first := h.first.sublist htail, first_rcvd := ?_, opening := ?_ }
  · exact mono_raise h.mono ⟨show s.rcvd ≤ s.rcvd + k + 1 by omega, le_rfl⟩
  · intro i hi
    exact ⟨hbeyond i hi, (h.ooo_bounds i (hleft.subset hi)).2⟩
  · refine (h.ahead.sublist htail).imp fun hij hrj => hij ?_
    exact lt_trans (by omega : s.rcvd < s.rcvd + k + 1) hrj
  · intro j hj hrj i hi
    refine h.ahead_ooo j (htail.subset hj) ?_ i (hleft.subset hi)
    exact lt_trans (by omega : s.rcvd < s.rcvd + k + 1) hrj
  · intro h0
    obtain ⟨hr0, hnil⟩ := hfirst h0
    obtain ⟨hk, hl⟩ := hrun_nil hnil
    exact ⟨show s.rcvd + k + 1 ≤ 1 by omega, hl⟩
  · intro hu hne
    obtain ⟨hall, -, hnil⟩ := h.opening hu hne
    obtain ⟨hk, hl⟩ := hrun_nil hnil
    have := hall _ hmem
    exact ⟨fun i hi => hall i (htail.subset hi), show s.rcvd + k + 1 ≤ 1 by omega, hl⟩

/-- Acknowledging. -/
theorem ack (h : Inv s) (hpos : 1 ≤ s.rcvd) :
    Inv { s with acks := s.acks ++ [(s.rcvd, s.limit)] } := by
  refine { h with mono := ?_, acks_pos := ?_ }
  · have hm := h.mono
    simp only [List.append_assoc, List.pairwise_cons, List.pairwise_append, List.mem_append,
      List.mem_singleton, List.not_mem_nil, IsEmpty.forall_iff, implies_true,
      List.Pairwise.nil, true_and, and_true] at hm ⊢
    obtain ⟨hp, has, haq⟩ := hm
    refine ⟨?_, has, ?_, ?_⟩
    · rintro a (ha | rfl | rfl)
      · exact hp a (Or.inl ha)
      · exact hp _ (Or.inr rfl)
      · exact hp _ (Or.inr rfl)
    · rintro a rfl b rfl
      exact le_rfl
    · rintro a ha b (rfl | rfl)
      · exact haq a ha _ rfl
      · exact haq a ha _ rfl
  · intro a ha
    rcases List.mem_append.mp ha with ha | ha
    · exact h.acks_pos a ha
    · rw [List.mem_singleton.mp ha]
      exact hpos

/-- Making room. -/
theorem grant (h : Inv s) {limit : ℕ} (hle : s.limit ≤ limit) : Inv { s with limit } :=
  { h with mono := mono_raise h.mono ⟨le_rfl, hle⟩ }

/-- Taking in an acknowledgement. -/
theorem recvAck (h : Inv s) {j l : ℕ} {rest : List (ℕ × ℕ)} (hacks : s.acks = (j, l) :: rest) :
    Inv { s with una := j, credit := l, acks := rest } := by
  have hmem : (j, l) ∈ s.acks := by simp [hacks]
  have hpos := h.acks_pos _ hmem
  refine { h with mono := ?_, acks_pos := ?_, opening := ?_ }
  · have := (List.pairwise_cons.mp h.mono).2
    rw [hacks] at this
    exact this
  · intro a ha
    exact h.acks_pos a (by rw [hacks]; exact List.mem_cons_of_mem _ ha)
  · intro hu _
    exact absurd hu (Nat.one_le_iff_ne_zero.mp hpos)

/-- **The invariant is preserved by every move.** -/
theorem step (h : Inv s) (hs : Step s s') : Inv s' := by
  cases hs with
  | register a => exact h.register a
  | send a hgate => exact h.send a hgate
  | resend hlt => exact h.resend hlt
  | lose hd ha => exact h.lose hd ha
  | recvOld hdata _ => exact h.recvOld hdata
  | recvAhead hdata hi => exact h.recvAhead hdata hi
  | recvNext hdata hrun hgap => exact h.recvNext hdata hrun hgap
  | ack hpos => exact h.ack hpos
  | grant hle => exact h.grant hle
  | recvAck hacks => exact h.recvAck hacks

/-- The initial state satisfies the invariant. -/
theorem init (edge : ℕ) : Inv (State.init edge : State α) := by
  constructor <;> simp [State.init]

end Inv

/-- **Safety of the protocol.** The invariant holds after any number of moves. -/
theorem Inv.steps {s s' : State α} (h : Inv s) (hs : Steps s s') : Inv s' := by
  induction hs with
  | refl => exact h
  | tail _ hstep ih => exact ih.step hstep

/-! ## Both counters only grow -/

section Monotone

variable {s s' : State α}

theorem Step.rcvd_le (h : Step s s') : s.rcvd ≤ s'.rcvd := by
  cases h with
  | recvNext _ _ _ =>
    show s.rcvd ≤ s.rcvd + _ + 1
    omega
  | _ => exact le_rfl

theorem Steps.rcvd_le (h : Steps s s') : s.rcvd ≤ s'.rcvd := by
  induction h with
  | refl => exact le_rfl
  | tail _ hstep ih => exact ih.trans hstep.rcvd_le

/-- The acknowledgements in flight are not behind the sender. -/
theorem Inv.una_le_of_step (hi : Inv s) (h : Step s s') : s.una ≤ s'.una := by
  cases h with
  | recvAck hacks => exact (hi.le_of_mem_acks (hacks ▸ List.mem_cons_self)).1
  | _ => exact le_rfl

theorem Inv.una_le_of_steps (hi : Inv s) (h : Steps s s') : s.una ≤ s'.una := by
  induction h with
  | refl => exact le_rfl
  | tail hs hstep ih => exact ih.trans ((hi.steps hs).una_le_of_step hstep)

end Monotone

end SlidingWindow
