import Mathlib.Data.List.Pairwise
import Mathlib.Data.List.TakeWhile
import Nek0.Source.Resender

/-!
# What the functions of the resender change

The packets that wait for an acknowledgement, and the records that a part of them has in the send
queue. Filling the send queue leaves the packets alone.
-/

namespace Nek0.Source.Tsproto.Resender

open Nek0.Library

variable {iters : PacketType → List SendRecord} {r r' : Resender} {t : PacketType}
  {window room : Nat}

section Pick

variable {best : Option (PacketType × Nat)}

theorem pickBetter_eq_none_iff :
    pickBetter iters best t = none ↔ best = none ∧ iters t = [] := by
  simp only [pickBetter]
  split
  next none => simp [none]
  next some =>
    split
    · simp [some]
    · split_ifs <;> simp [some]

theorem mem_pickBetter {picked : PacketType × Nat} (taken : pickBetter iters best t = some picked) :
    best = some picked ∨ picked.1 = t ∧ iters t ≠ [] := by
  simp only [pickBetter] at taken
  split at taken
  next => exact .inl taken
  next filled =>
    have own : ∀ time, some (t, time) = some picked → picked.1 = t ∧ iters t ≠ [] := by
      intro time same
      rw [← Option.some.inj same]
      exact ⟨rfl, by rw [filled]; exact List.cons_ne_nil _ _⟩
    split at taken
    · exact .inr (own _ taken)
    · split_ifs at taken
      · exact .inr (own _ taken)
      · exact .inl taken

theorem foldl_pickBetter_eq_none_iff (ts : List PacketType) :
    ts.foldl (pickBetter iters) best = none ↔ best = none ∧ ∀ t ∈ ts, iters t = [] := by
  induction ts generalizing best with
  | nil => simp
  | cons t ts ih => rw [List.foldl_cons, ih, pickBetter_eq_none_iff, List.forall_mem_cons, and_assoc]

theorem mem_foldl_pickBetter {ts : List PacketType} {picked : PacketType × Nat}
    (taken : ts.foldl (pickBetter iters) best = some picked) :
    best = some picked ∨ picked.1 ∈ ts ∧ iters picked.1 ≠ [] := by
  induction ts generalizing best with
  | nil => exact .inl taken
  | cons t ts ih =>
    rcases ih taken with one | ⟨later, filled⟩
    · rcases mem_pickBetter one with before | ⟨own, filled⟩
      · exact .inl before
      · exact .inr ⟨own ▸ List.mem_cons_self, own ▸ filled⟩
    · exact .inr ⟨List.mem_cons_of_mem t later, filled⟩

theorem pickIter_eq_none_iff : pickIter iters = none ↔ ∀ t ∈ resendTypes, iters t = [] := by
  rw [pickIter, Option.map_eq_none_iff, foldl_pickBetter_eq_none_iff]
  simp

/-- The iterator that is picked has a record. -/
theorem filled_of_pickIter (picked : pickIter iters = some t) :
    t ∈ resendTypes ∧ iters t ≠ [] := by
  obtain ⟨best, taken, rfl⟩ := Option.map_eq_some_iff.mp picked
  rcases mem_foldl_pickBetter taken with before | found
  · cases before
  · exact found

end Pick

/-- Filling the send queue leaves the packets alone. -/
theorem fill_fullSendQueue (iters : PacketType → List SendRecord) (room : Nat) (r : Resender) :
    (fill iters room r).fullSendQueue = r.fullSendQueue := by
  induction room generalizing iters r with
  | zero => rfl
  | succ room ih =>
    simp only [fill]
    split
    · rfl
    · split
      · rfl
      · rw [ih]

@[simp] theorem fillUpSendQueue_fullSendQueue (r : Resender) (window : Nat) :
    (r.fillUpSendQueue window).fullSendQueue = r.fullSendQueue := fill_fullSendQueue _ _ _

@[simp] theorem rebuildSendQueue_fullSendQueue (r : Resender) (window : Nat) :
    (r.rebuildSendQueue window).fullSendQueue = r.fullSendQueue := fill_fullSendQueue _ _ _

/-- A packet has a record in the send queue. -/
def Scheduled (r : Resender) (t : PacketType) (part : PartialPacketId) : Prop :=
  ∃ rid ∈ r.sendQueue, rid.id = ⟨t, part⟩

/-- The records know their packets, and only packets of some types wait. -/
structure Named (r : Resender) : Prop where
  named : ∀ t, ∀ e ∈ (r.fullSendQueue t).entries, e.2.id.id = ⟨t, e.1⟩
  known : ∀ t, t ∉ resendTypes → (r.fullSendQueue t).entries = []

/-- What the comment at `send_queue_indices` says: packets with an id less than the index are in
the send queue. -/
def Indexed (r : Resender) : Prop :=
  ∀ t, ∀ e ∈ (r.fullSendQueue t).entries, e.1 < r.sendQueueIndices t → r.Scheduled t e.1

/-- The send queue is empty only if no packet waits. -/
def Busy (r : Resender) : Prop :=
  r.sendQueue = [] → ∀ t, (r.fullSendQueue t).entries = []

/-- The iterators have all packets that are not in the send queue. -/
structure Filling (iters : PacketType → List SendRecord) (r : Resender) : Prop where
  rest : ∀ t, ∀ e ∈ (r.fullSendQueue t).entries, r.Scheduled t e.1 ∨ e.2 ∈ iters t
  names : ∀ t, ∀ rec ∈ iters t, ∃ part, rec.id.id = ⟨t, part⟩
  ascending : ∀ t, (iters t).Pairwise fun a b => a.id.id.part < b.id.id.part

/-- The next record of an iterator comes into the send queue. -/
def take (r : Resender) (t : PacketType) (rec : SendRecord) : Resender :=
  { r with
    sendQueue := rec.id :: r.sendQueue
    sendQueueIndices := Function.update r.sendQueueIndices t (rec.id.id.part.add 1) }

theorem fill_succ {rec : SendRecord} {rest : List SendRecord} (picked : pickIter iters = some t)
    (filled : iters t = rec :: rest) :
    fill iters (room + 1) r = fill (Function.update iters t rest) room (r.take t rec) := by
  simp only [fill, picked, filled]
  rfl

theorem Scheduled.take {t' : PacketType} {part : PartialPacketId} {rec : SendRecord}
    (scheduled : r.Scheduled t' part) : (r.take t rec).Scheduled t' part := by
  obtain ⟨rid, there, own⟩ := scheduled
  exact ⟨rid, List.mem_cons_of_mem _ there, own⟩

theorem le_of_lt_add_one {a b : PartialPacketId} (before : a < b.add 1) : a ≤ b := by
  have one : (1 : UInt16).toNat = 1 := rfl
  rw [PartialPacketId.lt_iff_number, PartialPacketId.number_add, one] at before
  apply PartialPacketId.le_iff_number.mpr
  have wraps := Nat.mod_le (b.number + 1) (2 ^ 48)
  omega

section Take

variable {rec : SendRecord} {rest : List SendRecord}

theorem Filling.take (filling : Filling iters r) (named : r.Named) (filled : iters t = rec :: rest) :
    Filling (Function.update iters t rest) (r.take t rec) where
  rest t' e there := by
    rcases filling.rest t' e there with before | waits
    · exact .inl before.take
    · by_cases same : t' = t
      · subst same
        rw [filled] at waits
        rcases List.mem_cons.mp waits with here | later
        · refine .inl ⟨rec.id, List.mem_cons_self, ?_⟩
          rw [← here]
          exact named.named t' e there
        · rw [Function.update_self]
          exact .inr later
      · rw [Function.update_of_ne same]
        exact .inr waits
  names t' rec' there := by
    by_cases same : t' = t
    · subst same
      rw [Function.update_self] at there
      exact filling.names t' rec' (by rw [filled]; exact List.mem_cons_of_mem _ there)
    · rw [Function.update_of_ne same] at there
      exact filling.names t' rec' there
  ascending t' := by
    by_cases same : t' = t
    · subst same
      have whole := filling.ascending t'
      rw [filled] at whole
      rw [Function.update_self]
      exact (List.pairwise_cons.mp whole).2
    · rw [Function.update_of_ne same]
      exact filling.ascending t'

theorem Indexed.take (indexed : r.Indexed) (named : r.Named) (filling : Filling iters r)
    (filled : iters t = rec :: rest) : (r.take t rec).Indexed := by
  intro t' e there before
  by_cases same : t' = t
  · subst same
    have limit : e.1 ≤ rec.id.id.part := by
      apply le_of_lt_add_one
      simpa [Resender.take] using before
    rcases filling.rest t' e there with scheduled | waits
    · exact scheduled.take
    · rw [filled] at waits
      have own := named.named t' e there
      rcases List.mem_cons.mp waits with here | later
      · refine ⟨rec.id, List.mem_cons_self, ?_⟩
        rw [← here]
        exact own
      · -- The later records of an iterator have greater ids.
        have whole := filling.ascending t'
        rw [filled] at whole
        have greater := (List.pairwise_cons.mp whole).1 e.2 later
        rw [own] at greater
        exact absurd greater (not_lt.mpr limit)
  · have unchanged : (r.take t rec).sendQueueIndices t' = r.sendQueueIndices t' :=
      Function.update_of_ne same _ _
    rw [unchanged] at before
    exact (indexed t' e there before).take

end Take

theorem Named.of_fullSendQueue (named : r.Named) (same : r'.fullSendQueue = r.fullSendQueue) :
    r'.Named := by
  constructor
  · rw [same]
    exact named.named
  · rw [same]
    exact named.known

theorem fill_indexed (named : r.Named) (filling : Filling iters r) (indexed : r.Indexed)
    (room : Nat) : (fill iters room r).Indexed := by
  induction room generalizing iters r with
  | zero => exact indexed
  | succ room ih =>
    cases picked : pickIter iters with
    | none =>
      rw [fill, picked]
      exact indexed
    | some t =>
      obtain ⟨-, filled⟩ := filled_of_pickIter picked
      obtain ⟨rec, rest, same⟩ := List.exists_cons_of_ne_nil filled
      rw [fill_succ picked same]
      exact ih (named.of_fullSendQueue rfl) (filling.take named same)
        (indexed.take named filling same)

/-- The send queue does not get shorter. -/
theorem fill_ne_nil (room : Nat) (filled : r.sendQueue ≠ []) :
    (fill iters room r).sendQueue ≠ [] := by
  induction room generalizing iters r with
  | zero => exact filled
  | succ room ih =>
    cases picked : pickIter iters with
    | none =>
      rw [fill, picked]
      exact filled
    | some t =>
      obtain ⟨-, more⟩ := filled_of_pickIter picked
      obtain ⟨rec, rest, same⟩ := List.exists_cons_of_ne_nil more
      rw [fill_succ picked same]
      exact ih (List.cons_ne_nil _ _)

theorem fill_busy (named : r.Named) (filling : Filling iters r)
    (some : r.sendQueue = [] → 0 < room) : (fill iters room r).Busy := by
  intro empty t
  rw [fill_fullSendQueue]
  have start : r.sendQueue = [] := by
    by_contra filled
    exact fill_ne_nil room filled empty
  obtain ⟨room', rfl⟩ := Nat.exists_eq_add_of_lt (some start)
  rw [Nat.zero_add] at empty
  cases picked : pickIter iters with
  | some t =>
    obtain ⟨-, more⟩ := filled_of_pickIter picked
    obtain ⟨rec, rest, same⟩ := List.exists_cons_of_ne_nil more
    rw [fill_succ picked same] at empty
    exact absurd empty (fill_ne_nil room' (List.cons_ne_nil _ _))
  | none =>
    by_cases kept : t ∈ resendTypes
    · apply List.eq_nil_iff_forall_not_mem.mpr
      intro e there
      rcases filling.rest t e there with ⟨rid, scheduled, -⟩ | waits
      · rw [start] at scheduled
        cases scheduled
      · rw [pickIter_eq_none_iff.mp picked t kept] at waits
        cases waits
    · exact named.known t kept

theorem filling_pending (named : r.Named) (indexed : r.Indexed) : Filling r.pending r where
  rest t e there := by
    have listed := List.mem_map_of_mem (f := Prod.snd) there
    have split := List.takeWhile_append_dropWhile
      (p := fun rec : SendRecord => rec.id.id.part.lt (r.sendQueueIndices t))
      (l := (r.fullSendQueue t).entries.map Prod.snd)
    rw [← split] at listed
    rcases List.mem_append.mp listed with before | later
    · have less := List.mem_takeWhile_imp before
      rw [named.named t e there] at less
      exact .inl (indexed t e there (PartialPacketId.lt_iff.mp less))
    · exact .inr later
  names t rec there := by
    obtain ⟨e, listed, rfl⟩ := List.mem_map.mp ((List.dropWhile_sublist _).subset there)
    exact ⟨e.1, named.named t e listed⟩
  ascending t := by
    apply List.Pairwise.sublist (List.dropWhile_sublist _)
    apply List.pairwise_map.mpr
    apply (r.fullSendQueue t).ascending.imp_of_mem
    intro a b first second before
    rw [named.named t a first, named.named t b second]
    exact before

/-- What holds of a resender after each of its functions. -/
structure Consistent (r : Resender) : Prop extends Named r where
  indexed : r.Indexed
  busy : r.Busy

theorem consistent_default : Consistent default where
  named t e there := by cases there
  known _ _ := rfl
  indexed t e there := by cases there
  busy _ _ := rfl

theorem consistent_fillUpSendQueue (named : r.Named) (indexed : r.Indexed)
    (positive : 0 < window) : (r.fillUpSendQueue window).Consistent where
  toNamed := named.of_fullSendQueue (fillUpSendQueue_fullSendQueue r window)
  indexed := fill_indexed named (filling_pending named indexed) indexed _
  busy := by
    apply fill_busy named (filling_pending named indexed)
    intro empty
    rw [empty]
    exact positive

/-- Packets that are gone need no records. -/
theorem Consistent.of_subset (consistent : r.Consistent) (queue : r'.sendQueue = r.sendQueue)
    (indices : r'.sendQueueIndices = r.sendQueueIndices)
    (fewer : ∀ t, ∀ e ∈ (r'.fullSendQueue t).entries, e ∈ (r.fullSendQueue t).entries) :
    r'.Consistent where
  named t e there := consistent.named t e (fewer t e there)
  known t unknown := by
    apply List.eq_nil_iff_forall_not_mem.mpr
    intro e there
    have before := fewer t e there
    rw [consistent.known t unknown] at before
    cases before
  indexed t e there before := by
    rw [indices] at before
    obtain ⟨rid, scheduled, own⟩ := consistent.indexed t e (fewer t e there) before
    exact ⟨rid, queue ▸ scheduled, own⟩
  busy empty t := by
    apply List.eq_nil_iff_forall_not_mem.mpr
    intro e there
    have before := fewer t e there
    rw [consistent.busy (queue ▸ empty) t] at before
    cases before

theorem setQueue_erase_subset (r : Resender) (t : PacketType) (key : PartialPacketId) :
    ∀ t', ∀ e ∈ ((r.setQueue t ((r.fullSendQueue t).erase key)).fullSendQueue t').entries,
      e ∈ (r.fullSendQueue t').entries := by
  intro t' e there
  by_cases same : t' = t
  · subst same
    simp only [setQueue, Function.update_self] at there
    exact (SortedMap.mem_erase.mp there).1
  · simp only [setQueue, Function.update_of_ne same] at there
    exact there

/-- An ack takes at most one packet out of its queue. -/
theorem ackPacket_cases (r : Resender) (outgoingPIds : PacketType → PartialPacketId)
    (t : PacketType) (pId : UInt16) :
    r.ackPacket outgoingPIds t pId = (r, none) ∨
      ∃ first rec others, (r.fullSendQueue t).entries = (first, rec) :: others ∧
        (first.packetId = pId ∧ r.ackPacket outgoingPIds t pId =
            (r.setQueue t ((r.fullSendQueue t).erase first),
              some ⟨t, (nextUnacked outgoingPIds t pId others).sub 1⟩) ∨
          first.packetId ≠ pId ∧ ∃ generationId, r.ackPacket outgoingPIds t pId =
            (r.setQueue t ((r.fullSendQueue t).erase ⟨generationId, pId⟩), none)) := by
  simp only [ackPacket]
  split
  · exact .inl rfl
  · split
    next => exact .inl rfl
    next first rec others entries =>
      refine .inr ⟨first, rec, others, entries, ?_⟩
      split
      next own => exact .inl ⟨own, rfl⟩
      next other => exact .inr ⟨other, _, rfl⟩

theorem Consistent.ackPacket (consistent : r.Consistent)
    (outgoingPIds : PacketType → PartialPacketId) (t : PacketType) (pId : UInt16) :
    (r.ackPacket outgoingPIds t pId).1.Consistent := by
  rcases r.ackPacket_cases outgoingPIds t pId with
    same | ⟨first, rec, others, entries, ⟨own, same⟩ | ⟨other, generationId, same⟩⟩
  · rw [same]
    exact consistent
  · rw [same]
    exact consistent.of_subset rfl rfl (setQueue_erase_subset r t _)
  · rw [same]
    exact consistent.of_subset rfl rfl (setQueue_erase_subset r t _)

theorem lowered_indices (r : Resender) (packet : OutUdpPacket) {t : PacketType}
    {part : PartialPacketId}
    (before : part < (if packet.id.part.lt (r.sendQueueIndices packet.packetType) then
      Function.update r.sendQueueIndices packet.packetType packet.id.part
        else r.sendQueueIndices) t) :
    part < r.sendQueueIndices t ∧ (t = packet.packetType → part ≠ packet.id.part) := by
  split at before
  next lower =>
    by_cases same : t = packet.packetType
    · subst same
      rw [Function.update_self] at before
      exact ⟨before.trans (PartialPacketId.lt_iff.mp lower), fun _ => ne_of_lt before⟩
    · rw [Function.update_of_ne same] at before
      exact ⟨before, fun own => absurd own same⟩
  next notLower =>
    refine ⟨before, fun own same => ?_⟩
    rw [own, same] at before
    exact notLower (PartialPacketId.lt_iff.mpr before)

theorem Consistent.sendPacket (consistent : r.Consistent) {packet : OutUdpPacket}
    (kept : packet.packetType ∈ resendTypes) (now : Nat) (positive : 0 < window) :
    (r.sendPacket packet now window).Consistent := by
  have type : packet.id.packetType = packet.packetType := rfl
  apply consistent_fillUpSendQueue _ _ positive
  · constructor
    · intro t e there
      by_cases same : t = packet.packetType
      · subst same
        simp only [type, Function.update_self, SortedMap.mem_insert] at there
        rcases there with rfl | ⟨old, -⟩
        · rfl
        · exact consistent.named _ e old
      · simp only [type, Function.update_of_ne same] at there
        exact consistent.named t e there
    · intro t unknown
      have other : t ≠ packet.packetType := by
        rintro rfl
        exact unknown kept
      simp only [type, Function.update_of_ne other]
      exact consistent.known t unknown
  · intro t e there before
    obtain ⟨early, differs⟩ := lowered_indices r packet before
    have old : e ∈ (r.fullSendQueue t).entries := by
      by_cases same : t = packet.packetType
      · subst same
        simp only [type, Function.update_self, SortedMap.mem_insert] at there
        rcases there with rfl | ⟨old, -⟩
        · exact absurd rfl (differs rfl)
        · exact old
      · simp only [type, Function.update_of_ne same] at there
        exact there
    exact consistent.indexed t e old early

/-- A record that is sent again keeps its packet. -/
theorem Consistent.resent (consistent : r.Consistent) {top top' : SendRecordId}
    {rec : SendRecord} (same : top'.id = top.id)
    (found : (r.fullSendQueue top.id.packetType).lookup top.id.part = some rec) :
    Consistent { r with
      sendQueue := top' :: r.sendQueue.erase top
      fullSendQueue := Function.update r.fullSendQueue top.id.packetType
        ((r.fullSendQueue top.id.packetType).insert top.id.part { rec with id := top' }) } := by
  have there := SortedMap.lookup_eq_some_iff.mp found
  -- The keys are those from before.
  have keys : ∀ t, ∀ e ∈ (Function.update r.fullSendQueue top.id.packetType
      ((r.fullSendQueue top.id.packetType).insert top.id.part { rec with id := top' }) t).entries,
      e.2.id.id = ⟨t, e.1⟩ ∧ ∃ a, (e.1, a) ∈ (r.fullSendQueue t).entries := by
    intro t e listed
    by_cases own : t = top.id.packetType
    · subst own
      rw [Function.update_self, SortedMap.mem_insert] at listed
      rcases listed with rfl | ⟨old, -⟩
      · exact ⟨same, rec, there⟩
      · exact ⟨consistent.named _ e old, e.2, old⟩
    · rw [Function.update_of_ne own] at listed
      exact ⟨consistent.named t e listed, e.2, listed⟩
  constructor
  · constructor
    · exact fun t e listed => (keys t e listed).1
    · intro t unknown
      apply List.eq_nil_iff_forall_not_mem.mpr
      intro e listed
      obtain ⟨-, a, old⟩ := keys t e listed
      rw [consistent.known t unknown] at old
      cases old
  · intro t e listed before
    obtain ⟨-, a, old⟩ := keys t e listed
    obtain ⟨rid, scheduled, own⟩ := consistent.indexed t (e.1, a) old before
    by_cases first : rid = top
    · exact ⟨top', List.mem_cons_self, same.trans (first ▸ own)⟩
    · exact ⟨rid, List.mem_cons_of_mem _ ((List.mem_erase_of_ne first).mpr scheduled), own⟩
  · intro empty
    cases empty

theorem consistent_rebuildSendQueue (named : r.Named) (positive : 0 < window) :
    (r.rebuildSendQueue window).Consistent := by
  have blank : Named { r with sendQueue := [], sendQueueIndices := fun _ => ⟨0, 0⟩ } :=
    named.of_fullSendQueue rfl
  apply consistent_fillUpSendQueue blank _ positive
  intro t e there before
  have zero : PartialPacketId.number ⟨0, 0⟩ = 0 := by decide
  have less : e.1.number < PartialPacketId.number ⟨0, 0⟩ := before
  rw [zero] at less
  exact absurd less (Nat.not_lt_zero _)

theorem Consistent.pollResend (consistent : r.Consistent) {top : SendRecordId} {env : PollEnv}
    (positive : 0 < env.window)
    (polled : r.pollResend top env = some r') : r'.Consistent := by
  simp only [Resender.pollResend] at polled
  split at polled
  next missing =>
    obtain rfl := Option.some.inj polled
    have named : Named { r with sendQueue := r.sendQueue.erase top } :=
      consistent.toNamed.of_fullSendQueue rfl
    apply consistent_fillUpSendQueue named _ positive
    -- No packet has the record that was taken out.
    intro t e there before
    obtain ⟨rid, scheduled, own⟩ := consistent.indexed t e there before
    have other : rid ≠ top := by
      rintro rfl
      rw [own] at missing
      have found := SortedMap.lookup_eq_some_iff.mpr there
      rw [missing] at found
      cases found
    exact ⟨rid, (List.mem_erase_of_ne other).mpr scheduled, own⟩
  next rec found =>
    have resent : ∀ top' : SendRecordId, top'.id = top.id → Consistent { r with
        sendQueue := top' :: r.sendQueue.erase top
        fullSendQueue := Function.update r.fullSendQueue top.id.packetType
          ((r.fullSendQueue top.id.packetType).insert top.id.part { rec with id := top' }) } :=
      fun top' same => consistent.resent same found
    split_ifs at polled
    · exact Option.some.inj polled ▸ consistent
    · exact Option.some.inj polled ▸ consistent
    · obtain rfl := Option.some.inj polled
      have named := (resent ⟨env.now, top.tries + 1, top.id⟩ rfl).toNamed
      exact consistent_rebuildSendQueue named positive
    · exact Option.some.inj polled ▸ resent _ rfl

end Nek0.Source.Tsproto.Resender
