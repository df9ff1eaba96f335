import Nek0.Source.CodecEffects

/-!
# Fragments of commands

What the loop of `handle_command_packet` does to the packets of a connection in their order: the
fragments that `compress_and_split` makes of a command become that command again, and nothing else
comes out before the last of them.
-/

namespace Nek0.Source.Tsproto

variable {tools : Tools}

/-- The fragments that wait and the packets that are complete, after one packet more. -/
def assembleOne (tools : Tools) (done : Option Packet × List Packet) (p : Packet) :
    Except FatalError (Option Packet × List Packet) :=
  (reassemble tools done.1 p).map fun r => (r.1, done.2 ++ r.2.toList)

def assemble (tools : Tools) (done : Option Packet × List Packet) (ps : List Packet) :
    Except FatalError (Option Packet × List Packet) :=
  ps.foldlM (assembleOne tools) done

variable {done done' : Option Packet × List Packet} {p : Packet} {ps qs : List Packet}

@[simp] theorem assemble_nil : assemble tools done [] = .ok done := rfl

theorem assembleOne_eq_ok_iff : assembleOne tools done p = .ok done' ↔
    ∃ r, reassemble tools done.1 p = .ok r ∧ done' = (r.1, done.2 ++ r.2.toList) := by
  simp only [assembleOne]
  cases reassemble tools done.1 p with
  | error e => simp [Except.map]
  | ok r => simp [Except.map, eq_comm]

theorem assemble_cons_eq_ok_iff : assemble tools done (p :: ps) = .ok done' ↔
    ∃ mid, assembleOne tools done p = .ok mid ∧ assemble tools mid ps = .ok done' := by
  simp only [assemble, List.foldlM_cons]
  cases assembleOne tools done p with
  | error e => simp [bind, Except.bind]
  | ok mid => simp [bind, Except.bind]

theorem assemble_append_eq_ok_iff : assemble tools done (ps ++ qs) = .ok done' ↔
    ∃ mid, assemble tools done ps = .ok mid ∧ assemble tools mid qs = .ok done' := by
  simp only [assemble, List.foldlM_append]
  cases ps.foldlM (assembleOne tools) done with
  | error e => simp [bind, Except.bind]
  | ok mid => simp [bind, Except.bind]

/-- What was complete before stays in front. -/
theorem assemble_eq_ok_iff : assemble tools done ps = .ok done' ↔
    ∃ r, assemble tools (done.1, []) ps = .ok r ∧ done' = (r.1, done.2 ++ r.2) := by
  induction ps generalizing done done' with
  | nil =>
    simp only [assemble_nil, Except.ok.injEq, exists_eq_left', List.append_nil]
    exact eq_comm
  | cons p ps ih =>
    simp only [assemble_cons_eq_ok_iff, assembleOne_eq_ok_iff, List.nil_append]
    constructor
    · intro both
      obtain ⟨mid, ⟨r, one, rfl⟩, rest⟩ := both
      obtain ⟨r', rest', rfl⟩ := ih.mp rest
      refine ⟨(r'.1, r.2.toList ++ r'.2), ⟨_, ⟨r, one, rfl⟩, ih.mpr ⟨r', rest', rfl⟩⟩, ?_⟩
      simp
    · intro both
      obtain ⟨whole, ⟨mid, ⟨r, one, rfl⟩, rest⟩, rfl⟩ := both
      obtain ⟨r', rest', rfl⟩ := ih.mp rest
      refine ⟨_, ⟨r, one, rfl⟩, ih.mpr ⟨r', rest', ?_⟩⟩
      simp

/-- Fragments that become a command with a content, if they become anything, and nothing before
the last of them. -/
structure Group (tools : Tools) (g : List Packet) (content : List UInt8) : Prop where
  before : ∀ pre, pre <+: g → pre ≠ g → ∀ r, assemble tools (none, []) pre = .ok r → r.2 = []
  whole : ∀ r, assemble tools (none, []) g = .ok r →
    r.1 = none ∧ r.2.map Packet.content = [content]

/-- The content of a packet stands for a content, compressed or not. -/
def Stands (tools : Tools) (compressed : Bool) (content original : List UInt8) : Prop :=
  if compressed then ∀ out, tools.decompress content = some out → out = original
  else content = original

/-- The decompression of a packet whose content stands for another one. -/
theorem complete_content (whole : Packet) {original : List UInt8}
    (stands : Stands tools whole.header.flags.compressed whole.content original)
    {r : Option Packet × Option Packet}
    (made : (if whole.header.flags.compressed then
        (whole.decompress tools).map fun p => ((none : Option Packet), some p)
      else .ok (none, some whole)) = Except.ok r) :
    r.1 = none ∧ (r.2.toList).map Packet.content = [original] := by
  cases compressed : whole.header.flags.compressed with
  | false =>
    rw [compressed] at made stands
    obtain rfl := Except.ok.inj made
    refine ⟨rfl, ?_⟩
    have same : whole.content = original := stands
    simp [same]
  | true =>
    rw [compressed] at made stands
    simp only [if_true, Packet.decompress] at made
    split at made
    next => cases made
    next content expanded =>
      obtain rfl := Except.ok.inj made
      have same : content = original := stands content expanded
      simp [same]

theorem group_single {q : Packet} {original : List UInt8}
    (flag : q.header.flags.fragmented = false)
    (stands : Stands tools q.header.flags.compressed q.content original) :
    Group tools [q] original where
  before pre short differs r made := by
    have nothing : pre = [] := by
      cases pre with
      | nil => rfl
      | cons a l =>
        obtain ⟨rfl, rest⟩ := List.cons_prefix_cons.mp short
        rw [List.prefix_nil.mp rest] at differs
        exact absurd rfl differs
    rw [nothing] at made
    obtain rfl := Except.ok.inj made
    rfl
  whole r made := by
    obtain ⟨mid, one, rest⟩ := assemble_cons_eq_ok_iff.mp made
    obtain ⟨r', single, rfl⟩ := assembleOne_eq_ok_iff.mp one
    obtain rfl := Except.ok.inj rest
    rw [reassemble, flag, if_neg (by decide)] at single
    have content := complete_content q stands single
    simpa using content

/-- The fragments in the middle are added to those that wait. -/
theorem assemble_middle {ms : List Packet} (flags : ∀ q ∈ ms, q.header.flags.fragmented = false)
    {w : Packet} {r : Option Packet × List Packet} (made : assemble tools (some w, []) ms = .ok r) :
    r = (some (w.extend (ms.flatMap Packet.content)), []) := by
  induction ms generalizing w with
  | nil =>
    obtain rfl := Except.ok.inj made
    simp [Packet.extend]
  | cons q ms ih =>
    obtain ⟨flag, rest⟩ := List.forall_mem_cons.mp flags
    obtain ⟨mid, one, later⟩ := assemble_cons_eq_ok_iff.mp made
    obtain ⟨r', single, rfl⟩ := assembleOne_eq_ok_iff.mp one
    rw [reassemble, flag, if_neg (by decide)] at single
    change (if w.bytes.length < maxFragmentsLength then
      Except.ok (some (w.extend q.content), none) else .error _) = _ at single
    split_ifs at single
    obtain rfl := Except.ok.inj single
    rw [ih rest later]
    simp [Packet.extend]

theorem group_many {q l : Packet} {ms : List Packet} {original : List UInt8}
    (first : q.header.flags.fragmented = true)
    (middle : ∀ m ∈ ms, m.header.flags.fragmented = false)
    (last : l.header.flags.fragmented = true)
    (stands : Stands tools q.header.flags.compressed
      (q.content ++ ms.flatMap Packet.content ++ l.content) original) :
    Group tools (q :: ms ++ [l]) original := by
  have opened : reassemble tools none q = .ok (some q, none) := by
    rw [reassemble, first, if_pos rfl]
  -- Up to some fragment in the middle, nothing is complete.
  have waits : ∀ ms' : List Packet, (∀ m ∈ ms', m.header.flags.fragmented = false) →
      ∀ r, assemble tools (none, []) (q :: ms') = .ok r →
        r = (some (q.extend (ms'.flatMap Packet.content)), []) := by
    intro ms' flags r made
    obtain ⟨mid, one, rest⟩ := assemble_cons_eq_ok_iff.mp made
    obtain ⟨r', single, rfl⟩ := assembleOne_eq_ok_iff.mp one
    rw [opened] at single
    obtain rfl := Except.ok.inj single
    exact assemble_middle flags rest
  constructor
  · intro pre short differs r made
    rcases List.prefix_concat_iff.mp short with whole | shorter
    · exact absurd whole differs
    · cases pre with
      | nil =>
        obtain rfl := Except.ok.inj made
        rfl
      | cons a ms' =>
        obtain ⟨rfl, rest⟩ := List.cons_prefix_cons.mp shorter
        rw [waits ms' (fun m there => middle m (rest.subset there)) r made]
  · intro r made
    obtain ⟨mid, front, back⟩ := assemble_append_eq_ok_iff.mp made
    rw [waits ms middle mid front] at back
    obtain ⟨mid', one, rest⟩ := assemble_cons_eq_ok_iff.mp back
    obtain ⟨r', single, rfl⟩ := assembleOne_eq_ok_iff.mp one
    obtain rfl := Except.ok.inj rest
    rw [reassemble, last, if_pos rfl] at single
    have whole : Stands tools
        ((q.extend (ms.flatMap Packet.content)).extend l.content).header.flags.compressed
        ((q.extend (ms.flatMap Packet.content)).extend l.content).content original := stands
    have content := complete_content _ whole single
    simpa using content

/-- Commands and the packets that they are sent as, one command after the other. -/
inductive Composed (tools : Tools) : List Packet → List (List UInt8) → Prop
  | nil : Composed tools [] []
  | snoc {ps g : List Packet} {sent : List (List UInt8)} {content : List UInt8}
      (before : Composed tools ps sent) (group : Group tools g content) :
      Composed tools (ps ++ g) (sent ++ [content])

/-- All packets together are the commands, and none of them waits for more. -/
theorem Composed.whole {sent : List (List UInt8)} (composed : Composed tools ps sent)
    {r : Option Packet × List Packet} (made : assemble tools (none, []) ps = .ok r) :
    r.1 = none ∧ r.2.map Packet.content = sent := by
  induction composed generalizing r with
  | nil =>
    obtain rfl := Except.ok.inj made
    exact ⟨rfl, rfl⟩
  | snoc before group ih =>
    obtain ⟨mid, front, back⟩ := assemble_append_eq_ok_iff.mp made
    obtain ⟨none, contents⟩ := ih front
    obtain ⟨r', single, rfl⟩ := assemble_eq_ok_iff.mp back
    rw [none] at single
    obtain ⟨none', last⟩ := group.whole r' single
    exact ⟨none', by rw [List.map_append, contents, last]⟩

/-- Whatever has come in so far, the commands that are complete are the first ones. -/
theorem Composed.first {sent : List (List UInt8)} (composed : Composed tools ps sent)
    {pre : List Packet} (short : pre <+: ps) {r : Option Packet × List Packet}
    (made : assemble tools (none, []) pre = .ok r) : r.2.map Packet.content <+: sent := by
  induction composed generalizing pre r with
  | nil =>
    rw [List.prefix_nil.mp short] at made
    obtain rfl := Except.ok.inj made
    exact List.nil_prefix
  | @snoc ps g sent content before group ih =>
    rcases List.prefix_or_prefix_of_prefix short (List.prefix_append ps g) with shorter | longer
    · exact (ih shorter made).trans (List.prefix_append sent [content])
    · obtain ⟨more, rfl⟩ := longer
      have inside : more <+: g := (List.prefix_append_right_inj ps).mp short
      obtain ⟨mid, front, back⟩ := assemble_append_eq_ok_iff.mp made
      obtain ⟨none, contents⟩ := before.whole front
      obtain ⟨r', single, rfl⟩ := assemble_eq_ok_iff.mp back
      rw [none] at single
      by_cases complete : more = g
      · rw [complete] at single
        refine ⟨[], ?_⟩
        rw [List.append_nil, List.map_append, contents, (group.whole r' single).2]
      · rw [group.before more inside complete r' single, List.append_nil, contents]
        exact List.prefix_append sent [content]

/-- The parts of a packet that matter for its reassembly. -/
def face (q : Packet) : Flags × List UInt8 := (q.header.flags, q.content)

theorem flatten_splitData (maxSize fuel : Nat) (data : List UInt8) :
    (splitData maxSize fuel data).flatten = data := by
  induction fuel generalizing data with
  | zero => simp [splitData]
  | succ fuel ih =>
    simp only [splitData]
    split
    · rw [List.flatten_cons, ih, List.take_append_drop]
    · simp

theorem splitData_ne_nil (maxSize fuel : Nat) (data : List UInt8) :
    splitData maxSize fuel data ≠ [] := by
  cases fuel with
  | zero => simp [splitData]
  | succ fuel =>
    simp only [splitData]
    split <;> simp

/-- A list of at least one entry is one entry, or a first, some in the middle and a last. -/
theorem one_or_more {α : Type*} {l : List α} (filled : l ≠ []) :
    (∃ a, l = [a]) ∨ ∃ a m b, l = a :: (m ++ [b]) := by
  cases l with
  | nil => exact absurd rfl filled
  | cons a l =>
    rcases List.eq_nil_or_concat' l with rfl | ⟨m, b, rfl⟩
    · exact .inl ⟨a, rfl⟩
    · exact .inr ⟨a, m, b, rfl⟩

theorem map_mapIdx {α β γ : Type*} (f : Nat → α → β) (g : β → γ) (l : List α) :
    (l.mapIdx f).map g = l.mapIdx fun i a => g (f i a) := by
  apply List.ext_getElem?
  intro i
  simp [Function.comp_def]

theorem face_fragments (header : Header) (compressed : Bool) (d dl : List UInt8)
    (ds : List (List UInt8)) :
    (fragments header compressed (d :: (ds ++ [dl]))).map face =
      (fragmentFlags header.flags compressed 0 (ds.length + 2), d) ::
        (ds.mapIdx (fun i m => (fragmentFlags header.flags compressed (i + 1) (ds.length + 2), m)) ++
          [(fragmentFlags header.flags compressed (ds.length + 1) (ds.length + 2), dl)]) := by
  simp [fragments, List.mapIdx_cons, List.mapIdx_append, face, map_mapIdx]

theorem stands_packData (faithful : ∀ d out, tools.decompress (tools.compress d) = some out → out = d)
    (data : List UInt8) : Stands tools (packData tools data).1 (packData tools data).2 data := by
  simp only [packData]
  split
  · rfl
  · exact faithful data

/-- The fragments of a command, whatever their numbers and macs are, become the command again. -/
theorem group_compressAndSplit
    (faithful : ∀ d out, tools.decompress (tools.compress d) = some out → out = d)
    (isClient : Bool) {p : Packet} {g : List Packet}
    (clean : p.header.flags.compressed = false ∧ p.header.flags.fragmented = false)
    (same : g.map face = (compressAndSplit tools isClient p).map face) :
    Group tools g p.content := by
  simp only [compressAndSplit] at same
  split at same
  next long =>
    have stands := stands_packData faithful p.content
    generalize packData tools p.content = packed at same stands
    have flat := flatten_splitData (maxSize isClient) packed.2.length packed.2
    rcases one_or_more (splitData_ne_nil (maxSize isClient) packed.2.length packed.2) with
      ⟨d, single⟩ | ⟨d, ds, dl, several⟩
    · rw [single] at same flat
      simp only [fragments, List.mapIdx_cons, List.mapIdx_nil, List.map_cons, List.map_nil,
        List.map_eq_cons_iff, List.map_eq_nil_iff] at same
      obtain ⟨q, rest, rfl, faces, rfl⟩ := same
      obtain ⟨flags, content⟩ := Prod.mk.inj faces
      apply group_single
      · rw [flags]
        simp [fragmentFlags, clean.2]
      · rw [flags, content]
        have whole : d = packed.2 := by simpa using flat
        simpa [fragmentFlags, clean.1, whole] using stands
    · rw [several] at same flat
      rw [face_fragments] at same
      obtain ⟨q, rest, rfl, first, others⟩ := List.map_eq_cons_iff.mp same
      obtain ⟨ms, ls, rfl, middle, last⟩ := List.map_eq_append_iff.mp others
      simp only [List.map_eq_cons_iff, List.map_eq_nil_iff] at last
      obtain ⟨l, none, rfl, lastFace, rfl⟩ := last
      obtain ⟨flags, content⟩ := Prod.mk.inj first
      obtain ⟨lastFlags, lastContent⟩ := Prod.mk.inj lastFace
      have contents : ms.map Packet.content = ds := by
        have seconds := congrArg (List.map Prod.snd) middle
        rw [List.map_map, map_mapIdx] at seconds
        have firsts : List.mapIdx (fun _ m => m) ds = ds := by
          apply List.ext_getElem?
          intro i
          simp
        rw [firsts] at seconds
        exact seconds
      have whole : q.content ++ ms.flatMap Packet.content ++ l.content = packed.2 := by
        rw [content, lastContent, List.flatMap_def, contents, ← flat]
        simp
      have group : Group tools (q :: ms ++ [l]) p.content := by
        apply group_many
        · rw [flags]
          simp [fragmentFlags]
        · intro m there
          have faceThere := List.mem_map_of_mem (f := face) there
          rw [middle, List.mem_mapIdx] at faceThere
          obtain ⟨i, inside, faceEq⟩ := faceThere
          have middleFlags := (Prod.mk.inj faceEq).1
          have notLast : ¬ i = ds.length := by omega
          rw [← middleFlags]
          simp [fragmentFlags, clean.2, notLast]
        · rw [lastFlags]
          simp [fragmentFlags]
        · rw [whole, flags]
          simpa [fragmentFlags, clean.1] using stands
      exact group
  next =>
    simp only [List.map_cons, List.map_nil, List.map_eq_cons_iff, List.map_eq_nil_iff] at same
    obtain ⟨q, rest, rfl, faces, rfl⟩ := same
    obtain ⟨flags, content⟩ := Prod.mk.inj faces
    apply group_single
    · rw [flags, clean.2]
    · rw [flags, clean.1, content]
      rfl

section InOrder

variable {frags : List Packet} {start k m : Nat} {s : CommandState} {packet : Packet}
  {packets : List Packet} {r : CommandState × List Packet}

/-- The next `m` packets of a connection were handled, from that with index `k` on. -/
structure Advanced (tools : Tools) (frags : List Packet) (start k m : Nat) (s : CommandState)
    (packets : List Packet) (r : CommandState × List Packet) : Prop where
  positive : 0 < m
  inside : k + m ≤ frags.length
  next : r.1.next.number = start + (k + m)
  assembled : assemble tools (s.fragments, packets) ((frags.drop k).take m) =
    .ok (r.1.fragments, r.2)
  kept : ∀ q ∈ r.1.queue, q ∈ s.queue
  gone : ∀ q ∈ s.queue, q ∈ r.1.queue ∨ ∃ j, k < j ∧ j < k + m ∧ frags[j]? = some q

/-- The packets of a connection carry their numbers. -/
def Consecutive (start : Nat) (frags : List Packet) : Prop :=
  ∀ n q, frags[n]? = some q → q.header.packetId = (PartialPacketId.ofNumber (start + n)).packetId

/-- In a range of less than a generation, a packet is known by its id. -/
theorem Consecutive.eq_of_id (numbered : Consecutive start frags) {n j : Nat} {q : Packet}
    (found : frags[n]? = some q) {lo hi : Nat} (narrow : hi ≤ lo + 2 ^ 16)
    (range : lo < n ∧ n < hi) (range' : lo < j ∧ j ≤ hi)
    (id : q.header.packetId = (PartialPacketId.ofNumber (start + j)).packetId) : n = j := by
  have own := numbered n q found
  rw [own] at id
  have values := congrArg UInt16.toNat id
  simp only [PartialPacketId.ofNumber, UInt16.toNat_ofNat'] at values
  omega

theorem Advanced.cons {mid : Option Packet × Option Packet} {s' : CommandState} {packet' : Packet}
    (current : frags[k]? = some packet)
    (one : reassemble tools s.fragments packet = .ok mid) (fragments : s'.fragments = mid.1)
    (queue : ∀ q ∈ s'.queue, q ∈ s.queue)
    (taken : ∀ q ∈ s.queue, q ∈ s'.queue ∨ q = packet') (next : frags[k + 1]? = some packet')
    (rest : Advanced tools frags start (k + 1) m s' (packets ++ mid.2.toList) r) :
    Advanced tools frags start k (m + 1) s packets r where
  positive := Nat.succ_pos m
  inside := by
    have := rest.inside
    omega
  next := by
    rw [rest.next]
    omega
  assembled := by
    have inside : k < frags.length := (List.getElem?_eq_some_iff.mp current).1
    have head : frags.drop k = packet :: frags.drop (k + 1) := by
      rw [List.drop_eq_getElem_cons inside, (List.getElem?_eq_some_iff.mp current).2]
    rw [head, List.take_succ_cons]
    apply assemble_cons_eq_ok_iff.mpr
    refine ⟨(mid.1, packets ++ mid.2.toList), assembleOne_eq_ok_iff.mpr ⟨mid, one, rfl⟩, ?_⟩
    rw [← fragments]
    exact rest.assembled
  kept q there := queue q (rest.kept q there)
  gone q there := by
    have bound := rest.positive
    rcases taken q there with later | rfl
    · rcases rest.gone q later with stays | ⟨j, least, most, found⟩
      · exact .inl stays
      · exact .inr ⟨j, by omega, by omega, found⟩
    · exact .inr ⟨k + 1, by omega, by omega, next⟩

theorem Advanced.one {mid : Option Packet × Option Packet} (current : frags[k]? = some packet)
    (one : reassemble tools s.fragments packet = .ok mid)
    (result : r = ({ s with next := s.next.add 1, fragments := mid.1 }, packets ++ mid.2.toList))
    (next : (s.next.add 1).number = start + (k + 1)) :
    Advanced tools frags start k 1 s packets r where
  positive := Nat.one_pos
  inside := (List.getElem?_eq_some_iff.mp current).1
  next := by rw [result, next]
  assembled := by
    have inside : k < frags.length := (List.getElem?_eq_some_iff.mp current).1
    have head : frags.drop k = packet :: frags.drop (k + 1) := by
      rw [List.drop_eq_getElem_cons inside, (List.getElem?_eq_some_iff.mp current).2]
    rw [head, List.take_succ_cons, List.take_zero]
    apply assemble_cons_eq_ok_iff.mpr
    refine ⟨(mid.1, packets ++ mid.2.toList), assembleOne_eq_ok_iff.mpr ⟨mid, one, rfl⟩, ?_⟩
    rw [result]
    rfl
  kept q there := by
    rw [result] at there
    exact there
  gone q there := by
    rw [result]
    exact .inl there

/-- Only the entry that is found is erased. -/
theorem mem_eraseP_or {α : Type*} {f : α → Bool} {l : List α} {a b : α}
    (found : l.find? f = some a) (there : b ∈ l) : b ∈ l.eraseP f ∨ b = a := by
  induction l with
  | nil => cases there
  | cons c l ih =>
    by_cases holds : f c = true
    · rw [List.find?_cons_of_pos holds] at found
      obtain rfl := Option.some.inj found
      rw [List.eraseP_cons_of_pos holds]
      exact (List.mem_cons.mp there).symm
    · rw [List.find?_cons_of_neg holds] at found
      rw [List.eraseP_cons_of_neg holds, List.mem_cons]
      rcases List.mem_cons.mp there with rfl | later
      · exact .inl (.inl rfl)
      · exact (ih found later).imp_left .inr

/-- The loop handles the packets of the connection in their order, as long as the receive queue
holds packets of less than a generation. -/
theorem handleInOrder_advances (numbered : Consecutive start frags)
    (room : start + frags.length < 2 ^ 48) (lo hi : Nat) (narrow : hi ≤ lo + 2 ^ 16) {fuel : Nat}
    (queued : ∀ q ∈ s.queue, ∃ n, lo < n ∧ n < hi ∧ frags[n]? = some q)
    (range : lo ≤ k ∧ k < hi) (next : s.next.number = start + k)
    (current : frags[k]? = some packet)
    (done : handleInOrder tools fuel s packet packets = .ok r) :
    ∃ m, Advanced tools frags start k m s packets r := by
  have step : ∀ {s : CommandState} {k : Nat}, s.next.number = start + k → k < frags.length →
      (s.next.add 1).number = start + (k + 1) := by
    intro s k next inside
    have one : (1 : UInt16).toNat = 1 := rfl
    rw [PartialPacketId.number_add_of_lt (by omega)]
    omega
  induction fuel generalizing s packet packets k with
  | zero =>
    have inside : k < frags.length := (List.getElem?_eq_some_iff.mp current).1
    rw [handleInOrder] at done
    split at done
    next => cases done
    next fragments complete one =>
      obtain rfl := Except.ok.inj done
      exact ⟨1, .one current one rfl (step next inside)⟩
  | succ fuel ih =>
    have inside : k < frags.length := (List.getElem?_eq_some_iff.mp current).1
    rw [handleInOrder] at done
    split at done
    next => cases done
    next fragments complete one =>
      simp only at done
      split at done
      next fuel' p same found =>
        obtain rfl := Nat.succ.inj same
        have there := List.mem_of_find?_eq_some found
        have id : p.header.packetId = packet.header.packetId + 1 := by
          simpa using List.find?_some found
        obtain ⟨n, least, most, at_⟩ := queued p there
        have follows : p.header.packetId =
            (PartialPacketId.ofNumber (start + (k + 1))).packetId := by
          rw [id, numbered k packet current]
          apply UInt16.toNat_inj.mp
          simp only [PartialPacketId.ofNumber, UInt16.toNat_add, UInt16.toNat_ofNat',
            UInt16.toNat_one]
          omega
        have index : n = k + 1 :=
          numbered.eq_of_id at_ narrow ⟨least, most⟩ ⟨by omega, by omega⟩ follows
        subst index
        have others : ∀ q ∈ s.queue.eraseP fun p : Packet =>
            p.header.packetId == packet.header.packetId + 1, q ∈ s.queue :=
          fun q later => List.mem_of_mem_eraseP later
        have taken : ∀ q ∈ s.queue, (q ∈ s.queue.eraseP fun p : Packet =>
            p.header.packetId == packet.header.packetId + 1) ∨ q = p :=
          fun q earlier => mem_eraseP_or found earlier
        generalize s.queue.eraseP (fun p : Packet =>
          p.header.packetId == packet.header.packetId + 1) = queue at others taken done
        have later : ∃ m, Advanced tools frags start (k + 1) m ⟨s.next.add 1, queue, fragments⟩
            (packets ++ complete.toList) r :=
          ih (fun q there => queued q (others q there)) ⟨by omega, most⟩ (step next inside) at_ done
        obtain ⟨m, rest⟩ := later
        exact ⟨m + 1, rest.cons current one rfl others taken at_⟩
      next =>
        obtain rfl := Except.ok.inj done
        exact ⟨1, .one current one rfl (step next inside)⟩

/-- With enough turns the loop stops only when the next packet is not in the receive queue. -/
theorem handleInOrder_waits {fuel : Nat} (enough : s.queue.length ≤ fuel)
    (next : s.next.packetId = packet.header.packetId)
    (done : handleInOrder tools fuel s packet packets = .ok r) :
    ∀ q ∈ r.1.queue, q.header.packetId ≠ r.1.next.packetId := by
  induction fuel generalizing s packet packets with
  | zero =>
    have none : s.queue = [] := List.eq_nil_of_length_eq_zero (Nat.le_zero.mp enough)
    rw [handleInOrder] at done
    split at done
    next => cases done
    next =>
      obtain rfl := Except.ok.inj done
      intro q there
      rw [none] at there
      cases there
  | succ fuel ih =>
    rw [handleInOrder] at done
    split at done
    next => cases done
    next fragments complete one =>
      simp only at done
      split at done
      next fuel' p same found =>
        obtain rfl := Nat.succ.inj same
        have there := List.mem_of_find?_eq_some found
        have holds := List.find?_some found
        have id : p.header.packetId = packet.header.packetId + 1 := by simpa using holds
        have shorter : (s.queue.eraseP fun p : Packet =>
            p.header.packetId == packet.header.packetId + 1).length ≤ fuel := by
          rw [List.length_eraseP_of_mem there holds]
          omega
        generalize s.queue.eraseP (fun p : Packet =>
          p.header.packetId == packet.header.packetId + 1) = queue at shorter done
        have following : (s.next.add 1).packetId = p.header.packetId := by
          simp only [PartialPacketId.add, next, id]
        exact ih (s := ⟨s.next.add 1, queue, fragments⟩) shorter following done
      next missed =>
        obtain rfl := Except.ok.inj done
        intro q there same
        cases found : s.queue.find? fun p => p.header.packetId == packet.header.packetId + 1 with
        | none =>
          have differs := List.find?_eq_none.mp found q there
          simp only [PartialPacketId.add, next] at same
          simp [same] at differs
        | some p => exact missed fuel p rfl found

end InOrder

end Nek0.Source.Tsproto
