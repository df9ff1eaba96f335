import Mathlib.Data.List.Flatten
import Nek0.Source.ChatMessages

/-!
# Threads partition the messages

The threads of `group` have different keys, and each holds the messages with its key in their
order. The sort promises nothing about private threads that were last active at one time.
-/

namespace Nek0.Guarantees

open Nek0.Library Nek0.Source.Chat

/-- `ChatThread.last` -/
def lastOf (thread : ChatThread) : Option ChatMessage := thread.messages.getLast?

/-- The threads of the messages, as they are shown. -/
structure Partitions (messages : List ChatMessage) (unreadByThread : String → Option Int)
    (threads : List ChatThread) : Prop where
  pinned : ∃ channel server privates, threads = channel :: server :: privates ∧
    channel.key = ChatThreadKey.channel ∧ server.key = ChatThreadKey.server ∧
    (∀ key, key ∈ privates.map (·.key) ↔
      ChatThreadKey.isPrivate key = true ∧ ∃ m ∈ messages, m.threadKey = key) ∧
    privates.Pairwise fun first second => ∃ m ∈ lastOf first, ∃ m' ∈ lastOf second,
      m'.timestamp.microsecondsSinceEpoch ≤ m.timestamp.microsecondsSinceEpoch
  keys : (threads.map (·.key)).Nodup
  contents : ∀ thread ∈ threads, thread.messages = messages.filter (·.threadKey = thread.key)
  placed : ∀ m ∈ messages, ∃ thread ∈ threads, m ∈ thread.messages
  once : (threads.flatMap (·.messages)).Perm messages
  unread : ∀ thread ∈ threads, thread.unread = (unreadByThread thread.key).getD 0

/-- Taking the elements of each key in turn takes every element once. -/
theorem flatMap_filter_perm {α κ : Type*} [DecidableEq κ] {keys : List κ} {key : α → κ}
    {l : List α} (nodup : keys.Nodup) (covered : ∀ a ∈ l, key a ∈ keys) :
    (keys.flatMap fun k => l.filter (key · = k)).Perm l := by
  induction l with
  | nil => simp
  | cons a l ih =>
    obtain ⟨before, after, rfl⟩ := List.append_of_mem (covered a List.mem_cons_self)
    have apart := List.nodup_middle.mp nodup
    have elsewhere : ∀ k, k ≠ key a → (a :: l).filter (key · = k) = l.filter (key · = k) :=
      fun k other => List.filter_cons_of_neg (by simpa using other.symm)
    have same : ∀ part, part ⊆ before ++ after →
        (part.flatMap fun k => (a :: l).filter (key · = k)) =
          part.flatMap fun k => l.filter (key · = k) := by
      intro part inside
      refine List.flatMap_congr fun k listed => elsewhere k ?_
      rintro rfl
      exact (List.nodup_cons.mp apart).1 (inside listed)
    have rest := ih fun b listed => covered b (List.mem_cons_of_mem _ listed)
    rw [List.flatMap_append, List.flatMap_cons] at rest ⊢
    rw [same before (List.subset_append_left _ _), same after (List.subset_append_right _ _),
      List.filter_cons_of_pos (by simp)]
    exact List.perm_middle.trans (rest.cons a)

theorem threadKey_cases (m : ChatMessage) : ChatThreadKey.isPrivate m.threadKey = true ∨
    m.threadKey = ChatThreadKey.channel ∨ m.threadKey = ChatThreadKey.server := by
  unfold ChatMessage.threadKey
  split
  · exact .inl (ChatThreadKey.isPrivate_privateWith _)
  · split
    · exact .inr (.inr rfl)
    · exact .inr (.inl rfl)

section Group

variable (messages : List ChatMessage) (unreadByThread : String → Option Int)
  (sorted : ListSort (byLastTime (grouped messages).byKey))

/-- The keys of the private threads, in the order in which they are shown. -/
def privateKeys : List String :=
  sorted.sort ((grouped messages).byKey.keys.filter ChatThreadKey.isPrivate)

theorem mem_privateKeys {key : String} : key ∈ privateKeys messages sorted ↔
    ChatThreadKey.isPrivate key = true ∧ ∃ m ∈ messages, m.threadKey = key := by
  rw [privateKeys, (sorted.perm _).mem_iff, List.mem_filter, mem_keys_grouped, and_comm]

theorem keys_group : (group messages unreadByThread sorted).map (·.key) =
    ChatThreadKey.channel :: ChatThreadKey.server :: privateKeys messages sorted := by
  rw [group_eq, List.map_map]
  exact List.map_id' _

theorem nodup_keys_group : ((group messages unreadByThread sorted).map (·.key)).Nodup := by
  have privates : (privateKeys messages sorted).Nodup :=
    (sorted.perm _).nodup_iff.mpr ((grouped messages).byKey.nodup.filter _)
  have pinned : ∀ key, ChatThreadKey.isPrivate key = false → key ∉ privateKeys messages sorted :=
    fun key shared listed => by
      have own := ((mem_privateKeys messages sorted).mp listed).1
      simp [shared] at own
  rw [keys_group]
  refine List.nodup_cons.mpr ⟨?_, List.nodup_cons.mpr ⟨pinned _ (by decide), privates⟩⟩
  rw [List.mem_cons, not_or]
  exact ⟨by decide, pinned _ (by decide)⟩

theorem messages_group {thread : ChatThread}
    (listed : thread ∈ group messages unreadByThread sorted) :
    thread.messages = messages.filter (·.threadKey = thread.key) ∧
      thread.unread = (unreadByThread thread.key).getD 0 := by
  rw [group_eq] at listed
  obtain ⟨key, -, rfl⟩ := List.mem_map.mp listed
  exact ⟨rfl, rfl⟩

theorem mem_keys_group (m : ChatMessage) (listed : m ∈ messages) :
    m.threadKey ∈ (group messages unreadByThread sorted).map (·.key) := by
  rw [keys_group, List.mem_cons, List.mem_cons, mem_privateKeys]
  rcases threadKey_cases m with own | pinned | pinned
  · exact .inr (.inr ⟨own, m, listed, rfl⟩)
  · exact .inl pinned
  · exact .inr (.inl pinned)

/-- A private thread has a last message, whose time it is sorted by. -/
theorem exists_last {key : String} (listed : key ∈ privateKeys messages sorted) :
    ∃ m, (((grouped messages).byKey.find key).getD []).getLast? = some m ∧
      lastTime (grouped messages).byKey key = m.timestamp.microsecondsSinceEpoch := by
  obtain ⟨-, m, sent, same⟩ := (mem_privateKeys messages sorted).mp listed
  have there : m ∈ messages.filter (·.threadKey = key) := List.mem_filter.mpr ⟨sent, by simpa⟩
  have last := List.getLast?_eq_some_getLast (List.ne_nil_of_mem there)
  rw [getD_find_grouped, lastTime_grouped, last]
  exact ⟨_, rfl, rfl⟩

theorem pairwise_privateKeys : (privateKeys messages sorted).Pairwise fun first second =>
    lastTime (grouped messages).byKey second ≤ lastTime (grouped messages).byKey first := by
  refine (sorted.ordered _).imp fun {first second} le => ?_
  simp only [byLastTime, Comparator.onRank, Int.sign_nonpos_iff] at le
  omega

end Group

/-- Every message is in the thread of its key and in no other, whatever sort puts the private
threads in order. -/
theorem threads_partition_messages (messages : List ChatMessage)
    (unreadByThread : String → Option Int)
    (sorted : ListSort (byLastTime (grouped messages).byKey)) :
    Partitions messages unreadByThread (group messages unreadByThread sorted) := by
  have keys := nodup_keys_group messages unreadByThread sorted
  have covered := mem_keys_group messages unreadByThread sorted
  have contents : ∀ thread ∈ group messages unreadByThread sorted,
      thread.messages = messages.filter (·.threadKey = thread.key) :=
    fun _ listed => (messages_group messages unreadByThread sorted listed).1
  refine ⟨?_, keys, contents, fun m listed => ?_, ?_, fun _ listed =>
    (messages_group messages unreadByThread sorted listed).2⟩
  · refine ⟨_, _, _, rfl, rfl, rfl, fun key => ?_, List.pairwise_map.mpr ?_⟩
    · rw [List.map_map, ← mem_privateKeys messages sorted]
      change key ∈ (privateKeys messages sorted).map (fun key => key) ↔ _
      rw [List.map_id']
    · refine (pairwise_privateKeys messages sorted).imp_of_mem ?_
      intro first second listed listed' later
      obtain ⟨m, last, time⟩ := exists_last messages sorted listed
      obtain ⟨m', last', time'⟩ := exists_last messages sorted listed'
      exact ⟨m, last, m', last', time ▸ time' ▸ later⟩
  · obtain ⟨thread, shown, same⟩ := List.mem_map.mp (covered m listed)
    refine ⟨thread, shown, ?_⟩
    rw [contents thread shown]
    exact List.mem_filter.mpr ⟨listed, by simpa using same.symm⟩
  · have each : (group messages unreadByThread sorted).flatMap (·.messages) =
        ((group messages unreadByThread sorted).map (·.key)).flatMap fun key =>
          messages.filter (·.threadKey = key) := by
      rw [List.flatMap_map]
      exact List.flatMap_congr contents
    rw [each]
    exact flatMap_filter_perm keys covered

end Nek0.Guarantees
