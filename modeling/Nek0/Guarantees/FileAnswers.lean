import Nek0.Library.Coalesce
import Nek0.Library.Run
import Nek0.Source.FileBrowser

/-!
# Answers of the file browser

An answer reaches the request that asked, with the entries that the server has sent for
it, in the runs in which no two requests with one key are open, no request is lost in
the queue or refused, and the ids do not start again. Whether an entry is a directory is
told the wrong way round in every listing that is not empty.
-/

namespace Nek0.Guarantees

open Nek0.Library Nek0.Source Nek0.Source.FileBrowser

/-- Every request of the app has one event once it is done and none before, every event
has the id of its own request, and a listing has the entries that were sent for it. -/
structure Correlated (s : FileBrowser) : Prop where
  once : ∀ id ∈ s.returned,
    (s.events.filter (·.event.requestId = id)).length = s.settled.count id ∧
      s.settled.count id ≤ 1
  own : ∀ answer ∈ s.events, answer.event.requestId = answer.cause
  entries : ∀ answer ∈ s.events,
    answer.event.files.map (fun file => (file.name, file.size, file.modified)) =
      answer.sent.map fun entry => (entry.name, entry.size, entry.dateTime.toNat)

/-- An entry is told to be a directory exactly if the server has not marked it as a
file. -/
def DirectoriesTold (s : FileBrowser) : Prop :=
  ∀ answer ∈ s.events,
    answer.event.files.map (·.isDirectory) = answer.sent.map fun entry => !entry.isFile

/-- The requests that wait for their command or for the server. -/
def openRequests (s : FileBrowser) : List FileRequest :=
  s.pipe.commands.filterMap fileRequest ++ s.wire.map (·.request)

/-- A new request gets a new id, and there is no open one with its key. -/
def separate (s : FileBrowser) (kind : FileRequestKind) (call : FileCall) : Bool :=
  (s.requestOf kind call).all fun request =>
    s.nextRequestId ≠ 0 ∧
      ∀ other ∈ openRequests s, other.kind = kind → other.key ≠ request.key

/-- No two open requests have one key, none is lost or refused, and no id comes twice. -/
def separated (s : FileBrowser) : Action → Bool
  | .listFiles call _ => separate s .list call
  | .fileInfo call _ => separate s .info call
  | .receive => (s.pipe.lost.bind fileRequest).isNone
  | .refuse _ => false
  | _ => true

/-- Where a request can be. -/
def requestPlaces (s : FileBrowser) : List UInt32 :=
  (openRequests s).map (·.requestId) ++ s.settled

/-- Every request is in one place, and its key leads to it. -/
structure Traced (s : FileBrowser) : Prop where
  known : s.nextRequestId ≠ 0 → ∀ id ∈ requestPlaces s, id.toNat < s.nextRequestId.toNat
  nodup : (requestPlaces s).Nodup
  keys : (openRequests s).Pairwise fun r q => r.kind = q.kind → r.key ≠ q.key
  pending : ∀ r ∈ openRequests s, s.pending r.kind r.key = some r.requestId
  buffers : ∀ r ∈ s.wire, r.request.kind = .list →
    s.fileListBuffers r.request.key = r.sent.map .ofEntry
  clean : ∀ key, (∀ r ∈ s.wire, r.request.kind = .list → r.request.key ≠ key) →
    s.fileListBuffers key = []
  told : (s.events.map (·.event.requestId)).Perm s.settled
  own : ∀ answer ∈ s.events, answer.event.requestId = answer.cause
  listed : ∀ answer ∈ s.events, answer.event.files = answer.sent.map .ofEntry

theorem Traced.correlated {s : FileBrowser} (traced : Traced s) : Correlated s := by
  refine ⟨?_, traced.own, ?_⟩
  · intro id _
    have settled : s.settled.Nodup := traced.nodup.sublist (List.sublist_append_right _ _)
    refine ⟨?_, List.nodup_iff_count.mp settled id⟩
    rw [← traced.told.count_eq id, List.count_eq_countP, List.countP_map,
      List.countP_eq_length_filter]
    congr 1
  · intro answer mentioned
    rw [traced.listed answer mentioned]
    simp [TsServerFile.ofEntry, Function.comp_def]

/-- The flag is copied from the mark of a file, so only empty listings have it right. -/
theorem Traced.directoriesTold_iff {s : FileBrowser} (traced : Traced s) :
    DirectoriesTold s ↔ ∀ answer ∈ s.events, answer.sent = [] := by
  constructor
  · intro right answer mentioned
    have flags := right answer mentioned
    rw [traced.listed answer mentioned] at flags
    cases sent : answer.sent with
    | nil => rfl
    | cons entry rest => simp [sent, TsServerFile.ofEntry] at flags
  · intro empty answer mentioned
    rw [traced.listed answer mentioned, empty answer mentioned]
    rfl

section Traced

variable {s : FileBrowser}

/-- Requests change their places. -/
theorem traced_moved (traced : Traced s) {pipe : CommandPipe} (connected : Bool)
    (moved : (pipe.commands.filterMap fileRequest).Perm (s.pipe.commands.filterMap fileRequest)) :
    Traced { s with connected, pipe } := by
  have openPerm : (openRequests { s with connected, pipe }).Perm (openRequests s) :=
    moved.append_right _
  have places : (requestPlaces { s with connected, pipe }).Perm (requestPlaces s) :=
    (openPerm.map _).append_right _
  refine { traced with known := ?_, nodup := ?_, keys := ?_, pending := ?_ }
  · intro notZero id there
    exact traced.known notZero id (places.mem_iff.mp there)
  · exact places.nodup_iff.mpr traced.nodup
  · exact (openPerm.pairwise_iff fun differ same => (differ same.symm).symm).mpr traced.keys
  · intro r there
    exact traced.pending r (openPerm.mem_iff.mp there)

theorem requestOf_kind_key {kind : FileRequestKind} {call : FileCall} {r : FileRequest}
    (asked : s.requestOf kind call = some r) : r.kind = kind ∧ r.requestId = s.freshRequestId := by
  unfold requestOf at asked
  split at asked
  · cases asked
  · split at asked
    · cases asked
    · cases asked
      exact ⟨rfl, rfl⟩

theorem fileRequest_command (r : FileRequest) (password : String) :
    fileRequest (command r password) = some r := by
  obtain ⟨kind, id, key⟩ := r
  cases kind <;> rfl

theorem pending_setPending_self (s : FileBrowser) (kind : FileRequestKind) (key : FileKey)
    (id : Option UInt32) : (s.setPending kind key id).pending kind key = id := by
  cases kind <;> simp [setPending, FileBrowser.pending]

theorem pending_setPending_of_ne (s : FileBrowser) {kind other : FileRequestKind}
    {key place : FileKey} (id : Option UInt32) (apart : other = kind → place ≠ key) :
    (s.setPending kind key id).pending other place = s.pending other place := by
  cases kind <;> cases other <;> simp_all [setPending, FileBrowser.pending]

theorem setPending_eq (s : FileBrowser) (kind : FileRequestKind) (key : FileKey)
    (id : Option UInt32) : s.setPending kind key id = { s with
      pendingFileRequests := (s.setPending kind key id).pendingFileRequests
      pendingFileInfoRequests := (s.setPending kind key id).pendingFileInfoRequests } := by
  cases kind <;> rfl

theorem toNat_succ {n : UInt32} (wraps : n + 1 ≠ 0) : (n + 1).toNat = n.toNat + 1 := by
  have sum : (n + 1).toNat = (n.toNat + 1) % 2 ^ 32 := UInt32.toNat_add n 1
  have small := n.toNat_lt
  by_contra different
  refine wraps (UInt32.toNat_inj.mp ?_)
  change (n + 1).toNat = 0
  omega

/-- An id is used up for a key that no open request has. -/
theorem traced_setPending (traced : Traced s) {kind : FileRequestKind} {key : FileKey}
    (notZero : s.nextRequestId ≠ 0) (id : Option UInt32)
    (apart : ∀ other ∈ openRequests s, other.kind = kind → other.key ≠ key) :
    Traced ({ s with nextRequestId := s.nextRequestId + 1 }.setPending kind key id) := by
  rw [setPending_eq]
  refine { traced with known := ?_, pending := ?_ }
  · intro wraps other there
    have known := traced.known notZero other there
    have next := toNat_succ wraps
    dsimp only
    omega
  · intro r there
    have same := pending_setPending_of_ne { s with nextRequestId := s.nextRequestId + 1 } id
      (apart r there)
    rw [setPending_eq] at same
    exact same.trans (traced.pending r there)

/-- A request with a new id and a key of its own enters the channel. -/
theorem traced_queue (traced : Traced s) {command : Command} {r : FileRequest}
    (carries : fileRequest command = some r) (fresh : r.requestId ∉ requestPlaces s)
    (below : s.nextRequestId ≠ 0 → r.requestId.toNat < s.nextRequestId.toNat)
    (apart : ∀ other ∈ openRequests s, other.kind = r.kind → other.key ≠ r.key)
    (registered : s.pending r.kind r.key = some r.requestId) :
    Traced { s with pipe := s.pipe.queue command } := by
  have openPerm : (openRequests { s with pipe := s.pipe.queue command }).Perm
      (r :: openRequests s) := by
    have entered := (s.pipe.commands_queue command).filterMap fileRequest
    rw [List.filterMap_cons_some carries] at entered
    exact entered.append_right _
  have places : (requestPlaces { s with pipe := s.pipe.queue command }).Perm
      (r.requestId :: requestPlaces s) := (openPerm.map _).append_right _
  refine { traced with known := ?_, nodup := ?_, keys := ?_, pending := ?_ }
  · intro notZero id there
    rcases List.mem_cons.mp (places.mem_iff.mp there) with rfl | there
    · exact below notZero
    · exact traced.known notZero id there
  · exact places.nodup_iff.mpr (List.nodup_cons.mpr ⟨fresh, traced.nodup⟩)
  · refine (openPerm.pairwise_iff fun differ same => (differ same.symm).symm).mpr ?_
    exact List.pairwise_cons.mpr
      ⟨fun other there same => (apart other there same.symm).symm, traced.keys⟩
  · intro other there
    rcases List.mem_cons.mp (openPerm.mem_iff.mp there) with rfl | there
    · exact registered
    · exact traced.pending other there

/-- What the app is given is not traced. -/
theorem traced_hand {answer : FileBrowser × UInt32} (traced : Traced answer.1) :
    Traced (hand answer) := by
  unfold hand
  split
  · exact traced
  · exact { traced with }

theorem traced_ask (traced : Traced s) (kind : FileRequestKind) (call : FileCall) (queued : Bool)
    (met : separate s kind call = true) : Traced (s.ask kind call queued).1 := by
  unfold ask
  split
  · exact traced
  next r asked =>
    obtain ⟨rfl, fresh⟩ := requestOf_kind_key asked
    have meets : s.nextRequestId ≠ 0 ∧
        ∀ other ∈ openRequests s, other.kind = r.kind → other.key ≠ r.key := by
      simpa [separate, asked] using met
    obtain ⟨notZero, apart⟩ := meets
    have id : r.requestId = s.nextRequestId := by
      rw [fresh, freshRequestId, if_neg notZero]
    have unused : r.requestId ∉ requestPlaces s := by
      intro there
      have known := traced.known notZero r.requestId there
      rw [id] at known
      exact Nat.lt_irrefl _ known
    rw [id]
    dsimp only
    split
    · have counted := traced_setPending traced notZero (some s.nextRequestId) apart
      rw [setPending_eq] at counted ⊢
      refine traced_queue counted (fileRequest_command r _) unused ?_ apart ?_
      · intro wraps
        have next := toNat_succ wraps
        dsimp only
        rw [id]
        omega
      · have registered := pending_setPending_self
          { s with nextRequestId := s.nextRequestId + 1 } r.kind r.key (some s.nextRequestId)
        rw [setPending_eq] at registered
        rw [id]
        exact registered
    · exact traced_setPending traced notZero none apart

/-- A request is done: its place is the last one, and one event tells of it. -/
theorem traced_done (traced : Traced s) {t : FileBrowser} {r : FileRequest} {answer : FileAnswer}
    (left : (openRequests s).Perm (r :: openRequests t))
    (counter : t.nextRequestId = s.nextRequestId)
    (settled : t.settled = s.settled ++ [r.requestId])
    (events : t.events = s.events ++ [answer])
    (own : answer.event.requestId = r.requestId ∧ answer.cause = r.requestId)
    (listed : answer.event.files = answer.sent.map .ofEntry)
    (pending : ∀ kind key, (kind = r.kind → key ≠ r.key) → t.pending kind key = s.pending kind key)
    (buffers : ∀ q ∈ t.wire, q.request.kind = .list →
      t.fileListBuffers q.request.key = q.sent.map .ofEntry)
    (clean : ∀ key, (∀ q ∈ t.wire, q.request.kind = .list → q.request.key ≠ key) →
      t.fileListBuffers key = []) : Traced t := by
  have places : (requestPlaces t).Perm (requestPlaces s) := by
    unfold requestPlaces
    rw [settled]
    refine List.Perm.trans ?_ ((left.map (·.requestId)).append_right s.settled).symm
    rw [← List.append_assoc]
    exact List.perm_append_singleton _ _
  have keys := (left.pairwise_iff fun differ same => (differ same.symm).symm).mp traced.keys
  constructor
  · intro notZero id there
    rw [counter] at notZero ⊢
    exact traced.known notZero id (places.mem_iff.mp there)
  · exact places.nodup_iff.mpr traced.nodup
  · exact (List.pairwise_cons.mp keys).2
  · intro q there
    rw [pending q.kind q.key fun same =>
      ((List.pairwise_cons.mp keys).1 q there same.symm).symm]
    exact traced.pending q (left.mem_iff.mpr (List.mem_cons_of_mem _ there))
  · exact buffers
  · exact clean
  · rw [events, settled, List.map_append]
    have one : [answer].map (·.event.requestId) = [r.requestId] := by simp [own.1]
    rw [one]
    exact traced.told.append_right _
  · rw [events]
    simp only [List.forall_mem_append, List.forall_mem_singleton]
    exact ⟨traced.own, own.1.trans own.2.symm⟩
  · rw [events]
    simp only [List.forall_mem_append, List.forall_mem_singleton]
    exact ⟨traced.listed, listed⟩

theorem traced_receive (traced : Traced s) {t : FileBrowser}
    (met : separated s .receive = true) (received : s.receive = some t) : Traced t := by
  obtain ⟨pipe, moved, rfl⟩ := Option.map_eq_some_iff.mp received
  have nothing : s.pipe.lost.bind fileRequest = none := by simpa [separated] using met
  have kept : s.pipe.lost.toList.filterMap fileRequest = [] := by
    cases lost : s.pipe.lost with
    | none => rfl
    | some command => simpa [lost] using nothing
  have same := (CommandPipe.commands_receive moved).filterMap fileRequest
  rw [List.filterMap_append, kept, List.nil_append] at same
  have result := traced_moved traced s.connected same.symm
  simpa [nothing] using result

/-- The server gets a request. -/
theorem traced_send (traced : Traced s) {pipe : CommandPipe} {r : FileRequest}
    (left : (s.pipe.commands.filterMap fileRequest).Perm
      (r :: pipe.commands.filterMap fileRequest)) :
    Traced { s with pipe, wire := s.wire ++ [⟨r, []⟩] } := by
  have openPerm : (openRequests { s with pipe, wire := s.wire ++ [⟨r, []⟩] }).Perm
      (openRequests s) := by
    unfold openRequests
    rw [List.map_append]
    refine List.Perm.trans ?_ (left.symm.append_right _)
    rw [List.cons_append, ← List.append_assoc]
    exact List.perm_append_singleton r _
  have places : (requestPlaces { s with pipe, wire := s.wire ++ [⟨r, []⟩] }).Perm
      (requestPlaces s) := (openPerm.map _).append_right _
  have symm : ∀ {a b : FileRequest}, (a.kind = b.kind → a.key ≠ b.key) →
      b.kind = a.kind → b.key ≠ a.key := fun differ same => (differ same.symm).symm
  have first := ((left.append_right (s.wire.map (·.request))).pairwise_iff symm).mp traced.keys
  have unused : r.kind = .list → s.fileListBuffers r.key = [] := by
    intro list
    refine traced.clean r.key fun q listed isList => ?_
    have apart := (List.pairwise_cons.mp first).1 q.request
      (List.mem_append_right _ (List.mem_map_of_mem listed))
    exact (apart (list.trans isList.symm)).symm
  refine { traced with
    known := ?_, nodup := ?_, keys := ?_, pending := ?_, buffers := ?_, clean := ?_ }
  · intro notZero id there
    exact traced.known notZero id (places.mem_iff.mp there)
  · exact places.nodup_iff.mpr traced.nodup
  · exact (openPerm.pairwise_iff symm).mpr traced.keys
  · intro q there
    exact traced.pending q (openPerm.mem_iff.mp there)
  · simp only [List.forall_mem_append, List.forall_mem_singleton]
    exact ⟨traced.buffers, unused⟩
  · intro key free
    exact traced.clean key fun q listed => free q (List.mem_append_left _ listed)

theorem traced_execute (traced : Traced s) {t : FileBrowser} {failure : Option String}
    (executed : s.execute failure = some t) : Traced t := by
  obtain ⟨⟨command, pipe⟩, popped, rfl⟩ := Option.map_eq_some_iff.mp executed
  have left := (CommandPipe.commands_pop popped).filterMap fileRequest
  dsimp only
  split
  next nothing =>
    rw [List.filterMap_cons_none nothing] at left
    exact traced_moved traced s.connected left.symm
  next r carried =>
    rw [List.filterMap_cons_some carried] at left
    split
    next => exact traced_send traced left
    next reason =>
      refine traced_done traced (left.append_right _) rfl rfl rfl ?_ ?_ (fun _ _ _ => rfl)
        traced.buffers traced.clean
      · cases kind : r.kind <;> simp [unsent, kind, ServerFileEvent.requestId]
      · cases kind : r.kind <;> simp [unsent, kind, ServerFileEvent.files]

/-- What is open without one of the requests that the server has. -/
theorem openRequests_erase {position : Nat} {r : OpenRequest}
    (found : s.wire[position]? = some r) :
    (openRequests s).Perm (r.request :: (s.pipe.commands.filterMap fileRequest ++
      (s.wire.eraseIdx position).map (·.request))) :=
  (((erased_perm found).map (·.request)).append_left _).trans List.perm_middle

/-- No other listing that the server has got has the key of this one. -/
theorem Traced.key_ne (traced : Traced s) {position : Nat} {r : OpenRequest}
    (found : s.wire[position]? = some r) :
    ∀ q ∈ s.wire.eraseIdx position, q.request.kind = r.request.kind →
      q.request.key ≠ r.request.key := by
  have keys := ((openRequests_erase found).pairwise_iff
    fun differ same => (differ same.symm).symm).mp traced.keys
  intro q listed same
  have apart := (List.pairwise_cons.mp keys).1 q.request
    (List.mem_append_right _ (List.mem_map_of_mem listed))
  exact (apart same.symm).symm

theorem traced_fileList (traced : Traced s) {t : FileBrowser} {position : Nat}
    {entries : List FileEntry} (added : s.handleFileList position entries = some t) :
    Traced t := by
  unfold handleFileList at added
  split at added
  next requestId key sent found =>
    obtain rfl := Option.some.inj added
    obtain ⟨inside, _⟩ := List.getElem?_eq_some_iff.mp found
    have buffer : s.fileListBuffers key = sent.map .ofEntry :=
      traced.buffers _ (List.mem_of_getElem? found) rfl
    have same : (s.wire.set position ⟨⟨.list, requestId, key⟩, sent ++ entries⟩).map (·.request) =
        s.wire.map (·.request) := by
      have here : (s.wire.map (·.request))[position]? = some ⟨.list, requestId, key⟩ := by
        simp [found]
      obtain ⟨within, value⟩ := List.getElem?_eq_some_iff.mp here
      rw [List.map_set]
      dsimp only
      rw [← value]
      exact List.set_getElem_self _
    have kept : ∀ q ∈ s.wire.set position ⟨⟨.list, requestId, key⟩, sent ++ entries⟩,
        q = ⟨⟨.list, requestId, key⟩, sent ++ entries⟩ ∨ q ∈ s.wire.eraseIdx position :=
      fun q listed => List.mem_cons.mp ((List.set_perm_cons_eraseIdx inside _).mem_iff.mp listed)
    have openSame : openRequests { s with
        fileListBuffers := Function.update s.fileListBuffers key
          (s.fileListBuffers key ++ entries.map .ofEntry)
        wire := s.wire.set position ⟨⟨.list, requestId, key⟩, sent ++ entries⟩ } =
        openRequests s := by
      unfold openRequests
      rw [same]
    refine { traced with
      known := ?_, nodup := ?_, keys := ?_, pending := ?_, buffers := ?_, clean := ?_ }
    · unfold requestPlaces
      rw [openSame]
      exact traced.known
    · unfold requestPlaces
      rw [openSame]
      exact traced.nodup
    · rw [openSame]
      exact traced.keys
    · rw [openSame]
      exact traced.pending
    · intro q listed isList
      dsimp only
      rcases kept q listed with rfl | listed
      · simp [buffer]
      · rw [Function.update_of_ne (traced.key_ne found q listed isList)]
        exact traced.buffers q (List.mem_of_mem_eraseIdx listed) isList
    · intro place free
      have apart : place ≠ key := by
        rintro rfl
        exact free _ ((List.set_perm_cons_eraseIdx inside _).mem_iff.mpr List.mem_cons_self)
          rfl rfl
      dsimp only
      rw [Function.update_of_ne apart]
      refine traced.clean place fun q listed isList => ?_
      rcases List.mem_cons.mp ((erased_perm found).mem_iff.mp listed) with rfl | listed
      · exact apart.symm
      · exact free q ((List.set_perm_cons_eraseIdx inside _).mem_iff.mpr
          (List.mem_cons_of_mem _ listed)) isList
  next => cases added

theorem traced_fileListFinished (traced : Traced s) {t : FileBrowser} {position : Nat}
    (finished : s.handleFileListFinished position = some t) : Traced t := by
  unfold handleFileListFinished at finished
  split at finished
  next cause key sent found =>
    obtain rfl := Option.some.inj finished
    have inside := List.mem_of_getElem? found
    have registered : s.pendingFileRequests key = some cause :=
      traced.pending ⟨.list, cause, key⟩ (List.mem_append_right _ (List.mem_map_of_mem inside))
    have buffer : s.fileListBuffers key = sent.map .ofEntry := traced.buffers _ inside rfl
    refine traced_done (r := ⟨.list, cause, key⟩) traced (openRequests_erase found) rfl rfl rfl
      ?_ buffer ?_ ?_ ?_
    · simp [ServerFileEvent.requestId, registered]
    · intro kind place apart
      exact pending_setPending_of_ne s none apart
    · intro q listed isList
      dsimp only
      rw [Function.update_of_ne (traced.key_ne found q listed isList)]
      exact traced.buffers q (List.mem_of_mem_eraseIdx listed) isList
    · intro place free
      by_cases same : place = key
      · simp [same]
      · dsimp only
        rw [Function.update_of_ne same]
        refine traced.clean place fun q listed isList => ?_
        rcases List.mem_cons.mp ((erased_perm found).mem_iff.mp listed) with rfl | listed
        · exact Ne.symm same
        · exact free q listed isList
  next => cases finished

theorem traced_fileInfo (traced : Traced s) {t : FileBrowser} {position : Nat} {path : String}
    {size : UInt64} {dateTime : Int}
    (answered : s.handleFileInfo position path size dateTime = some t) : Traced t := by
  unfold handleFileInfo at answered
  split at answered
  next cause key sent found =>
    obtain rfl := Option.some.inj answered
    have inside := List.mem_of_getElem? found
    have registered : s.pendingFileInfoRequests key = some cause :=
      traced.pending ⟨.info, cause, key⟩ (List.mem_append_right _ (List.mem_map_of_mem inside))
    refine traced_done (r := ⟨.info, cause, key⟩) traced (openRequests_erase found) rfl rfl rfl
      ?_ ?_ ?_ ?_ ?_
    · simp [ServerFileEvent.requestId, registered]
    · rfl
    · intro kind place apart
      exact pending_setPending_of_ne s none apart
    · intro q listed isList
      exact traced.buffers q (List.mem_of_mem_eraseIdx listed) isList
    · intro place free
      refine traced.clean place fun q listed isList => ?_
      rcases List.mem_cons.mp ((erased_perm found).mem_iff.mp listed) with rfl | listed
      · cases isList
      · exact free q listed isList
  next => cases answered

theorem traced_step {t : FileBrowser} {action : Action} (traced : Traced s)
    (met : separated s action = true) (taken : s.step action = some t) : Traced t := by
  cases action with
  | listFiles call queued =>
    obtain rfl := Option.some.inj taken
    exact traced_hand (traced_ask traced .list call queued met)
  | fileInfo call queued =>
    obtain rfl := Option.some.inj taken
    exact traced_hand (traced_ask traced .info call queued met)
  | queueCommand command =>
    simp only [FileBrowser.step, Option.ite_none_left_eq_some, Option.some.injEq] at taken
    obtain ⟨another, rfl⟩ := taken
    have entered := (s.pipe.commands_queue command).filterMap fileRequest
    rw [List.filterMap_cons_none (by simpa using another)] at entered
    exact traced_moved traced s.connected entered
  | setConnected connected =>
    obtain rfl := Option.some.inj taken
    exact traced_moved traced connected (List.Perm.refl _)
  | receive => exact traced_receive traced met taken
  | take now =>
    obtain rfl := Option.some.inj taken
    exact traced_moved traced s.connected ((s.pipe.commands_take now).filterMap fileRequest)
  | enterDegraded now =>
    obtain rfl := Option.some.inj taken
    exact traced_moved traced s.connected (List.Perm.refl _)
  | execute failure => exact traced_execute traced taken
  | fileList position entries => exact traced_fileList traced taken
  | fileListFinished position => exact traced_fileListFinished traced taken
  | fileInfoAnswer position path size dateTime => exact traced_fileInfo traced taken
  | refuse position => cases met

theorem traced_new (now : Instant) : Traced (.new now) := by
  constructor <;> simp [FileBrowser.new, requestPlaces, openRequests]

end Traced

/-- While requests stay separate, every answer reaches the request that asked; the
directories are told right as long as no listing has an entry, and only so long. -/
theorem answers_reach_their_requests (now : Instant) (actions : List Action) (s : FileBrowser)
    (run : Run FileBrowser.step (fun t action => separated t action = true)
      (.new now) actions s) :
    Correlated s ∧ (DirectoriesTold s ↔ ∀ answer ∈ s.events, answer.sent = []) := by
  have traced : Traced s := run.invariant Traced (traced_new now)
    (fun _ _ _ traced met taken => traced_step traced met taken)
  exact ⟨traced.correlated, traced.directoriesTold_iff⟩

/-- An empty directory and one file of another are asked for, and answered. -/
def browsedHistory : List Action :=
  [.listFiles ⟨5, some "/a", none⟩ true, .fileInfo ⟨5, some "/b", none⟩ true, .receive, .receive,
    .take 0, .take 0, .execute none, .execute none, .fileInfoAnswer 1 "/" 512 0,
    .fileListFinished 0]

theorem browsed_answers_reach_their_requests :
    ∃ s : FileBrowser, s.returned = [1, 2] ∧ s.events.map (·.event.requestId) = [2, 1] ∧
      Correlated s ∧ DirectoriesTold s := by
  obtain ⟨s, run, reached⟩ := reaches_of_guarded separated (show
    (exec (guarded separated FileBrowser.step) (.new 0) browsedHistory).any (fun s =>
      s.returned == [1, 2] && s.events.map (·.event.requestId) == [2, 1] &&
        s.events.map (·.sent) == [[], []]) = true by decide +kernel)
  simp only [Bool.and_eq_true, beq_iff_eq] at reached
  obtain ⟨⟨returned, ids⟩, sent⟩ := reached
  obtain ⟨correlated, told⟩ := answers_reach_their_requests 0 browsedHistory s run
  refine ⟨s, returned, ids, correlated, told.mpr fun answer mentioned => ?_⟩
  have listed : answer.sent ∈ s.events.map (·.sent) := List.mem_map_of_mem mentioned
  simpa [sent] using listed

/-- The second of two listings replaces the first one in the queue, and the server reports
one file. -/
def replacedHistory : List Action :=
  [.listFiles ⟨5, some "/a", none⟩ true, .listFiles ⟨5, some "/b", none⟩ true, .receive, .receive,
    .take 0, .execute none, .fileList 0 [⟨"f", 10, 0, true⟩], .fileListFinished 0]

theorem replaced_listing_is_not_answered :
    ∃ s : FileBrowser, Run FileBrowser.step anyStep (.new 0) replacedHistory s ∧
      s.returned = [1, 2] ∧ s.settled = [1, 2] ∧
      s.events = [⟨.fileList 2 5 "/b" true none [⟨"f", 10, 0, true⟩], 2, [⟨"f", 10, 0, true⟩]⟩] ∧
      ¬Correlated s ∧ ¬DirectoriesTold s := by
  obtain ⟨s, run, reached⟩ := reaches_of_exec anyStep (fun _ _ _ => trivial) (show
    (exec FileBrowser.step (.new 0) replacedHistory).any (fun s =>
      s.returned == [1, 2] && s.settled == [1, 2] && s.events ==
        [⟨.fileList 2 5 "/b" true none [⟨"f", 10, 0, true⟩], 2, [⟨"f", 10, 0, true⟩]⟩]) = true by
    decide +kernel)
  simp only [Bool.and_eq_true, beq_iff_eq] at reached
  obtain ⟨⟨returned, settled⟩, events⟩ := reached
  refine ⟨s, run, returned, settled, events, fun correlated => ?_, fun told => ?_⟩
  · have one := (correlated.once 1 (by simp [returned])).1
    simp [events, settled, ServerFileEvent.requestId] at one
  · have flags := told _ (by rw [events]; exact List.mem_singleton_self _)
    simp [ServerFileEvent.files] at flags

end Nek0.Guarantees
