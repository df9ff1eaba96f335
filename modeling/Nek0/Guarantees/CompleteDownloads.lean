import Mathlib.Data.List.Infix
import Nek0.Source.Downloads

/-!
# Downloads are complete or fail

Both paths read until the end of the stream, and only one looks at the announced size, after a read
that may already have brought more.
-/

namespace Nek0.Guarantees

open Nek0.Source Nek0.Source.Downloads

/-- A way to read a stream. -/
structure ReadsOf (stream : List UInt8) (reads : List (List UInt8)) : Prop where
  whole : reads.flatten = stream
  sized : ∀ read ∈ reads, read ≠ [] ∧ read.length ≤ BUFFER

/-- A success means that the file is what was announced, and how the stream is read makes no
difference, whether or not the server is reached and whatever is at the target. -/
structure CompleteOrFails (job : PendingTransfer) (announced : Nat) (stream : List UInt8)
    (path : Bool → Target → List (List UInt8) → Option Finished) : Prop where
  complete : ∀ reached target reads finished, ReadsOf stream reads →
    path reached target reads = some finished → finished.event.ok = true →
      ∃ content, finished.file = some content ∧ content.length = announced ∧
        content <+: stream ∧ content.length ≤ min job.maxBytes TRANSFER_HARD_LIMIT
  unsplit : ∀ reached target reads others, ReadsOf stream reads → ReadsOf stream others →
    path reached target reads = path reached target others

/-- Too much is announced, or at most that comes, or nothing is announced and nothing accepted. -/
def announcesAll (limit announced : Nat) (stream : List UInt8) (ending : StreamEnd) : Bool :=
  limit < announced ||
    if announced = 0 then stream = [] || limit < stream.length || ending ≠ .closed
    else stream.length ≤ announced

/-- The stream is too long or breaks off, or it is what was announced and not over the ceiling. -/
def endsAsAnnounced (maxBytes announced : Nat) (stream : List UInt8) (ending : StreamEnd) : Bool :=
  maxBytes < stream.length || ending ≠ .closed ||
    stream.length = announced && stream.length ≤ TRANSFER_HARD_LIMIT

theorem readsOf_singles (stream : List UInt8) : ReadsOf stream (stream.map ([·])) := by
  constructor
  · simp [← List.flatMap_def]
  · intro read listed
    obtain ⟨byte, _, rfl⟩ := List.mem_map.mp listed
    exact ⟨by simp, by simp [BUFFER]⟩

theorem ReadsOf.append {first second : List UInt8} {reads others : List (List UInt8)}
    (before : ReadsOf first reads) (after : ReadsOf second others) :
    ReadsOf (first ++ second) (reads ++ others) := by
  constructor
  · rw [List.flatten_append, before.whole, after.whole]
  · intro read listed
    exact (List.mem_append.mp listed).elim (before.sized read) (after.sized read)

theorem ReadsOf.cons {read stream : List UInt8} {reads : List (List UInt8)}
    (after : ReadsOf stream reads) (some : read ≠ []) (fits : read.length ≤ BUFFER) :
    ReadsOf (read ++ stream) (read :: reads) := by
  constructor
  · rw [List.flatten_cons, after.whole]
  · intro other listed
    rcases List.mem_cons.mp listed with rfl | listed
    · exact ⟨some, fits⟩
    · exact after.sized other listed

section Answered

variable {limit announced : Nat} {ending : StreamEnd}

/-- While the limit is kept and something is missing, the loop only collects. -/
theorem readPayload_append (payload : List UInt8) (before after : List (List UInt8))
    (within : payload.length + before.flatten.length ≤ limit)
    (missing : announced = 0 ∨ payload.length + before.flatten.length < announced) :
    readPayload limit announced ending payload (before ++ after) =
      readPayload limit announced ending (payload ++ before.flatten) after := by
  induction before generalizing payload with
  | nil => simp
  | cons read before ih =>
    rw [List.flatten_cons, List.length_append] at within missing
    have longer : (payload ++ read).length = payload.length + read.length := List.length_append
    rw [List.cons_append, readPayload, if_neg (by omega), if_neg (by omega),
      ih _ (by omega) (by omega), List.flatten_cons, List.append_assoc]

theorem readPayload_too_large (payload : List UInt8) (reads : List (List UInt8))
    (unannounced : announced = 0) (within : payload.length ≤ limit)
    (excess : limit < payload.length + reads.flatten.length) :
    readPayload limit announced ending payload reads = .error "too_large" := by
  induction reads generalizing payload with
  | nil => exact absurd excess (by simpa using within)
  | cons read reads ih =>
    rw [List.flatten_cons, List.length_append] at excess
    have longer : (payload ++ read).length = payload.length + read.length := List.length_append
    rw [readPayload]
    split
    next => rfl
    next fits =>
      rw [if_neg (by omega)]
      exact ih _ (by omega) (by omega)

theorem readPayload_exact (payload : List UInt8) (reads : List (List UInt8))
    (allowed : announced ≤ limit) (missing : payload.length < announced)
    (exact : payload.length + reads.flatten.length = announced) :
    readPayload limit announced ending payload reads = .ok (payload ++ reads.flatten) := by
  induction reads generalizing payload with
  | nil =>
    rw [List.flatten_nil, List.length_nil] at exact
    omega
  | cons read reads ih =>
    rw [List.flatten_cons, List.length_append] at exact
    have longer : (payload ++ read).length = payload.length + read.length := List.length_append
    rw [readPayload, if_neg (by omega)]
    split
    next done =>
      have nothing : reads.flatten = [] := List.eq_nil_of_length_eq_zero (by omega)
      rw [List.flatten_cons, nothing, List.append_nil]
    next more =>
      rw [ih _ (by omega) (by omega), List.flatten_cons, List.append_assoc]

/-- What comes of a stream that brings at most what was announced. -/
def payloadOf (limit announced : Nat) (ending : StreamEnd) (stream : List UInt8) :
    Except String (List UInt8) :=
  if announced = 0 ∧ limit < stream.length then .error "too_large"
  else if 0 < announced ∧ stream.length = announced then .ok stream
  else if ending = .closed then .ok stream
  else .error "network"

theorem readPayload_eq {stream : List UInt8} {reads : List (List UInt8)}
    (split : reads.flatten = stream) (allowed : announced ≤ limit)
    (all : announced = 0 ∨ stream.length ≤ announced) :
    readPayload limit announced ending [] reads = payloadOf limit announced ending stream := by
  subst split
  unfold payloadOf
  split_ifs with excess exact closed
  · exact readPayload_too_large [] reads excess.1 (Nat.zero_le _) (by simpa using excess.2)
  · exact readPayload_exact [] reads allowed exact.1 (by simpa using exact.2)
  all_goals
    have collected : readPayload limit announced ending [] (reads ++ []) =
        readPayload limit announced ending ([] ++ reads.flatten) [] :=
      readPayload_append [] reads [] (by rw [List.length_nil]; omega)
        (by rw [List.length_nil]; omega)
    rw [List.append_nil] at collected
    rw [collected, readPayload]
    simp [closed]

/-- The file is longer than announced if the last read brings one byte more. -/
theorem readPayload_excess {before : List UInt8} (ending : StreamEnd) (last excess : UInt8)
    (after : List UInt8) (allowed : announced ≤ limit) (length : before.length + 1 = announced) :
    readPayload limit announced ending []
        (before.map ([·]) ++ [last] :: (excess :: after).map ([·])) = .ok (before ++ [last]) ∧
      readPayload limit announced ending []
          (before.map ([·]) ++ [last, excess] :: after.map ([·])) =
        if limit < announced + 1 then .error "too_large" else .ok (before ++ [last, excess]) := by
  have flat : (before.map ([·])).flatten = before := (readsOf_singles before).whole
  constructor
  · rw [readPayload_append _ _ _ (by rw [flat, List.length_nil]; omega)
      (by rw [flat, List.length_nil]; omega), flat, readPayload, List.nil_append]
    rw [if_neg (by simp; omega), if_pos (by simp; omega)]
  · rw [readPayload_append _ _ _ (by rw [flat, List.length_nil]; omega)
      (by rw [flat, List.length_nil]; omega), flat, readPayload, List.nil_append]
    rw [show before.length + [last, excess].length = announced + 1 by simp; omega]
    split
    next => rfl
    next => rw [if_pos (by simp; omega)]

variable {job : PendingTransfer} {stream : List UInt8}

theorem spawnFileDownload_of_payload (transferId : UInt16) (target : Target)
    {payload : List UInt8} {reads : List (List UInt8)}
    (allowed : announced ≤ min job.maxBytes TRANSFER_HARD_LIMIT)
    (read : readPayload (min job.maxBytes TRANSFER_HARD_LIMIT) announced ending [] reads =
      .ok payload) (enough : announced ≤ payload.length) (writable : target.writable = true) :
    spawnFileDownload transferId job announced true target reads ending =
      finish transferId job target ⟨.ok payload.length, some payload⟩ := by
  unfold spawnFileDownload runFileDownload
  simp only [Nat.not_lt.mpr allowed, if_false, Bool.not_true, Bool.false_eq_true, read]
  rw [if_neg (by omega), write, if_pos writable]

/-- What was written is in the file. -/
theorem file_of_write {transferId : UInt16} {target : Target} {payload : List UInt8}
    (ok : (finish transferId job target (write target payload)).event.ok = true) :
    (finish transferId job target (write target payload)).file = some payload := by
  unfold write at ok ⊢
  split at ok
  next writable =>
    rw [if_pos writable]
    rfl
  · cases ok

/-- The payload of a download that is reported as a success. -/
theorem payload_of_ok {transferId : UInt16} {reached : Bool} {target : Target}
    {reads : List (List UInt8)}
    (ok : (spawnFileDownload transferId job announced reached target reads ending).event.ok =
      true) :
    announced ≤ min job.maxBytes TRANSFER_HARD_LIMIT ∧ ∃ payload,
      readPayload (min job.maxBytes TRANSFER_HARD_LIMIT) announced ending [] reads =
        .ok payload ∧ (0 < announced → announced ≤ payload.length) ∧
      (spawnFileDownload transferId job announced reached target reads ending).file =
        some payload := by
  unfold spawnFileDownload runFileDownload at ok ⊢
  dsimp only at ok ⊢
  split at ok
  · cases ok
  next allowed =>
  split at ok
  · cases ok
  next reached =>
  cases read : readPayload (min job.maxBytes TRANSFER_HARD_LIMIT) announced ending [] reads with
  | error reason =>
    rw [read] at ok
    cases ok
  | ok payload =>
    simp only [read] at ok
    split at ok
    · cases ok
    next enough =>
    refine ⟨by omega, payload, rfl, by omega, ?_⟩
    simp only [if_neg allowed, if_neg reached, if_neg enough]
    exact file_of_write ok

/-- A payload that has all that was announced is the stream. -/
theorem eq_of_payloadOf {payload : List UInt8}
    (all : announcesAll limit announced stream ending = true) (allowed : announced ≤ limit)
    (enough : 0 < announced → announced ≤ payload.length)
    (read : payloadOf limit announced ending stream = .ok payload) :
    payload = stream ∧ stream.length = announced := by
  unfold payloadOf at read
  simp only [announcesAll, Nat.not_lt.mpr allowed, decide_false, Bool.false_or] at all
  split_ifs at read with excess exact closed
  · exact ⟨(Except.ok.inj read).symm, exact.2⟩
  · obtain rfl := Except.ok.inj read
    refine ⟨rfl, ?_⟩
    by_cases unannounced : announced = 0
    · have within : ¬limit < stream.length := not_and.mp excess unannounced
      have nothing : stream = [] ∨ limit < stream.length := by
        simpa [unannounced, closed] using all
      rw [nothing.resolve_right within, unannounced, List.length_nil]
    · rw [if_neg unannounced, decide_eq_true_eq] at all
      omega

/-- The path of a server's answer. -/
def answeredPath (transferId : UInt16) (job : PendingTransfer) (announced : Nat)
    (ending : StreamEnd) (reached : Bool) (target : Target) (reads : List (List UInt8)) :
    Option Finished :=
  some (spawnFileDownload transferId job announced reached target reads ending)

/-- A target where nothing is in the way. -/
def emptyTarget : Target := ⟨none, true, none, true⟩

/-- Whatever is sent without an announcement makes a file. -/
theorem rejected_of_unannounced {transferId : UInt16}
    (right : CompleteOrFails job announced stream (answeredPath transferId job announced ending))
    (unannounced : announced = 0) :
    stream = [] ∨ min job.maxBytes TRANSFER_HARD_LIMIT < stream.length ∨ ending ≠ .closed := by
  by_contra less
  simp only [not_or, Classical.not_not] at less
  obtain ⟨some, within, closed⟩ := less
  have read : readPayload (min job.maxBytes TRANSFER_HARD_LIMIT) announced ending []
      (stream.map ([·])) = .ok stream := by
    rw [readPayload_eq (readsOf_singles stream).whole (by omega) (.inl unannounced)]
    simp [payloadOf, unannounced, closed, within]
  have done := spawnFileDownload_of_payload transferId emptyTarget (by omega) read (by omega) rfl
  obtain ⟨content, file, length, -, -⟩ := right.complete true emptyTarget _ _
    (readsOf_singles stream) rfl (by rw [done]; rfl)
  rw [done] at file
  obtain rfl : stream = content := Option.some.inj file
  exact some (List.eq_nil_of_length_eq_zero (length.trans unannounced))

/-- Whether the last read brings more than was announced is a matter of the reads. -/
theorem length_le_of_announced {transferId : UInt16}
    (right : CompleteOrFails job announced stream (answeredPath transferId job announced ending))
    (allowed : announced ≤ min job.maxBytes TRANSFER_HARD_LIMIT) (positive : 0 < announced) :
    stream.length ≤ announced := by
  by_contra longer
  obtain ⟨before, rest, rfl, length⟩ : ∃ before rest, stream = before ++ rest ∧
      before.length + 1 = announced :=
    ⟨stream.take (announced - 1), stream.drop (announced - 1), by simp, by simp; omega⟩
  obtain ⟨last, excess, after, rfl⟩ : ∃ last excess after, rest = last :: excess :: after := by
    match rest with
    | last :: excess :: after => exact ⟨last, excess, after, rfl⟩
    | [] | [_] => exact absurd length (by simp at longer; omega)
  obtain ⟨exact, more⟩ := readPayload_excess ending last excess after allowed length
  have one := (readsOf_singles before).append
    ((readsOf_singles (excess :: after)).cons (List.cons_ne_nil last []) (by simp [BUFFER]))
  have two := (readsOf_singles before).append
    ((readsOf_singles after).cons (List.cons_ne_nil last [excess]) (by simp [BUFFER]))
  have same := right.unsplit true emptyTarget _ _ one two
  have done := spawnFileDownload_of_payload transferId emptyTarget allowed exact
    (by simp; omega) rfl
  have same := done.symm.trans (Option.some.inj same)
  obtain ⟨-, payload, read, -, file⟩ := payload_of_ok (by rw [← same]; rfl)
  rw [more] at read
  split at read
  · cases read
  · obtain rfl := Except.ok.inj read
    rw [← same] at file
    simpa using Option.some.inj file

theorem answered_iff (transferId : UInt16) (job : PendingTransfer) (announced : Nat)
    (stream : List UInt8) (ending : StreamEnd) :
    CompleteOrFails job announced stream (answeredPath transferId job announced ending) ↔
      announcesAll (min job.maxBytes TRANSFER_HARD_LIMIT) announced stream ending = true := by
  constructor
  · intro right
    by_cases allowed : min job.maxBytes TRANSFER_HARD_LIMIT < announced
    · simp [announcesAll, allowed]
    · by_cases unannounced : announced = 0
      · simpa [announcesAll, unannounced, or_assoc] using rejected_of_unannounced right unannounced
      · have short := length_le_of_announced right (by omega) (by omega)
        simp [announcesAll, unannounced, short]
  · intro all
    by_cases allowed : announced ≤ min job.maxBytes TRANSFER_HARD_LIMIT
    · have few : announced = 0 ∨ stream.length ≤ announced := by
        by_cases unannounced : announced = 0
        · exact .inl unannounced
        · simp only [announcesAll, Nat.not_lt.mpr allowed, decide_false, Bool.false_or,
            if_neg unannounced, decide_eq_true_eq] at all
          exact .inr all
      constructor
      · intro reached target reads finished split done ok
        obtain rfl := Option.some.inj done
        obtain ⟨-, payload, read, enough, file⟩ := payload_of_ok ok
        rw [readPayload_eq split.whole allowed few] at read
        obtain ⟨rfl, length⟩ := eq_of_payloadOf all allowed enough read
        exact ⟨payload, file, length, List.prefix_rfl, length ▸ allowed⟩
      · intro reached target reads others split split'
        unfold answeredPath spawnFileDownload runFileDownload
        dsimp only
        rw [readPayload_eq split.whole allowed few, readPayload_eq split'.whole allowed few]
    · constructor
      · intro reached target reads finished _ done ok
        obtain rfl := Option.some.inj done
        exact absurd (payload_of_ok ok).1 allowed
      · intro reached target reads others _ _
        unfold answeredPath spawnFileDownload runFileDownload
        simp only [Nat.not_le.mp allowed, if_true]

end Answered

section Streamed

variable {job : PendingTransfer} {stream : List UInt8} {announced : Nat} {ending : StreamEnd}

/-- What comes of a stream, however it is read. -/
theorem readStream_eq {maxBytes : Nat} (payload : List UInt8) (reads : List (List UInt8))
    (within : payload.length ≤ maxBytes) :
    readStream maxBytes ending payload reads =
      if maxBytes < payload.length + reads.flatten.length then some (.error "too_large")
      else readStream maxBytes ending (payload ++ reads.flatten) [] := by
  induction reads generalizing payload with
  | nil =>
    rw [List.flatten_nil, List.append_nil, List.length_nil, Nat.add_zero,
      if_neg (Nat.not_lt.mpr within)]
  | cons read reads ih =>
    have longer : (payload ++ read).length = payload.length + read.length := List.length_append
    rw [readStream, List.flatten_cons, List.length_append]
    split
    next exceeds => rw [if_pos (by omega)]
    next fits => rw [ih _ (by omega), longer, List.append_assoc, Nat.add_assoc]

/-- The path of a stream that the library opens. -/
def streamedPath (transferId : UInt16) (job : PendingTransfer) (ending : StreamEnd)
    (_reached : Bool) (target : Target) (reads : List (List UInt8)) : Option Finished :=
  spawnDownloadStream transferId job target reads ending

theorem streamedPath_eq {reads : List (List UInt8)} (transferId : UInt16) (job : PendingTransfer)
    (ending : StreamEnd) (split : ReadsOf stream reads) (reached : Bool) (target : Target) :
    streamedPath transferId job ending reached target reads =
      if job.maxBytes < stream.length then
        some (finish transferId job target ⟨.error "too_large", target.file⟩)
      else
        match ending with
        | .closed => some (finish transferId job target (write target stream))
        | .failed => some (finish transferId job target ⟨.error "network", target.file⟩)
        | .silent => none := by
  rw [streamedPath, spawnDownloadStream, readStream_eq [] reads (Nat.zero_le _), split.whole,
    List.length_nil, Nat.zero_add, List.nil_append]
  split
  · rfl
  · cases ending <;> rfl

/-- The file of a stream that is reported as a success is the stream. -/
theorem stream_of_ok {transferId : UInt16} {reached : Bool} {target : Target}
    {reads : List (List UInt8)} {finished : Finished} (split : ReadsOf stream reads)
    (done : streamedPath transferId job ending reached target reads = some finished)
    (ok : finished.event.ok = true) :
    stream.length ≤ job.maxBytes ∧ ending = .closed ∧ finished.file = some stream := by
  rw [streamedPath_eq transferId job ending split] at done
  split at done
  · obtain rfl := Option.some.inj done
    cases ok
  next within =>
  cases ending with
  | closed =>
    obtain rfl := Option.some.inj done
    exact ⟨Nat.not_lt.mp within, rfl, file_of_write ok⟩
  | failed =>
    obtain rfl := Option.some.inj done
    cases ok
  | silent => cases done

theorem streamed_iff (transferId : UInt16) (job : PendingTransfer) (announced : Nat)
    (stream : List UInt8) (ending : StreamEnd) :
    CompleteOrFails job announced stream (streamedPath transferId job ending) ↔
      endsAsAnnounced job.maxBytes announced stream ending = true := by
  simp only [endsAsAnnounced, Bool.or_eq_true, Bool.and_eq_true, decide_eq_true_eq]
  constructor
  · intro right
    by_contra less
    simp only [not_or, Classical.not_not] at less
    obtain ⟨⟨within, rfl⟩, differs⟩ := less
    have done := streamedPath_eq transferId job .closed
      (readsOf_singles stream) true emptyTarget
    rw [if_neg within] at done
    obtain ⟨content, file, length, -, limited⟩ := right.complete true emptyTarget _ _
      (readsOf_singles stream) done rfl
    obtain rfl : stream = content := Option.some.inj file
    exact differs ⟨length, limited.trans (Nat.min_le_right _ _)⟩
  · intro all
    constructor
    · intro reached target reads finished split done ok
      obtain ⟨within, closed, file⟩ := stream_of_ok split done ok
      obtain ⟨length, limited⟩ := all.resolve_left (by simp [closed, Nat.not_lt.mpr within])
      exact ⟨stream, file, length, List.prefix_rfl, Nat.le_min.mpr ⟨within, limited⟩⟩
    · intro reached target reads others split split'
      rw [streamedPath_eq transferId job ending split, streamedPath_eq transferId job ending split']

end Streamed

/-- Each path is complete or fails exactly on these streams. -/
theorem downloads_complete_iff (transferId : UInt16) (job : PendingTransfer) (announced : Nat)
    (stream : List UInt8) (ending : StreamEnd) :
    (CompleteOrFails job announced stream (fun reached target reads =>
        some (spawnFileDownload transferId job announced reached target reads ending)) ↔
      announcesAll (min job.maxBytes TRANSFER_HARD_LIMIT) announced stream ending = true) ∧
    (CompleteOrFails job announced stream (fun _ target reads =>
        spawnDownloadStream transferId job target reads ending) ↔
      endsAsAnnounced job.maxBytes announced stream ending = true) :=
  ⟨answered_iff transferId job announced stream ending,
    streamed_iff transferId job announced stream ending⟩

/-- Five bytes are announced; eight come in one read, or the stream ends after two. -/
theorem wrong_lengths_are_ok :
    let job : PendingTransfer := ⟨"/tmp/a", 1024, "/a"⟩
    (∃ finished, spawnFileDownload 1 job 5 true emptyTarget [[1, 2, 3, 4, 5, 6, 7, 8]] .closed =
        finished ∧ finished.event.ok = true ∧ finished.file = some [1, 2, 3, 4, 5, 6, 7, 8]) ∧
    (∃ finished, spawnDownloadStream 1 job emptyTarget [[1, 2]] .closed = some finished ∧
        finished.event.ok = true ∧ finished.file = some [1, 2]) ∧
    ¬CompleteOrFails job 5 [1, 2, 3, 4, 5, 6, 7, 8] (fun reached target reads =>
        some (spawnFileDownload 1 job 5 reached target reads .closed)) ∧
    ¬CompleteOrFails job 5 [1, 2] (fun _ target reads =>
        spawnDownloadStream 1 job target reads .closed) := by
  refine ⟨⟨_, rfl, rfl, rfl⟩, ⟨_, rfl, rfl, rfl⟩, ?_, ?_⟩
  · intro right
    have all := (answered_iff 1 _ 5 _ .closed).mp right
    revert all
    decide
  · intro right
    have all := (streamed_iff 1 _ 5 _ .closed).mp right
    revert all
    decide

end Nek0.Guarantees
