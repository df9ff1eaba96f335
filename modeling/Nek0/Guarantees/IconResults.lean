import Nek0.Library.Coalesce
import Nek0.Library.Run
import Nek0.Source.IconCache

/-!
# Results of the icon cache

An event is matched to a waiting call by its transfer id alone, which is counted in each
session. Every call gets the result of its own transfer as long as the id of a transfer in
progress is not given out again, in whatever session, and no session loses its tab while a
call waits on it.
-/

namespace Nek0.Guarantees

open Nek0.Library Nek0.Source Nek0.Source.IconCache

structure NeverMixed (s : IconCache) : Prop where
  once : s.completed.Nodup
  own : ∀ x ∈ s.completions, ∀ file, x.value = some file → s.created[x.completer]? = some file
  matched : ∀ x ∈ s.completions, ∀ transfer, x.cause = .event transfer →
    transfer = some x.completer
  ended : ∀ completer ∈ s.reported, completer ∈ s.completed

/-- A download for the cache begins under an id that no unfinished transfer has, a file of
the user under an id on which no call waits, and the end of a transfer on which a call waits
is reported while its session has a tab. -/
def ownIds (s : IconCache) : Action → Bool
  | .proceed i cached answer =>
    match s.waiting[i]? with
    | some request =>
      cached || answer ≠ .queued || ((s.table request.kind).inFlight.find request.scopeKey).isSome ||
        s.running.all (·.transferId ≠ s.freshTransferId request.connectionId)
    | none => true
  | .startOther cid =>
    let transferId := s.freshTransferId cid
    (s.avatars.pending.find transferId).isNone && (s.icons.pending.find transferId).isNone
  | .report i _ _ =>
    match s.running[i]? with
    | some transfer =>
      transfer.connectionId ∈ s.tabs ||
        (s.avatars.pending.find transfer.transferId).isNone &&
          (s.icons.pending.find transfer.transferId).isNone
    | none => true
  | _ => true

/-- Every completer is done or waits in one entry, and the entry is found under the id of
its own unfinished transfer and of no other. -/
structure Assigned (s : IconCache) : Prop where
  once : s.accounted.Nodup
  created : ∀ completer ∈ s.accounted, completer < s.created.length
  files : ∀ kind transferId pending, (s.table kind).pending.find transferId = some pending →
    s.created[pending.completer]? = some pending.file
  unfinished : ∀ kind transferId pending, (s.table kind).pending.find transferId = some pending →
    ∃ transfer ∈ s.running, transfer.transferId = transferId
  alone : ∀ kind transferId pending, (s.table kind).pending.find transferId = some pending →
    ∀ transfer ∈ s.running, transfer.transferId = transferId →
      transfer.completer = some pending.completer
  waits : ∀ transfer ∈ s.running, ∀ completer, transfer.completer = some completer →
    completer ∈ s.completed ∨ ∃ kind pending,
      (s.table kind).pending.find transfer.transferId = some pending ∧
        pending.completer = completer
  mixed : NeverMixed s

section Steps

variable {s : IconCache}

theorem assigned_initial : Assigned .initial where
  once := .nil
  created _ listed := nomatch listed
  files kind _ _ found := by cases kind <;> cases found
  unfinished kind _ _ found := by cases kind <;> cases found
  alone kind _ _ found := by cases kind <;> cases found
  waits _ runs := nomatch runs
  mixed :=
    { once := .nil
      own := fun _ listed => nomatch listed
      matched := fun _ listed => nomatch listed
      ended := fun _ listed => nomatch listed }

theorem assigned_ask (assigned : Assigned s) (request : Request) : Assigned (s.ask request) := by
  unfold ask
  split
  · exact assigned
  · exact { assigned with mixed := { assigned.mixed with } }

theorem assigned_reset (assigned : Assigned s) : Assigned s.reset := by
  have done : s.reset.completed = s.accounted := by
    simp [completed, accounted, reset, List.append_assoc, Function.comp_def]
  have all : s.reset.accounted = s.accounted := by
    rw [← done]
    exact (List.append_nil _).trans (List.append_nil _)
  have none : ∀ kind transferId, (s.reset.table kind).pending.find transferId = none := by
    intro kind transferId
    cases kind <;> rfl
  refine ⟨all ▸ assigned.once, all ▸ assigned.created, ?_, ?_, ?_, ?_, ?_⟩
  · intro kind transferId pending found
    simp [none] at found
  · intro kind transferId pending found
    simp [none] at found
  · intro kind transferId pending found
    simp [none] at found
  · intro transfer runs completer its
    rw [done, mem_accounted]
    refine .inl ((assigned.waits transfer runs completer its).imp_right ?_)
    rintro ⟨kind, pending, found, same⟩
    exact ⟨kind, transfer.transferId, pending, found, same⟩
  · refine ⟨done ▸ assigned.once, ?_, ?_, ?_⟩
    · intro x listed file value
      rcases List.mem_append.mp listed with old | new
      · exact assigned.mixed.own x old file value
      · obtain ⟨completer, -, rfl⟩ := List.mem_map.mp new
        cases value
    · intro x listed transfer cause
      rcases List.mem_append.mp listed with old | new
      · exact assigned.mixed.matched x old transfer cause
      · obtain ⟨completer, -, rfl⟩ := List.mem_map.mp new
        cases cause
    · intro completer ended
      rw [done, mem_accounted]
      exact .inl (assigned.mixed.ended completer ended)

theorem assigned_startOther (assigned : Assigned s) {cid : ConnectionId}
    (met : ownIds s (.startOther cid) = true) : Assigned (s.startOther cid) := by
  simp only [ownIds, Bool.and_eq_true, Option.isNone_iff_eq_none] at met
  refine { assigned with
    unfinished := ?_, alone := ?_, waits := ?_, mixed := { assigned.mixed with } }
  · intro kind transferId pending found
    obtain ⟨transfer, runs, its⟩ := assigned.unfinished kind transferId pending found
    exact ⟨transfer, List.mem_append_left _ runs, its⟩
  · intro kind transferId pending found transfer runs its
    rcases List.mem_append.mp runs with old | new
    · exact assigned.alone kind transferId pending found transfer old its
    · obtain rfl := List.mem_singleton.mp new
      subst its
      cases kind
      · cases met.2.symm.trans found
      · cases met.1.symm.trans found
  · intro transfer runs completer its
    rcases List.mem_append.mp runs with old | new
    · exact assigned.waits transfer old completer its
    · obtain rfl := List.mem_singleton.mp new
      cases its

/-- A new completer is none of the old ones. -/
theorem new_completer (assigned : Assigned s) {all : List Nat}
    (added : all.Perm (s.created.length :: s.accounted)) (file : String) :
    all.Nodup ∧ ∀ completer ∈ all, completer < (s.created ++ [file]).length := by
  have fresh : s.created.length ∉ s.accounted := fun listed =>
    (assigned.created _ listed).false
  refine ⟨added.nodup_iff.mpr (List.nodup_cons.mpr ⟨fresh, assigned.once⟩), ?_⟩
  intro completer listed
  rw [List.length_append, List.length_singleton]
  rcases List.mem_cons.mp (added.mem_iff.mp listed) with rfl | old
  · exact Nat.lt_succ_self _
  · exact Nat.lt_succ_of_lt (assigned.created completer old)

/-- The file of a completer stays when further ones are created. -/
theorem file_of_created {created : List String} {completer : Nat} {file : String} (new : String)
    (known : created[completer]? = some file) : (created ++ [new])[completer]? = some file := by
  obtain ⟨inside, -⟩ := List.getElem?_eq_some_iff.mp known
  rw [List.getElem?_append_left inside, known]

/-- The call is answered at once: the engine takes no transfer. -/
theorem assigned_refuse (assigned : Assigned s) (kind : Kind) (file : String)
    (failed : List String) :
    Assigned (({ s with created := s.created ++ [file] }.setTable kind
      { s.table kind with failed }).complete s.created.length none .refused) := by
  let t : IconCache := ({ s with created := s.created ++ [file] }.setTable kind
    { s.table kind with failed }).complete s.created.length none .refused
  have created : t.created = s.created ++ [file] := by cases kind <;> rfl
  have running : t.running = s.running := by cases kind <;> rfl
  have reported : t.reported = s.reported := by cases kind <;> rfl
  have completions : t.completions = s.completions ++ [⟨s.created.length, none, .refused⟩] := by
    cases kind <;> rfl
  have done : t.completed = s.completed ++ [s.created.length] := by
    rw [completed, completions, List.map_append]
    rfl
  have same : ∀ other, (t.table other).pending = (s.table other).pending := by
    intro other
    cases kind <;> cases other <;> rfl
  have all : t.accounted.Perm (s.created.length :: s.accounted) := by
    have waiting : t.avatars.completers ++ t.icons.completers =
        s.avatars.completers ++ s.icons.completers := by cases kind <;> rfl
    simp only [accounted, done, List.append_assoc, waiting]
    exact List.perm_middle
  obtain ⟨once, bound⟩ := new_completer assigned all file
  show Assigned t
  refine ⟨once, created ▸ bound, ?_, ?_, ?_, ?_, ?_, ?_, ?_, ?_⟩
  · intro other transferId pending found
    rw [created]
    rw [same] at found
    exact file_of_created file (assigned.files other transferId pending found)
  · intro other transferId pending found
    rw [same] at found
    rw [running]
    exact assigned.unfinished other transferId pending found
  · intro other transferId pending found
    rw [same] at found
    rw [running]
    exact assigned.alone other transferId pending found
  · intro transfer runs completer its
    rw [running] at runs
    rw [done]
    refine (assigned.waits transfer runs completer its).imp (List.mem_append_left _) ?_
    rintro ⟨other, pending, found, its⟩
    exact ⟨other, pending, by rw [same]; exact found, its⟩
  · exact (List.nodup_append.mp (List.nodup_append.mp once).1).1
  · intro x listed name its
    rw [completions] at listed
    rw [created]
    rcases List.mem_append.mp listed with old | new
    · exact file_of_created file (assigned.mixed.own x old name its)
    · obtain rfl := List.mem_singleton.mp new
      cases its
  · intro x listed cause its
    rw [completions] at listed
    rcases List.mem_append.mp listed with old | new
    · exact assigned.mixed.matched x old cause its
    · obtain rfl := List.mem_singleton.mp new
      cases its
  · intro completer ended
    rw [reported] at ended
    exact done ▸ List.mem_append_left _ (assigned.mixed.ended completer ended)

/-- The call waits for a transfer that begins under a new id. -/
theorem assigned_wait (assigned : Assigned s) (kind : Kind) (cid : ConnectionId)
    (scopeKey file : String) (inFlight : LinkedMap String Nat)
    (fresh : ∀ transfer ∈ s.running, transfer.transferId ≠ s.freshTransferId cid) :
    Assigned (({ s with created := s.created ++ [file] }.setTable kind
      { s.table kind with
        inFlight
        pending := (s.table kind).pending.insert (s.freshTransferId cid)
          ⟨scopeKey, file, s.created.length⟩ }).start cid (some s.created.length)) := by
  let transferId := s.freshTransferId cid
  let entry : Pending := ⟨scopeKey, file, s.created.length⟩
  let table : Table := { s.table kind with
    inFlight, pending := (s.table kind).pending.insert transferId entry }
  let u : IconCache := { s with created := s.created ++ [file] }
  let t : IconCache := (u.setTable kind table).start cid (some s.created.length)
  have created : t.created = s.created ++ [file] := by cases kind <;> rfl
  have running : t.running = s.running ++ [⟨cid, transferId, some s.created.length⟩] := by
    cases kind <;> rfl
  have reported : t.reported = s.reported := by cases kind <;> rfl
  have completions : t.completions = s.completions := by cases kind <;> rfl
  have done : t.completed = s.completed := by rw [completed, completions, completed]
  have absent : ∀ other, (s.table other).pending.find transferId = none := by
    intro other
    by_contra present
    obtain ⟨pending, found⟩ := Option.ne_none_iff_exists'.mp present
    obtain ⟨transfer, runs, its⟩ := assigned.unfinished other transferId pending found
    exact fresh transfer runs its
  have all : t.accounted.Perm (s.created.length :: s.accounted) := by
    have waiting : (u.setTable kind table).accounted.Perm (entry.completer :: u.accounted) :=
      accounted_waiting (s := u) entry (absent kind) _ _
    cases kind <;> exact waiting
  obtain ⟨once, bound⟩ := new_completer assigned all file
  have tables : ∀ other, t.table other = if other = kind then table else s.table other := by
    intro other
    cases kind <;> cases other <;> rfl
  -- an entry is the new one or an old one under another id
  have entries : ∀ other id pending, (t.table other).pending.find id = some pending →
      id = transferId ∧ pending = entry ∨
        id ≠ transferId ∧ (s.table other).pending.find id = some pending := by
    intro other id pending found
    by_cases new : id = transferId
    · subst new
      rw [tables] at found
      split at found
      · rw [LinkedMap.find_insert_self] at found
        exact .inl ⟨rfl, (Option.some.inj found).symm⟩
      · cases (absent other).symm.trans found
    · refine .inr ⟨new, ?_⟩
      rw [tables] at found
      split at found
      · next same =>
        subst same
        rwa [LinkedMap.find_insert_of_ne _ _ new] at found
      · exact found
  show Assigned t
  refine ⟨once, created ▸ bound, ?_, ?_, ?_, ?_, ?_⟩
  · intro other id pending found
    rw [created]
    rcases entries other id pending found with ⟨-, rfl⟩ | ⟨-, old⟩
    · exact List.getElem?_concat_length ..
    · exact file_of_created file (assigned.files other id pending old)
  · intro other id pending found
    rw [running]
    rcases entries other id pending found with ⟨rfl, -⟩ | ⟨-, old⟩
    · exact ⟨_, List.mem_append_right _ (List.mem_singleton_self _), rfl⟩
    · obtain ⟨transfer, runs, its⟩ := assigned.unfinished other id pending old
      exact ⟨transfer, List.mem_append_left _ runs, its⟩
  · intro other id pending found transfer runs its
    rw [running] at runs
    rcases entries other id pending found with ⟨rfl, rfl⟩ | ⟨different, old⟩ <;>
      rcases List.mem_append.mp runs with before | new
    · exact absurd its (fresh transfer before)
    · obtain rfl := List.mem_singleton.mp new
      rfl
    · exact assigned.alone other id pending old transfer before its
    · obtain rfl := List.mem_singleton.mp new
      exact absurd its.symm different
  · intro transfer runs completer its
    rw [running] at runs
    rw [done]
    rcases List.mem_append.mp runs with before | new
    · refine (assigned.waits transfer before completer its).imp_right ?_
      rintro ⟨other, pending, found, same⟩
      refine ⟨other, pending, ?_, same⟩
      rw [tables]
      split
      · next here =>
        subst here
        rw [LinkedMap.find_insert_of_ne _ _ (fresh transfer before)]
        exact found
      · exact found
    · obtain rfl := List.mem_singleton.mp new
      obtain rfl := Option.some.inj its
      refine .inr ⟨kind, entry, ?_, rfl⟩
      rw [tables, if_pos rfl]
      exact LinkedMap.find_insert_self ..
  · refine ⟨done ▸ assigned.mixed.once, ?_, ?_, ?_⟩
    · intro x listed name its
      rw [created]
      exact file_of_created file (assigned.mixed.own x (completions ▸ listed) name its)
    · intro x listed cause its
      exact assigned.mixed.matched x (completions ▸ listed) cause its
    · intro completer ended
      exact done ▸ assigned.mixed.ended completer (reported ▸ ended)

/-- What a call does once it has the cache directory. -/
theorem assigned_proceed (assigned : Assigned s) {i : Nat} {cached : Bool} {answer : Answer}
    {t : IconCache} (met : ownIds s (.proceed i cached answer) = true)
    (taken : s.proceed i cached answer = some t) : Assigned t := by
  simp only [proceed, Option.map_eq_some_iff] at taken
  obtain ⟨request, waits, rfl⟩ := taken
  have left : Assigned { s with waiting := s.waiting.eraseIdx i } :=
    { assigned with mixed := { assigned.mixed with } }
  split
  · exact left
  next uncached =>
    split
    · exact left
    next idle =>
      cases answer with
      | queued =>
        have free : ((s.table request.kind).inFlight.find request.scopeKey).isSome = false :=
          Bool.eq_false_iff.mpr idle
        have fresh : ∀ transfer ∈ s.running,
            transfer.transferId ≠ s.freshTransferId request.connectionId := by
          simpa [ownIds, waits, uncached, free] using met
        exact assigned_wait left request.kind request.connectionId request.scopeKey request.file _
          fresh
      | refused => exact assigned_refuse left request.kind request.file _
      | notQueued =>
        have counted : Assigned (IconCache.count { s with waiting := s.waiting.eraseIdx i }
            request.connectionId) := { left with mixed := { left.mixed with } }
        exact assigned_refuse counted request.kind request.file _

/-- Another transfer goes on when one ends. -/
theorem mem_eraseIdx_of_ne {i : Nat} {transfer other : Transfer}
    (ends : s.running[i]? = some transfer) (runs : other ∈ s.running)
    (different : other.transferId ≠ transfer.transferId) : other ∈ s.running.eraseIdx i := by
  rcases List.mem_cons.mp ((erased_perm ends).subset runs) with rfl | kept
  · exact absurd rfl different
  · exact kept

/-- No call waits any more under the id of a transfer that ends. -/
theorem assigned_unawaited (assigned : Assigned s) {i : Nat} {transfer : Transfer}
    (ends : s.running[i]? = some transfer)
    (none : ∀ kind, (s.table kind).pending.find transfer.transferId = none) :
    Assigned { s with
      running := s.running.eraseIdx i
      reported := s.reported ++ transfer.completer.toList } := by
  refine { assigned with
    unfinished := ?_, alone := ?_, waits := ?_, mixed := { assigned.mixed with ended := ?_ } }
  · intro kind transferId pending found
    obtain ⟨other, runs, its⟩ := assigned.unfinished kind transferId pending found
    refine ⟨other, mem_eraseIdx_of_ne ends runs fun same => ?_, its⟩
    have gone := none kind
    rw [← same, its] at gone
    cases gone.symm.trans found
  · intro kind transferId pending found other runs its
    exact assigned.alone kind transferId pending found other (List.mem_of_mem_eraseIdx runs) its
  · intro other runs completer its
    exact assigned.waits other (List.mem_of_mem_eraseIdx runs) completer its
  · intro completer reported
    rcases List.mem_append.mp reported with old | new
    · exact assigned.mixed.ended completer old
    · have its : transfer.completer = some completer := Option.mem_toList.mp new
      rcases assigned.waits transfer (List.mem_of_getElem? ends) completer its with done | waits
      · exact done
      · obtain ⟨kind, pending, found, -⟩ := waits
        cases (none kind).symm.trans found

/-- Two tables do not have entries under one id. -/
theorem entry_unique (assigned : Assigned s) {kind other : Kind} {transferId : UInt16}
    {first second : Pending} (found : (s.table kind).pending.find transferId = some first)
    (found' : (s.table other).pending.find transferId = some second) : kind = other := by
  obtain ⟨transfer, runs, its⟩ := assigned.unfinished kind transferId first found
  have here := assigned.alone kind transferId first found transfer runs its
  have there := assigned.alone other transferId second found' transfer runs its
  have same : first.completer = second.completer := Option.some.inj (here.symm.trans there)
  have listed : first.completer ∈ (s.table kind).completers :=
    mem_completers.mpr ⟨transferId, first, found, rfl⟩
  have listed' : first.completer ∈ (s.table other).completers :=
    mem_completers.mpr ⟨transferId, second, found', same.symm⟩
  have apart := List.disjoint_of_nodup_append assigned.once
  cases kind <;> cases other
  · rfl
  · exact absurd listed (apart (List.mem_append_right _ listed'))
  · exact absurd listed' (apart (List.mem_append_right _ listed))
  · rfl

/-- The end of a transfer answers the call that waits under its id. -/
theorem assigned_settle (assigned : Assigned s) {i : Nat} {transfer : Transfer}
    (ends : s.running[i]? = some transfer) (kind : Kind) {pending : Pending}
    (found : (s.table kind).pending.find transfer.transferId = some pending) (ok : Bool)
    (localPath : String) :
    Assigned ({ s with
        running := s.running.eraseIdx i
        reported := s.reported ++ transfer.completer.toList }.settle kind transfer.transferId
      pending ok localPath transfer.completer) := by
  have its : transfer.completer = some pending.completer :=
    assigned.alone kind _ pending found transfer (List.mem_of_getElem? ends) rfl
  let u : IconCache := { s with
    running := s.running.eraseIdx i
    reported := s.reported ++ transfer.completer.toList }
  obtain ⟨failed, value, file, settled⟩ :=
    u.settle_eq kind transfer.transferId pending ok localPath transfer.completer
  show Assigned (u.settle kind transfer.transferId pending ok localPath transfer.completer)
  rw [settled]
  let rest : Table := ⟨failed, (u.table kind).inFlight.erase pending.scopeKey,
    (u.table kind).pending.erase transfer.transferId⟩
  let t : IconCache :=
    (u.setTable kind rest).complete pending.completer value (.event transfer.completer)
  have all : u.accounted.Perm t.accounted :=
    accounted_settled (s := u) found failed _ value _
  have created : t.created = s.created := by cases kind <;> rfl
  have running : t.running = s.running.eraseIdx i := by cases kind <;> rfl
  have reported : t.reported = s.reported ++ transfer.completer.toList := by cases kind <;> rfl
  have completions : t.completions =
      s.completions ++ [⟨pending.completer, value, .event transfer.completer⟩] := by
    cases kind <;> rfl
  have done : t.completed = s.completed ++ [pending.completer] := by
    rw [completed, completions, List.map_append]
    rfl
  have kept : ∀ other transferId, transferId ≠ transfer.transferId →
      (t.table other).pending.find transferId = (s.table other).pending.find transferId := by
    intro other transferId different
    have tables : t.table other = if other = kind then rest else u.table other :=
      table_setTable kind other rest
    rw [tables]
    split
    · next same =>
      subst same
      exact LinkedMap.find_erase_of_ne _ different
    · rfl
  -- the entries that are left are old ones under other ids
  have left : ∀ other transferId entry, (t.table other).pending.find transferId = some entry →
      transferId ≠ transfer.transferId ∧ (s.table other).pending.find transferId = some entry := by
    intro other transferId entry there
    have different : transferId ≠ transfer.transferId := by
      rintro rfl
      have tables : t.table other = if other = kind then rest else u.table other :=
        table_setTable kind other rest
      rw [tables] at there
      split at there
      · next same =>
        rw [LinkedMap.find_erase_self] at there
        cases there
      · next other' => exact other' (entry_unique assigned there found)
    exact ⟨different, kept other transferId different ▸ there⟩
  refine ⟨all.nodup_iff.mp assigned.once, ?_, ?_, ?_, ?_, ?_, ?_⟩
  · intro completer listed
    rw [created]
    exact assigned.created completer (all.mem_iff.mpr listed)
  · intro other transferId entry there
    rw [created]
    exact assigned.files other transferId entry (left other transferId entry there).2
  · intro other transferId entry there
    obtain ⟨different, before⟩ := left other transferId entry there
    obtain ⟨runner, runs, same⟩ := assigned.unfinished other transferId entry before
    rw [running]
    exact ⟨runner, mem_eraseIdx_of_ne ends runs (same ▸ different), same⟩
  · intro other transferId entry there runner runs same
    rw [running] at runs
    exact assigned.alone other transferId entry (left other transferId entry there).2 runner
      (List.mem_of_mem_eraseIdx runs) same
  · intro runner runs completer its'
    rw [running] at runs
    rcases assigned.waits runner (List.mem_of_mem_eraseIdx runs) completer its' with over' | waits
    · exact .inl (done ▸ List.mem_append_left _ over')
    · obtain ⟨other, entry, there, same⟩ := waits
      by_cases ended : runner.transferId = transfer.transferId
      · have own := assigned.alone kind _ pending found runner (List.mem_of_mem_eraseIdx runs) ended
        obtain rfl := Option.some.inj (its'.symm.trans own)
        exact .inl (done ▸ List.mem_append_right _ (List.mem_singleton_self _))
      · exact .inr ⟨other, entry, kept other runner.transferId ended ▸ there, same⟩
  · refine ⟨?_, ?_, ?_, ?_⟩
    · exact (List.nodup_append.mp (List.nodup_append.mp (all.nodup_iff.mp assigned.once)).1).1
    · intro x listed name its'
      rw [completions] at listed
      rw [created]
      rcases List.mem_append.mp listed with old | new
      · exact assigned.mixed.own x old name its'
      · obtain rfl := List.mem_singleton.mp new
        rcases file with rfl | rfl
        · cases its'
        · obtain rfl := Option.some.inj its'
          exact assigned.files kind transfer.transferId pending found
    · intro x listed cause same
      rw [completions] at listed
      rcases List.mem_append.mp listed with old | new
      · exact assigned.mixed.matched x old cause same
      · obtain rfl := List.mem_singleton.mp new
        exact (Cause.event.inj same).symm.trans its
    · intro completer reported'
      rw [reported] at reported'
      rcases List.mem_append.mp reported' with old | new
      · exact done ▸ List.mem_append_left _ (assigned.mixed.ended completer old)
      · obtain rfl := Option.some.inj (its.symm.trans (Option.mem_toList.mp new))
        exact done ▸ List.mem_append_right _ (List.mem_singleton_self _)

theorem assigned_report (assigned : Assigned s) {i : Nat} {ok : Bool} {localPath : String}
    {t : IconCache} (met : ownIds s (.report i ok localPath) = true)
    (taken : s.report i ok localPath = some t) : Assigned t := by
  simp only [report, Option.map_eq_some_iff] at taken
  obtain ⟨transfer, ends, rfl⟩ := taken
  split
  · unfold onTransferEvent
    split
    next pending found => exact assigned_settle assigned ends .avatar found ok localPath
    next noAvatar =>
      split
      next pending found => exact assigned_settle assigned ends .icon found ok localPath
      next noIcon =>
        refine assigned_unawaited assigned ends fun kind => ?_
        cases kind
        · exact noIcon
        · exact noAvatar
  next gone =>
    simp only [ownIds, ends, gone, decide_false, Bool.false_or, Bool.and_eq_true,
      Option.isNone_iff_eq_none] at met
    refine assigned_unawaited assigned ends fun kind => ?_
    cases kind
    · exact met.2
    · exact met.1

end Steps

theorem assigned_step {s t : IconCache} {action : Action} (assigned : Assigned s)
    (met : ownIds s action = true) (taken : s.step action = some t) : Assigned t := by
  cases action with
  | avatar serverUid clientUid root cid =>
    obtain rfl := Option.some.inj taken
    unfold IconCache.avatar
    split
    · exact assigned
    · exact assigned_ask assigned _
  | get serverUid iconId root cid =>
    obtain rfl := Option.some.inj taken
    unfold IconCache.get
    split
    · exact assigned
    · exact assigned_ask assigned _
  | proceed i cached answer => exact assigned_proceed assigned met taken
  | startOther cid =>
    obtain rfl := Option.some.inj taken
    exact assigned_startOther assigned met
  | report i ok localPath => exact assigned_report assigned met taken
  | reset =>
    obtain rfl := Option.some.inj taken
    exact assigned_reset assigned
  | addTab cid =>
    obtain rfl := Option.some.inj taken
    exact { assigned with mixed := { assigned.mixed with } }
  | removeTab cid =>
    obtain rfl := Option.some.inj taken
    exact { assigned with mixed := { assigned.mixed with } }

/-- In every run in which ids in progress are not given out again and awaited transfers end
under a tab, every call gets the result of its own transfer, once and at the latest when the
end of the transfer is reported. -/
theorem icon_results_are_own {actions : List Action} {s : IconCache}
    (run : Run step (fun t action => ownIds t action = true) .initial actions s) : NeverMixed s :=
  (run.invariant Assigned assigned_initial fun _ _ _ inv met taken =>
    assigned_step inv met taken).mixed

/-- One session asks for an icon. -/
def firstIcon : List Action :=
  [.addTab 1, .addTab 2, .get "one" 7 "/icons" 1, .proceed 0 false .queued]

/-- Another session asks for one of its own. -/
def secondIcon : List Action := [.get "two" 8 "/icons" 2, .proceed 0 false .queued]

/-- The first icon is there before the second is asked for. -/
def apartHistory : List Action :=
  firstIcon ++ [.report 0 true "/icons/one_7"] ++ secondIcon ++ [.report 0 true "/icons/two_8"]

theorem icon_results_are_own_apart : ∃ s,
    Run step (fun t action => ownIds t action = true) .initial apartHistory s ∧
      s.completions.map (·.value) = [some "/icons/one_7", some "/icons/two_8"] ∧
      NeverMixed s := by
  obtain ⟨s, run, test⟩ := reaches_of_guarded ownIds
    (show (exec (guarded ownIds step) .initial apartHistory).any
      (fun s => s.completions.map (·.value) == [some "/icons/one_7", some "/icons/two_8"]) = true
      by decide +kernel)
  exact ⟨s, run, by simpa using test, icon_results_are_own run⟩

/-- Both transfers have the number one, and the first call is never answered. -/
theorem icon_results_mix : ¬ ∀ (actions : List Action) (s : IconCache),
    Run step anyStep .initial actions s → NeverMixed s := by
  intro apart
  obtain ⟨s, run, mixed⟩ := reaches_of_exec anyStep (fun _ _ _ => trivial)
    (show (exec step .initial (firstIcon ++ secondIcon ++
      [.report 0 true "/icons/one_7", .report 0 true "/icons/two_8"])).any
      (fun s => s.reported == [0, 1] && s.completed == [1]) = true by decide +kernel)
  simp only [Bool.and_eq_true, beq_iff_eq] at mixed
  have answered := (apart _ s run).ended 0 (by rw [mixed.1]; decide)
  rw [mixed.2] at answered
  exact absurd answered (by decide)

end Nek0.Guarantees
