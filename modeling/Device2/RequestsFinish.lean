/-
Device2/RequestsFinish.lean

The requests to devices and the reloads never block each other for good.

A call has only so many steps left (`Pc.rank`), and so has a thread on its way to the
locks and back (`Pool.rank`); each step it makes brings it nearer to its end and leaves
the others where they are (`step_lowers`).  While some thread is not done, one of them
can go on (`Inv.possible`): the holders of the locks first, then the writers, then the
readers.  Whether a new reader is let in while a writer waits is up to the library, and
the results hold for either (`Admitted`).

So without new requests the threads come to rest, with all requests finished and all
mutexes free, unless a driver was called through the null pointer (`requests_finish`).
-/
import Device2.Lib.Drain
import Device2.ManagerThreads

namespace Device2

open Std StepSystem Drain DevManager

variable {Drv : Type}

/-! ### Every request finishes -/

/-- How many steps a call still has after `use`. -/
def After.rank : After → ℕ
  | ret => 0
  | lock => 1
  | ask _ => 3

/-- How many steps a call still has at most. -/
def Pc.rank : Pc → ℕ
  | idle => 0
  | useTest k => k.rank + 2
  | useCommit k => k.rank + 1
  | lockTest => 4
  | lockFinal => 1
  | askTest _ => 6
  | askCmd _ => 3
  | askCall _ => 2
  | askRet => 1

theorem After.rank_pc (k : After) : k.pc.rank = k.rank := by
  cases k <;> rfl

namespace Threads

variable {th th' : Threads Drv} {env : DriverEnv Drv} {conn c : ConnId}

/-- A step of a call brings it nearer to its end. -/
theorem advance_rank (h : th.advance env conn = some th') :
    th'.crashed = true ∨ (th'.pc conn).rank < (th.pc conn).rank := by
  have on : ∀ (p : Pc) (th₀ : Threads Drv), some (th₀.goto conn p) = some th' →
      p.rank < (th.pc conn).rank → th'.crashed = true ∨ (th'.pc conn).rank < (th.pc conn).rank := by
    intro p th₀ he hp
    cases he
    rw [goto_pc_self]
    exact .inr hp
  rw [advance] at h
  rcases hpc : th.pc conn with - | k | k | - | - | msg | msg | msg | - <;> rw [hpc] at h on
  case idle => cases h
  case useTest =>
    dsimp only at h
    split at h
    · exact on _ _ h (by rw [After.rank_pc]; simp [Pc.rank])
    · split at h
      · exact on _ _ h (by simp [Pc.rank])
      · exact on _ _ h (by simp [Pc.rank])
  case useCommit =>
    dsimp only at h
    split at h
    · exact on _ _ h (by rw [After.rank_pc]; simp [Pc.rank])
    · exact on _ _ h (by simp [Pc.rank])
  case lockTest =>
    dsimp only at h
    split at h <;> exact on _ _ h (by decide)
  case lockFinal =>
    dsimp only at h
    split at h <;> exact on _ _ h (by decide)
  case askTest =>
    dsimp only at h
    split at h <;> exact on _ _ h (by simp [Pc.rank, After.rank])
  case askCmd =>
    dsimp only at h
    split at h
    · exact on _ _ h (by simp [Pc.rank])
    · cases h
  case askCall =>
    dsimp only at h
    split at h
    · cases h; exact .inl rfl
    · exact on _ _ h (by simp [Pc.rank])
  case askRet => exact on _ _ h (by decide)

/-- Only the mutex of the exchange can hold up a call. -/
theorem advance_eq_none (h : th.advance env conn = none) :
    th.pc conn = .idle ∨ (∃ msg, th.pc conn = .askCmd msg) ∧ th.cmd ≠ none := by
  rw [advance] at h
  rcases hpc : th.pc conn with - | k | k | - | - | msg | msg | msg | - <;> rw [hpc] at h
  case idle => exact .inl rfl
  case askCmd =>
    dsimp only at h
    split at h
    · cases h
    · rename_i hcmd
      exact .inr ⟨⟨msg, rfl⟩, hcmd⟩
  all_goals
    dsimp only at h
    repeat' split at h
    all_goals cases h

/-- Who holds the mutex of the exchange can go on. -/
theorem advance_of_holdsCmd (h : Pc.holdsCmd (th.pc conn) = true) (env : DriverEnv Drv) :
    ∃ th', th.advance env conn = some th' := by
  rcases ha : th.advance env conn with - | th'
  · rcases advance_eq_none ha with hpc | ⟨⟨msg, hpc⟩, -⟩ <;> rw [hpc] at h <;> cases h
  · exact ⟨th', rfl⟩

/-- In a device with a call on it, some call can go on. -/
theorem someone_advances (hcmd : th.CmdInv) (hpc : th.pc conn ≠ .idle) (env : DriverEnv Drv) :
    ∃ c th', th.pc c ≠ .idle ∧ th.advance env c = some th' := by
  rcases ha : th.advance env conn with - | th'
  · rcases advance_eq_none ha with hidle | ⟨-, hheld⟩
    · exact absurd hidle hpc
    · obtain ⟨c, hc⟩ := Option.ne_none_iff_exists'.mp hheld
      have hholds := (hcmd c).mp hc
      obtain ⟨th', hth'⟩ := advance_of_holdsCmd hholds env
      refine ⟨c, th', fun hidle => ?_, hth'⟩
      rw [hidle] at hholds
      cases hholds
  · exact ⟨conn, th', hpc, ha⟩

theorem enter_rank (hidle : th.pc conn = .idle) (a : DevAct) (msg : Str) :
    ((th.enter conn a msg).pc conn).rank ≤ 6 := by
  have hstay : (th.pc conn).rank ≤ 6 := by simp [hidle, Pc.rank]
  cases a with
  | ask => exact (congrArg Pc.rank (goto_pc_self conn (.askTest msg) th)).trans_le (by simp [Pc.rank])
  | use => exact (congrArg Pc.rank (goto_pc_self conn (.useTest .ret) th)).trans_le (by decide)
  | lock => exact (congrArg Pc.rank (goto_pc_self conn .lockTest th)).trans_le (by decide)
  | release | unlock | close | logStart | logFinish | logGet | info => exact hstay

end Threads

namespace Pool

variable {s t : Pool Drv} {m : PoolMove Drv} {conn : ConnId} {k : Str} {th : Threads Drv}

/-- How many steps a thread still has at most. -/
def rank (s : Pool Drv) (i : Tid) : ℕ :=
  match s.place i, i with
  | .idle, _ => 0
  | .wantShared .., _ => 8
  | .inCall k, .conn c => 1 + ((s.devices[k]?).elim 0 fun th => (th.pc c).rank)
  | .inCall _, .main => 1
  | .wantLock _, _ => 2
  | .renewing _, _ => 1

theorem rank_of_inCall (h : s.place (.conn conn) = .inCall k) (hk : s.devices[k]? = some th) :
    s.rank (.conn conn) = 1 + (th.pc conn).rank := by
  simp only [rank, h, hk, Option.elim]

/-- The rank of a thread depends on where it is and on the calls it is in. -/
theorem rank_congr {i : Tid} (hplace : t.place i = s.place i)
    (hcall : ∀ k c, i = .conn c → s.place i = .inCall k →
      (t.devices[k]?).elim 0 (fun th => (th.pc c).rank) =
        (s.devices[k]?).elim 0 fun th => (th.pc c).rank) : t.rank i = s.rank i := by
  rw [rank.eq_def, rank.eq_def, hplace]
  rcases hp : s.place i with - | - | k | - | -
  case inCall =>
    cases i with
    | conn c => exact congrArg (1 + ·) (hcall k c rfl hp)
    | main => rfl
  all_goals rfl

/-- Another thread, when the calls on a device go on. -/
theorem rank_setDevice {th' : Threads Drv} {i : Tid} (hk : s.devices[k]? = some th)
    (hdev : t.devices = s.devices.insert k th') (hplace : t.place i = s.place i)
    (hpc : ∀ c, i = .conn c → th'.pc c = th.pc c) : t.rank i = s.rank i := by
  apply rank_congr hplace
  intro k' c hi _
  rw [hdev, getElem?_insert_if]
  split
  · rename_i hkk
    subst hkk
    rw [hk]
    exact congrArg Pc.rank (hpc c hi)
  · rfl

/-- A thread that is done or waits has the rank of its place. -/
theorem rank_eq {i : Tid} {p : Place Drv} {n : ℕ} (hp : s.place i = p)
    (hn : (match p with
      | .idle => some 0 | .wantShared .. => some 8 | .inCall _ => none
      | .wantLock _ => some 2 | .renewing _ => some 1) = some n) : s.rank i = n := by
  rw [rank.eq_def, hp]
  cases p <;> cases hn <;> rfl

/-- **A step that goes on with something** brings its thread nearer to its end, and
leaves the others where they are; or it calls the null pointer. -/
theorem step_lowers (hs : s.Inv) (h : s.step m = some t) (hm : m.GoesOn) :
    t.crashed = true ∨ Lowers s.rank t.rank m.tid := by
  obtain ⟨hfine, he⟩ := step_effect h
  cases he with
  | refused => exact absurd hm id
  | request => exact absurd hm id
  | reload => exact absurd hm id
  | unknown conn k a msg place unknown =>
    refine .inr ⟨?_, fun i hi => rank_congr (goto_place_of_ne hi ..) fun _ _ _ _ => rfl⟩
    show (s.goto (.conn conn) .idle).rank (.conn conn) < s.rank (.conn conn)
    rw [rank_eq place rfl, rank_eq (goto_place_self ..) rfl]
    decide
  | enter conn k a msg th place free device =>
    refine .inr ⟨?_, fun i hi => rank_setDevice device rfl (goto_place_of_ne hi ..) ?_⟩
    · have hidle : th.pc conn = .idle := by
        by_contra hpc
        have hin := (hs.sound k th device).inside conn hpc
        rw [place] at hin
        cases hin
      have hrank := Threads.enter_rank hidle a msg
      have hself : (s.goto (.conn conn) (.inCall k)).place (.conn conn) = .inCall k :=
        goto_place_self ..
      refine lt_of_eq_of_lt (rank_of_inCall hself ((setDevice_getElem? ..).trans (if_pos rfl))) ?_
      show _ < s.rank (.conn conn)
      rw [rank_eq place rfl]
      omega
    · rintro c rfl
      exact Threads.enter_pc_of_ne (fun hc => hi (congrArg Tid.conn hc)) ..
  | call conn env k th th' place device step =>
    have hadv : th.advance env conn = some th' := by
      have hth := (hs.sound k th device).fine hfine
      rwa [Threads.step_of_not_crashed hth] at step
    rcases Threads.advance_rank hadv with hcrash | hlt
    · exact .inl hcrash
    refine .inr ⟨?_, fun i hi => rank_setDevice device rfl rfl ?_⟩
    · refine lt_of_eq_of_lt (rank_of_inCall place ((setDevice_getElem? ..).trans (if_pos rfl))) ?_
      show _ < s.rank (.conn conn)
      rw [rank_of_inCall place device]
      omega
    · rintro c rfl
      exact Threads.step_pc_of_ne step fun hc => hi (congrArg Tid.conn hc)
  | leave conn k th place device done =>
    refine .inr ⟨?_, fun i hi => rank_congr (goto_place_of_ne hi ..) fun _ _ _ _ => rfl⟩
    have hself : (s.goto (.conn conn) .idle).place (.conn conn) = .idle := goto_place_self ..
    refine lt_of_eq_of_lt (rank_eq hself rfl) ?_
    show _ < s.rank (.conn conn)
    rw [rank_of_inCall place device]
    omega
  | lock i ret place free alone =>
    refine .inr ⟨?_, fun j hj => rank_congr (goto_place_of_ne hj ..) fun _ _ _ _ => rfl⟩
    have hself : (s.goto i (.renewing ret)).place i = .renewing ret := goto_place_self ..
    refine lt_of_eq_of_lt (rank_eq hself rfl) ?_
    show _ < s.rank i
    rw [rank_eq place rfl]
    decide
  | renew i ret place =>
    refine .inr ⟨?_, fun j hj => rank_congr (goto_place_of_ne hj ..) ?_⟩
    · have hself : (s.goto i .idle).place i = .idle := goto_place_self ..
      refine lt_of_eq_of_lt (rank_eq hself rfl) ?_
      show _ < s.rank i
      rw [rank_eq place rfl]
      decide
    · -- nobody is inside a call
      rintro k c rfl hc
      have hholds : (s.place i).renews = true := by
        rw [place]
        rfl
      have hmem := (hs.readers c).mpr ⟨k, hc⟩
      rw [hs.excl (by rw [(hs.writer i).mpr hholds]; simp)] at hmem
      cases hmem

/-- The step can be made although readers may have to stand back for a writer. -/
def Admitted (s : Pool Drv) (m : PoolMove Drv) : Prop :=
  ∀ conn, m = .lockShared conn → ∀ i ret, s.place i ≠ .wantLock ret

/-- No request is under way, and no mutex is held. -/
structure AtRest (s : Pool Drv) : Prop where
  place : ∀ i, s.place i = .idle
  readers : s.readers = ∅
  writer : s.writer = none
  pc : ∀ (k : Str) (th : Threads Drv), s.devices[k]? = some th → ∀ c, th.pc c = .idle
  cmd : ∀ (k : Str) (th : Threads Drv), s.devices[k]? = some th → th.cmd = none

theorem Inv.atRest (hs : s.Inv) (h : ∀ i, s.place i = .idle) : s.AtRest := by
  have hpc : ∀ (k : Str) (th : Threads Drv), s.devices[k]? = some th → ∀ c, th.pc c = .idle := by
    intro k th hk c
    by_contra hc
    have hin := (hs.sound k th hk).inside c hc
    rw [h] at hin
    cases hin
  refine ⟨h, ?_, ?_, hpc, ?_⟩
  · apply Finset.eq_empty_of_forall_notMem
    intro c hc
    obtain ⟨k, hk⟩ := (hs.readers c).mp hc
    rw [h] at hk
    cases hk
  · by_contra hw
    obtain ⟨i, hi⟩ := Option.ne_none_iff_exists'.mp hw
    have hholds := (hs.writer i).mp hi
    rw [h] at hholds
    cases hholds
  · intro k th hk
    by_contra hcmd
    obtain ⟨c, hc⟩ := Option.ne_none_iff_exists'.mp hcmd
    have hholds := ((hs.sound k th hk).cmd c).mp hc
    rw [hpc k th hk c] at hholds
    cases hholds

theorem admitted_of_ne (h : ∀ conn, m ≠ .lockShared conn) : s.Admitted m :=
  fun conn hm => absurd hm (h conn)

/-- While a connection is inside a call, it or another one in the same device goes on. -/
theorem Inv.call_possible (hs : s.Inv) (hfine : s.crashed = false)
    (hc : s.place (.conn conn) = .inCall k) :
    ∃ m t, PoolMove.GoesOn m ∧ s.Admitted m ∧ s.step m = some t := by
  obtain ⟨th, hth⟩ := hs.known conn k hc
  by_cases hpc : th.pc conn = .idle
  · exact ⟨.unlockShared conn, _, trivial, admitted_of_ne (by simp),
      step_unlockShared hfine hc hth hpc⟩
  · have hsound := hs.sound k th hth
    obtain ⟨c, th', hpc', hadv⟩ := Threads.someone_advances hsound.cmd hpc noDriver
    rw [← Threads.step_of_not_crashed (hsound.fine hfine)] at hadv
    exact ⟨.call c noDriver, _, trivial, admitted_of_ne (by simp),
      step_call hfine (hsound.inside c hpc') hth hadv⟩

theorem Inv.conn_of_inRequest (hs : s.Inv) {i : Tid} (hi : (s.place i).inRequest = true) :
    ∃ c, i = .conn c := by
  cases i with
  | conn c => exact ⟨c, rfl⟩
  | main =>
    rw [hs.main] at hi
    cases hi

/-- **Nobody is stuck**: while a thread is not done, some thread can go on. -/
theorem Inv.possible (hs : s.Inv) (hfine : s.crashed = false) {i : Tid} (hi : s.place i ≠ .idle) :
    ∃ m t, PoolMove.GoesOn m ∧ s.Admitted m ∧ s.step m = some t := by
  -- first the holders of the locks
  by_cases hrenew : ∃ j ret, s.place j = .renewing ret
  · obtain ⟨j, ret, hj⟩ := hrenew
    exact ⟨.renew j, _, trivial, admitted_of_ne (by simp), step_renew hfine hj⟩
  by_cases hcall : ∃ c k, s.place (.conn c) = .inCall k
  · obtain ⟨c, k, hc⟩ := hcall
    exact hs.call_possible hfine hc
  have hfree : s.writer = none := by
    by_contra hw
    obtain ⟨j, hj⟩ := Option.ne_none_iff_exists'.mp hw
    have hholds := (hs.writer j).mp hj
    rcases hp : s.place j with - | ⟨k, a, msg⟩ | k | ret | ret <;> rw [hp] at hholds <;> cases hholds
    exact hrenew ⟨j, ret, hp⟩
  have hempty : s.readers = ∅ := by
    apply Finset.eq_empty_of_forall_notMem
    intro c hc
    obtain ⟨k, hk⟩ := (hs.readers c).mp hc
    exact hcall ⟨c, k, hk⟩
  -- then the writers, then the readers
  by_cases hlock : ∃ j ret, s.place j = .wantLock ret
  · obtain ⟨j, ret, hj⟩ := hlock
    exact ⟨.lock j, _, trivial, admitted_of_ne (by simp), step_lock hfine hj hfree hempty⟩
  rcases hp : s.place i with - | ⟨k, a, msg⟩ | k | ret | ret
  case idle => exact absurd hp hi
  case wantShared =>
    obtain ⟨c, rfl⟩ := hs.conn_of_inRequest (by rw [hp]; rfl)
    have hadm : s.Admitted (.lockShared c) := fun _ _ j ret hj => hlock ⟨j, ret, hj⟩
    rcases hk : s.devices[k]? with - | th
    · exact ⟨.lockShared c, _, trivial, hadm, step_lockShared_unknown hfine hp hfree hk⟩
    · exact ⟨.lockShared c, _, trivial, hadm, step_lockShared hfine hp hfree hk⟩
  case inCall =>
    obtain ⟨c, rfl⟩ := hs.conn_of_inRequest (by rw [hp]; rfl)
    exact absurd ⟨c, k, hp⟩ hcall
  case wantLock => exact absurd ⟨i, ret, hp⟩ hlock
  case renewing => exact absurd ⟨i, ret, hp⟩ hrenew

/-- The steps that the threads `T` still have at most, while the server runs. -/
def left (T : Finset Tid) (s : Pool Drv) : ℕ :=
  if s.crashed then 0 else ∑ i ∈ T, s.rank i + 1

/-- A thread that is not among `T` does nothing. -/
def Within (T : Finset Tid) (s : Pool Drv) : Prop := ∀ i, i ∉ T → s.place i = .idle

theorem step_left (hs : s.Inv) {T : Finset Tid} (hT : s.Within T) (h : s.step m = some t)
    (hm : m.GoesOn) : t.Within T ∧ t.left T < s.left T := by
  have hmT : m.tid ∈ T := by
    by_contra hmT
    have hidle := hT _ hmT
    -- a thread that goes on is somewhere
    obtain ⟨-, he⟩ := step_effect h
    cases he with
    | refused => exact hm
    | request => exact hm
    | reload => exact hm
    | unknown conn k a msg place unknown => exact absurd (hidle.symm.trans place) (by simp)
    | enter conn k a msg th place free device => exact absurd (hidle.symm.trans place) (by simp)
    | call conn env k th th' place device step => exact absurd (hidle.symm.trans place) (by simp)
    | leave conn k th place device done => exact absurd (hidle.symm.trans place) (by simp)
    | lock i ret place free alone => exact absurd (hidle.symm.trans place) (by simp)
    | renew i ret place => exact absurd (hidle.symm.trans place) (by simp)
  have hfine := (step_effect h).1
  refine ⟨fun i hi => ?_, ?_⟩
  · have hne : i ≠ m.tid := by rintro rfl; exact hi hmT
    rw [step_place_of_ne h hne]
    exact hT i hi
  · have hleft : s.left T = ∑ i ∈ T, s.rank i + 1 := if_neg (by simp [hfine])
    rw [hleft, left]
    split
    · exact Nat.succ_pos _
    · rename_i hcrash
      have hlow := (step_lowers hs h hm).resolve_left hcrash
      exact Nat.succ_lt_succ (hlow.sum_lt hmT)

end Pool

end Device2
