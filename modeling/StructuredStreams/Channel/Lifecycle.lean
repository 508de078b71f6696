import Mathlib.Data.List.Count

/-!
# The life of a stream channel

When the link status of a stream channel changes to down, the handler of the
channel's own signal deletes the channel.  `stop` sets the status to down, and
the destructor calls `stop`: a channel that was started is deleted in the
middle of the first `stop` or of its own destructor.

A life is recorded as the sequence of the moments that matter: the destructor
is entered, it has completed, the tables of the channel are touched.
-/

namespace StructuredStreams.Channel

inductive LinkStatus where
  | down
  | stalled
  | up
  deriving DecidableEq, Repr

inductive Moment where
  | destructorEntered
  | tablesTouched
  | destructorCompleted
  deriving DecidableEq, Repr

structure Lifetime where
  linkStatus : LinkStatus
  /-- The latest moment comes last. -/
  moments : List Moment
  deriving DecidableEq, Repr

namespace Lifetime

/-- A channel that was just constructed. -/
def create : Lifetime where
  linkStatus := .down
  moments := []

def record (life : Lifetime) (moment : Moment) : Lifetime :=
  { life with moments := life.moments ++ [moment] }

section Signal

/-! ### Functions that set the link status

The parameter is what `delete this` does to the channel. -/

variable (deleteThis : Lifetime → Lifetime)

def gotLinkStatusChangedWith
    (newStatus : LinkStatus) (life : Lifetime) : Lifetime :=
  if newStatus ≠ .down then life else deleteThis life

/-- Stalls are repeated, other changes are not. -/
def setLinkStatusWith
    (newStatus : LinkStatus) (life : Lifetime) : Lifetime :=
  if life.linkStatus ≠ newStatus ∨ newStatus = .stalled then
    gotLinkStatusChangedWith deleteThis newStatus
      { life with linkStatus := newStatus }
  else life

/-- `channel::stop` is followed by the loops over the tables. -/
def stopWith (life : Lifetime) : Lifetime :=
  (setLinkStatusWith deleteThis .down life).record .tablesTouched

def destructorWith (life : Lifetime) : Lifetime :=
  (stopWith deleteThis (life.record .destructorEntered)).record
    .destructorCompleted

end Signal

/-- The destructor in which the signal does not fire. -/
def quietDestructor : Lifetime → Lifetime :=
  destructorWith id

def destructor : Lifetime → Lifetime :=
  destructorWith quietDestructor

def stop : Lifetime → Lifetime :=
  stopWith destructor

/-- `start` ends with a signal that the channel may transmit. -/
def start (life : Lifetime) : Lifetime :=
  (setLinkStatusWith destructor .up life).record .tablesTouched

/-- All frames in flight are reported missed first.  The timer belongs to the
channel and does not fire any more after it was destroyed. -/
def retransmitTimeout (life : Lifetime) (failed : Bool) : Lifetime :=
  if .destructorCompleted ∈ life.moments then life
  else
    setLinkStatusWith destructor (if failed then .down else .stalled)
      (life.record .tablesTouched)

/-- The status is down before the signal is sent, so that a second signal
does not fire. -/
theorem stopWith_of_down
    (deleteThis other : Lifetime → Lifetime) {life : Lifetime}
    (isDown : life.linkStatus = .down) :
    stopWith deleteThis life = stopWith other life := by
  simp [stopWith, setLinkStatusWith, isDown]

private theorem destructorWith_of_down
    (deleteThis other : Lifetime → Lifetime) {life : Lifetime}
    (isDown : life.linkStatus = .down) :
    destructorWith deleteThis life = destructorWith other life := by
  have entered : (life.record .destructorEntered).linkStatus = .down :=
    isDown
  rw [destructorWith, destructorWith,
    stopWith_of_down deleteThis other entered]

private theorem setLinkStatusWith_congr
    {deleteThis other : Lifetime → Lifetime}
    (same :
      ∀ life : Lifetime, life.linkStatus = .down →
        deleteThis life = other life)
    (newStatus : LinkStatus) (life : Lifetime) :
    setLinkStatusWith deleteThis newStatus life =
      setLinkStatusWith other newStatus life := by
  unfold setLinkStatusWith gotLinkStatusChangedWith
  split
  · split
    · rfl
    · next isDown =>
        apply same
        exact not_ne_iff.mp isDown
  · rfl

/-- `delete this` enters the destructor itself. -/
theorem destructor_eq : destructor = destructorWith destructor := by
  funext life
  have sameDeletion :
      ∀ deleted : Lifetime, deleted.linkStatus = .down →
        quietDestructor deleted = destructor deleted := by
    intro deleted isDown
    exact destructorWith_of_down id quietDestructor isDown
  have same :=
    setLinkStatusWith_congr sameDeletion .down
      (life.record .destructorEntered)
  change destructorWith quietDestructor life = destructorWith destructor life
  rw [destructorWith, destructorWith, stopWith, stopWith, same]

end Lifetime

/-- What happens to a channel after it was started. -/
inductive OwnerCall where
  | stop
  | destroy
  deriving DecidableEq, Repr

def OwnerCall.run (life : Lifetime) : OwnerCall → Lifetime
  | .stop => life.stop
  | .destroy => life.destructor

/-- The life of a channel that is started, gets some timeouts and is then
stopped or destroyed by its owner. -/
def channelLife (timeouts : List Bool) (ownerCalls : List OwnerCall) :
    Lifetime :=
  ownerCalls.foldl OwnerCall.run
    (timeouts.foldl Lifetime.retransmitTimeout Lifetime.create.start)

/-- The destructor is entered at most once, and after it has completed the
tables are left alone. -/
structure SafeLife (moments : List Moment) : Prop where
  enteredOnce : moments.count .destructorEntered ≤ 1
  untouchedAfter :
    ∀ earlier later,
      moments = earlier ++ .destructorCompleted :: later →
      .tablesTouched ∉ later

/-- What is wrong with a life stays wrong. -/
theorem SafeLife.of_append
    {earlier later : List Moment} (safe : SafeLife (earlier ++ later)) :
    SafeLife earlier where
  enteredOnce := by
    have once := safe.enteredOnce
    rw [List.count_append] at once
    omega
  untouchedAfter := by
    intro front back split touched
    have whole :
        earlier ++ later =
          front ++ .destructorCompleted :: (back ++ later) := by
      rw [split, List.append_assoc, List.cons_append]
    exact
      safe.untouchedAfter front (back ++ later) whole
        (List.mem_append_left later touched)

/-- A started channel is alive and its link is not down, or it deleted itself
and its link is down. -/
inductive Started (life : Lifetime) : Prop
  | alive :
      life.linkStatus ≠ .down →
      (∀ moment ∈ life.moments, moment = .tablesTouched) →
      Started life
  | deleted (touches : List Moment) :
      life.linkStatus = .down →
      (∀ moment ∈ touches, moment = .tablesTouched) →
      life.moments =
        touches ++
          [.destructorEntered, .tablesTouched, .destructorCompleted] →
      Started life

private theorem started_start : Started Lifetime.create.start :=
  Started.alive (by decide) (by decide)

private theorem destructor_of_down
    {life : Lifetime} (isDown : life.linkStatus = .down) :
    life.destructor =
      { life with
        moments :=
          life.moments ++
            [.destructorEntered, .tablesTouched,
              .destructorCompleted] } := by
  simp [Lifetime.destructor, Lifetime.destructorWith, Lifetime.stopWith,
    Lifetime.setLinkStatusWith, Lifetime.record, isDown]

private theorem stop_of_down
    {life : Lifetime} (isDown : life.linkStatus = .down) :
    life.stop =
      { life with moments := life.moments ++ [.tablesTouched] } := by
  simp [Lifetime.stop, Lifetime.stopWith, Lifetime.setLinkStatusWith,
    Lifetime.record, isDown]

/-- Setting the status to down for the first time deletes the channel. -/
theorem setLinkStatusWith_down
    (deleteThis : Lifetime → Lifetime) {life : Lifetime}
    (notDown : life.linkStatus ≠ .down) :
    Lifetime.setLinkStatusWith deleteThis .down life =
      deleteThis { life with linkStatus := .down } := by
  simp [Lifetime.setLinkStatusWith, Lifetime.gotLinkStatusChangedWith,
    notDown]

theorem Started.retransmitTimeout
    {life : Lifetime} (started : Started life) (failed : Bool) :
    Started (life.retransmitTimeout failed) := by
  unfold Lifetime.retransmitTimeout
  cases started with
  | alive notDown onlyTouched =>
      have notCompleted : Moment.destructorCompleted ∉ life.moments := by
        intro completed
        cases onlyTouched _ completed
      have stillTouched :
          ∀ moment ∈ (life.record .tablesTouched).moments,
            moment = .tablesTouched := by
        intro moment member
        rcases List.mem_append.mp member with old | isNew
        · exact onlyTouched moment old
        · exact List.mem_singleton.mp isNew
      rw [if_neg notCompleted]
      cases failed with
      | true =>
          have recorded :
              (life.record .tablesTouched).linkStatus ≠ .down :=
            notDown
          rw [if_pos rfl, setLinkStatusWith_down _ recorded,
            destructor_of_down rfl]
          exact Started.deleted _ rfl stillTouched rfl
      | false =>
          apply Started.alive
          · simp [Lifetime.setLinkStatusWith,
              Lifetime.gotLinkStatusChangedWith]
          · simpa [Lifetime.setLinkStatusWith,
              Lifetime.gotLinkStatusChangedWith] using stillTouched
  | deleted touches isDown onlyTouched moments =>
      rw [if_pos (by simp [moments])]
      exact Started.deleted touches isDown onlyTouched moments

private theorem started_timeouts
    {life : Lifetime} (started : Started life) (timeouts : List Bool) :
    Started (timeouts.foldl Lifetime.retransmitTimeout life) := by
  induction timeouts generalizing life with
  | nil =>
      exact started
  | cons failed timeouts inductionHypothesis =>
      exact inductionHypothesis (started.retransmitTimeout failed)

theorem Started.safe
    {life : Lifetime} (started : Started life) :
    SafeLife life.moments := by
  cases started with
  | alive notDown onlyTouched =>
      refine ⟨?_, ?_⟩
      · rw [List.count_eq_zero.mpr]
        · exact Nat.zero_le 1
        · intro entered
          cases onlyTouched _ entered
      · intro earlier later split
        have completed : Moment.destructorCompleted ∈ life.moments := by
          simp [split]
        cases onlyTouched _ completed
  | deleted touches isDown onlyTouched moments =>
      rw [moments]
      refine ⟨?_, ?_⟩
      · have notEntered : touches.count .destructorEntered = 0 := by
          apply List.count_eq_zero.mpr
          intro entered
          cases onlyTouched _ entered
        simp [List.count_append, notEntered]
      · intro earlier later split touched
        -- The destructor completes last, so that nothing is later.
        obtain ⟨front, last, rfl⟩ :=
          (List.eq_nil_or_concat later).resolve_left
            (List.ne_nil_of_mem touched)
        have same :
            touches ++ [.destructorEntered, .tablesTouched] =
              earlier ++ .destructorCompleted :: front := by
          have ends :
              touches ++ [.destructorEntered, .tablesTouched] ++
                  [.destructorCompleted] =
                earlier ++ .destructorCompleted :: front ++ [last] := by
            simpa using split
          exact (List.append_inj' ends rfl).1
        have early :
            Moment.destructorCompleted ∈
              touches ++ [.destructorEntered, .tablesTouched] := by
          simp [same]
        rcases List.mem_append.mp early with isTouch | inDestructor
        · cases onlyTouched _ isTouch
        · simp at inDestructor

/-- A call of the owner adds the same moments wherever the link is up or
stalled, and others where it is down. -/
theorem OwnerCall.run_moments (life : Lifetime) (call : OwnerCall) :
    (call.run life).moments =
      life.moments ++
        match call, decide (life.linkStatus = .down) with
        | .stop, true => [.tablesTouched]
        | .stop, false =>
            [.destructorEntered, .tablesTouched, .destructorCompleted,
              .tablesTouched]
        | .destroy, true =>
            [.destructorEntered, .tablesTouched, .destructorCompleted]
        | .destroy, false =>
            [.destructorEntered, .destructorEntered, .tablesTouched,
              .destructorCompleted, .tablesTouched,
              .destructorCompleted] := by
  by_cases isDown : life.linkStatus = .down
  · cases call with
    | stop =>
        rw [OwnerCall.run, stop_of_down isDown]
        simp [isDown]
    | destroy =>
        rw [OwnerCall.run, destructor_of_down isDown]
        simp [isDown]
  · cases call with
    | stop =>
        rw [OwnerCall.run, Lifetime.stop, Lifetime.stopWith,
          setLinkStatusWith_down _ isDown, destructor_of_down rfl]
        simp [Lifetime.record, isDown]
    | destroy =>
        have entered :
            (life.record .destructorEntered).linkStatus ≠ .down :=
          isDown
        rw [OwnerCall.run, Lifetime.destructor_eq, Lifetime.destructorWith,
          Lifetime.stopWith, setLinkStatusWith_down _ entered,
          destructor_of_down rfl]
        simp [Lifetime.record, isDown]

/-- The owner of a started channel cannot end its life safely. -/
theorem Started.not_safe_run
    {life : Lifetime} (started : Started life) (call : OwnerCall) :
    ¬ SafeLife (call.run life).moments := by
  intro safe
  rw [call.run_moments] at safe
  cases started with
  | alive notDown onlyTouched =>
      rw [decide_eq_false notDown] at safe
      cases call with
      | stop =>
          have untouched :=
            safe.untouchedAfter
              (life.moments ++ [.destructorEntered, .tablesTouched])
              [.tablesTouched] (by simp)
          simp at untouched
      | destroy =>
          have once := safe.enteredOnce
          rw [List.count_append] at once
          simp at once
  | deleted touches isDown onlyTouched moments =>
      rw [decide_eq_true isDown, moments] at safe
      cases call with
      | stop =>
          have untouched :=
            safe.untouchedAfter
              (touches ++ [.destructorEntered, .tablesTouched])
              [.tablesTouched] (by simp)
          simp at untouched
      | destroy =>
          have once := safe.enteredOnce
          rw [List.count_append, List.count_append] at once
          simp at once

private theorem safeLife_of_foldl
    {life : Lifetime} {calls : List OwnerCall}
    (safe : SafeLife (calls.foldl OwnerCall.run life).moments) :
    SafeLife life.moments := by
  induction calls generalizing life with
  | nil =>
      exact safe
  | cons call calls inductionHypothesis =>
      have after := inductionHypothesis safe
      rw [call.run_moments] at after
      exact after.of_append

/-- The life of a started channel is safe exactly when its owner neither
stops nor destroys it. -/
theorem channelLife_safe_iff
    (timeouts : List Bool) (ownerCalls : List OwnerCall) :
    SafeLife (channelLife timeouts ownerCalls).moments ↔
      ownerCalls = [] := by
  have started := started_timeouts started_start timeouts
  rw [channelLife]
  constructor
  · intro safe
    cases ownerCalls with
    | nil =>
        rfl
    | cons call calls =>
        rw [List.foldl_cons] at safe
        exact absurd (safeLife_of_foldl safe) (started.not_safe_run call)
  · intro none
    rw [none]
    exact started.safe

/-- The destructor of a channel that was only started is entered twice. -/
theorem channelLife_destroyed_twice :
    (channelLife [] [.destroy]).moments.count .destructorEntered = 2 ∧
      ¬ SafeLife (channelLife [] [.destroy]).moments := by
  have twice :
      (channelLife [] [.destroy]).moments.count .destructorEntered = 2 := by
    decide
  refine ⟨twice, ?_⟩
  intro safe
  have once := safe.enteredOnce
  rw [twice] at once
  exact absurd once (by decide)

end StructuredStreams.Channel
