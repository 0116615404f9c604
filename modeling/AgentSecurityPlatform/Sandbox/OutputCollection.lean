import AgentSecurityPlatform.Library.Run

namespace AgentSecurityPlatform

inductive OutputStream where
  | stdout
  | stderr
  deriving DecidableEq, Repr

structure Pipe where
  written : List UInt8 := []
  unread : List UInt8 := []
  deriving DecidableEq

structure ChildProcess where
  pipe : OutputStream → Pipe := fun _ => {}
  writtenAtExit : OutputStream → List UInt8 := fun _ => []
  exited : Bool := false
  groupSignalled : Bool := false

inductive CollectOutcome where
  | timedOut
  | exhausted
  | raised
  | finished
  deriving DecidableEq, Repr

inductive CollectPoint where
  | sendsDescriptor
  | checksDeadline
  | reads (ready : List OutputStream)
  | checksLimit
  | polls
  | drains (left : List OutputStream)
  | checksFinalLimit
  | cleansUp (outcome : CollectOutcome)
  | ended (outcome : CollectOutcome)
  deriving DecidableEq, Repr

structure OutputCollector where
  chunks : OutputStream → List (List UInt8) := fun _ => []
  totalOutputBytes : Nat := 0
  lost : List OutputStream := []
  point : CollectPoint := .sendsDescriptor

def OutputCollector.collected (c : OutputCollector) (s : OutputStream) : List UInt8 :=
  (c.chunks s).flatten

structure CollectLimits where
  maxOutputBytes : Nat
  deadline : Int
  deriving DecidableEq, Repr

-- the clock, the answer of select, and whether the system call of this turn raises
structure CollectTurn where
  now : Int := 0
  ready : OutputStream → Bool := fun _ => false
  raises : Bool := false

structure Collection where
  child : ChildProcess := {}
  collector : OutputCollector := {}

inductive CollectAction where
  | write (s : OutputStream) (bytes : List UInt8)
  | exit
  | collect (turn : CollectTurn)

namespace ChildProcess

def write (c : ChildProcess) (s : OutputStream) (bytes : List UInt8) : ChildProcess :=
  { c with
    pipe := Function.update c.pipe s
      ⟨(c.pipe s).written ++ bytes, (c.pipe s).unread ++ bytes⟩ }

def exit (c : ChildProcess) : ChildProcess :=
  if c.exited then c
  else { c with exited := true, writtenAtExit := fun s => (c.pipe s).written }

def kill (c : ChildProcess) : ChildProcess := { c with groupSignalled := true }

end ChildProcess

namespace Collection

def goTo (c : Collection) (next : CollectPoint) : Collection :=
  { c with collector := { c.collector with point := next } }

def take (c : Collection) (s : OutputStream) (next : CollectPoint) : Collection :=
  { child :=
      { c.child with pipe := Function.update c.child.pipe s ⟨(c.child.pipe s).written, []⟩ }
    collector :=
      { c.collector with
        chunks :=
          Function.update c.collector.chunks s (c.collector.chunks s ++ [(c.child.pipe s).unread])
        totalOutputBytes := c.collector.totalOutputBytes + (c.child.pipe s).unread.length
        point := next } }

-- a non-blocking read takes all the pipe holds; an empty pipe gives None or b""
def read (c : Collection) (s : OutputStream) (next : CollectPoint) : Collection :=
  if (c.child.pipe s).unread = [] then c.goTo next else c.take s next

def killAndRaise (c : Collection) (outcome : CollectOutcome) : Collection :=
  { child := c.child.kill, collector := { c.collector with point := .cleansUp outcome } }

def checkLimit (limits : CollectLimits) (c : Collection) (next : CollectPoint) : Collection :=
  if limits.maxOutputBytes < c.collector.totalOutputBytes then c.killAndRaise .exhausted
  else c.goTo next

def collect (limits : CollectLimits) (turn : CollectTurn) (c : Collection) : Collection :=
  match c.collector.point with
  | .sendsDescriptor => c.goTo (if turn.raises then .cleansUp .raised else .checksDeadline)
  | .checksDeadline =>
    if limits.deadline ≤ turn.now then c.killAndRaise .timedOut
    else if turn.raises then c.goTo (.cleansUp .raised)
    else c.goTo (.reads ([.stdout, .stderr].filter turn.ready))
  | .reads [] => c.goTo .checksLimit
  | .reads (s :: ready) =>
    if turn.raises then c.goTo (.cleansUp .raised) else c.read s (.reads ready)
  | .checksLimit => c.checkLimit limits .polls
  | .polls => c.goTo (if c.child.exited then .drains [.stdout, .stderr] else .checksDeadline)
  | .drains [] => c.goTo .checksFinalLimit
  | .drains (s :: left) =>
    if turn.raises then
      { c with
        collector := { c.collector with lost := s :: c.collector.lost, point := .drains left } }
    else c.read s (.drains left)
  | .checksFinalLimit => c.checkLimit limits (.cleansUp .finished)
  | .cleansUp outcome =>
    { child := c.child.kill, collector := { c.collector with point := .ended outcome } }
  | .ended _ => c

def step (limits : CollectLimits) (c : Collection) : CollectAction → Collection × Unit
  | .write s bytes => ({ c with child := c.child.write s bytes }, ())
  | .exit => ({ c with child := c.child.exit }, ())
  | .collect turn => (c.collect limits turn, ())

def after (limits : CollectLimits) (actions : List CollectAction) : Collection :=
  Run.final (step limits) {} actions

end Collection

structure Collection.InOrder (c : Collection) : Prop where
  stream : ∀ s, c.collector.collected s ++ (c.child.pipe s).unread = (c.child.pipe s).written
  total : c.collector.totalOutputBytes =
    (c.collector.collected .stdout).length + (c.collector.collected .stderr).length
  at_exit : ∀ s, c.child.writtenAtExit s <+: (c.child.pipe s).written

namespace CollectPoint

def DrainedExcept (c : Collection) (left : List OutputStream) : Prop :=
  c.child.exited = true ∧
    ∀ s, s ∉ left → s ∉ c.collector.lost → c.child.writtenAtExit s <+: c.collector.collected s

def OutcomeHolds (limits : CollectLimits) (actions : List CollectAction) (c : Collection) :
    CollectOutcome → Prop
  | .timedOut => ∃ turn, .collect turn ∈ actions ∧ limits.deadline ≤ turn.now
  | .exhausted => limits.maxOutputBytes < c.collector.totalOutputBytes
  | .raised => ∃ turn, .collect turn ∈ actions ∧ turn.raises = true
  | .finished => DrainedExcept c [] ∧ c.collector.totalOutputBytes ≤ limits.maxOutputBytes

def Established (limits : CollectLimits) (actions : List CollectAction) (c : Collection) :
    CollectPoint → Prop
  | .drains left => DrainedExcept c left
  | .checksFinalLimit => DrainedExcept c []
  | .cleansUp outcome => OutcomeHolds limits actions c outcome
  | .ended outcome => OutcomeHolds limits actions c outcome ∧ c.child.groupSignalled = true
  | .sendsDescriptor | .checksDeadline | .reads _ | .checksLimit | .polls => True

end CollectPoint

structure Collection.Sound (limits : CollectLimits) (actions : List CollectAction)
    (c : Collection) : Prop where
  in_order : c.InOrder
  lost : c.collector.lost ≠ [] → ∃ turn, .collect turn ∈ actions ∧ turn.raises = true
  established : c.collector.point.Established limits actions c

namespace Collection

theorem InOrder.prefix_written {c : Collection} (h : c.InOrder) (s : OutputStream) :
    c.collector.collected s <+: (c.child.pipe s).written :=
  ⟨(c.child.pipe s).unread, h.stream s⟩

@[simp] theorem collected_take (c : Collection) (s t : OutputStream) (next : CollectPoint) :
    (c.take s next).collector.collected t =
      c.collector.collected t ++ (if t = s then (c.child.pipe s).unread else []) := by
  by_cases h : t = s
  · subst h
    simp [take, OutputCollector.collected]
  · simp [take, OutputCollector.collected, h]

@[simp] theorem pipe_take (c : Collection) (s t : OutputStream) (next : CollectPoint) :
    (c.take s next).child.pipe t =
      ⟨(c.child.pipe t).written, if t = s then [] else (c.child.pipe t).unread⟩ := by
  by_cases h : t = s
  · subst h
    simp [take]
  · simp [take, h]

theorem inOrder_goTo {c : Collection} (h : c.InOrder) (next : CollectPoint) :
    (c.goTo next).InOrder :=
  ⟨h.stream, h.total, h.at_exit⟩

theorem inOrder_kill {c : Collection} (h : c.InOrder) (next : CollectPoint) :
    (Collection.mk c.child.kill { c.collector with point := next }).InOrder :=
  ⟨h.stream, h.total, h.at_exit⟩

theorem inOrder_take {c : Collection} (h : c.InOrder) (s : OutputStream) (next : CollectPoint) :
    (c.take s next).InOrder := by
  refine ⟨?_, ?_, ?_⟩
  · intro t
    have ht := h.stream t
    rw [collected_take, pipe_take]
    by_cases hts : t = s
    · subst hts
      simpa using ht
    · simpa [hts] using ht
  · have ht := h.total
    rw [collected_take, collected_take]
    show c.collector.totalOutputBytes + (c.child.pipe s).unread.length = _
    cases s <;> simp <;> omega
  · intro t
    rw [pipe_take]
    exact h.at_exit t

theorem inOrder_read {c : Collection} (h : c.InOrder) (s : OutputStream) (next : CollectPoint) :
    (c.read s next).InOrder := by
  unfold read
  split
  · exact inOrder_goTo h next
  · exact inOrder_take h s next

theorem inOrder_write {c : Collection} (h : c.InOrder) (s : OutputStream) (bytes : List UInt8) :
    (Collection.mk (c.child.write s bytes) c.collector).InOrder := by
  refine ⟨?_, h.total, ?_⟩
  · intro t
    have ht := h.stream t
    by_cases hts : t = s
    · subst hts
      simp only [ChildProcess.write, Function.update_self]
      rw [← List.append_assoc, ht]
    · simpa [ChildProcess.write, hts] using ht
  · intro t
    have ht := h.at_exit t
    by_cases hts : t = s
    · subst hts
      simp only [ChildProcess.write, Function.update_self]
      exact ht.trans (List.prefix_append _ _)
    · simpa [ChildProcess.write, hts] using ht

theorem inOrder_exit {c : Collection} (h : c.InOrder) :
    (Collection.mk c.child.exit c.collector).InOrder := by
  unfold ChildProcess.exit
  split
  · exact h
  · exact ⟨h.stream, h.total, fun _ => List.prefix_rfl⟩

open CollectPoint

variable {limits : CollectLimits} {actions : List CollectAction}

theorem read_child (c : Collection) (s : OutputStream) (next : CollectPoint) :
    (c.read s next).child.exited = c.child.exited ∧
      (c.read s next).child.writtenAtExit = c.child.writtenAtExit := by
  unfold read
  split <;> exact ⟨rfl, rfl⟩

theorem read_collector (c : Collection) (s : OutputStream) (next : CollectPoint) :
    (c.read s next).collector.lost = c.collector.lost ∧
      (c.read s next).collector.point = next := by
  unfold read
  split <;> exact ⟨rfl, rfl⟩

theorem collected_read (c : Collection) (s t : OutputStream) (next : CollectPoint) :
    (c.read s next).collector.collected t =
      c.collector.collected t ++ (if t = s then (c.child.pipe s).unread else []) := by
  unfold read
  split
  · rename_i h
    rw [h, ite_self, List.append_nil]
    rfl
  · exact collected_take c s t next

theorem drainedExcept_read {c : Collection} (hi : c.InOrder) {s : OutputStream}
    {left : List OutputStream} (h : DrainedExcept c (s :: left)) :
    DrainedExcept (c.read s (.drains left)) left := by
  refine ⟨(read_child c s _).1.trans h.1, ?_⟩
  intro t ht hl
  rw [(read_child c s _).2, collected_read]
  by_cases hts : t = s
  · subst hts
    rw [if_pos rfl, hi.stream t]
    exact hi.at_exit t
  · rw [if_neg hts, List.append_nil]
    apply h.2 t
    · simp [hts, ht]
    · rwa [(read_collector c s _).1] at hl

theorem drainedExcept_pass {c : Collection} {s : OutputStream} {left : List OutputStream}
    (h : DrainedExcept c (s :: left)) (point : CollectPoint) :
    DrainedExcept
      { c with collector := { c.collector with lost := s :: c.collector.lost, point := point } }
      left := by
  refine ⟨h.1, ?_⟩
  intro t ht hl
  simp only [List.mem_cons, not_or] at hl
  exact h.2 t (by simp [hl.1, ht]) hl.2

theorem sound_goTo {c : Collection} (h : c.Sound limits actions) {next : CollectPoint}
    (hn : next.Established limits actions (c.goTo next)) : (c.goTo next).Sound limits actions :=
  ⟨inOrder_goTo h.in_order next, h.lost, hn⟩

theorem sound_kill {c : Collection} (h : c.Sound limits actions) {outcome : CollectOutcome}
    (ho : OutcomeHolds limits actions c outcome) :
    (c.killAndRaise outcome).Sound limits actions := by
  refine ⟨inOrder_kill h.in_order _, h.lost, ?_⟩
  cases outcome <;> exact ho

theorem sound_checkLimit {c : Collection} (h : c.Sound limits actions) {next : CollectPoint}
    (hn : c.collector.totalOutputBytes ≤ limits.maxOutputBytes →
      next.Established limits actions (c.goTo next)) :
    (c.checkLimit limits next).Sound limits actions := by
  unfold checkLimit
  split
  · exact sound_kill h ‹_›
  · exact sound_goTo h (hn (by omega))

theorem sound_read {c : Collection} (h : c.Sound limits actions) {s : OutputStream}
    {next : CollectPoint} (hn : next.Established limits actions (c.read s next)) :
    (c.read s next).Sound limits actions := by
  refine ⟨inOrder_read h.in_order s next, ?_, ?_⟩
  · rw [(read_collector c s next).1]
    exact h.lost
  · rw [(read_collector c s next).2]
    exact hn

theorem sound_collect {c : Collection} (h : c.Sound limits actions) {turn : CollectTurn}
    (ht : .collect turn ∈ actions) : (c.collect limits turn).Sound limits actions := by
  have he := h.established
  unfold collect
  split <;> rename_i hp <;> rw [hp] at he
  · split
    · exact sound_goTo h ⟨turn, ht, ‹_›⟩
    · exact sound_goTo h trivial
  · split
    · exact sound_kill h ⟨turn, ht, ‹_›⟩
    · split
      · exact sound_goTo h ⟨turn, ht, ‹_›⟩
      · exact sound_goTo h trivial
  · exact sound_goTo h trivial
  · split
    · exact sound_goTo h ⟨turn, ht, ‹_›⟩
    · exact sound_read h trivial
  · exact sound_checkLimit h fun _ => trivial
  · split
    · refine sound_goTo h ⟨‹_›, ?_⟩
      intro s hs
      cases s <;> simp at hs
    · exact sound_goTo h trivial
  · exact sound_goTo h he
  · split
    · exact ⟨⟨h.in_order.stream, h.in_order.total, h.in_order.at_exit⟩,
        fun _ => ⟨turn, ht, ‹_›⟩, drainedExcept_pass he _⟩
    · exact sound_read h (drainedExcept_read h.in_order he)
  · exact sound_checkLimit h fun hm => ⟨he, hm⟩
  · refine ⟨inOrder_kill h.in_order _, h.lost, ?_, rfl⟩
    rename_i outcome
    cases outcome <;> exact he
  · exact h

theorem sound_child {c : Collection} (h : c.Sound limits actions) {child : ChildProcess}
    (hi : (Collection.mk child c.collector).InOrder)
    (hs : child.groupSignalled = c.child.groupSignalled)
    (hx : c.child.exited = true →
      child.exited = true ∧ child.writtenAtExit = c.child.writtenAtExit) :
    (Collection.mk child c.collector).Sound limits actions := by
  have hd (left : List OutputStream) (hl : DrainedExcept c left) :
      DrainedExcept (Collection.mk child c.collector) left := by
    obtain ⟨h1, h2⟩ := hx hl.1
    exact ⟨h1, by rw [h2]; exact hl.2⟩
  have ho (outcome : CollectOutcome) (hl : OutcomeHolds limits actions c outcome) :
      OutcomeHolds limits actions (Collection.mk child c.collector) outcome := by
    cases outcome with
    | finished => exact ⟨hd [] hl.1, hl.2⟩
    | timedOut => exact hl
    | exhausted => exact hl
    | raised => exact hl
  refine ⟨hi, h.lost, ?_⟩
  have he := h.established
  show c.collector.point.Established limits actions (Collection.mk child c.collector)
  revert he
  cases c.collector.point with
  | drains left => exact hd left
  | checksFinalLimit => exact hd []
  | cleansUp outcome => exact ho outcome
  | ended outcome => exact fun he => ⟨ho outcome he.1, hs.trans he.2⟩
  | sendsDescriptor => exact id
  | checksDeadline => exact id
  | reads ready => exact id
  | checksLimit => exact id
  | polls => exact id

theorem sound_step {c : Collection} (h : c.Sound limits actions) {a : CollectAction}
    (ha : a ∈ actions) : (step limits c a).1.Sound limits actions := by
  cases a with
  | write s bytes =>
    exact sound_child h (inOrder_write h.in_order s bytes) rfl fun hx => ⟨hx, rfl⟩
  | exit =>
    refine sound_child h (inOrder_exit h.in_order) ?_ ?_
    · unfold ChildProcess.exit
      split <;> rfl
    · intro hx
      rw [ChildProcess.exit, if_pos hx]
      exact ⟨hx, rfl⟩
  | collect turn => exact sound_collect h ha

theorem sound_after (limits : CollectLimits) (actions : List CollectAction) :
    (after limits actions).Sound limits actions := by
  have h0 : Collection.Sound limits actions {} :=
    ⟨⟨fun _ => rfl, rfl, fun _ => List.prefix_rfl⟩, fun h => (h rfl).elim, trivial⟩
  exact Run.final_invariant (step limits) (Sound limits actions) (· ∈ actions) {} actions h0
    (fun _ h => h) fun _ _ ha h => sound_step h ha

theorem output_collected_in_order (limits : CollectLimits) (actions : List CollectAction) :
    let c := after limits actions
    (∀ s, c.collector.collected s <+: (c.child.pipe s).written) ∧
    ∀ outcome, c.collector.point = .ended outcome →
      c.child.groupSignalled = true ∧
      match outcome with
      | .finished =>
        c.child.exited = true ∧
        (c.collector.collected .stdout).length + (c.collector.collected .stderr).length ≤
          limits.maxOutputBytes ∧
        (∀ s, s ∉ c.collector.lost → c.child.writtenAtExit s <+: c.collector.collected s) ∧
        (c.collector.lost ≠ [] → ∃ turn, .collect turn ∈ actions ∧ turn.raises = true)
      | .exhausted =>
        limits.maxOutputBytes <
          (c.child.pipe .stdout).written.length + (c.child.pipe .stderr).written.length
      | .timedOut => ∃ turn, .collect turn ∈ actions ∧ limits.deadline ≤ turn.now
      | .raised => ∃ turn, .collect turn ∈ actions ∧ turn.raises = true := by
  intro c
  have h : c.Sound limits actions := sound_after limits actions
  refine ⟨h.in_order.prefix_written, ?_⟩
  intro outcome ho
  have he := h.established
  rw [ho] at he
  obtain ⟨he, hk⟩ := he
  refine ⟨hk, ?_⟩
  cases outcome with
  | finished =>
    obtain ⟨⟨hx, hd⟩, hm⟩ := he
    exact ⟨hx, h.in_order.total ▸ hm, fun s => hd s (by simp), h.lost⟩
  | exhausted =>
    have hm : limits.maxOutputBytes < c.collector.totalOutputBytes := he
    have h1 := (h.in_order.prefix_written .stdout).length_le
    have h2 := (h.in_order.prefix_written .stderr).length_le
    have ht := h.in_order.total
    show limits.maxOutputBytes < _
    omega
  | timedOut => exact he
  | raised => exact he

-- two bytes written before the child exits, one by a descendant after
def sampleActions : List CollectAction :=
  [.collect {}, .write .stdout [1, 2], .collect {}, .collect {}, .collect {}, .exit, .collect {},
    .write .stdout [3]] ++ List.replicate 5 (.collect {})

theorem output_collected_sample :
    let c := after ⟨100, 50⟩ sampleActions
    c.child.groupSignalled = true ∧ c.child.exited = true ∧
      (c.collector.collected .stdout).length + (c.collector.collected .stderr).length ≤ 100 ∧
      (∀ s, s ∉ c.collector.lost → c.child.writtenAtExit s <+: c.collector.collected s) ∧
      (c.collector.lost ≠ [] → ∃ turn, .collect turn ∈ sampleActions ∧ turn.raises = true) :=
  (output_collected_in_order ⟨100, 50⟩ sampleActions).2 .finished rfl

end Collection

namespace CollectPoint

def rank : CollectPoint → Nat
  | .ended _ => 0
  | .cleansUp _ => 1
  | .checksDeadline => 2
  | .checksFinalLimit => 2
  | .sendsDescriptor => 3
  | .drains left => 3 + left.length
  | .polls => 6
  | .checksLimit => 7
  | .reads ready => 8 + ready.length

theorem rank_eq_zero {p : CollectPoint} (h : p.rank = 0) : ∃ outcome, p = .ended outcome := by
  cases p with
  | ended outcome => exact ⟨outcome, rfl⟩
  | _ => simp [rank] at h

end CollectPoint

namespace Collection

open CollectPoint

theorem rank_read (c : Collection) (s : OutputStream) (next : CollectPoint) :
    (c.read s next).collector.point.rank = next.rank :=
  congrArg CollectPoint.rank (read_collector c s next).2

theorem rank_checkLimit (limits : CollectLimits) (c : Collection) (next : CollectPoint) :
    (c.checkLimit limits next).collector.point.rank ≤ max 1 next.rank := by
  unfold checkLimit
  split
  · exact Nat.le_max_left _ _
  · exact Nat.le_max_right _ _

-- every turn brings the collector closer to its end, except the check of the deadline in time
theorem rank_collect (limits : CollectLimits) (turn : CollectTurn) (c : Collection) :
    (c.collect limits turn).collector.point.rank ≤ c.collector.point.rank - 1 ∨
      (turn.now < limits.deadline ∧ (c.collect limits turn).collector.point.rank ≤ 10) := by
  unfold collect
  split <;> rename_i hp <;> rw [hp]
  · left
    split <;> simp [goTo, rank]
  · split
    · exact .inl (by simp [killAndRaise, rank])
    · have hl : ([.stdout, .stderr].filter turn.ready).length ≤ 2 := List.length_filter_le _ _
      right
      refine ⟨by omega, ?_⟩
      split
      · simp [goTo, rank]
      · simp only [goTo, rank]
        omega
  · exact .inl (by simp [goTo, rank])
  · left
    split
    · simp only [goTo, rank]
      omega
    · rw [rank_read]
      simp only [rank, List.length_cons]
      omega
  · left
    have h := rank_checkLimit limits c .polls
    simp only [rank] at h ⊢
    omega
  · left
    split <;> simp [goTo, rank]
  · exact .inl (by simp [goTo, rank])
  · left
    split
    · simp only [rank, List.length_cons]
      omega
    · rw [rank_read]
      simp only [rank, List.length_cons]
      omega
  · left
    have h := rank_checkLimit limits c (.cleansUp .finished)
    simp only [rank] at h ⊢
    omega
  · exact .inl (by simp [rank])
  · exact .inl (by simp [rank])

def isTurn : CollectAction → Bool
  | .collect _ => true
  | .write _ _ | .exit => false

theorem rank_step_le (limits : CollectLimits) (c : Collection) (a : CollectAction)
    (h : c.collector.point.rank ≤ 10) : (step limits c a).1.collector.point.rank ≤ 10 := by
  cases a with
  | write s bytes => exact h
  | exit => exact h
  | collect turn =>
    obtain hr | ⟨-, hr⟩ := rank_collect limits turn c
    · exact hr.trans (by omega)
    · exact hr

theorem rank_final (limits : CollectLimits) (c : Collection) (late : List CollectAction)
    (hlate : ∀ turn, .collect turn ∈ late → limits.deadline ≤ turn.now) :
    (Run.final (step limits) c late).collector.point.rank ≤
      c.collector.point.rank - late.countP isTurn := by
  induction late generalizing c with
  | nil => simp [Run.final]
  | cons a late ih =>
    have h := ih (step limits c a).1 fun turn ht => hlate turn (by simp [ht])
    refine h.trans ?_
    cases a with
    | write s bytes => simp [step, isTurn]
    | exit => simp [step, isTurn]
    | collect turn =>
      have hnow := hlate turn (by simp)
      obtain hr | ⟨hn, -⟩ := rank_collect limits turn c
      · simp only [step, isTurn, List.countP_cons, if_true]
        omega
      · omega

theorem collection_ends_after_deadline (limits : CollectLimits)
    (before late : List CollectAction)
    (hlate : ∀ turn, .collect turn ∈ late → limits.deadline ≤ turn.now)
    (hn : 10 ≤ late.countP isTurn) :
    ∃ outcome, (after limits (before ++ late)).collector.point = .ended outcome := by
  have h0 : (after limits before).collector.point.rank ≤ 10 :=
    Run.final_invariant (step limits) (fun c => c.collector.point.rank ≤ 10) (fun _ => True) {}
      before (by simp [rank]) (fun _ _ => trivial) fun c a _ h => rank_step_le limits c a h
  have h := rank_final limits (after limits before) late hlate
  unfold after at h0 h ⊢
  rw [Run.final_append]
  exact rank_eq_zero (by omega)

theorem collection_ends_after_deadline_sample :
    ∃ outcome, (after ⟨100, 5⟩ ([.write .stdout [1, 2], .collect {}] ++
      List.replicate 10 (.collect { now := 5 }))).collector.point = .ended outcome :=
  collection_ends_after_deadline ⟨100, 5⟩ [.write .stdout [1, 2], .collect {}]
    (List.replicate 10 (.collect { now := 5 }))
    (fun turn h => by
      have ht := (List.mem_replicate.mp h).2
      injection ht with ht
      subst ht
      decide)
    (by decide)

end Collection

end AgentSecurityPlatform
