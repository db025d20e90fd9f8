import TransferRelay.Proofs.Chain.Booking
import TransferRelay.Proofs.Rpc.Calling
import TransferRelay.Proofs.Rpc.Handling
import TransferRelay.Proofs.Session.Keeping
import TransferRelay.Proofs.Transfer.Course
import TransferRelay.Session.Basic

/-!
# Counters and calls agree

Three parts of the service count at different points of one request: the ledger its failed reads,
the transfers what became of them, and the dispatch of requests how they ended. `Accounted` says how
these counters hang together, and how they do with the calls that the chain has seen; it holds after
every step of a session that asks for transfers by requests only (`accounted_run`).

Each equation is a book in which every request comes out even. A book in which it does is `Fair`:
what a request is counted for in the end outweighs what its transfer, read or notice brought before.
All else follows from that, through requests (`Fair.handle`) and operations (`Fair.operation`) to
whole sessions (`balance_run`).
-/

namespace TransferRelay

variable {σ α : Type} {b : Book} {d : Deployment σ} {counts : Component → Bool}

/-! ## Fair books -/

namespace Rpc

/-- The outcome under which a task is counted. -/
def ended : Except Fault α → Outcome
  | .ok _ => .ok
  | .error fault => .fault fault.kind

theorem counted_replied (write : α → Json) (r : Except Fault α) :
    counted (replied write r) = ended r := by
  cases r <;> rfl

end Rpc

/-- A book in which a request comes out even, however it ends. -/
structure Book.Fair (b : Book) : Prop where
  /-- A failed read of the ledger is counted. -/
  read : b.unread + b.series .queryFailure = 0
  /-- Other reads are worth nothing. -/
  data : ∀ (tx : TransferId) (failed : Bool),
    b.event ⟨.rechargeData tx, failed⟩ = 0 ∧ b.event ⟨.withdrawData tx, failed⟩ = 0
  /-- A transfer found complete is counted and told of. -/
  completed : ∀ t : Transfer,
    b.series (.alreadyCompleted t.kind) + t.notified.length * b.notice +
      b.series (.request (.served t.kind.method) .ok) = 0
  /-- A transfer that is submitted is counted. -/
  submitted : ∀ t : Transfer,
    b.event ⟨t.submission, false⟩ + b.series (.submission t.kind) +
      b.series (.request (.served t.kind.method) .ok) = 0
  /-- A submission that fails is counted by its request alone. -/
  refused : ∀ t : Transfer,
    b.event ⟨t.submission, true⟩ +
      b.series (.request (.served t.kind.method) (.fault .submissionFailed)) = 0
  /-- Requests for anything else are worth nothing. -/
  elsewhere : ∀ (name : Rpc.RequestName) (outcome : Rpc.Outcome),
    (∀ kind : TransferKind, name ≠ .served kind.method) → b.series (.request name outcome) = 0
  /-- Requests that end in any other way are worth nothing. -/
  otherwise : ∀ (name : Rpc.RequestName) (outcome : Rpc.Outcome),
    outcome ≠ .ok → outcome ≠ .fault .submissionFailed → b.series (.request name outcome) = 0

theorem Book.entry_of_counts (b : Book) {component : Component} (on : counts component = true)
    (s : Series) : b.entry counts component s = b.series s :=
  if_pos on

namespace Book.Fair

/-- A read of the ledger is even once its failure is counted. -/
theorem even_ofLedgerRead (fair : b.Fair) (ledger : counts .ledger = true)
    (r : Except ReadFault α) :
    (Task.ofLedgerRead r).run.Posts b counts (fun _ => 0) (0 + b.ofRead r) := by
  cases r with
  | error cause =>
    refine .count (.done ?_)
    have hread := fair.read
    rw [b.entry_of_counts ledger]
    show 0 = 0 + b.unread + _
    omega
  | ok a => exact .done rfl

theorem even_isCompleted (fair : b.Fair) (ledger : counts .ledger = true) (tx : TransferId) :
    (Task.isCompleted tx).run.Even b counts := by
  refine .call fun read => ?_
  have hread := fair.even_ofLedgerRead ledger read
  rcases read with cause | flag
  · show Plan.Posts b counts _ (0 + b.event ⟨.isCompleted tx, true⟩) _
    rwa [b.event_unread]
  · show Plan.Posts b counts _ (0 + b.event ⟨.isCompleted tx, false⟩) _
    rwa [b.event_read]

theorem even_completionFlags (fair : b.Fair) (ledger : counts .ledger = true)
    (txs : List TransferId) : (Task.completionFlags txs).run.Even b counts :=
  .flags fun r => fair.even_ofLedgerRead ledger r

theorem even_ofRead (r : Except ReadFault α) : (Task.ofRead r).run.Even b counts := by
  cases r <;> exact .done rfl

/-- Reads and what is put together of them are even. -/
theorem closed (fair : b.Fair) (ledger : counts .ledger = true) :
    Task.Closed fun _ x => x.run.Even b counts where
  pure a := .done rfl
  fail fault := .done rfl
  bind hx hf := by
    refine Plan.Posts.bind hx fun r => ?_
    cases r with
    | error fault => exact .done rfl
    | ok a => exact hf a
  isCompleted tx := fair.even_isCompleted ledger tx
  rechargeData tx := by
    refine .call fun read => ?_
    rw [(fair.data tx _).1]
    exact even_ofRead read
  withdrawData tx := by
    refine .call fun read => ?_
    rw [(fair.data tx _).2]
    exact even_ofRead read

/-! ## Requests -/

/-- What a transfer brings is outweighed by what its request is then counted for. -/
theorem process (fair : b.Fair) (ledger : counts .ledger = true)
    (transfers : counts .transfers = true) (t : Transfer) :
    t.process.run.Posts b counts
      (fun r => -b.series (.request (.served t.kind.method) (Rpc.ended r))) 0 := by
  rw [Transfer.process_run]
  refine .call fun read => ?_
  rcases read with cause | flag
  · -- the failure is counted at once, and the request then counts nothing
    have hread := fair.read
    have hrequest := fair.otherwise (.served t.kind.method) (.fault .queryUnavailable)
      (by decide) (by decide)
    refine .count (.done ?_)
    rw [b.entry_of_counts ledger]
    show -b.series (.request (.served t.kind.method) (.fault .queryUnavailable)) =
      0 + b.event ⟨.isCompleted t.tx, true⟩ + b.series .queryFailure
    rw [b.event_unread]
    omega
  · show Plan.Posts b counts _ (0 + b.event ⟨.isCompleted t.tx, false⟩) _
    rw [b.event_read]
    cases flag with
    | true =>
      have hcompleted := fair.completed t
      refine .count (Plan.posts_foldr_notify (.done ?_))
      rw [b.entry_of_counts transfers]
      show -b.series (.request (.served t.kind.method) .ok) = _
      omega
    | false =>
      refine .call fun answer => ?_
      have hfailed := t.failed_submission answer
      cases hreceipt : t.receipt answer with
      | error cause =>
        have hrefused := fair.refused t
        rw [hfailed.mpr ⟨cause, hreceipt⟩]
        refine .done ?_
        show -b.series (.request (.served t.kind.method) (.fault .submissionFailed)) = _
        omega
      | ok sent =>
        have hsubmitted := fair.submitted t
        have hok : t.submission.failed answer = false := by
          rw [Bool.eq_false_iff, Ne, hfailed, hreceipt]
          rintro ⟨cause, h⟩
          cases h
        rw [hok]
        refine .count (.done ?_)
        rw [b.entry_of_counts transfers]
        show -b.series (.request (.served t.kind.method) .ok) = _
        omega

/-- What a method brings is outweighed by what its request is then counted for. -/
theorem call (fair : b.Fair) (ledger : counts .ledger = true)
    (transfers : counts .transfers = true) (m : Rpc.Method) (params : Json) :
    (m.call params).run.Posts b counts
      (fun r => -b.series (.request (.served m) (Rpc.ended r))) 0 := by
  unfold Rpc.Method.call
  cases parsed : Rpc.Params.parse m params with
  | error fault =>
    obtain ⟨cause, rfl⟩ := Rpc.Params.blamesInput_parse m params fault parsed
    have hrequest := fair.otherwise (.served m) (.fault .invalidInput) (by decide) (by decide)
    refine .done ?_
    show -b.series (.request (.served m) (.fault .invalidInput)) = 0
    omega
  | ok invocation =>
    have hmethod := Rpc.method_of_parse parsed
    show invocation.perform.run.Posts b counts _ 0
    by_cases transfer : ∃ t, invocation = .transfer t
    · obtain ⟨t, rfl⟩ := transfer
      obtain rfl : t.kind.method = m := hmethod
      refine Plan.Posts.bind (fair.process ledger transfers t) fun r => ?_
      cases r <;> exact .done rfl
    · -- a method for anything else is even, and its requests are worth nothing
      have heven : invocation.perform.run.Even b counts :=
        (fair.closed ledger).perform (fun _ => fair.even_completionFlags ledger)
          fun t ht => absurd ⟨t, ht⟩ transfer
      have hname : ∀ kind : TransferKind, Rpc.RequestName.served m ≠ .served kind.method := by
        intro kind h
        rw [← hmethod] at h
        cases invocation with
        | transfer t => exact transfer ⟨t, rfl⟩
        | _ => cases kind <;> cases h
      have hworth : (fun r : Except Fault Json =>
          -b.series (.request (.served m) (Rpc.ended r))) = fun _ => 0 := by
        funext r
        rw [fair.elsewhere _ _ hname, Int.neg_zero]
      rw [hworth]
      exact heven

/-- A request comes out even. -/
theorem handle (fair : b.Fair) (all : ∀ component, counts component = true) (request : Json) :
    (Rpc.handle request).Even b counts := by
  have hresolve : (Rpc.resolve request).Posts b counts
      (fun r => -b.series (.request (Rpc.countedName request) (Rpc.counted r))) 0 := by
    unfold Rpc.resolve Rpc.countedName
    split
    · have hrequest := fair.otherwise .invalid .invalidRequest (by decide) (by decide)
      refine .done ?_
      show -b.series (.request .invalid .invalidRequest) = 0
      omega
    · split
      · have hrequest := fair.otherwise .unknown .methodNotFound (by decide) (by decide)
        refine .done ?_
        show -b.series (.request .unknown .methodNotFound) = 0
        omega
      · refine (fair.call (all .ledger) (all .transfers) _ _).bind fun r => .done ?_
        rw [Rpc.counted_replied]
  rw [Rpc.handle_eq]
  refine hresolve.bind fun r => ?_
  rw [Rpc.answer_eq]
  refine .count (.done ?_)
  rw [b.entry_of_counts (all .requests)]
  omega

/-- A body posted to the root comes out even. -/
theorem answerRpc (fair : b.Fair) (all : ∀ component, counts component = true)
    (body : ByteArray) : (Http.answerRpc body).Even b counts := by
  unfold Http.answerRpc
  split
  · exact fair.handle all _
  · refine .count (.done ?_)
    rw [b.entry_of_counts (all .server),
      fair.otherwise .invalid .parseError (by decide) (by decide)]
    rfl

end Book.Fair

/-! ## Races -/

theorem Task.unbatched_closed : Task.Closed fun _ x => x.run.Unbatched where
  pure a := .done _
  fail fault := .done _
  bind hx hf := by
    refine Plan.Unbatched.bind hx fun r => ?_
    cases r with
    | error fault => exact .done _
    | ok a => exact hf a
  isCompleted tx := by
    refine .call fun read => ?_
    rcases read with cause | flag
    · exact .count (.done _)
    · exact .done _
  rechargeData tx := .call fun read => by cases read <;> exact .done _
  withdrawData tx := .call fun read => by cases read <;> exact .done _

theorem Transfer.unbatched_process (t : Transfer) : t.process.run.Unbatched :=
  process_of_passes (P := Plan.Unbatched) .done .call (fun _ => .count) .notify t

/-- Requests for anything but a batch read no batch. -/
theorem Rpc.unbatched_handle {request : Json}
    (other : requestMethod? request ≠ some Method.processedInvalidWithdraw.name) :
    (handle request).Unbatched := by
  rw [handle_eq]
  refine Plan.Unbatched.bind ?_ fun r => .count (.done _)
  refine resolve_cases (fun refusal => .done _) fun m method => ?_
  refine Plan.Unbatched.bind ?_ fun r => .done _
  refine Task.unbatched_closed.call (fun batch => ?_) (fun t _ => t.unbatched_process) _
  -- the name of the method is that of the batch, which it is not
  rw [batch] at method
  exact absurd method other

/-! ## Operations -/

namespace Operation

/-- An operation that processes transfers by requests only, and races without batches. -/
def ThroughRequests : Operation → Prop
  | .process _ => False
  | .race requests => ∀ request ∈ requests,
    Rpc.requestMethod? request ≠ some Rpc.Method.processedInvalidWithdraw.name
  | _ => True

end Operation

/-- Operations that process transfers by requests only come out even. -/
theorem Book.Fair.operation (fair : b.Fair) (all : ∀ component, d.counts component = true)
    {op : Operation} (through : op.ThroughRequests) {w : World σ} (quiet : w.notices = []) :
    (op.run d w).2.notices = [] ∧ b.balance (op.run d w).2 = b.balance w := by
  by_cases direct : op.isDirect = true
  · have processing : ∀ t : Transfer, op = .process t → t.process.run.Even b d.counts := by
      rintro t rfl
      cases through
    obtain rfl | ⟨α, wrap, x, even, hrun⟩ := (fair.closed (all .ledger)).operation
      (fair.even_completionFlags (all .ledger)) processing direct
    · exact ⟨quiet, rfl⟩
    · rw [hrun]
      exact Plan.Even.complete even w
  · cases op with
    | request r => exact (fair.handle all r).complete w
    | http r =>
      show (r.route.handle d 0 w).2.notices = [] ∧ b.balance (r.route.handle d 0 w).2 = _
      cases r.route with
      | rpc body => exact (fair.answerRpc all body).complete w
      | _ => exact ⟨quiet, rfl⟩
    | race requests =>
      refine ⟨Plan.notices_race _ quiet, Plan.balance_race_of_even (fun p hp => ?_) w⟩
      obtain ⟨r, hr, rfl⟩ := List.mem_map.mp hp
      exact ⟨fair.handle all r, .inr (Rpc.unbatched_handle (through r hr))⟩
    | _ => exact absurd rfl direct

/-! ## Sessions -/

namespace Session

/-- A step that changes the chain from outside, or an operation that processes transfers by requests
only. -/
def Step.ThroughRequests : Step → Prop
  | .change _ => True
  | .operation op => op.ThroughRequests

/-- The calls that the chain has seen over a session. -/
def calls (answers : List Answer) : List Event :=
  answers.flatMap Answer.log

/-- By a fair book, a step brings as much to the counters as it takes from the calls. -/
theorem balance_step (fair : b.Fair) {d : Deployment Ledger}
    (all : ∀ component, d.counts component = true) {s : Step} (through : s.ThroughRequests)
    {w : World Ledger} (quiet : w.notices = []) :
    (s.run d w).2.notices = [] ∧
      b.counted (s.run d w).2.metrics + ((s.run d w).1.log.map b.event).sum =
        b.counted w.metrics := by
  cases s with
  | change c => exact ⟨quiet, Int.add_zero _⟩
  | operation op =>
    obtain ⟨hquiet, hbalance⟩ := fair.operation all through (w := { w with log := [] }) quiet
    refine ⟨hquiet, ?_⟩
    show b.counted (op.run d { w with log := [] }).2.metrics +
      ((op.run d { w with log := [] }).2.log.reverse.map b.event).sum = _
    unfold Book.balance at hbalance
    rw [hquiet] at hbalance
    rw [List.map_reverse, List.sum_reverse]
    simpa [quiet] using hbalance

/-- By a fair book, a session brings as much to the counters as it takes from the calls. -/
theorem balance_run (fair : b.Fair) {d : Deployment Ledger}
    (all : ∀ component, d.counts component = true) {steps : List Step}
    (through : ∀ s ∈ steps, s.ThroughRequests) {w : World Ledger} (quiet : w.notices = []) :
    b.counted (run d steps w).2.metrics + ((calls (run d steps w).1).map b.event).sum =
      b.counted w.metrics := by
  induction steps generalizing w with
  | nil => exact Int.add_zero _
  | cons s rest ih =>
    obtain ⟨hquiet, hstep⟩ := balance_step fair all (through s List.mem_cons_self) quiet
    have hrest := ih (fun s hs => through s (List.mem_cons_of_mem _ hs)) hquiet
    have hcalls : calls (run d (s :: rest) w).1 =
        (s.run d w).1.log ++ calls (run d rest (s.run d w).2).1 := rfl
    show b.counted (run d rest (s.run d w).2).2.metrics + _ = _
    rw [hcalls, List.map_append, List.sum_append]
    omega

end Session

/-! ## The accounts -/

/-- The kind of transfer that a call submits. -/
def Call.kind? : Call → Option TransferKind
  | .sendInvalidWithdraw _ _ => some .invalidWithdraw
  | .submitSmallTransfer _ _ => some .smallTransfer
  | .submitRecharge _ _ => some .recharge
  | .submitRefund _ => some .refundWithdraw
  | _ => none

namespace Event

/-- Whether an event is a submission of a kind that failed. -/
def isRefusal (kind : TransferKind) (e : Event) : Bool :=
  e.failed && e.call.kind? = some kind

/-- Whether an event is a read of the ledger that failed. -/
def isUnread (e : Event) : Bool :=
  e.failed && e.call.readsLedger

end Event

/-- How the counters hang together, and how they do with the calls that the chain has seen. -/
structure Accounted (m : Metrics) (log : List Event) : Prop where
  /-- A request that is answered has submitted its transfer or found it complete. -/
  handled : ∀ kind : TransferKind, m.count (.request (.served kind.method) .ok) =
    m.count (.submission kind) + m.count (.alreadyCompleted kind)
  /-- A request ends in a failed submission as often as the chain refuses one. -/
  refused : ∀ kind : TransferKind,
    m.count (.request (.served kind.method) (.fault .submissionFailed)) =
      log.countP (Event.isRefusal kind)
  /-- A small transfer found complete is told of once. -/
  noticed : log.countP (fun e => e.call.isNotice) = m.count (.alreadyCompleted .smallTransfer)
  /-- A failed read of the ledger is counted once. -/
  unread : m.count .queryFailure = log.countP Event.isUnread

namespace Book

theorem sum_one {γ : Type} (p : γ → Bool) (l : List γ) :
    (l.map fun a => one (p a)).sum = l.countP p := by
  induction l with
  | nil => rfl
  | cons a l ih =>
    rw [List.map_cons, List.sum_cons, ih, List.countP_cons]
    unfold one
    split <;> omega

/-- The requests of a kind that are answered, against what became of their transfers. -/
def handled (kind : TransferKind) : Book :=
  .ofCounters
    (fun m => m.count (.request (.served kind.method) .ok) -
      (m.count (.submission kind) + m.count (.alreadyCompleted kind)))
    (fun s => one (.request (.served kind.method) .ok = s) -
      (one (.submission kind = s) + one (.alreadyCompleted kind = s)))
    (by
      intro s m
      simp only [count_bump]
      omega)

/-- The requests of a kind that end in a failed submission, against these submissions. -/
def refused (kind : TransferKind) : Book where
  counted m := -m.count (.request (.served kind.method) (.fault .submissionFailed))
  series s := -one (.request (.served kind.method) (.fault .submissionFailed) = s)
  event e := one (e.isRefusal kind)
  unread := 0
  notice := 0
  counted_bump s m := by
    rw [count_bump]
    omega
  event_unread _ := rfl
  event_read _ := rfl
  event_notice tx failed := by cases failed <;> rfl

/-- The small transfers found complete, against the notices. -/
def noticed : Book where
  counted m := -m.count (.alreadyCompleted .smallTransfer)
  series s := -one (.alreadyCompleted .smallTransfer = s)
  event e := one e.call.isNotice
  unread := 0
  notice := 1
  counted_bump s m := by
    rw [count_bump]
    omega
  event_unread _ := rfl
  event_read _ := rfl
  event_notice _ _ := rfl

/-- The failures counted by the ledger, against its failed reads. -/
def unreads : Book where
  counted m := -m.count .queryFailure
  series s := -one (.queryFailure = s)
  event e := one e.isUnread
  unread := 1
  notice := 0
  counted_bump s m := by
    rw [count_bump]
    omega
  event_unread _ := rfl
  event_read _ := rfl
  event_notice tx failed := by cases failed <;> rfl

/-- A request is no other that is counted under another name or outcome. -/
theorem one_request_ne {name name' : Rpc.RequestName} {outcome outcome' : Rpc.Outcome}
    (h : name' ≠ name ∨ outcome' ≠ outcome) :
    one (Series.request name outcome = .request name' outcome') = 0 := by
  have hne : Series.request name outcome ≠ .request name' outcome' := by
    intro heq
    injection heq with hname houtcome
    rcases h with h | h
    · exact h hname.symm
    · exact h houtcome.symm
  unfold one
  rw [decide_eq_false hne]
  rfl

theorem fair_handled (kind : TransferKind) : (handled kind).Fair where
  read := rfl
  data tx failed := ⟨rfl, rfl⟩
  completed t := by cases t <;> cases kind <;> rfl
  submitted t := by cases t <;> cases kind <;> rfl
  refused t := by cases t <;> cases kind <;> rfl
  elsewhere name outcome h := by
    show one _ - 0 = 0
    rw [one_request_ne (.inl (h kind))]
    rfl
  otherwise name outcome hok _ := by
    show one _ - 0 = 0
    rw [one_request_ne (.inr hok)]
    rfl

theorem fair_refused (kind : TransferKind) : (refused kind).Fair where
  read := rfl
  data tx failed := by cases failed <;> exact ⟨rfl, rfl⟩
  completed t := by cases t <;> cases kind <;> rfl
  submitted t := by cases t <;> cases kind <;> rfl
  refused t := by cases t <;> cases kind <;> rfl
  elsewhere name outcome h := by
    show -one _ = 0
    rw [one_request_ne (.inl (h kind))]
    rfl
  otherwise name outcome _ hrefused := by
    show -one _ = 0
    rw [one_request_ne (.inr hrefused)]
    rfl

theorem fair_noticed : noticed.Fair where
  read := rfl
  data tx failed := ⟨rfl, rfl⟩
  completed t := by cases t <;> rfl
  submitted t := by cases t <;> rfl
  refused t := by cases t <;> rfl
  elsewhere name outcome _ := rfl
  otherwise name outcome _ _ := rfl

theorem fair_unreads : unreads.Fair where
  read := rfl
  data tx failed := by cases failed <;> exact ⟨rfl, rfl⟩
  completed t := by cases t <;> rfl
  submitted t := by cases t <;> rfl
  refused t := by cases t <;> rfl
  elsewhere name outcome _ := rfl
  otherwise name outcome _ _ := rfl

end Book

/-- **Counters and calls agree.** In a session that asks for transfers by requests only, alone or in
races without batches, and in which all parts of the service count into the same metrics, the
counters are accounted for after every step. -/
theorem Session.accounted_run (chain : Ledger) (window : Nat) {steps : List Step}
    (through : ∀ s ∈ steps, s.ThroughRequests) (k : Nat) :
    Accounted
      (run (deployment ⟨true, true, true⟩ window) (steps.take k) (.initial chain)).2.metrics
      (calls (run (deployment ⟨true, true, true⟩ window) (steps.take k) (.initial chain)).1) := by
  have all : ∀ component, (deployment ⟨true, true, true⟩ window).counts component = true := by
    intro component
    cases component <;> rfl
  have before : ∀ s ∈ steps.take k, s.ThroughRequests :=
    fun s hs => through s (List.mem_of_mem_take hs)
  have hempty : ∀ s, (World.initial chain).metrics.count s = 0 := fun s => rfl
  -- each equation is a book in which the session comes out even
  refine ⟨fun kind => ?_, fun kind => ?_, ?_, ?_⟩
  · have h := balance_run (Book.fair_handled kind) all before (w := .initial chain) rfl
    have hnone : ∀ log : List Event, (log.map (Book.handled kind).event).sum = 0 :=
      Book.sum_event_ofCounters _
    rw [hnone] at h
    simp only [Book.handled, Book.ofCounters, hempty] at h
    omega
  · have h := balance_run (Book.fair_refused kind) all before (w := .initial chain) rfl
    simp only [Book.refused, Book.sum_one, hempty] at h
    omega
  · have h := balance_run Book.fair_noticed all before (w := .initial chain) rfl
    simp only [Book.noticed, Book.sum_one, hempty] at h
    omega
  · have h := balance_run Book.fair_unreads all before (w := .initial chain) rfl
    simp only [Book.unreads, Book.sum_one, hempty] at h
    omega

/-- A batch that cannot be read and a refund that is not taken, then a small transfer that races
with the same refund when the chain has both complete. -/
theorem Session.accounted_run_of_outages :
    let tx : TransferId := ⟨List.replicate 32 0xaa, rfl⟩
    let hash := "aaaaaaaaaaaaaaaaaaaaaaaaaaaaaaaaaaaaaaaaaaaaaaaaaaaaaaaaaaaaaaaa"
    let refund : Json := .obj [("method", .str "refundWithdraw"),
      ("params", .obj [("txHash", .str hash)])]
    let small : Json := .obj [("method", .str "smallCrossChainTransaction"),
      ("params", .obj [("signature", .str "s"), ("rawTx", .str "r"), ("txHash", .str hash)])]
    let steps : List Step := [.change (.failReads (some "down")), .operation (.filter [tx, tx]),
      .change (.failReads none), .change (.failSubmissions (some "down")),
      .operation (.request refund), .change (.complete [tx]), .operation (.race [small, refund])]
    let after (k : Nat) := run (deployment ⟨true, true, true⟩ 8) (steps.take k) (.initial .empty)
    (∀ s ∈ steps, s.ThroughRequests) ∧ (after 2).2.metrics.count .queryFailure = 1 ∧
      ∀ k, Accounted (after k).2.metrics (calls (after k).1) := by
  intro tx hash refund small steps after
  have hsmall : Rpc.requestMethod? small ≠ some Rpc.Method.processedInvalidWithdraw.name := by
    show some "smallCrossChainTransaction" ≠ some "processedInvalidWithdrawtx"
    decide
  have hrefund : Rpc.requestMethod? refund ≠ some Rpc.Method.processedInvalidWithdraw.name := by
    show some "refundWithdraw" ≠ some "processedInvalidWithdrawtx"
    decide
  have through : ∀ s ∈ steps, s.ThroughRequests := by
    simp only [steps, List.forall_mem_cons]
    refine ⟨trivial, trivial, trivial, trivial, trivial, trivial, ?_, nofun⟩
    exact List.forall_mem_cons.mpr ⟨hsmall, List.forall_mem_singleton.mpr hrefund⟩
  exact ⟨through, rfl, accounted_run .empty 8 through⟩

end TransferRelay
