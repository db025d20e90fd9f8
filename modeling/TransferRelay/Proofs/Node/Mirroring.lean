import Mathlib.Data.List.Forall2
import TransferRelay.Proofs.Chain.Ledger
import TransferRelay.Proofs.Chain.Running
import TransferRelay.Proofs.Node.Returns
import TransferRelay.Proofs.Node.Serving
import TransferRelay.Proofs.Rpc.Telling
import TransferRelay.Proofs.Rpc.WithdrawalReports
import TransferRelay.Proofs.Transfer.Batch

/-!
# A node that knows a chain

A node `Serves` a chain in memory if it returns what the chain holds, and takes what is passed on to
it. To the service it then makes no difference which of the two it runs over: a request is answered
the same over both, and the node receives one request for each call that the chain sees, with the
same arguments (`handle_interchangeable`).

The two are not coupled call by call: the chain may complete what is submitted, which the node does
not show, and a withdrawal comes back from the node without its flag. So `Plan.Mirrors` compares two
plans with an eye on what has been submitted, behind which nothing may be read.

Over a node both reads of a withdrawal are sent before either ends, while the chain in memory has
answered the first before the second is begun. This costs the node at most a read of the ledger for
a record that is not stored (`Inquiry.Spared`), and nobody is told of it.
-/

namespace TransferRelay

variable {α α' β β' : Type}

/-- Answers of a chain in memory and of a client whose node knows that chain. -/
def Call.Mirrored : (c : Call) → c.Answer → c.Answer → Prop
  | .isCompleted _, a, a' => ∃ flag, a = .ok flag ∧ a' = .ok flag
  | .rechargeData _, a, a' => ∃ es, a = .ok es ∧ a' = .ok es
  | .withdrawData _, a, a' =>
    EndAlike (fun _ _ => True) (fun r r' => r' = { r with completed := false }) a a'
  | .sendInvalidWithdraw _ _, a, a' => a = .ok () ∧ a' = .ok ()
  | .submitSmallTransfer _ _, a, a' => a = .ok () ∧ a' = .ok ()
  | .notifyAccepted _, a, a' => a = .ok () ∧ a' = .ok ()
  | .submitRecharge _ _, _, _ => False
  | .submitRefund _, _, _ => False

/-! ## Chains and the nodes that know them -/

namespace Ledger

/-- No call fails. -/
structure Faultless (l : Ledger) : Prop where
  reads : l.readOutage = none
  readsOf : ∀ tx, l.readOutageOf tx = none
  submissions : l.submitOutage = none
  notices : l.noticeOutage = none

/-- All that is stored is less than 2^32 bytes of data. -/
structure Fits (l : Ledger) : Prop where
  recharges : ∀ tx, (Recharge.encode (l.recharges tx)).length < 0x100000000
  withdrawals : ∀ tx r, l.withdrawals tx = some r →
    (Node.encodeWithdrawal r).length < 0x100000000

theorem Faultless.read {l : Ledger} (h : l.Faultless) (tx : TransferId)
    (value : Except ReadFault α) : l.read tx value = value := by
  rw [Ledger.read, outageOf, h.reads, h.readsOf]
  rfl

/-- The chain behind a call of a chain without failures has none. -/
theorem Faultless.answer {l : Ledger} (h : l.Faultless) (c : Call) :
    (Ledger.answer c l).2.Faultless := by
  have hsubmit : ∀ {γ : Type} (tx : TransferId) (value : γ), (l.submit tx value).2.Faultless := by
    intro γ tx value
    unfold submit
    rw [h.submissions]
    dsimp only
    split
    · exact { h with }
    · exact h
  cases c with
  | sendInvalidWithdraw signature tx => exact hsubmit tx _
  | submitRecharge tx data => exact hsubmit tx _
  | submitRefund tx => exact hsubmit tx _
  | submitSmallTransfer signature rawTx =>
    simp only [Ledger.answer, h.submissions]
    exact h
  | notifyAccepted tx => rwa [answer_notifyAccepted]
  | _ => exact h

end Ledger

namespace Node

namespace Serves

variable {ν : Type} {n : Behaviour ν} {c : Client} {chain : Ledger}

/-- A node that knows a chain takes what is passed on to it. -/
theorem pass_eq_ok (serves : Serves n c.bridge chain) (method : NodeMethod) (params : List String)
    (l : Line ν) : (Client.pass n method params l).1 = .ok () := by
  obtain ⟨json, answers, noError, -⟩ := serves.pass l.nextId method params l.node
  refine (pass_eq_ok_iff n).mpr ⟨json, answers, ?_⟩
  rintro ⟨error, herror, -⟩
  cases herror.symm.trans noError

/-- What is not signed is answered alike by a chain, as long as a read finds it as the node knows
it, and by a client of the node. -/
theorem mirrored (serves : Serves n c.bridge chain) (fits : chain.Fits) {l : Ledger}
    (faultless : l.Faultless) {call : Call}
    (known : call.isRead = true ∧ l = chain ∨ call.isPassed = true) (line : Line ν) :
    call.Mirrored (Ledger.answer call l).1 (c.answer n call line).1 := by
  cases call with
  | isCompleted tx =>
    obtain ⟨-, rfl⟩ | passed := known
    · refine ⟨l.completed tx, faultless.read tx _, ?_⟩
      exact (view_eq_ok_iff n c).mpr
        ⟨_, serves.completed tx line.node, decodeFlag?_encodeFlag _⟩
    · cases passed
  | rechargeData tx =>
    obtain ⟨-, rfl⟩ | passed := known
    · refine ⟨l.recharges tx, faultless.read tx _, ?_⟩
      exact (view_eq_ok_iff n c).mpr
        ⟨_, serves.rechargeData tx line.node, decodeEntries?_encode (fits.recharges tx)⟩
    · cases passed
  | withdrawData tx =>
    obtain ⟨-, rfl⟩ | passed := known
    · show EndAlike _ _ (l.read tx _) (c.view n .withdrawData decodeWithdrawal? tx line).1
      rw [faultless.read]
      cases stored : l.withdrawals tx with
      | none =>
        have missing := serves.noWithdraw tx line.node stored
        have unread : (c.view n .withdrawData decodeWithdrawal? tx line).1 =
            .error (.noAnswer .withdrawData tx) :=
          (view_eq_error_iff n c).mpr
            ⟨fun raw carries => absurd carries (missing.not_carries raw), rfl⟩
        rw [unread]
        exact .error trivial
      | some r =>
        have hvalue : (c.view n .withdrawData decodeWithdrawal? tx line).1 =
            .ok { r with completed := false } :=
          (view_eq_ok_iff n c).mpr ⟨_, serves.withdrawData tx r line.node stored,
            decodeWithdrawal?_encode (fits.withdrawals tx r stored)⟩
        rw [hvalue]
        exact .ok rfl
    · cases passed
  | sendInvalidWithdraw signature tx =>
    refine ⟨?_, serves.pass_eq_ok _ _ line⟩
    simp only [Ledger.answer, Ledger.submit, faultless.submissions]
    rfl
  | submitSmallTransfer signature rawTx =>
    refine ⟨?_, serves.pass_eq_ok _ _ line⟩
    simp only [Ledger.answer, faultless.submissions]
    rfl
  | notifyAccepted tx =>
    refine ⟨?_, serves.pass_eq_ok _ _ line⟩
    simp only [Ledger.answer, faultless.notices]
    rfl
  | submitRecharge tx data => simp [Call.isRead, Call.isPassed, Call.passed?] at known
  | submitRefund tx => simp [Call.isRead, Call.isPassed, Call.passed?] at known

/-- What is not signed is one request to the node. -/
theorem exists_request (serves : Serves n c.bridge chain) {call : Call}
    (unsigned : call.isRead = true ∨ call.isPassed = true) (line : Line ν) :
    ∃ r, (c.answer n call line).2.requests = line.requests ++ [r] ∧ r.Makes c.bridge call := by
  have hview : ∀ {γ : Type} {v : ContractView} {decode : Bytes → Option γ} {tx : TransferId},
      line.reply n (.view c.bridge v tx.bytes) ≠ .refused →
      (c.view n v decode tx line).2.requests =
        line.requests ++ [.view c.bridge v tx.bytes] := by
    intro γ v decode tx h
    rw [view_eq, Line.line_exchange n h]
  have hpass : ∀ (method : NodeMethod) (params : List String),
      (Client.pass n method params line).2.requests =
        line.requests ++ [line.passing method params] := by
    intro method params
    obtain ⟨json, answers, -⟩ := serves.pass line.nextId method params line.node
    have h : line.numbered.reply n (line.passing method params) ≠ .refused := answers.ne_refused
    rw [pass_eq, Line.line_exchange n h]
    rfl
  cases call with
  | isCompleted tx =>
    obtain ⟨json, -, answers, -⟩ := serves.completed tx line.node
    exact ⟨_, hview answers.ne_refused, .view rfl⟩
  | rechargeData tx =>
    obtain ⟨json, -, answers, -⟩ := serves.rechargeData tx line.node
    exact ⟨_, hview answers.ne_refused, .view rfl⟩
  | withdrawData tx =>
    refine ⟨_, hview ?_, .view rfl⟩
    cases stored : chain.withdrawals tx with
    | none =>
      obtain ⟨status, body, json, hreply, -⟩ := serves.noWithdraw tx line.node stored
      rw [Line.reply, hreply]
      intro h
      cases h
    | some r =>
      obtain ⟨json, -, answers, -⟩ := serves.withdrawData tx r line.node stored
      exact answers.ne_refused
  | sendInvalidWithdraw signature tx => exact ⟨_, hpass _ _, .pass rfl⟩
  | submitSmallTransfer signature rawTx => exact ⟨_, hpass _ _, .pass rfl⟩
  | notifyAccepted tx => exact ⟨_, hpass _ _, .pass rfl⟩
  | submitRecharge tx data => simp [Call.isRead, Call.isPassed, Call.passed?] at unsigned
  | submitRefund tx => simp [Call.isRead, Call.isPassed, Call.passed?] at unsigned

end Serves

/-! ## Worlds side by side -/

/-- A world over a chain in memory and one over a node, in which the same has been asked. -/
structure Beside {ν : Type} (bridge : Address) (w : World Ledger) (w' : World (Line ν)) :
    Prop where
  faultless : w.chain.Faultless
  requests : List.Forall₂ (Request.Makes bridge) w'.chain.requests (w.log.reverse.map Event.call)
  notices : w.notices = w'.notices

namespace Beside

variable {ν : Type} {n : Behaviour ν} {c : Client} {chain : Ledger} {w : World Ledger}
  {w' : World (Line ν)} (counts counts' : Component → Bool) (window window' : Nat)

/-- A call makes one request, and is answered alike. -/
theorem perform (beside : Beside c.bridge w w') (serves : Serves n c.bridge chain)
    (fits : chain.Fits) {call : Call}
    (known : call.isRead = true ∧ w.chain = chain ∨ call.isPassed = true) :
    call.Mirrored ((Ledger.service counts window).perform call w).1
        ((c.deployment n counts' window').perform call w').1 ∧
      Beside c.bridge ((Ledger.service counts window).perform call w).2
        ((c.deployment n counts' window').perform call w').2 := by
  refine ⟨serves.mirrored fits beside.faultless known w'.chain,
    beside.faultless.answer call, ?_, beside.notices⟩
  obtain ⟨r, hrequests, makes⟩ := serves.exists_request (known.imp_left And.left) w'.chain
  show List.Forall₂ _ (c.answer n call w'.chain).2.requests
    ((_ :: w.log).reverse.map Event.call)
  rw [hrequests, List.reverse_cons, List.map_append]
  exact List.rel_append beside.requests (.cons makes .nil)

theorem tally (beside : Beside c.bridge w w') (component component' : Component)
    (series series' : Series) :
    Beside c.bridge ((Ledger.service counts window).tally component series w)
      ((c.deployment n counts' window').tally component' series' w') := by
  refine ⟨?_, ?_, ?_⟩
  · rw [Deployment.chain_tally]
    exact beside.faultless
  · rw [Deployment.chain_tally, Deployment.log_tally]
    exact beside.requests
  · rw [Deployment.notices_tally, Deployment.notices_tally]
    exact beside.notices

/-- All of a batch is read, with the same flags. -/
theorem readFlags (beside : Beside c.bridge w w') (serves : Serves n c.bridge chain)
    (fits : chain.Fits) (known : w.chain = chain) (txs : List TransferId) :
    ∃ (flags : List Bool) (last : World Ledger) (last' : World (Line ν)),
      (Ledger.service counts window).readFlags txs w = (.ok flags, last) ∧
      (c.deployment n counts' window').readFlags txs w' = (.ok flags, last') ∧
      Beside c.bridge last last' ∧ last.chain = chain := by
  induction txs generalizing w w' with
  | nil => exact ⟨[], w, w', rfl, rfl, beside, known⟩
  | cons tx txs ih =>
    have hread : Call.isRead (.isCompleted tx) = true ∧ w.chain = chain := ⟨rfl, known⟩
    obtain ⟨⟨flag, hflag, hflag'⟩, hafter⟩ :=
      beside.perform counts counts' window window' serves fits (.inl hread)
    obtain ⟨flags, last, last', hflags, hflags', hlast, hchain⟩ := ih hafter known
    exact ⟨flag :: flags, last, last', Deployment.readFlags_cons _ hflag hflags,
      Deployment.readFlags_cons _ hflag' hflags', hlast, hchain⟩

/-- The same notices go out. -/
theorem deliver (beside : Beside c.bridge w w') (serves : Serves n c.bridge chain)
    (fits : chain.Fits) :
    Beside c.bridge ((Ledger.service counts window).deliver w)
      ((c.deployment n counts' window').deliver w') := by
  have hfold : ∀ (txs : List TransferId) {w : World Ledger} {w' : World (Line ν)},
      Beside c.bridge w w' →
      Beside c.bridge
        (txs.foldl (fun w tx =>
          ((Ledger.service counts window).perform (.notifyAccepted tx) w).2) w)
        (txs.foldl (fun w' tx =>
          ((c.deployment n counts' window').perform (.notifyAccepted tx) w').2) w') := by
    intro txs
    induction txs with
    | nil => exact fun beside => beside
    | cons tx txs ih =>
      exact fun beside =>
        ih (beside.perform counts counts' window window' serves fits (.inr rfl)).2
  rw [Deployment.deliver, Deployment.deliver, beside.notices]
  exact hfold _ ⟨beside.faultless, beside.requests, rfl⟩

end Beside

end Node

/-! ## Plans -/

/-- Plans that go on alike behind answers of a chain and of a node that knows it, as long as nothing
is read once something has been submitted: the first argument says whether the chain is as it
was. -/
inductive Plan.Mirrors (R : α → α' → Prop) : Bool → Plan α → Plan α' → Prop
  | done {unchanged : Bool} {a : α} {a' : α'} (results : R a a') :
      Mirrors R unchanged (.done a) (.done a')
  | read {c : Call} {next : c.Answer → Plan α} {next' : c.Answer → Plan α'}
      (isRead : c.isRead = true)
      (rest : ∀ a a', c.Mirrored a a' → Mirrors R true (next a) (next' a')) :
      Mirrors R true (.call c next) (.call c next')
  | pass {unchanged : Bool} {c : Call} {next : c.Answer → Plan α} {next' : c.Answer → Plan α'}
      (isPassed : c.isPassed = true)
      (rest : ∀ a a', c.Mirrored a a' → Mirrors R false (next a) (next' a')) :
      Mirrors R unchanged (.call c next) (.call c next')
  | flags {txs : List TransferId} {next : Except ReadFault (List Bool) → Plan α}
      {next' : Except ReadFault (List Bool) → Plan α'}
      (rest : ∀ flags, Mirrors R true (next (.ok flags)) (next' (.ok flags))) :
      Mirrors R true (.flags txs next) (.flags txs next')
  | count {unchanged : Bool} {component component' : Component} {series series' : Series}
      {next : Plan α} {next' : Plan α'} (rest : Mirrors R unchanged next next') :
      Mirrors R unchanged (.count component series next) (.count component' series' next')
  | notify {unchanged : Bool} {tx : TransferId} {next : Plan α} {next' : Plan α'}
      (rest : Mirrors R unchanged next next') :
      Mirrors R unchanged (.notify tx next) (.notify tx next')

namespace Plan.Mirrors

variable {R : α → α' → Prop} {Q : β → β' → Prop} {unchanged : Bool} {p : Plan α} {p' : Plan α'}

theorem bind (hp : p.Mirrors R unchanged p') {f : α → Plan β} {f' : α' → Plan β'}
    (hf : ∀ unchanged a a', R a a' → (f a).Mirrors Q unchanged (f' a')) :
    (p.bind f).Mirrors Q unchanged (p'.bind f') := by
  induction hp with
  | done results => exact hf _ _ _ results
  | read isRead rest ih => exact .read isRead ih
  | pass isPassed rest ih => exact .pass isPassed ih
  | flags rest ih => exact .flags ih
  | count rest ih => exact .count ih
  | notify rest ih => exact .notify ih

section Running

open Node

variable {ν : Type} {n : Behaviour ν} {c : Client} {chain : Ledger} {w : World Ledger}
  {w' : World (Line ν)} (counts counts' : Component → Bool) (window window' : Nat)

/-- Such plans have related results, and have asked the same. -/
theorem run (hp : p.Mirrors R unchanged p') (serves : Serves n c.bridge chain) (fits : chain.Fits)
    (beside : Beside c.bridge w w') (known : unchanged = true → w.chain = chain) :
    R (p.run (Ledger.service counts window) w).1
        (p'.run (c.deployment n counts' window') w').1 ∧
      Beside c.bridge (p.run (Ledger.service counts window) w).2
        (p'.run (c.deployment n counts' window') w').2 := by
  induction hp generalizing w w' with
  | done results => exact ⟨results, beside⟩
  | @read call next next' isRead rest ih =>
    obtain ⟨hanswer, hafter⟩ := beside.perform counts counts' window window' serves fits
      (.inl ⟨isRead, known rfl⟩)
    refine ih _ _ hanswer hafter fun _ => ?_
    -- a read leaves the chain as it is
    cases call with
    | isCompleted tx => exact known rfl
    | rechargeData tx => exact known rfl
    | withdrawData tx => exact known rfl
    | _ => cases isRead
  | pass isPassed rest ih =>
    obtain ⟨hanswer, hafter⟩ := beside.perform counts counts' window window' serves fits
      (.inr isPassed)
    exact ih _ _ hanswer hafter nofun
  | @flags txs next next' rest ih =>
    obtain ⟨flags, last, last', hflags, hflags', hlast, hchain⟩ :=
      beside.readFlags counts counts' window window' serves fits (known rfl) txs
    simp only [Plan.run, hflags, hflags']
    exact ih flags hlast fun _ => hchain
  | count rest ih =>
    refine ih (beside.tally counts counts' window window' _ _ _ _) fun h => ?_
    rw [Deployment.chain_tally]
    exact known h
  | notify rest ih =>
    exact ih ⟨beside.faultless, beside.requests, by rw [beside.notices]⟩ known

theorem complete (hp : p.Mirrors R unchanged p') (serves : Serves n c.bridge chain)
    (fits : chain.Fits) (beside : Beside c.bridge w w')
    (known : unchanged = true → w.chain = chain) :
    R (p.complete (Ledger.service counts window) w).1
        (p'.complete (c.deployment n counts' window') w').1 ∧
      Beside c.bridge (p.complete (Ledger.service counts window) w).2
        (p'.complete (c.deployment n counts' window') w').2 := by
  obtain ⟨hresult, hafter⟩ :=
    hp.run counts counts' window window' serves fits beside known
  exact ⟨hresult, hafter.deliver counts counts' window window' serves fits⟩

end Running

end Plan.Mirrors

/-! ## Operations -/

namespace Task

theorem mirrors_rechargeData (tx : TransferId) :
    (rechargeData tx).run.Mirrors ToldAlike true (rechargeData tx).run := by
  refine .read rfl fun a a' h => ?_
  obtain ⟨es, rfl, rfl⟩ := h
  exact .done (.ok rfl)

/-- What is written of the results of a task is the same if the results are. -/
theorem mirrors_write {x x' : Task α} (hx : x.run.Mirrors ToldAlike true x'.run)
    (write : α → β) :
    (x >>= fun a => pure (write a)).run.Mirrors ToldAlike true
      (x' >>= fun a => pure (write a)).run := by
  refine Plan.Mirrors.bind hx fun _ r r' h => ?_
  cases h with
  | error faults => exact .done (.error faults)
  | ok same =>
    subst same
    exact .done (.ok rfl)

end Task

/-- The flag of the ledger takes the place of the one that is stored with a withdrawal. -/
theorem Inquiry.mirrors_withdrawal (tx : TransferId) :
    (withdrawal tx).run.Mirrors ToldAlike true (withdrawal tx).run := by
  refine .read rfl fun a a' h => ?_
  cases h with
  | error _ => exact .done (.error (Fault.alike_read _ _))
  | ok same =>
    subst same
    refine .read rfl fun b b' h => ?_
    obtain ⟨flag, rfl, rfl⟩ := h
    exact .done (.ok rfl)

theorem Inquiry.mirrors_filterBy {ι : Type} (key : ι → Except Fault TransferId)
    (items : List ι) :
    (filterBy key items).run.Mirrors ToldAlike true (filterBy key items).run := by
  cases hkeys : keys key items with
  | error cause =>
    rw [filterBy, hkeys]
    exact .done (.error (.refl _))
  | ok txs =>
    rw [filterBy_run (keys_eq_ok_iff.mp hkeys)]
    exact .flags fun flags => .done (.ok rfl)

theorem Transfer.mirrors_process {t : Transfer} (passed : t.submission.isPassed = true) :
    t.process.run.Mirrors ToldAlike true t.process.run := by
  rw [process_run]
  refine .read rfl fun a a' h => ?_
  obtain ⟨flag, rfl, rfl⟩ := h
  cases flag with
  | true =>
    refine .count ?_
    cases t with
    | smallTransfer signature rawTx tx => exact .notify (.done (.ok rfl))
    | _ => exact .done (.ok rfl)
  | false =>
    refine .pass passed fun answer answer' h => ?_
    cases t with
    | invalidWithdraw signature tx =>
      obtain ⟨rfl, rfl⟩ := h
      exact .count (.done (.ok rfl))
    | smallTransfer signature rawTx tx =>
      obtain ⟨rfl, rfl⟩ := h
      exact .count (.done (.ok rfl))
    | recharge tx data => cases passed
    | refundWithdraw tx => cases passed

namespace Rpc

/-! ## Requests -/

theorem mirrors_perform {invocation : Invocation}
    (unsigned : invocation.method ≠ .recharge ∧ invocation.method ≠ .refundWithdraw) :
    invocation.perform.run.Mirrors ToldAlike true invocation.perform.run := by
  cases invocation with
  | processed txs => exact Task.mirrors_write (Inquiry.mirrors_filterBy _ txs) _
  | transfer t =>
    refine Task.mirrors_write (Transfer.mirrors_process ?_) _
    cases t with
    | recharge tx data => exact absurd rfl unsigned.1
    | refundWithdraw tx => exact absurd rfl unsigned.2
    | _ => rfl
  | rechargeData tx => exact Task.mirrors_write (Task.mirrors_rechargeData tx) _
  | decodeRechargeData data =>
    refine Task.mirrors_write (.done ?_) _
    cases Recharge.decodeText data with
    | error fault => exact .error (.refl _)
    | ok es => exact .ok rfl
  | withdrawData tx => exact Task.mirrors_write (Inquiry.mirrors_withdrawal tx) _
  | encodeWithdraw request => exact .done (.ok rfl)

/-- A request that needs no signature is handled alike over a chain and over a node that knows
it. -/
theorem mirrors_handle {request : Json}
    (unsigned : request.get? "method" ≠ some (.str "recharge") ∧
      request.get? "method" ≠ some (.str "refundWithdraw")) :
    (handle request).Mirrors (fun e e' => e'.json = e.json) true (handle request) := by
  have hresolve : (resolve request).Mirrors (EndAlike Refusal.Alike Eq) true (resolve request) := by
    refine resolve_cases (P := fun p => p.Mirrors (EndAlike Refusal.Alike Eq) true p)
      (fun refusal => .done (.error ⟨rfl, rfl⟩)) fun m method => ?_
    refine Plan.Mirrors.bind ?_ fun _ r r' h => .done (alike_replied h)
    unfold Method.call
    cases parsed : Params.parse m (requestParams request) with
    | error cause => exact .done (.error (.refl _))
    | ok invocation =>
      have hmethod := requestMethod?_eq_some_iff.mp method
      refine mirrors_perform ?_
      rw [method_of_parse parsed]
      constructor
      · rintro rfl
        exact unsigned.1 hmethod
      · rintro rfl
        exact unsigned.2 hmethod
  rw [handle_eq]
  refine hresolve.bind fun _ r r' h => ?_
  exact .count (.done (json_of_alike _ h).symm)

end Rpc

/-! ## Withdrawals whose reads are both sent -/

namespace Inquiry

theorem join_of_unread (ended : ReadOrder) (cause : ReadFault) (flag : Bool) :
    (join ended (.error cause) (.ok flag)).run = .done (.error (.read cause)) := by
  cases ended <;> rfl

theorem join_of_read (ended : ReadOrder) (record : Withdrawal) (flag : Bool) :
    (join ended (.ok record) (.ok flag)).run =
      .done (.ok { record with completed := flag }) := by
  cases ended <;> rfl

theorem mirrors_withdrawalSent (sent ended : ReadOrder) (tx : TransferId) :
    (withdrawalSent sent ended tx).run.Mirrors ToldAlike true
      (withdrawalSent sent ended tx).run := by
  have hjoin : ∀ {data data' : Except ReadFault Withdrawal} {ledger ledger'},
      Call.Mirrored (.withdrawData tx) data data' → Call.Mirrored (.isCompleted tx) ledger ledger' →
      (join ended data ledger).run.Mirrors ToldAlike true (join ended data' ledger').run := by
    rintro data data' ledger ledger' hdata ⟨flag, rfl, rfl⟩
    cases hdata with
    | error _ =>
      rw [join_of_unread, join_of_unread]
      exact .done (.error (Fault.alike_read _ _))
    | ok same =>
      subst same
      rw [join_of_read, join_of_read]
      exact .done (.ok rfl)
  cases sent with
  | dataFirst => exact .read rfl fun _ _ hdata => .read rfl fun _ _ hledger => hjoin hdata hledger
  | ledgerFirst => exact .read rfl fun _ _ hledger => .read rfl fun _ _ hdata => hjoin hdata hledger

/-- Which calls are spared when the second read of a withdrawal waits for the first, beside the
calls that are made: none, or that to the ledger for a record that is not stored. -/
inductive Spared (l : Ledger) : List Call → List Call → Prop
  | none {made : List Call} : Spared l made []
  | ledger {tx : TransferId} (missing : l.withdrawals tx = none) :
      Spared l [.withdrawData tx] [.isCompleted tx]

/-- On a chain on which nothing fails, a withdrawal is the same whether both reads are sent or the
second waits for the first, and so are the calls but for the read that is spared. -/
theorem complete_withdrawalSent (counts : Component → Bool) (window : Nat) (sent ended : ReadOrder)
    (tx : TransferId) {l : Ledger} (faultless : l.Faultless) (metrics : Metrics) :
    let both := (withdrawalSent sent ended tx).run.complete (Ledger.service counts window)
      ⟨l, metrics, [], []⟩
    let alone := (withdrawal tx).run.complete (Ledger.service counts window) ⟨l, metrics, [], []⟩
    both.1 = alone.1 ∧ ∃ spared, Spared l (alone.2.log.map Event.call) spared ∧
      (both.2.log.map Event.call).Perm (spared ++ alone.2.log.map Event.call) := by
  intro both alone
  let d := Ledger.service counts window
  let data := (Ledger.answer (.withdrawData tx) l).1
  let ledger := (Ledger.answer (.isCompleted tx) l).1
  -- the reads leave the chain as it is, so what they answer does not depend on their order
  have hboth : ∃ events : List Event,
      (events.map Event.call).Perm [.isCompleted tx, .withdrawData tx] ∧
        both = (join ended data ledger).run.complete d ⟨l, metrics, events, []⟩ := by
    cases sent with
    | dataFirst => exact ⟨[⟨.isCompleted tx, _⟩, ⟨.withdrawData tx, _⟩], .refl _, rfl⟩
    | ledgerFirst => exact ⟨[⟨.withdrawData tx, _⟩, ⟨.isCompleted tx, _⟩], .swap _ _ _, rfl⟩
  obtain ⟨events, calls, hboth⟩ := hboth
  have hledger : ledger = Except.ok (l.completed tx) := faultless.read tx _
  rw [hboth]
  cases stored : l.withdrawals tx with
  | none =>
    have hdata : data = Except.error (.noWithdraw tx) := by
      show l.read tx _ = _
      rw [faultless.read, stored]
    have halone : alone = (.error (.read (.noWithdraw tx)),
        ⟨l, metrics, [⟨.withdrawData tx, true⟩], []⟩) := by
      show (Plan.call (.withdrawData tx) _).complete d _ = _
      rw [Plan.complete_call, d.perform_eq hdata]
      rfl
    rw [hdata, hledger, join_of_unread, halone]
    exact ⟨rfl, _, .ledger stored, calls⟩
  | some record =>
    have hdata : data = Except.ok record := by
      show l.read tx _ = _
      rw [faultless.read, stored]
    have halone : alone = (.ok { record with completed := l.completed tx },
        ⟨l, metrics, [⟨.isCompleted tx, false⟩, ⟨.withdrawData tx, false⟩], []⟩) := by
      show (Plan.call (.withdrawData tx) _).complete d _ = _
      rw [Plan.complete_call, d.perform_eq hdata]
      show (Plan.call (.isCompleted tx) _).complete d _ = _
      rw [Plan.complete_call, d.perform_eq hledger]
      rfl
    rw [hdata, hledger, join_of_read, halone]
    exact ⟨rfl, [], .none, calls⟩

end Inquiry

namespace Rpc

open Inquiry (ReadOrder withdrawalSent Spared)

/-- A request for a withdrawal is handled alike over a chain and over a node that knows it, if
withdrawals are read alike. -/
theorem mirrors_handleWithdrawalWith {read : TransferId → Task Withdrawal}
    (mirrors : ∀ tx, (read tx).run.Mirrors ToldAlike true (read tx).run) (request : Json) :
    (handleWithdrawalWith read request).Mirrors (fun e e' => e'.json = e.json) true
      (handleWithdrawalWith read request) := by
  rcases parse_withdrawData_cases (requestParams request) with ⟨fault, unread⟩ | ⟨tx, parsed⟩
  · rw [handleWithdrawalWith_of_error read unread, answer_eq]
    exact .count (.done rfl)
  · rw [handleWithdrawalWith_of_ok read parsed]
    refine (mirrors tx).bind fun _ r r' h => ?_
    rw [answer_eq, answer_eq]
    exact .count (.done (json_of_alike _ (alike_replied h)).symm)

/-- On a chain on which nothing fails, a request for a withdrawal is answered the same if both reads
are sent, and makes the same calls but for the read that is spared. -/
theorem complete_handleWithdrawal_sent (counts : Component → Bool) (window : Nat)
    (sent ended : ReadOrder) {request : Json}
    (method : request.get? "method" = some (.str "getWithdrawData")) {l : Ledger}
    (faultless : l.Faultless) (metrics : Metrics) :
    let both := (handleWithdrawalWith (withdrawalSent sent ended) request).complete
      (Ledger.service counts window) ⟨l, metrics, [], []⟩
    let alone := (handle request).complete (Ledger.service counts window) ⟨l, metrics, [], []⟩
    both.1 = alone.1 ∧ ∃ spared, Spared l (alone.2.log.map Event.call) spared ∧
      (both.2.log.map Event.call).Perm (spared ++ alone.2.log.map Event.call) := by
  rw [handle_eq_handleWithdrawal method, handleWithdrawal]
  rcases parse_withdrawData_cases (requestParams request) with ⟨fault, unread⟩ | ⟨tx, parsed⟩
  · rw [handleWithdrawalWith_of_error _ unread, handleWithdrawalWith_of_error _ unread]
    exact ⟨rfl, [], .none, .refl _⟩
  · rw [handleWithdrawalWith_of_ok _ parsed, handleWithdrawalWith_of_ok _ parsed]
    obtain ⟨hreport, spared, hspared, hcalls⟩ :=
      Inquiry.complete_withdrawalSent counts window sent ended tx faultless metrics
    dsimp only
    rw [(complete_bind_answer _ _ request _ (replied withdrawJson) _).1,
      (complete_bind_answer _ _ request _ (replied withdrawJson) _).2,
      (complete_bind_answer _ _ request _ (replied withdrawJson) _).1,
      (complete_bind_answer _ _ request _ (replied withdrawJson) _).2]
    exact ⟨congrArg (fun r => Envelope.mk _ (replied withdrawJson r)) hreport, spared, hspared,
      hcalls⟩

open Node in
/-- **A client and a chain in memory are interchangeable.** A request that needs no signature is
answered the same over a chain on which nothing fails and over a node that knows that chain, and the
node receives one request for each call that the chain sees, in the same order and with the same
arguments. Where both reads of a withdrawal are sent before either ends, whatever the orders in
which they are sent and end, the answer is again the same, and the node receives the same requests
in one order or another, with at most a read of the ledger besides for a record that is not
stored. -/
theorem handle_interchangeable {ν : Type} {n : Behaviour ν} {c : Client} {chain : Ledger}
    (serves : Serves n c.bridge chain) (fits : chain.Fits) (faultless : chain.Faultless)
    {request : Json}
    (unsigned : request.get? "method" ≠ some (.str "recharge") ∧
      request.get? "method" ≠ some (.str "refundWithdraw"))
    (counts counts' : Component → Bool) (window window' : Nat) (metrics metrics' : Metrics)
    (nextId : Nat) (node : ν) :
    let inMemory := (handle request).complete (Ledger.service counts window)
      ⟨chain, metrics, [], []⟩
    let overNode := (handle request).complete (c.deployment n counts' window')
      ⟨⟨nextId, [], node⟩, metrics', [], []⟩
    overNode.1.json = inMemory.1.json ∧
      List.Forall₂ (Request.Makes c.bridge) overNode.2.chain.requests
        (inMemory.2.log.reverse.map Event.call) ∧
      (request.get? "method" = some (.str "getWithdrawData") → ∀ sent ended : ReadOrder,
        let both := (handleWithdrawalWith (withdrawalSent sent ended) request).complete
          (c.deployment n counts' window') ⟨⟨nextId, [], node⟩, metrics', [], []⟩
        both.1.json = inMemory.1.json ∧
          ∃ calls spared, List.Forall₂ (Request.Makes c.bridge) both.2.chain.requests calls ∧
            Spared chain (inMemory.2.log.map Event.call) spared ∧
            calls.Perm (spared ++ inMemory.2.log.map Event.call)) := by
  intro inMemory overNode
  have beside : Beside c.bridge (⟨chain, metrics, [], []⟩ : World Ledger)
      (⟨⟨nextId, [], node⟩, metrics', [], []⟩ : World (Line ν)) := ⟨faultless, .nil, rfl⟩
  obtain ⟨hjson, hafter⟩ := (mirrors_handle unsigned).complete counts counts' window window' serves
    fits beside fun _ => rfl
  refine ⟨hjson, hafter.requests, fun method sent ended => ?_⟩
  -- over the node it is as over the chain if both reads are sent there as well
  obtain ⟨hboth, hasked⟩ := (mirrors_handleWithdrawalWith (Inquiry.mirrors_withdrawalSent sent
    ended) request).complete counts counts' window window' serves fits beside fun _ => rfl
  obtain ⟨halone, spared, hspared, hcalls⟩ :=
    complete_handleWithdrawal_sent counts window sent ended method faultless metrics
  refine ⟨hboth.trans (congrArg Envelope.json halone), _, spared, hasked.requests, hspared, ?_⟩
  rw [List.map_reverse]
  exact (List.reverse_perm _).trans hcalls

/-- A claim on a withdrawal, and a request for it of which both reads are sent, on a chain that
completes what is submitted and has no withdrawal stored, and over a node that knows that chain. -/
theorem handle_interchangeable_of_claim :
    let hash := "AAAAAAAAAAAAAAAAAAAAAAAAAAAAAAAAAAAAAAAAAAAAAAAAAAAAAAAAAAAAAAAA"
    let request : Json := .obj [("method", .str "receivedInvaliedwithrawtx"),
      ("params", .arr [.str "0xsig", .str hash])]
    let inquiry : Json := .obj [("method", .str "getWithdrawData"), ("params", .arr [.str hash])]
    let c : Node.Client := ⟨⟨List.replicate 20 0x64, rfl⟩, none⟩
    let chain := Ledger.empty.apply (.autoComplete true)
    let n := Node.Behaviour.knowing chain
    Node.Serves n c.bridge chain ∧ chain.Fits ∧ chain.Faultless ∧
      (let inMemory := (handle request).complete (Ledger.service (fun _ => true) 8)
        ⟨chain, .empty, [], []⟩
      let overNode := (handle request).complete (c.deployment n (fun _ => true) 8)
        ⟨⟨1, [], ()⟩, .empty, [], []⟩
      overNode.1.json = inMemory.1.json ∧
        List.Forall₂ (Node.Request.Makes c.bridge) overNode.2.chain.requests
          (inMemory.2.log.reverse.map Event.call)) ∧
      let inMemory := (handle inquiry).complete (Ledger.service (fun _ => true) 8)
        ⟨chain, .empty, [], []⟩
      let both := (handleWithdrawalWith (withdrawalSent .dataFirst .ledgerFirst) inquiry).complete
        (c.deployment n (fun _ => true) 8) ⟨⟨1, [], ()⟩, .empty, [], []⟩
      both.1.json = inMemory.1.json ∧
        ∃ calls spared, List.Forall₂ (Node.Request.Makes c.bridge) both.2.chain.requests calls ∧
          Spared chain (inMemory.2.log.map Event.call) spared ∧
          calls.Perm (spared ++ inMemory.2.log.map Event.call) := by
  intro hash request inquiry c chain n
  have serves : Node.Serves n c.bridge chain := Node.serves_knowing c.bridge chain
  have fits : chain.Fits := ⟨fun tx => show (Recharge.encode []).length < _ by decide, nofun⟩
  have faultless : chain.Faultless := ⟨rfl, fun tx => rfl, rfl, rfl⟩
  have unsigned : ∀ (r : Json) (name : String), r.get? "method" = some (.str name) →
      name ≠ "recharge" ∧ name ≠ "refundWithdraw" →
      r.get? "method" ≠ some (.str "recharge") ∧
        r.get? "method" ≠ some (.str "refundWithdraw") := by
    intro r name method others
    rw [method]
    simpa using others
  have method : inquiry.get? "method" = some (.str "getWithdrawData") := rfl
  obtain ⟨claimed, requested, -⟩ := handle_interchangeable (c := c) serves fits faultless
    (unsigned request "receivedInvaliedwithrawtx" rfl (by decide)) (fun _ => true)
    (fun _ => true) 8 8 .empty .empty 1 ()
  obtain ⟨-, -, asked⟩ := handle_interchangeable (c := c) serves fits faultless
    (unsigned inquiry _ method (by decide)) (fun _ => true) (fun _ => true) 8 8 .empty .empty 1 ()
  exact ⟨serves, fits, faultless, ⟨claimed, requested⟩, asked method .dataFirst .ledgerFirst⟩

end Rpc

end TransferRelay
