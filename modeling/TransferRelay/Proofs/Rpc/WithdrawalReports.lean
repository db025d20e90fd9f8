import TransferRelay.Chain.Ledger
import TransferRelay.Proofs.Rpc.Calling

/-!
# How withdrawals are reported

A withdrawal is reported from two reads: that of the stored record, which has a completion flag of
its own, and that of the ledger. The reads are under way together, so either may end first, and
`Inquiry.readBoth` says how both end in an order.

What is reported comes from these two ends only (`Inquiry.complete_withdrawalIn`): it is the stored
record with the flag of the ledger in the place of its own, or one of the failures. The stored flag
is thereby forgotten, and chains that differ in nothing else (`Deployment.SameButFlags`) cannot be
told apart by asking for withdrawals.
-/

namespace TransferRelay

variable {σ σ' α : Type}

/-! ## The two reads -/

namespace Task

/-- A task that begins with the read of a stored withdrawal goes on behind it, if it can be read. -/
theorem complete_withdrawData_bind (d : Deployment σ) (tx : TransferId) (f : Withdrawal → Task α)
    (w : World σ) :
    ((Task.withdrawData tx >>= f).run.complete d w).1 =
      match (d.answer (.withdrawData tx) w.chain).1 with
      | .ok stored => ((f stored).run.complete d (d.perform (.withdrawData tx) w).2).1
      | .error cause => .error (.read cause) := by
  show ((Plan.call (.withdrawData tx) fun data => (ofRead data >>= f).run).complete d w).1 = _
  rw [Plan.complete_call]
  show ((ofRead (d.answer (.withdrawData tx) w.chain).1 >>= f).run.complete d _).1 = _
  cases (d.answer (.withdrawData tx) w.chain).1 <;> rfl

/-- A task that begins with a read of the ledger goes on behind it, if it can be read. -/
theorem complete_isCompleted_bind (d : Deployment σ) (tx : TransferId) (f : Bool → Task α)
    (w : World σ) :
    ((Task.isCompleted tx >>= f).run.complete d w).1 =
      match (d.answer (.isCompleted tx) w.chain).1 with
      | .ok flag => ((f flag).run.complete d (d.perform (.isCompleted tx) w).2).1
      | .error cause => .error (.read cause) := by
  show ((Plan.call (.isCompleted tx) fun ledger => (ofLedgerRead ledger >>= f).run).complete
    d w).1 = _
  rw [Plan.complete_call]
  show ((ofLedgerRead (d.answer (.isCompleted tx) w.chain).1 >>= f).run.complete d _).1 = _
  cases (d.answer (.isCompleted tx) w.chain).1 <;> rfl

end Task

namespace Inquiry

/-- How the read of a stored withdrawal and that of the ledger end. The one that ends last does so
on the chain that the other leaves. -/
def readBoth (d : Deployment σ) (order : ReadOrder) (tx : TransferId) (chain : σ) :
    Except ReadFault Withdrawal × Except ReadFault Bool :=
  match order with
  | .dataFirst =>
    let data := d.answer (.withdrawData tx) chain
    (data.1, (d.answer (.isCompleted tx) data.2).1)
  | .ledgerFirst =>
    let ledger := d.answer (.isCompleted tx) chain
    ((d.answer (.withdrawData tx) ledger.2).1, ledger.1)

/-- What is made of the two ends. Of two failures, it is the first that is told. -/
def joined (order : ReadOrder) : Except ReadFault Withdrawal → Except ReadFault Bool →
    Except Fault Withdrawal
  | .ok stored, .ok flag => .ok { stored with completed := flag }
  | .ok _, .error cause => .error (.read cause)
  | .error cause, .ok _ => .error (.read cause)
  | .error dataCause, .error ledgerCause =>
    match order with
    | .dataFirst => .error (.read dataCause)
    | .ledgerFirst => .error (.read ledgerCause)

/-- The second read is not begun where the first fails, and what it would have given is not told
then: a withdrawal is joined from the ends of both reads. -/
theorem complete_withdrawalIn (d : Deployment σ) (order : ReadOrder) (tx : TransferId)
    (w : World σ) :
    ((withdrawalIn order tx).run.complete d w).1 =
      joined order (readBoth d order tx w.chain).1 (readBoth d order tx w.chain).2 := by
  cases order with
  | dataFirst =>
    rw [withdrawalIn, readBoth, Task.complete_withdrawData_bind]
    dsimp only
    cases (d.answer (.withdrawData tx) w.chain).1 with
    | error cause => cases (d.answer (.isCompleted tx) _).1 <;> rfl
    | ok stored =>
      dsimp only
      rw [Task.complete_isCompleted_bind, Deployment.chain_perform]
      cases (d.answer (.isCompleted tx) _).1 <;> rfl
  | ledgerFirst =>
    rw [withdrawalIn, readBoth, Task.complete_isCompleted_bind]
    dsimp only
    cases (d.answer (.isCompleted tx) w.chain).1 with
    | error cause => cases (d.answer (.withdrawData tx) _).1 <;> rfl
    | ok flag =>
      dsimp only
      rw [Task.complete_withdrawData_bind, Deployment.chain_perform]
      cases (d.answer (.withdrawData tx) _).1 <;> rfl

end Inquiry

/-! ## Records that differ in their flags -/

/-- Records of a withdrawal that differ in the completion flag at most. -/
structure Withdrawal.SameButFlag (r r' : Withdrawal) : Prop where
  target : r.target = r'.target
  amount : r.amount = r'.amount
  signatures : r.signatures = r'.signatures

/-- Chains in a relation answer the two reads of a withdrawal alike but for the flag of the stored
record, and stay in the relation. -/
structure Deployment.SameButFlags (d : Deployment σ) (d' : Deployment σ') (S : σ → σ' → Prop) :
    Prop where
  data : ∀ (tx : TransferId) {chain : σ} {chain' : σ'}, S chain chain' →
    EndAlike Eq Withdrawal.SameButFlag (d.answer (.withdrawData tx) chain).1
        (d'.answer (.withdrawData tx) chain').1 ∧
      S (d.answer (.withdrawData tx) chain).2 (d'.answer (.withdrawData tx) chain').2
  ledger : ∀ (tx : TransferId) {chain : σ} {chain' : σ'}, S chain chain' →
    (d.answer (.isCompleted tx) chain).1 = (d'.answer (.isCompleted tx) chain').1 ∧
      S (d.answer (.isCompleted tx) chain).2 (d'.answer (.isCompleted tx) chain').2

namespace Inquiry

variable {order : ReadOrder} {data data' : Except ReadFault Withdrawal}
  {ledger : Except ReadFault Bool}

/-- A withdrawal is joined if both reads have ended well, and has the flag of the ledger. -/
theorem joined_eq_ok_iff {record : Withdrawal} :
    joined order data ledger = .ok record ↔
      ∃ stored, data = .ok stored ∧ record.SameButFlag stored ∧ ledger = .ok record.completed := by
  constructor
  · intro h
    cases data with
    | error cause => cases ledger <;> cases order <;> cases h
    | ok stored =>
      cases ledger with
      | error cause => cases h
      | ok flag =>
        cases h
        exact ⟨stored, rfl, ⟨rfl, rfl, rfl⟩, rfl⟩
  · rintro ⟨⟨target, amount, signatures, flag⟩, rfl, ⟨rfl, rfl, rfl⟩, rfl⟩
    rfl

theorem exists_joined_iff :
    (∃ record, joined order data ledger = .ok record) ↔
      (∃ stored, data = .ok stored) ∧ ∃ flag, ledger = .ok flag := by
  constructor
  · rintro ⟨record, h⟩
    obtain ⟨stored, hdata, -, hledger⟩ := joined_eq_ok_iff.mp h
    exact ⟨⟨stored, hdata⟩, _, hledger⟩
  · rintro ⟨⟨stored, rfl⟩, flag, rfl⟩
    exact ⟨_, rfl⟩

/-- Otherwise what is told is the failure of a read. -/
theorem failed_of_joined {fault : Fault} (h : joined order data ledger = .error fault) :
    ∃ cause, fault = .read cause ∧ (data = .error cause ∨ ledger = .error cause) := by
  cases data with
  | ok stored =>
    cases ledger with
    | ok flag => cases h
    | error cause => exact ⟨cause, (Except.error.inj h).symm, .inr rfl⟩
  | error dataCause =>
    cases ledger with
    | ok flag => exact ⟨dataCause, (Except.error.inj h).symm, .inl rfl⟩
    | error ledgerCause =>
      cases order with
      | dataFirst => exact ⟨dataCause, (Except.error.inj h).symm, .inl rfl⟩
      | ledgerFirst => exact ⟨ledgerCause, (Except.error.inj h).symm, .inr rfl⟩

/-- The flag that was stored is forgotten. -/
theorem joined_congr (alike : EndAlike Eq Withdrawal.SameButFlag data data') :
    joined order data ledger = joined order data' ledger := by
  cases alike with
  | error same => rw [same]
  | @ok stored stored' same =>
    cases ledger with
    | error cause => rfl
    | ok flag =>
      show Except.ok { stored with completed := flag } = .ok { stored' with completed := flag }
      rw [same.target, same.amount, same.signatures]

theorem readBoth_alike {d : Deployment σ} {d' : Deployment σ'} {S : σ → σ' → Prop}
    (same : d.SameButFlags d' S) (order : ReadOrder) (tx : TransferId) {chain : σ} {chain' : σ'}
    (h : S chain chain') :
    EndAlike Eq Withdrawal.SameButFlag (readBoth d order tx chain).1
        (readBoth d' order tx chain').1 ∧
      (readBoth d order tx chain).2 = (readBoth d' order tx chain').2 := by
  cases order with
  | dataFirst =>
    obtain ⟨hdata, hafter⟩ := same.data tx h
    exact ⟨hdata, (same.ledger tx hafter).1⟩
  | ledgerFirst =>
    obtain ⟨hledger, hafter⟩ := same.ledger tx h
    exact ⟨(same.data tx hafter).1, hledger⟩

end Inquiry

/-! ## Requests for a withdrawal -/

namespace Rpc

open Inquiry (ReadOrder readBoth joined)

/-- Does what a method is asked to do, where withdrawals are read in a given way. -/
def Invocation.performWith (read : TransferId → Task Withdrawal) : Invocation → Task Json
  | .withdrawData tx => do
    let record ← read tx
    return withdrawJson record
  | invocation => invocation.perform

/-- Handles a request for a withdrawal, where withdrawals are read in a given way. -/
def handleWithdrawalWith (read : TransferId → Task Withdrawal) (request : Json) : Plan Envelope :=
  let invoked := Task.ofExcept (Params.parse .withdrawData (requestParams request))
  (invoked >>= Invocation.performWith read).run.bind fun r =>
    answer request (.served .withdrawData) (replied id r)

/-- Handles a request for a withdrawal while its two reads end in an order. -/
def handleWithdrawal (order : ReadOrder) : Json → Plan Envelope :=
  handleWithdrawalWith (Inquiry.withdrawalIn order)

/-- Handled in sequence, a request has its stored record read first. -/
theorem handle_eq_handleWithdrawal {request : Json}
    (method : request.get? "method" = some (.str "getWithdrawData")) :
    handle request = handleWithdrawal .dataFirst request := by
  have hperform : Invocation.performWith (Inquiry.withdrawalIn .dataFirst) =
      Invocation.perform := by
    funext invocation
    cases invocation <;> rfl
  rw [handleWithdrawal, handleWithdrawalWith, hperform]
  exact handle_of_served (requestMethod?_eq_some_iff.mpr method)
    (Method.ofName?_name .withdrawData)

section Reading

variable (read : TransferId → Task Withdrawal) {request : Json}

/-- Who asks for a withdrawal with parameters that cannot be read is told so. -/
theorem handleWithdrawalWith_of_error {fault : Fault}
    (unread : Params.parse .withdrawData (requestParams request) = .error fault) :
    handleWithdrawalWith read request =
      answer request (.served .withdrawData) (.error (.failed fault)) := by
  rw [handleWithdrawalWith, unread]
  rfl

/-- Otherwise all that is done is reading the withdrawal. -/
theorem handleWithdrawalWith_of_ok {tx : TransferId}
    (parsed : Params.parse .withdrawData (requestParams request) = .ok (.withdrawData tx)) :
    handleWithdrawalWith read request =
      (read tx).run.bind fun r =>
        answer request (.served .withdrawData) (replied withdrawJson r) := by
  rw [handleWithdrawalWith, parsed]
  show (((read tx).run.bind _).bind _) = _
  rw [Plan.bind_assoc]
  congr 1
  funext r
  cases r <;> rfl

end Reading

/-- Who asks for a withdrawal is told what is made of the ends of its two reads. -/
theorem complete_handleWithdrawal_of_ok (d : Deployment σ) (order : ReadOrder) {request : Json}
    {tx : TransferId}
    (parsed : Params.parse .withdrawData (requestParams request) = .ok (.withdrawData tx))
    (w : World σ) :
    ((handleWithdrawal order request).complete d w).1 =
      ⟨requestId request, replied withdrawJson
        (joined order (readBoth d order tx w.chain).1 (readBoth d order tx w.chain).2)⟩ := by
  rw [handleWithdrawal, handleWithdrawalWith_of_ok _ parsed,
    (complete_bind_answer d _ request _ _ w).1, Inquiry.complete_withdrawalIn]

/-- The parameters of a request for a withdrawal name one, or cannot be read. -/
theorem parse_withdrawData_cases (params : Json) :
    (∃ cause, Params.parse .withdrawData params = .error cause) ∨
      ∃ tx, Params.parse .withdrawData params = .ok (.withdrawData tx) := by
  cases hparse : Params.parse .withdrawData params with
  | error cause => exact .inl ⟨cause, rfl⟩
  | ok invocation =>
    have hmethod := method_of_parse hparse
    cases invocation with
    | withdrawData tx => exact .inr ⟨tx, rfl⟩
    | transfer t =>
      have hkind : t.kind.method = .withdrawData := hmethod
      generalize t.kind = kind at hkind
      cases kind <;> cases hkind
    | _ => cases hmethod

/-- Chains that differ in the flags of stored records only are told apart by no request for a
withdrawal. -/
theorem complete_handleWithdrawal_congr {d : Deployment σ} {d' : Deployment σ'}
    {S : σ → σ' → Prop} (same : d.SameButFlags d' S) (order : ReadOrder) (request : Json)
    {w : World σ} {w' : World σ'} (h : S w.chain w'.chain) :
    ((handleWithdrawal order request).complete d w).1 =
      ((handleWithdrawal order request).complete d' w').1 := by
  rcases parse_withdrawData_cases (requestParams request) with ⟨cause, unread⟩ | ⟨tx, read⟩
  · simp only [handleWithdrawal, handleWithdrawalWith_of_error _ unread]
    rfl
  · obtain ⟨hdata, hledger⟩ := Inquiry.readBoth_alike same order tx h
    rw [complete_handleWithdrawal_of_ok d order read, complete_handleWithdrawal_of_ok d' order read,
      Inquiry.joined_congr hdata, hledger]

end Rpc

/-! ## Chains in memory -/

namespace Ledger

/-- A chain in memory with other flags in its stored withdrawals. -/
def reflag (flags : TransferId → Bool) (l : Ledger) : Ledger :=
  { l with
    withdrawals := fun tx => (l.withdrawals tx).map fun r => { r with completed := flags tx } }

theorem sameButFlags_reflag (flags : TransferId → Bool) (counts counts' : Component → Bool)
    (window window' : Nat) :
    Deployment.SameButFlags ⟨Ledger.answer, counts, window⟩ ⟨Ledger.answer, counts', window'⟩
      fun l l' => l' = l.reflag flags where
  data tx l l' h := by
    subst h
    refine ⟨?_, rfl⟩
    have houtage : (l.reflag flags).outageOf tx = l.outageOf tx := rfl
    have hrecord : (l.reflag flags).withdrawals tx =
        (l.withdrawals tx).map fun r => { r with completed := flags tx } := rfl
    simp only [answer, read, houtage, hrecord]
    cases l.outageOf tx with
    | some reason => exact .error rfl
    | none =>
      cases l.withdrawals tx with
      | none => exact .error rfl
      | some record => exact .ok ⟨rfl, rfl, rfl⟩
  ledger tx l l' h := by
    subst h
    exact ⟨rfl, rfl⟩

/-- Where a chain in memory fails both reads of a withdrawal, it does so for one reason, so that the
order of the reads does not show. -/
theorem joined_answer (order order' : Inquiry.ReadOrder) (tx : TransferId) (l : Ledger) :
    Inquiry.joined order (l.answer (.withdrawData tx)).1 (l.answer (.isCompleted tx)).1 =
      Inquiry.joined order' (l.answer (.withdrawData tx)).1 (l.answer (.isCompleted tx)).1 := by
  simp only [answer, read]
  cases l.outageOf tx with
  | some reason => cases order <;> cases order' <;> rfl
  | none => cases l.withdrawals tx <;> rfl

end Ledger

namespace Rpc

open Inquiry (ReadOrder readBoth joined)

/-- Chains in memory that differ in the flags of stored records only answer a request for a
withdrawal alike, also if the reads end in one order on the one and in the other on the other. -/
theorem complete_handleWithdrawal_reflag (counts counts' : Component → Bool)
    (window window' : Nat) (order order' : ReadOrder) (request : Json) (flags : TransferId → Bool)
    {w w' : World Ledger} (h : w'.chain = w.chain.reflag flags) :
    ((handleWithdrawal order request).complete ⟨Ledger.answer, counts, window⟩ w).1 =
      ((handleWithdrawal order' request).complete ⟨Ledger.answer, counts', window'⟩ w').1 := by
  rw [complete_handleWithdrawal_congr (Ledger.sameButFlags_reflag flags counts counts' window
    window') order request h]
  rcases parse_withdrawData_cases (requestParams request) with ⟨cause, unread⟩ | ⟨tx, read⟩
  · simp only [handleWithdrawal, handleWithdrawalWith_of_error _ unread]
  · have hends : ∀ order, readBoth ⟨Ledger.answer, counts', window'⟩ order tx w'.chain =
        ((w'.chain.answer (.withdrawData tx)).1, (w'.chain.answer (.isCompleted tx)).1) := by
      intro order
      cases order <;> rfl
    rw [complete_handleWithdrawal_of_ok _ order read, complete_handleWithdrawal_of_ok _ order' read,
      hends order, hends order', Ledger.joined_answer order order']

/-- **A withdrawal is reported with the flag of the ledger, whatever flag was stored.** Whichever of
its reads ends first, it is reported if both end well: the stored record, but with the flag of the
ledger. Otherwise the failure of one of the reads is told. Asking for withdrawals therefore does not
tell chains apart that differ in the flags of stored records only. -/
theorem withdrawal_reported_with_ledger_flag (d : Deployment σ) (order : ReadOrder) :
    (∀ (tx : TransferId) (w : World σ),
      let ends := readBoth d order tx w.chain
      let report := ((Inquiry.withdrawalIn order tx).run.complete d w).1
      ((∃ record, report = .ok record) ↔
        (∃ stored, ends.1 = .ok stored) ∧ ∃ flag, ends.2 = .ok flag) ∧
      (∀ record, report = .ok record →
        ∃ stored, ends.1 = .ok stored ∧ record.SameButFlag stored ∧
          ends.2 = .ok record.completed) ∧
      ∀ fault, report = .error fault →
        ∃ cause, fault = .read cause ∧ (ends.1 = .error cause ∨ ends.2 = .error cause)) ∧
    ∀ (σ' : Type) (d' : Deployment σ') (S : σ → σ' → Prop), d.SameButFlags d' S →
      ∀ (w : World σ) (w' : World σ'), S w.chain w'.chain →
        ∀ request : Json, request.get? "method" = some (.str "getWithdrawData") →
          handle request = handleWithdrawal .dataFirst request ∧
            ((handleWithdrawal order request).complete d w).1 =
              ((handleWithdrawal order request).complete d' w').1 := by
  constructor
  · intro tx w ends report
    have hreport : report = joined order ends.1 ends.2 :=
      Inquiry.complete_withdrawalIn d order tx w
    rw [hreport]
    exact ⟨Inquiry.exists_joined_iff, fun record h => Inquiry.joined_eq_ok_iff.mp h,
      fun fault h => Inquiry.failed_of_joined h⟩
  · intro σ' d' S same w w' h request method
    exact ⟨handle_eq_handleWithdrawal method, complete_handleWithdrawal_congr same order request h⟩

/-- A record stored as complete, of a transfer that the ledger does not have. -/
theorem withdrawal_reported_with_ledger_flag_of_stale_record :
    let tx : TransferId := ⟨List.replicate 32 0xaa, rfl⟩
    let stored : Withdrawal := ⟨⟨List.replicate 20 0xab, rfl⟩, ⟨42, by decide⟩, [0xbe], true⟩
    let request : Json := .obj [("method", .str "getWithdrawData"), ("params", .obj [
      ("txHash", .str "aaaaaaaaaaaaaaaaaaaaaaaaaaaaaaaaaaaaaaaaaaaaaaaaaaaaaaaaaaaaaaaa")])]
    let d : Deployment Ledger := ⟨Ledger.answer, fun _ => true, 8⟩
    let l := Ledger.empty.apply (.setWithdraw tx stored)
    let l' := l.reflag fun _ => false
    d.SameButFlags d (fun l l' => l' = l.reflag fun _ => false) ∧
      request.get? "method" = some (.str "getWithdrawData") ∧
      (∃ record, ((Inquiry.withdrawalIn .ledgerFirst tx).run.complete d (.initial l)).1 =
        .ok record ∧ record.SameButFlag stored ∧ record.completed = false) ∧
      ((handleWithdrawal .ledgerFirst request).complete d (.initial l)).1 =
        ((handleWithdrawal .ledgerFirst request).complete d (.initial l')).1 := by
  intro tx stored request d l l'
  have same := Ledger.sameButFlags_reflag (fun _ => false) d.counts d.counts d.window d.window
  obtain ⟨hreport, htold⟩ := withdrawal_reported_with_ledger_flag d .ledgerFirst
  obtain ⟨hends, hrecord, -⟩ := hreport tx (.initial l)
  obtain ⟨record, hok⟩ := hends.mpr ⟨⟨stored, rfl⟩, false, rfl⟩
  obtain ⟨stored', hdata, hsame, hledger⟩ := hrecord record hok
  cases hdata
  exact ⟨same, rfl, ⟨record, hok, hsame, (Except.ok.inj hledger).symm⟩,
    (htold Ledger d _ same (.initial l) (.initial l') rfl request rfl).2⟩

end Rpc

end TransferRelay
