import TransferRelay.Node.Client
import TransferRelay.Proofs.Hex.Spelling

/-!
# What a client makes of replies

A node may reply anything. `Reply.Carries` and `Reply.Fails` say of a reply, as it stands, whether
it answers a read and whether it turns down what was passed on; a client reads it just so:

* `view_eq_ok_iff`: a read has a value exactly if the reply carries data of the value.
* `pass_eq_ok_iff`, `pass_eq_error_iff`: what is passed on is taken exactly if the reply is a
  success in JSON without an error, and fails exactly if the reply fails.
* `act_eq_ok_iff`, `act_eq_error_iff`: a transaction is sent exactly if there is an address to sign
  for, and each of the five replies on the way tells what is asked.

Whatever the reply, a call that makes one request leaves the line as `Line.exchange` does.
-/

namespace TransferRelay

/-! ## What is asked of a node -/

namespace Call

/-- What a call reads of the contract, and for which transfer. -/
def viewed? : Call → Option (ContractView × TransferId)
  | .isCompleted tx => some (.completed, tx)
  | .rechargeData tx => some (.rechargeData, tx)
  | .withdrawData tx => some (.withdrawData, tx)
  | _ => none

/-- The method of the node to which a call is passed on, and with which arguments. -/
def passed? : Call → Option (NodeMethod × List String)
  | .sendInvalidWithdraw signature tx => some (.sendInvalidWithdraw, [signature, tx.text])
  | .submitSmallTransfer signature rawTx => some (.receivedSmallTransfer, [signature, rawTx])
  | .notifyAccepted tx => some (.smallTransferAccepted, [tx.text])
  | _ => none

/-- Whether a call is passed on to a method of the node. -/
def isPassed (c : Call) : Bool :=
  c.passed?.isSome

/-- The call of the contract that is signed for a call: for which transfer, and with which data. -/
def signed? : Call → Option (ContractAction × TransferId × Bytes)
  | .submitRecharge tx data => some (.recharge, tx, data)
  | .submitRefund tx => some (.refundWithdraw, tx, [])
  | _ => none

end Call

namespace Node

/-- The request that is made of a node for a call that needs no signature. -/
inductive Request.Makes (bridge : Address) : Request → Call → Prop
  | view {call : Call} {v : ContractView} {tx : TransferId} (viewed : call.viewed? = some (v, tx)) :
      Makes bridge (.view bridge v tx.bytes) call
  | pass {call : Call} {id : Nat} {method : NodeMethod} {params : List String}
      (passed : call.passed? = some (method, params)) : Makes bridge (.pass id method params) call

/-! ## Replies -/

namespace Reply

/-- A reply reports success, and its body is JSON. -/
def Answers (json : Json) : Reply → Prop
  | .refused => False
  | .response status body => Http.isSuccess status = true ∧ Json.parseUtf8 body = some json

/-- A reply is a success without an error, and its result is bytes in digits. -/
def Carries (raw : Bytes) (reply : Reply) : Prop :=
  ∃ json s, reply.Answers json ∧ json.get? "error" = none ∧
    json.get? "result" = some (.str s) ∧ Hex.Denotes s raw

/-- A reply is a success without an error, and its result is read as a value. -/
def Tells {α : Type} (read : Json → Option α) (a : α) (reply : Reply) : Prop :=
  ∃ json value, reply.Answers json ∧ json.get? "error" = none ∧
    json.get? "result" = some value ∧ read value = some a

/-- A body has a member `error` other than null. -/
def ReportsError (json : Json) : Prop :=
  ∃ error, json.get? "error" = some error ∧ error.isNull = false

/-- A reply does not take what was passed on: there is no connection, the status is no success, the
body is no JSON, or it reports an error, of whatever kind. -/
inductive Fails : Reply → Prop
  | refused : Fails .refused
  | status {status : Nat} {body : ByteArray} (failure : Http.isSuccess status = false) :
      Fails (.response status body)
  | body {status : Nat} {body : ByteArray} (unread : Json.parseUtf8 body = none) :
      Fails (.response status body)
  | error {status : Nat} {body : ByteArray} {json : Json} (read : Json.parseUtf8 body = some json)
      (reports : ReportsError json) : Fails (.response status body)

/-- A reply fails unless it is a success in JSON without an error. -/
theorem fails_iff {reply : Reply} :
    reply.Fails ↔ ¬∃ json, reply.Answers json ∧ ¬ReportsError json := by
  constructor
  · rintro fails ⟨json, answers, noError⟩
    cases fails with
    | refused => exact answers
    | status failure => exact Bool.false_ne_true (failure.symm.trans answers.1)
    | body unread => cases unread.symm.trans answers.2
    | error read reports =>
      cases read.symm.trans answers.2
      exact noError reports
  · intro h
    cases reply with
    | refused => exact .refused
    | response status body =>
      cases success : Http.isSuccess status with
      | false => exact .status success
      | true =>
        cases read : Json.parseUtf8 body with
        | none => exact .body read
        | some json =>
          exact .error read (Classical.byContradiction fun noError =>
            h ⟨json, ⟨success, read⟩, noError⟩)

end Reply

/-! ## Exchanges -/

variable {ν : Type} (n : Behaviour ν)

namespace Line

/-- The reply to a request. -/
def reply (l : Line ν) (r : Request) : Reply :=
  (n.reply r l.node).1

theorem reply_exchange (r : Request) (l : Line ν) : (l.exchange n r).1 = l.reply n r := by
  rw [exchange, reply]
  rcases n.reply r l.node with ⟨reply, node⟩
  cases reply <;> rfl

/-- A node has received what it replies to. -/
theorem line_exchange {r : Request} {l : Line ν} (h : l.reply n r ≠ .refused) :
    (l.exchange n r).2 = ⟨l.nextId, l.requests ++ [r], (n.reply r l.node).2⟩ := by
  unfold reply at h
  unfold exchange
  rcases hreply : n.reply r l.node with ⟨reply, node⟩
  rw [hreply] at h
  cases reply with
  | refused => exact absurd rfl h
  | response status body => rfl

/-- A node receives what is asked of it, or nothing. -/
theorem requests_exchange (r : Request) (l : Line ν) :
    (l.exchange n r).2.requests = l.requests ∨ (l.exchange n r).2.requests = l.requests ++ [r] := by
  unfold exchange
  rcases n.reply r l.node with ⟨reply, node⟩
  cases reply with
  | refused => exact .inl rfl
  | response status body => exact .inr rfl

theorem line_call? (r : Request) (l : Line ν) : (l.call? n r).2 = (l.exchange n r).2 := by
  unfold call?
  rcases l.exchange n r with ⟨reply, after⟩
  cases reply <;> rfl

theorem result?_eq_some_iff {response value : Json} :
    result? response = some value ↔
      response.get? "error" = none ∧ response.get? "result" = some value := by
  unfold result?
  cases response.get? "error" <;> simp

/-- The result of a call of the node. -/
theorem call?_eq_some_iff {r : Request} {l : Line ν} {value : Json} :
    (l.call? n r).1 = some value ↔
      ∃ json, (l.reply n r).Answers json ∧ result? json = some value := by
  rw [← reply_exchange, call?]
  rcases l.exchange n r with ⟨reply, after⟩
  cases reply with
  | refused => simp [Reply.Answers]
  | response status body =>
    cases success : Http.isSuccess status <;>
      simp [Reply.Answers, success, Option.bind_eq_some_iff]

/-- The result of a call of the node, as it is read. -/
theorem call?_bind_eq_some_iff {α : Type} {r : Request} {l : Line ν} {read : Json → Option α}
    {a : α} : (l.call? n r).1.bind read = some a ↔ (l.reply n r).Tells read a := by
  simp only [Option.bind_eq_some_iff, call?_eq_some_iff, result?_eq_some_iff, Reply.Tells]
  constructor
  · rintro ⟨value, ⟨json, answers, noError, result⟩, hread⟩
    exact ⟨json, value, answers, noError, result, hread⟩
  · rintro ⟨json, value, answers, noError, result, hread⟩
    exact ⟨value, ⟨json, answers, noError, result⟩, hread⟩

end Line

/-! ## Reads -/

section Reads

variable {α : Type} (c : Client) {v : ContractView} {decode : Bytes → Option α} {tx : TransferId}
  {l : Line ν}

theorem bytes?_eq_some_iff {value : Json} {raw : Bytes} :
    bytes? value = some raw ↔ ∃ s, value = .str s ∧ Hex.Denotes s raw := by
  cases value with
  | str s =>
    have hdigits : bytes? (.str s) = some raw ↔ Hex.Denotes s raw := by
      rw [← Hex.decode_stripMark_eq_ok_iff, bytes?]
      cases Hex.decode (Hex.stripMark s.toList) <;> simp [Except.toOption]
    simp [hdigits]
  | _ => simp [bytes?]

/-- A read is one request, whose reply has a value or has none. -/
theorem view_eq :
    c.view n v decode tx l =
      (match ((l.call? n (.view c.bridge v tx.bytes)).1.bind bytes?).bind decode with
        | some a => .ok a
        | none => .error (.noAnswer v tx),
      (l.exchange n (.view c.bridge v tx.bytes)).2) := by
  rw [← Line.line_call?, Client.view]
  rcases l.call? n (.view c.bridge v tx.bytes) with ⟨value, after⟩
  dsimp only
  cases (value.bind bytes?).bind decode <;> rfl

/-- A read has a value exactly if the node carries data of the value. -/
theorem view_eq_ok_iff {a : α} :
    (c.view n v decode tx l).1 = .ok a ↔
      ∃ raw, (l.reply n (.view c.bridge v tx.bytes)).Carries raw ∧ decode raw = some a := by
  have hvalue : (c.view n v decode tx l).1 = .ok a ↔
      ((l.call? n (.view c.bridge v tx.bytes)).1.bind bytes?).bind decode = some a := by
    rw [view_eq]
    cases ((l.call? n (.view c.bridge v tx.bytes)).1.bind bytes?).bind decode <;> simp
  rw [hvalue]
  simp only [Option.bind_eq_some_iff, Line.call?_eq_some_iff, bytes?_eq_some_iff,
    Line.result?_eq_some_iff, Reply.Carries]
  constructor
  · rintro ⟨raw, ⟨_, ⟨json, answers, noError, result⟩, s, rfl, digits⟩, decoded⟩
    exact ⟨raw, ⟨json, s, answers, noError, result, digits⟩, decoded⟩
  · rintro ⟨raw, ⟨json, s, answers, noError, result, digits⟩, decoded⟩
    exact ⟨raw, ⟨_, ⟨json, answers, noError, result⟩, s, rfl, digits⟩, decoded⟩

/-- A reply to a read carries no data that is a value of the read. -/
def Client.Unread (v : ContractView) (decode : Bytes → Option α) (tx : TransferId) (l : Line ν) :
    Prop :=
  ∀ raw, (l.reply n (.view c.bridge v tx.bytes)).Carries raw → decode raw = none

/-- A read fails exactly if the reply carries no value, and the fault names the read. -/
theorem view_eq_error_iff {cause : ReadFault} :
    (c.view n v decode tx l).1 = .error cause ↔
      c.Unread n v decode tx l ∧ cause = .noAnswer v tx := by
  have hunread : c.Unread n v decode tx l ↔ ∀ a, (c.view n v decode tx l).1 ≠ .ok a := by
    simp only [Client.Unread, ne_eq, view_eq_ok_iff, not_exists, not_and]
    constructor
    · intro h a raw carries decoded
      cases (h raw carries).symm.trans decoded
    · intro h raw carries
      exact Option.eq_none_iff_forall_ne_some.mpr fun a => h a raw carries
  rw [hunread, view_eq]
  cases ((l.call? n (.view c.bridge v tx.bytes)).1.bind bytes?).bind decode with
  | none => simpa using eq_comm
  | some a => simp

end Reads

/-! ## Methods of the node -/

section Passing

variable {method : NodeMethod} {params : List String} {l : Line ν}

/-- The line that has given a number away. -/
def Line.numbered (l : Line ν) : Line ν :=
  { l with nextId := l.nextId + 1 }

/-- The request that passes something on. -/
def Line.passing (l : Line ν) (method : NodeMethod) (params : List String) : Request :=
  .pass l.nextId method params

/-- What a client makes of the reply to what it passes on. -/
def Reply.judged (method : NodeMethod) : Reply → Except SubmitFault Unit
  | .refused => .error (.unreachable method)
  | .response status body =>
    if Http.isSuccess status then Client.judge method body
    else .error (.badStatus method (Http.statusText status) (Client.bodyText body))

theorem pass_eq : Client.pass n method params l =
    ((l.reply n (l.passing method params)).judged method,
      (l.numbered.exchange n (l.passing method params)).2) := by
  have hreply : (l.numbered.exchange n (l.passing method params)).1 =
      l.reply n (l.passing method params) := Line.reply_exchange n _ _
  have hexchange : ({ l with nextId := l.nextId + 1 } : Line ν).exchange n
      (.pass l.nextId method params) = l.numbered.exchange n (l.passing method params) := rfl
  unfold Client.pass
  dsimp only
  rw [← hreply, hexchange]
  rcases l.numbered.exchange n (l.passing method params) with ⟨reply, after⟩
  cases reply with
  | refused => rfl
  | response status body => cases success : Http.isSuccess status <;> simp [Reply.judged, success]

/-- A text that is sent without a mark is read as it stands. -/
theorem bodyText_toUTF8 {s : String} (unmarked : s.toList.head? ≠ some '\uFEFF') :
    Client.bodyText s.toUTF8 = s := by
  rw [Client.bodyText, Text.toList_toUTF8, Text.utf8, Text.dropMark_utf8Chars unmarked,
    Text.lossy_utf8Chars, String.ofList_toList]

/-- What a node says with a status that is no success is kept. -/
theorem pass_of_status {status : Nat} {s : String}
    (reply : l.reply n (l.passing method params) = .response status s.toUTF8)
    (failure : Http.isSuccess status = false) (unmarked : s.toList.head? ≠ some '\uFEFF') :
    (Client.pass n method params l).1 =
      .error (.badStatus method (Http.statusText status) s) := by
  rw [pass_eq, reply, Reply.judged, failure, bodyText_toUTF8 unmarked]
  rfl

theorem judge_eq_ok_iff {body : ByteArray} :
    Client.judge method body = .ok () ↔
      ∃ json, Json.parseUtf8 body = some json ∧ ¬Reply.ReportsError json := by
  unfold Client.judge Reply.ReportsError
  cases Json.parseUtf8 body with
  | none => simp
  | some json =>
    cases herror : json.get? "error" with
    | none => simp [herror, Json.isNull]
    | some error => cases hnull : error.isNull <;> simp [herror, hnull]

/-- What is passed on is taken exactly if the reply is a success, in JSON and without an error. -/
theorem pass_eq_ok_iff :
    (Client.pass n method params l).1 = .ok () ↔
      ∃ json, (l.reply n (l.passing method params)).Answers json ∧ ¬Reply.ReportsError json := by
  rw [pass_eq]
  cases l.reply n (l.passing method params) with
  | refused => simp [Reply.judged, Reply.Answers]
  | response status body =>
    cases success : Http.isSuccess status <;>
      simp [Reply.judged, Reply.Answers, success, judge_eq_ok_iff]

/-- What is passed on fails exactly if the reply does. -/
theorem pass_eq_error_iff :
    (∃ cause, (Client.pass n method params l).1 = .error cause) ↔
      (l.reply n (l.passing method params)).Fails := by
  rw [Reply.fails_iff, ← pass_eq_ok_iff]
  rcases (Client.pass n method params l).1 with cause | _ <;> simp

end Passing

/-! ## Signed transactions -/

namespace SignedCall

/-- The request for one thing that a transaction needs. -/
def asking (call : SignedCall) (what : Preparation) : Request :=
  .prepare call.signer call.target call.data what

/-- The line behind the requests for some things that a transaction needs. -/
def behind (call : SignedCall) (whats : List Preparation) (l : Line ν) : Line ν :=
  whats.foldl (fun l what => (l.exchange n (call.asking what)).2) l

/-- A node takes a transaction: it tells the chain, the nonce and the gas that stand in it, and what
the fees are, and names the transaction once it has been sent. -/
structure Taken (call : SignedCall) (l : Line ν) (sent : TransferId) : Prop where
  chainId : (l.reply n (call.asking .chainId)).Tells quantity? call.chainId
  nonce : ((call.behind n [.chainId] l).reply n (call.asking .nonce)).Tells quantity? call.nonce
  gas : ((call.behind n [.chainId, .nonce] l).reply n (call.asking .gas)).Tells quantity? call.gas
  fees : ∃ value, ((call.behind n [.chainId, .nonce, .gas] l).reply n (call.asking .fees)).Tells
    some value
  sent : ((call.behind n [.chainId, .nonce, .gas, .fees] l).reply n (.send call)).Tells
    Client.receipt? sent

end SignedCall

section Signing

variable (c : Client) {action : ContractAction} {tx : TransferId} {data : Bytes} {l : Line ν}
  {signer : Address} {sent : TransferId}

/-- A client makes a call of the contract in a transaction: it has an address to sign for, and the
node takes what is signed. -/
def Client.Signs (action : ContractAction) (tx : TransferId) (data : Bytes) (l : Line ν)
    (sent : TransferId) : Prop :=
  ∃ signer, c.signerAddress? = some signer ∧ ∃ chainId nonce gas,
    SignedCall.Taken n ⟨signer, c.bridge, callData action tx data, chainId, nonce, gas⟩ l sent

theorem prepareNat_eq {what : Preparation} : c.prepareNat n signer data what l =
    ((l.call? n (.prepare signer c.bridge data what)).1.bind quantity?,
      (l.exchange n (.prepare signer c.bridge data what)).2) := by
  rw [← Line.line_call?]
  rfl

/-- A transaction is sent exactly if the node takes it with what the node itself has told before. -/
theorem sendSigned_eq_some_iff :
    (c.sendSigned n signer data l).1 = some sent ↔ ∃ chainId nonce gas,
      SignedCall.Taken n ⟨signer, c.bridge, data, chainId, nonce, gas⟩ l sent := by
  -- what is asked next does not depend on what has been told, only its line does
  let ask (what : Preparation) : Request := .prepare signer c.bridge data what
  let l₁ := (l.exchange n (ask .chainId)).2
  let l₂ := (l₁.exchange n (ask .nonce)).2
  let l₃ := (l₂.exchange n (ask .gas)).2
  let l₄ := (l₃.exchange n (ask .fees)).2
  have hfees : c.prepare n signer data .fees l₃ = ((l₃.call? n (ask .fees)).1, l₄) :=
    congrArg (Prod.mk _) (Line.line_call? n _ l₃)
  have hchain : (c.sendSigned n signer data l).1 =
      ((l.call? n (ask .chainId)).1.bind quantity?).bind fun chainId =>
        ((l₁.call? n (ask .nonce)).1.bind quantity?).bind fun nonce =>
          ((l₂.call? n (ask .gas)).1.bind quantity?).bind fun gas =>
            ((l₃.call? n (ask .fees)).1.bind some).bind fun _ =>
              (l₄.call? n (.send ⟨signer, c.bridge, data, chainId, nonce, gas⟩)).1.bind
                Client.receipt? := by
    simp only [Client.sendSigned, prepareNat_eq]
    cases (l.call? n (ask .chainId)).1.bind quantity? with
    | none => rfl
    | some chainId =>
      dsimp only [Option.bind_some]
      cases (l₁.call? n (ask .nonce)).1.bind quantity? with
      | none => rfl
      | some nonce =>
        dsimp only [Option.bind_some]
        cases (l₂.call? n (ask .gas)).1.bind quantity? with
        | none => rfl
        | some gas =>
          dsimp only [Option.bind_some]
          rw [hfees]
          cases (l₃.call? n (ask .fees)).1 <;> rfl
  rw [hchain]
  simp only [Option.bind_eq_some_iff, ↓Line.call?_bind_eq_some_iff]
  constructor
  · rintro ⟨chainId, hchainId, nonce, hnonce, gas, hgas, value, hfees, hsent⟩
    exact ⟨chainId, nonce, gas, hchainId, hnonce, hgas, ⟨value, hfees⟩, hsent⟩
  · rintro ⟨chainId, nonce, gas, taken⟩
    obtain ⟨value, hfees⟩ := taken.fees
    exact ⟨chainId, taken.chainId, nonce, taken.nonce, gas, taken.gas, value, hfees, taken.sent⟩

/-- With an address to sign for, what is made of a transaction is whether it has been sent. -/
theorem act_of_signer (h : c.signerAddress? = some signer) :
    (c.act n action tx data l).1 =
      match (c.sendSigned n signer (Client.callData action tx data) l).1 with
      | some sent => .ok sent
      | none => .error (.notSent action tx) := by
  simp only [Client.act, h]
  rcases c.sendSigned n signer (Client.callData action tx data) l with ⟨_ | sent, after⟩ <;> rfl

theorem act_of_no_signer (h : c.signerAddress? = none) :
    c.act n action tx data l = (.error .noSigner, l) := by
  rw [Client.act, h]

theorem act_eq_ok_iff :
    (c.act n action tx data l).1 = .ok sent ↔ c.Signs n action tx data l sent := by
  unfold Client.Signs
  cases h : c.signerAddress? with
  | none => simp [act_of_no_signer n c h]
  | some signer =>
    simp only [Option.some.injEq, exists_eq_left', ← sendSigned_eq_some_iff, act_of_signer n c h]
    cases (c.sendSigned n signer (Client.callData action tx data) l).1 <;> simp

/-- No transaction is made if there is no address to sign for, or if the node does not take it, and
the fault says which. -/
theorem act_eq_error_iff {cause : SubmitFault} :
    (c.act n action tx data l).1 = .error cause ↔
      (∀ sent, ¬c.Signs n action tx data l sent) ∧
        cause = if c.signerAddress? = none then .noSigner else .notSent action tx := by
  simp only [← act_eq_ok_iff]
  cases h : c.signerAddress? with
  | none => simpa [act_of_no_signer n c h] using eq_comm
  | some signer =>
    simp only [act_of_signer n c h]
    cases (c.sendSigned n signer (Client.callData action tx data) l).1 with
    | none => simpa using eq_comm
    | some sent => simp

end Signing

end Node

end TransferRelay
