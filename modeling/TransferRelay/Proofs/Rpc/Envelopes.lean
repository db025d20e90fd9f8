import TransferRelay.Chain.Ledger
import TransferRelay.Http.Service
import TransferRelay.Proofs.Chain.Endings
import TransferRelay.Proofs.Rpc.Handling

/-!
# One envelope for each request

Whatever a client sends, it gets one envelope with the members that a client looks for, and with its
own identifier: `wellFormed_answer`. The results of all methods are other than null, so of the
members `error` and `result` always one and only one is null (`wellFormed_json`).
-/

namespace TransferRelay

variable {σ : Type}

namespace Json

/-- A value is an object with these names and no others. -/
def HasNames (names : List String) (j : Json) : Prop :=
  ∃ members, j = .obj members ∧ members.map Prod.fst = names

theorem ne_null_of_isNull {j : Json} (h : j.isNull = false) : j ≠ .null := by
  rintro rfl
  cases h

end Json

namespace Rpc

/-! ## Results are other than null -/

/-- What a method gives is not null. -/
theorem gives_perform (invocation : Invocation) :
    Task.Gives (fun j => j.isNull = false) invocation.perform := by
  cases invocation with
  | encodeWithdraw request => exact Task.gives_pure rfl
  | _ => exact Task.gives_bind fun _ => Task.gives_pure rfl

theorem gives_call (m : Method) (params : Json) :
    Task.Gives (fun j => j.isNull = false) (m.call params) :=
  Task.gives_bind gives_perform

/-! ## Envelopes -/

namespace Envelope

/-- An envelope answers a request under its identifier, and a result is not null. -/
structure Answers (id : Json) (e : Envelope) : Prop where
  id : e.id = id
  result : ∀ j, e.answer = .ok j → j.isNull = false

theorem get?_of_ok {e : Envelope} {result : Json} (h : e.answer = .ok result) :
    e.json.get? "error" = some .null ∧ e.json.get? "result" = some result := by
  rw [json, h]
  exact ⟨rfl, rfl⟩

theorem get?_of_error {e : Envelope} {refusal : Refusal} (h : e.answer = .error refusal) :
    e.json.get? "error" = some (errorJson refusal) ∧ e.json.get? "result" = some .null := by
  rw [json, h]
  exact ⟨rfl, rfl⟩

end Envelope

/-- A value is an answer as clients expect it. -/
structure WellFormed (id answer : Json) : Prop where
  names : answer.HasNames ["error", "id", "jsonrpc", "result"]
  version : answer.get? "jsonrpc" = some (.str "2.0")
  id : answer.get? "id" = some id
  /-- One of the error and the result is null, and the other is not. -/
  exclusive : answer.get? "error" = some .null ↔ answer.get? "result" ≠ some .null
  /-- An error has a whole code and a text. -/
  error : ∀ j, answer.get? "error" = some j → j ≠ .null →
    j.HasNames ["code", "message"] ∧
      (∃ code range, j.get? "code" = some (.num (.whole code range))) ∧
      ∃ message, j.get? "message" = some (.str message)

/-- An envelope is written with all its members, whatever it answers. -/
theorem Envelope.Answers.wellFormed_json {id : Json} {e : Envelope} (h : e.Answers id) :
    WellFormed id e.json := by
  have hid : e.json.get? "id" = some e.id := by
    unfold Envelope.json
    split <;> rfl
  have hversion : e.json.get? "jsonrpc" = some (.str "2.0") := by
    unfold Envelope.json
    split <;> rfl
  have hnames : e.json.HasNames ["error", "id", "jsonrpc", "result"] := by
    unfold Envelope.json
    split <;> exact ⟨_, rfl, rfl⟩
  have hid' : e.json.get? "id" = some id := hid.trans (congrArg some h.id)
  cases hanswer : e.answer with
  | ok result =>
    obtain ⟨herror, hresult⟩ := get?_of_ok hanswer
    have hne : result ≠ .null := Json.ne_null_of_isNull (h.result result hanswer)
    refine ⟨hnames, hversion, hid', ?_, ?_⟩
    · rw [herror, hresult]
      exact ⟨fun _ heq => hne (Option.some.inj heq), fun _ => rfl⟩
    · intro j hj hnull
      rw [herror] at hj
      exact absurd (Option.some.inj hj).symm hnull
  | error refusal =>
    obtain ⟨herror, hresult⟩ := get?_of_error hanswer
    refine ⟨hnames, hversion, hid', ?_, ?_⟩
    · rw [herror, hresult]
      exact ⟨(nomatch Option.some.inj ·), fun hne => absurd rfl hne⟩
    · intro j hj _
      rw [herror] at hj
      obtain rfl := Option.some.inj hj
      exact ⟨⟨_, rfl, rfl⟩, ⟨refusal.code, refusal.code_range, rfl⟩, refusal.message, rfl⟩

/-! ## Requests -/

/-- A request is answered under its identifier. -/
theorem ends_handle (request : Json) :
    (handle request).Ends (Envelope.Answers (requestId request)) := by
  rcases refused_or_served request with ⟨name, refusal, hrefused⟩ | ⟨m, hserved⟩
  · rw [hrefused]
    exact .count (.done ⟨rfl, nofun⟩)
  · rw [hserved]
    refine Plan.Ends.bind (gives_call m (requestParams request)) fun r hr => ?_
    cases r with
    | error fault => exact .count (.done ⟨rfl, nofun⟩)
    | ok result => exact .count (.done ⟨rfl, fun j hj => Except.ok.inj hj ▸ hr result rfl⟩)

end Rpc

namespace Http

/-- The identifier of the request in a body, null if there is none. -/
def bodyId (body : ByteArray) : Json :=
  ((Json.parseUtf8 body).bind (Json.get? "id")).getD .null

/-- A body is answered under the identifier of the request in it. -/
theorem ends_answerRpc (body : ByteArray) :
    (answerRpc body).Ends (Rpc.Envelope.Answers (bodyId body)) := by
  unfold answerRpc bodyId
  cases Json.parseUtf8 body with
  | none => exact .count (.done ⟨rfl, nofun⟩)
  | some request => exact Rpc.ends_handle request

/-- What is posted to the root is answered with an envelope. -/
theorem handle_post {r : Request} (post : r.method = "POST") (root : r.resource? = some .rpc)
    (size : r.body.size ≤ maxBody) (d : Deployment σ) (uptime : Nat) (w : World σ) :
    handle d uptime r w =
      (ok jsonType (.json ((answerRpc r.body).complete d w).1.json),
        ((answerRpc r.body).complete d w).2) := by
  have hmethod : r.method ∈ Resource.rpc.methods := by
    rw [post]
    exact List.mem_cons_self
  have hroute : r.route = .rpc r.body := by
    simp only [Request.route, root, if_pos hmethod, if_pos size]
  have hhead : ¬ r.method = "HEAD" := by
    rw [post]
    decide
  simp only [handle, hroute, if_neg hhead]
  rfl

end Http

/-- **One well-formed envelope for each request.** Whatever is dispatched, and whatever is posted to
the root of the service within the limit of a body, is answered with one envelope under the
identifier of the request. -/
theorem Rpc.wellFormed_answer (d : Deployment σ) (w : World σ) :
    (∀ request : Json,
      WellFormed ((request.get? "id").getD .null) ((handle request).complete d w).1.json) ∧
    ∀ (uptime : Nat) (r : Http.Request), r.method = "POST" → r.resource? = some .rpc →
      r.body.size ≤ Http.maxBody →
      (Http.handle d uptime r w).1.status = 200 ∧
        ∃ answer, (Http.handle d uptime r w).1.body = .json answer ∧
          WellFormed (((Json.parseUtf8 r.body).bind (Json.get? "id")).getD .null) answer := by
  constructor
  · intro request
    exact ((ends_handle request).complete d w).wellFormed_json
  · intro uptime r post root size
    rw [Http.handle_post post root size]
    exact ⟨rfl, _, rfl, ((Http.ends_answerRpc r.body).complete d w).wellFormed_json⟩

/-- The body `{"id":[7]}` names no method, and its refusal has the identifier of the body. -/
theorem Rpc.wellFormed_answer_of_body_without_method :
    let id : Json := .arr [.num (.whole 7 (by decide))]
    let r : Http.Request :=
      ⟨"POST", "/", ⟨#[0x7b, 0x22, 0x69, 0x64, 0x22, 0x3a, 0x5b, 0x37, 0x5d, 0x7d]⟩⟩
    let d : Deployment Ledger := ⟨Ledger.answer, fun _ => true, 8⟩
    let w : World Ledger := .initial .empty
    r.method = "POST" ∧ r.resource? = some .rpc ∧ r.body.size ≤ Http.maxBody ∧
      (Http.handle d 0 r w).1.status = 200 ∧
      ∃ answer, (Http.handle d 0 r w).1.body = .json answer ∧ WellFormed id answer := by
  have parsed : Json.parseUtf8
      ⟨#[0x7b, 0x22, 0x69, 0x64, 0x22, 0x3a, 0x5b, 0x37, 0x5d, 0x7d]⟩ =
        some (.obj [("id", .arr [.num (.whole 7 (by decide))])]) := rfl
  intro id r d w
  have root : r.resource? = some .rpc := by decide
  have size : r.body.size ≤ Http.maxBody := by decide
  have own : ((Json.parseUtf8 r.body).bind (Json.get? "id")).getD .null = id := by
    rw [parsed]
    rfl
  obtain ⟨status, answer, body, wellFormed⟩ := (wellFormed_answer d w).2 0 r rfl root size
  exact ⟨rfl, root, size, status, answer, body, own ▸ wellFormed⟩

end TransferRelay
