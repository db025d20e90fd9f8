import Mathlib.Algebra.BigOperators.Group.List.Basic
import Mathlib.Data.List.Forall2
import Mathlib.Data.List.Nodup
import TransferRelay.Proofs.Chain.Booking
import TransferRelay.Proofs.Metrics.Exposition
import TransferRelay.Proofs.Rpc.Calling
import TransferRelay.Proofs.Rpc.InputFaults
import TransferRelay.Proofs.Session.Keeping
import TransferRelay.Session.Basic

/-!
# Every request is counted once

A request is counted at the end, by whoever answers it: the dispatch of requests under the name of
its method, or the server if its body is no JSON. `Counts` lists the labels under which an operation
is counted, read off what was asked and how it was answered; `Session.counted_once` says that every
step of a session counts what it lists and nothing else, and that the totals which the service
publishes are the number of requests that it was sent.
-/

namespace TransferRelay

variable {σ α : Type} {d : Deployment σ} {counts : Component → Bool}

/-! ## Labels -/

namespace Rpc

/-- The name under which a request is to be counted: that of the method it asks for, if the service
has it. -/
inductive NamedAs (request : Json) : RequestName → Prop
  | served {m : Method} (method : request.get? "method" = some (.str m.name)) :
      NamedAs request (.served m)
  | unknown {name : String} (method : request.get? "method" = some (.str name))
      (other : ∀ m : Method, m.name ≠ name) : NamedAs request .unknown
  | invalid (method : ∀ name, request.get? "method" ≠ some (.str name)) : NamedAs request .invalid

/-- A request is counted under its name. -/
theorem namedAs_countedName (request : Json) : NamedAs request (countedName request) := by
  unfold countedName
  split
  · next method =>
    refine .invalid fun name h => ?_
    rw [requestMethod?_eq_some_iff.mpr h] at method
    cases method
  · next name method =>
    have method := requestMethod?_eq_some_iff.mp method
    split
    · next other =>
      refine .unknown method fun m hm => ?_
      have hmem : m ∈ Method.all := by cases m <;> decide
      exact List.find?_eq_none.mp other m hmem (beq_iff_eq.mpr hm)
    · next m served =>
      obtain rfl := name_of_served served
      exact .served method

/-- The code under which clients are told of an outcome. -/
def Outcome.code? : Outcome → Option Int
  | .ok => none
  | .parseError => some (-32700)
  | .invalidRequest => some (-32600)
  | .methodNotFound => some (-32601)
  | .fault kind => some kind.code

/-- How an answer ended: well if its error is null, and otherwise as the code of its error says. -/
def EndsAs (answer : Json) (outcome : Outcome) : Prop :=
  match outcome.code? with
  | none => answer.get? "error" = some .null
  | some code => errorCode? answer = some code

theorem Outcome.mem_all (o : Outcome) : o ∈ Outcome.all := by
  obtain _ | _ | _ | _ | kind := o
  iterate 4 decide
  cases kind <;> decide

theorem Outcome.eq_of_code? {o o' : Outcome} (h : o.code? = o'.code?) : o = o' := by
  have hall : ∀ o ∈ Outcome.all, ∀ o' ∈ Outcome.all, o.code? = o'.code? → o = o' := by decide
  exact hall o o.mem_all o' o'.mem_all h

/-- An answer has ended in one way. -/
theorem EndsAs.unique {answer : Json} {o o' : Outcome} (h : EndsAs answer o)
    (h' : EndsAs answer o') : o = o' := by
  have hnull : answer.get? "error" = some .null → errorCode? answer = none := by
    intro herror
    rw [errorCode?, herror]
    rfl
  unfold EndsAs at h h'
  apply Outcome.eq_of_code?
  cases hcode : o.code? with
  | none =>
    cases hcode' : o'.code? with
    | none => rfl
    | some code' =>
      rw [hcode] at h
      rw [hcode', hnull h] at h'
      cases h'
  | some code =>
    rw [hcode] at h
    cases hcode' : o'.code? with
    | none =>
      rw [hcode'] at h'
      rw [hnull h'] at h
      cases h
    | some code' =>
      rw [hcode'] at h'
      exact h.symm.trans h'

/-- An envelope ends as it is counted. -/
theorem endsAs_counted (e : Envelope) : EndsAs e.json (counted e.answer) := by
  cases hanswer : e.answer with
  | ok result => exact (Envelope.get?_of_ok hanswer).1
  | error refusal =>
    have hcode : errorCode? e.json = some refusal.code := by
      rw [errorCode?, (Envelope.get?_of_error hanswer).1]
      rfl
    cases refusal <;> exact hcode

end Rpc

/-! ## Plans -/

/-- The requests counted under one label. -/
def Book.label (name : Rpc.RequestName) (outcome : Rpc.Outcome) : Book :=
  .ofCounters (fun m => m.count (.request name outcome)) (fun s => one (.request name outcome = s))
    fun s m => count_bump s _ m

/-- Labels under which requests are counted. -/
abbrev Labels := List (Rpc.RequestName × Rpc.Outcome)

namespace Book.label

variable {name : Rpc.RequestName} {outcome : Rpc.Outcome}

/-- Counting a request under a label. -/
theorem entry_request (component : Component) (on : counts component = true)
    (name' : Rpc.RequestName) (outcome' : Rpc.Outcome) :
    (label name outcome).entry counts component (.request name' outcome') =
      (([(name', outcome')] : Labels).count (name, outcome) : Int) := by
  rw [entry, if_pos on]
  show one (decide (Series.request name outcome = .request name' outcome')) = _
  by_cases h : (name', outcome') = (name, outcome)
  · injection h with hname houtcome
    subst hname houtcome
    rw [List.count_singleton_self, decide_eq_true rfl]
    rfl
  · have hne : Series.request name outcome ≠ .request name' outcome' := by
      rintro heq
      injection heq with hname houtcome
      exact h (by rw [hname, houtcome])
    rw [List.count_singleton, if_neg (by simpa using h), decide_eq_false hne]
    rfl

/-- Nothing else counts under a label. -/
theorem entry_other (component : Component) {s : Series}
    (other : ∀ name' outcome', s ≠ .request name' outcome') :
    (label name outcome).entry counts component s = 0 := by
  unfold entry
  split
  · show one (decide (Series.request name outcome = s)) = 0
    rw [decide_eq_false fun h => other _ _ h.symm]
    rfl
  · rfl

theorem even_count {component : Component} {s : Series} {p : Plan α}
    (other : ∀ name' outcome', s ≠ .request name' outcome')
    (hp : p.Even (label name outcome) counts) :
    (Plan.count component s p).Even (label name outcome) counts := by
  refine .count ?_
  rw [entry_other component other]
  exact hp

theorem even_ofLedgerRead (r : Except ReadFault α) :
    (Task.ofLedgerRead r).run.Even (label name outcome) counts := by
  cases r with
  | error cause => exact even_count nofun (.done rfl)
  | ok a => exact .done rfl

theorem even_completionFlags (txs : List TransferId) :
    (Task.completionFlags txs).run.Even (label name outcome) counts :=
  .flags fun r => by
    have hread : (label name outcome).ofRead r = 0 := by cases r <;> rfl
    rw [hread]
    exact even_ofLedgerRead r

/-- What methods are made of counts no request. -/
theorem closed : Task.Closed fun _ x => x.run.Even (label name outcome) counts where
  pure a := .done rfl
  fail fault := .done rfl
  bind hx hf := by
    refine Plan.Posts.bind hx fun r => ?_
    cases r with
    | error fault => exact .done rfl
    | ok a => exact hf a
  isCompleted tx := .call fun read => even_ofLedgerRead read
  rechargeData tx := .call fun read => by cases read <;> exact .done rfl
  withdrawData tx := .call fun read => by cases read <;> exact .done rfl

theorem even_process (t : Transfer) : t.process.run.Even (label name outcome) counts :=
  t.process_of_passes (fun _ => .done rfl) (fun rest => .call rest) even_count
    (fun rest => .notify rest)

/-- A request brings one to its own label. -/
theorem handle (requests : counts .requests = true) (request : Json) :
    (Rpc.handle request).Posts (label name outcome) counts
      (fun e => ([(Rpc.countedName request, Rpc.counted e.answer)] : Labels).count (name, outcome))
      0 := by
  have hresolve : (Rpc.resolve request).Even (label name outcome) counts := by
    refine Rpc.resolve_cases (fun refusal => .done rfl) fun m method => ?_
    refine Plan.Posts.bind (f := fun _ => 0) ?_ fun r => .done rfl
    exact closed.call (fun _ => even_completionFlags) (fun t _ => even_process t) _
  rw [Rpc.handle_eq]
  refine Plan.Posts.bind hresolve fun r => ?_
  rw [Rpc.answer_eq]
  refine .count (.done ?_)
  rw [entry_request .requests requests, Int.zero_add]

end Book.label

namespace Http

/-- The name under which a body is counted. -/
def countedName (body : ByteArray) : Rpc.RequestName :=
  match Json.parseUtf8 body with
  | some request => Rpc.countedName request
  | none => .invalid

/-- A body brings one to its own label. -/
theorem posts_answerRpc {name : Rpc.RequestName} {outcome : Rpc.Outcome}
    (requests : counts .requests = true) (server : counts .server = true) (body : ByteArray) :
    (answerRpc body).Posts (.label name outcome) counts
      (fun e => ([(countedName body, Rpc.counted e.answer)] : Labels).count (name, outcome)) 0 := by
  unfold answerRpc countedName
  cases Json.parseUtf8 body with
  | some request => exact Book.label.handle requests request
  | none =>
    refine .count (.done ?_)
    rw [Book.label.entry_request .server server, Int.zero_add]
    rfl

/-- The name under which a body is to be counted. -/
def NamedAs (body : ByteArray) (name : Rpc.RequestName) : Prop :=
  match Json.parseUtf8 body with
  | some request => Rpc.NamedAs request name
  | none => name = .invalid

theorem namedAs_countedName (body : ByteArray) : NamedAs body (countedName body) := by
  unfold NamedAs countedName
  cases Json.parseUtf8 body with
  | some request => exact Rpc.namedAs_countedName request
  | none => rfl

/-- Something posted to the root of the service within the limit of a body. -/
def Request.Posted (r : Request) : Prop :=
  r.method = "POST" ∧ r.resource? = some .rpc ∧ r.body.size ≤ maxBody

instance (r : Request) : Decidable r.Posted :=
  inferInstanceAs (Decidable (_ ∧ _ ∧ _))

/-- Nothing but what is posted to the root does anything. -/
theorem handle_of_not_posted {r : Request} (other : ¬ r.Posted) (d : Deployment σ) (uptime : Nat)
    (w : World σ) : (handle d uptime r w).2 = w := by
  show (r.route.handle d uptime w).2 = w
  cases hroute : r.route with
  | rpc body =>
    -- this route is taken by what is posted only
    refine absurd ?_ other
    unfold Request.route at hroute
    split at hroute
    · cases hroute
    · rename_i resource hresource
      split at hroute
      · rename_i hmethod
        cases resource with
        | rpc =>
          dsimp only at hroute
          split at hroute
          · rename_i hsize
            exact ⟨List.mem_singleton.mp hmethod, hresource, hsize⟩
          · cases hroute
        | _ => cases hroute
      · cases hroute
  | _ => rfl

end Http

/-! ## Operations -/

namespace Operation

/-- The labels under which an operation is counted that is answered with a result. -/
inductive Counts : Operation → Result → Labels → Prop
  /-- A request is counted under its name, and as it ends. -/
  | request {r : Json} {e : Rpc.Envelope} {name : Rpc.RequestName} {outcome : Rpc.Outcome}
      (named : Rpc.NamedAs r name) (ends : Rpc.EndsAs e.json outcome) :
      Counts (.request r) (.envelope e) [(name, outcome)]
  /-- A race is counted once for each of its requests. -/
  | race {rs : List Json} {es : List Rpc.Envelope} {names : List Rpc.RequestName}
      {outcomes : List Rpc.Outcome} (answered : es.length = rs.length)
      (named : List.Forall₂ Rpc.NamedAs rs names)
      (ends : List.Forall₂ (fun (e : Rpc.Envelope) outcome => Rpc.EndsAs e.json outcome) es
        outcomes) :
      Counts (.race rs) (.envelopes es) (names.zip outcomes)
  /-- What is posted is counted under the name of the request in its body. -/
  | posted {r : Http.Request} {response : Http.Response} {answer : Json} {name : Rpc.RequestName}
      {outcome : Rpc.Outcome} (posted : r.Posted) (named : Http.NamedAs r.body name)
      (body : response.body = .json answer) (ends : Rpc.EndsAs answer outcome) :
      Counts (.http r) (.response response) [(name, outcome)]
  /-- Other requests to the server are not counted. -/
  | other {r : Http.Request} {response : Http.Response} (other : ¬ r.Posted) :
      Counts (.http r) (.response response) []
  /-- Nothing is counted of what is no request. -/
  | direct {op : Operation} {result : Result} (direct : op.isDirect = true) : Counts op result []

/-- The number of requests that an operation is. -/
def requestCount : Operation → Nat
  | .request _ => 1
  | .race rs => rs.length
  | .http r => if r.Posted then 1 else 0
  | _ => 0

theorem Counts.length {op : Operation} {result : Result} {labels : Labels}
    (h : Counts op result labels) : labels.length = op.requestCount := by
  cases h with
  | request named ends => rfl
  | @race rs es names outcomes answered named ends =>
    have hnames := named.length_eq
    have houtcomes := ends.length_eq
    rw [List.length_zip]
    show min names.length outcomes.length = rs.length
    omega
  | posted posted named body ends => exact (if_pos posted).symm
  | other other => exact (if_neg other).symm
  | direct direct => cases op <;> first | rfl | cases direct

/-- By the book of a label, the balance is what is counted under it. -/
theorem balance_label (name : Rpc.RequestName) (outcome : Rpc.Outcome) (w : World σ) :
    (Book.label name outcome).balance w = w.metrics.count (.request name outcome) := by
  have hnone : (w.log.map (Book.label name outcome).event).sum = 0 :=
    Book.sum_event_ofCounters _ w.log
  rw [Book.balance, hnone]
  show (w.metrics.count (.request name outcome) : Int) + 0 + w.notices.length * 0 = _
  omega

/-- What plans count that race, one label for each. -/
theorem worth_labels (name : Rpc.RequestName) (outcome : Rpc.Outcome) (rs : List Json)
    (es : List Rpc.Envelope) :
    Plan.worth (rs.map fun r e =>
        ([(Rpc.countedName r, Rpc.counted e.answer)] : Labels).count (name, outcome)) es =
      ((rs.map Rpc.countedName).zip (es.map fun e => Rpc.counted e.answer)).count
        (name, outcome) := by
  induction rs generalizing es with
  | nil => rfl
  | cons r rs ih =>
    cases es with
    | nil => rfl
    | cons e es =>
      have hcons : ∀ (first : Rpc.RequestName × Rpc.Outcome) (rest : Labels),
          (first :: rest).count (name, outcome) =
            [first].count (name, outcome) + rest.count (name, outcome) :=
        fun first rest => show ([first] ++ rest).count (name, outcome) = _ from List.count_append
      have hrest := ih es
      rw [List.map_cons, List.map_cons, List.map_cons, List.zip_cons_cons, Plan.worth, hrest]
      have hcount := hcons (Rpc.countedName r, Rpc.counted e.answer)
        ((rs.map Rpc.countedName).zip (es.map fun e => Rpc.counted e.answer))
      omega

/-- **An operation counts what its labels list**, and no request beside. -/
theorem exists_counts (requests : d.counts .requests = true) (server : d.counts .server = true)
    (op : Operation) (w : World σ) :
    ∃ labels, Counts op (op.run d w).1 labels ∧ ∀ name outcome,
      (op.run d w).2.metrics.count (.request name outcome) =
        w.metrics.count (.request name outcome) + labels.count (name, outcome) := by
  -- a plan counts what it posts by the book of each label
  have hcomplete : ∀ {α : Type} (p : Plan α) (labels : α → Labels),
      (∀ name outcome, p.Posts (.label name outcome) d.counts
        (fun a => (labels a).count (name, outcome)) 0) → ∀ name outcome,
      (p.complete d w).2.metrics.count (.request name outcome) =
        w.metrics.count (.request name outcome) +
          (labels (p.complete d w).1).count (name, outcome) := by
    intro α p labels posts name outcome
    have hbalance := (posts name outcome).complete w
    rw [balance_label, balance_label] at hbalance
    omega
  by_cases direct : op.isDirect = true
  · have closed : Task.Closed fun _ x => ∀ l : Rpc.RequestName × Rpc.Outcome,
        x.run.Even (.label l.1 l.2) d.counts := .all fun l => Book.label.closed
    obtain rfl | ⟨α, wrap, x, even, hrun⟩ := closed.operation
      (fun txs l => Book.label.even_completionFlags txs)
      (fun t _ l => Book.label.even_process t) direct
    · exact ⟨[], .direct rfl, fun name outcome => rfl⟩
    · rw [hrun]
      exact ⟨[], .direct direct, hcomplete _ (fun _ => []) fun name outcome => even (name, outcome)⟩
  · cases op with
    | request r =>
      exact ⟨_, .request (Rpc.namedAs_countedName r) (Rpc.endsAs_counted _),
        hcomplete _ _ fun name outcome => Book.label.handle requests r⟩
    | http r =>
      by_cases posted : r.Posted
      · obtain ⟨post, root, size⟩ := posted
        show ∃ labels, Counts _ (.response (Http.handle d 0 r w).1) labels ∧ ∀ name outcome,
          (Http.handle d 0 r w).2.metrics.count _ = _
        rw [Http.handle_post post root size]
        exact ⟨_, .posted ⟨post, root, size⟩ (Http.namedAs_countedName r.body) rfl
            (Rpc.endsAs_counted _),
          hcomplete _ _ fun name outcome => Http.posts_answerRpc requests server r.body⟩
      · refine ⟨[], .other posted, fun name outcome => ?_⟩
        show (Http.handle d 0 r w).2.metrics.count _ = _
        rw [Http.handle_of_not_posted posted]
        rfl
    | race rs =>
      have hlength : (Plan.race d (rs.map Rpc.handle) w).1.length = rs.length := by
        rw [Plan.length_race, List.length_map]
      have hnamed : List.Forall₂ Rpc.NamedAs rs (rs.map Rpc.countedName) :=
        List.forall₂_map_right_iff.mpr (List.forall₂_same.mpr fun r _ => Rpc.namedAs_countedName r)
      refine ⟨_, .race hlength hnamed (List.forall₂_map_right_iff.mpr
        (List.forall₂_same.mpr fun e _ => Rpc.endsAs_counted e)), fun name outcome => ?_⟩
      have hall : Plan.AllPost (.label name outcome) d.counts _ 0 (rs.map Rpc.handle) :=
        Plan.allPost_map fun r _ => ⟨Book.label.handle requests r, .inl rfl⟩
      have hrace := hall.race w
      rw [worth_labels, balance_label, balance_label] at hrace
      show (Plan.race d (rs.map Rpc.handle) w).2.metrics.count _ = _
      omega
    | _ => exact absurd rfl direct

end Operation

/-! ## Totals -/

namespace Metrics

/-- All labels of requests. -/
def requestLabels : Labels :=
  Rpc.RequestName.all.flatMap fun name => Rpc.Outcome.all.map fun outcome => (name, outcome)

/-- Every label is one of all labels, and only once. -/
theorem count_requestLabels (label : Rpc.RequestName × Rpc.Outcome) :
    requestLabels.count label = 1 := by
  obtain ⟨name, outcome⟩ := label
  have hnodup : requestLabels.Nodup := by decide +kernel
  have hname : name ∈ Rpc.RequestName.all := by
    obtain m | _ | _ := name
    · cases m <;> decide
    · decide
    · decide
  refine List.count_eq_one_of_mem hnodup (List.mem_flatMap.mpr ⟨name, hname, ?_⟩)
  exact List.mem_map.mpr ⟨outcome, outcome.mem_all, rfl⟩

/-- Labels are as many as all labels together are counted among them. -/
theorem sum_count_eq_length (labels : Labels) :
    (requestLabels.map fun l => labels.count l).sum = labels.length := by
  induction labels with
  | nil => simp
  | cons label labels ih =>
    have hone : ∀ ls : Labels, (ls.map fun l => if label == l then 1 else 0).sum =
        ls.count label := by
      intro ls
      induction ls with
      | nil => rfl
      | cons l ls ih =>
        rw [List.map_cons, List.sum_cons, ih, List.count_cons, Nat.add_comm]
        by_cases h : l = label
        · subst h
          rfl
        · simp [h, Ne.symm h]
    simp only [List.count_cons]
    rw [List.sum_map_add, ih, hone, count_requestLabels]
    rfl

/-- The requests counted grow by the labels under which more are counted. -/
theorem totalRequests_of_labels {m m' : Metrics} {labels : Labels}
    (h : ∀ name outcome, m'.count (.request name outcome) =
      m.count (.request name outcome) + labels.count (name, outcome)) :
    m'.totalRequests = m.totalRequests + labels.length := by
  have htotal : ∀ m : Metrics, m.totalRequests =
      (requestLabels.map fun l => m.count (.request l.1 l.2)).sum := by
    intro m
    have hseries : requestSeries = requestLabels.map fun l => .request l.1 l.2 := by
      rw [requestSeries, requestLabels, List.map_flatMap]
      simp only [List.map_map]
      rfl
    rw [totalRequests, ← List.sum_eq_foldl, hseries, List.map_map]
    rfl
  have hlabel : ∀ l : Rpc.RequestName × Rpc.Outcome, m'.count (.request l.1 l.2) =
      m.count (.request l.1 l.2) + labels.count l := fun l => h l.1 l.2
  rw [htotal, htotal, ← sum_count_eq_length, ← List.sum_map_add]
  simp only [hlabel]

end Metrics

namespace Json

theorem ofNat_of_some {n : Nat} {number : Number} (h : Number.ofNat? n = some number) :
    ofNat n = .num number := by
  -- unfolded as a function, so that the number is not compared with the limits digit by digit
  obtain ⟨write, hwrite⟩ : ∃ write, write = ofNat := ⟨_, rfl⟩
  rw [← hwrite]
  delta ofNat at hwrite
  rw [hwrite]
  simp only [h]

/-- A number that a double holds exactly is written as a whole number. -/
theorem exists_ofNat {n : Nat} (exact : n < 2 ^ 53) :
    ∃ range, ofNat n = .num (.whole n range) := by
  have hrange : -0x8000000000000000 ≤ (n : Int) ∧ (n : Int) < 0x10000000000000000 := by omega
  have hwhole : Number.ofNat? n = some (.whole n hrange) := by
    simp only [Number.ofNat?, Number.wholeOf, Bool.false_eq_true, if_false, dif_pos hrange]
  exact Exists.intro hrange (ofNat_of_some hwhole)

end Json

namespace Session

variable {d : Deployment Ledger}

/-- The number of requests that a step is. -/
def Step.requestCount : Step → Nat
  | .change _ => 0
  | .operation op => op.requestCount

/-- A session answers each step from where the steps before it have led. -/
theorem run_step (d : Deployment Ledger) {steps : List Step} {k : Nat} {s : Step}
    (h : steps[k]? = some s) (w : World Ledger) :
    (run d steps w).1[k]? = some (s.run d (run d (steps.take k) w).2).1 ∧
      (run d (steps.take (k + 1)) w).2 = (s.run d (run d (steps.take k) w).2).2 := by
  induction k generalizing steps w with
  | zero =>
    cases steps with
    | nil => cases h
    | cons first rest =>
      obtain rfl := Option.some.inj h
      exact ⟨rfl, rfl⟩
  | succ k ih =>
    cases steps with
    | nil => cases h
    | cons first rest => exact ih h (first.run d w).2

/-- The requests counted over a session are those that it was sent. -/
theorem totalRequests_run (requests : d.counts .requests = true)
    (server : d.counts .server = true) (steps : List Step) (w : World Ledger) :
    (run d steps w).2.metrics.totalRequests =
      w.metrics.totalRequests + (steps.map Step.requestCount).sum := by
  induction steps generalizing w with
  | nil => exact (Nat.add_zero _).symm
  | cons s rest ih =>
    have hstep : (s.run d w).2.metrics.totalRequests =
        w.metrics.totalRequests + s.requestCount := by
      cases s with
      | change c => exact (Nat.add_zero _).symm
      | operation op =>
        obtain ⟨labels, hcounts, hlabels⟩ :=
          Operation.exists_counts requests server op { w with log := [] }
        show (op.run d { w with log := [] }).2.metrics.totalRequests = _
        rw [Metrics.totalRequests_of_labels hlabels, hcounts.length]
        rfl
    show (run d rest (s.run d w).2).2.metrics.totalRequests = _
    rw [ih, hstep, List.map_cons, List.sum_cons, Nat.add_assoc]

/-- What the service publishes of the number of its requests. -/
structure Publishes (d : Deployment σ) (w : World σ) (n : Nat) : Prop where
  total : w.metrics.totalRequests = n
  /-- The state of health has the number. -/
  health : ∀ (r : Http.Request) (uptime : Nat), r.method = "GET" → r.resource? = some .health →
    ∃ state range, (Http.handle d uptime r w).1.body = .json state ∧
      state.get? "requests_total" = some (.num (.whole n range))
  /-- The published samples of requests add up to the number, each under labels of the service. -/
  metrics : ∀ (r : Http.Request) (uptime : Nat), r.method = "GET" → r.resource? = some .metrics →
    ∃ text, (Http.handle d uptime r w).1.body = .text text ∧
      ((Published.under "oracle_requests_total" text).map Published.value).sum = n ∧
      ∀ p ∈ Published.under "oracle_requests_total" text,
        ∃ (name : Rpc.RequestName) (outcome : Rpc.Outcome), p.labels =
          "\x7bmethod=\"" ++ name.label ++ "\",outcome=\"" ++ outcome.label ++ "\"\x7d"

/-- What is counted is published, as long as the numbers are exact. -/
theorem publishes_totalRequests (d : Deployment σ) (w : World σ)
    (exact : w.metrics.totalRequests < 2 ^ 53) : Publishes d w w.metrics.totalRequests where
  total := rfl
  health r uptime get health := by
    have hroute : r.route = .health := by
      simp [Http.Request.route, health, get, Http.Resource.methods]
    obtain ⟨range, hnumber⟩ := Json.exists_ofNat exact
    refine ⟨Http.healthJson uptime w.metrics, range, ?_, ?_⟩
    · simp [Http.handle, hroute, Http.Route.handle, get, Http.ok]
    · show some (Json.ofNat w.metrics.totalRequests) = _
      rw [hnumber]
  metrics r uptime get metrics := by
    have hroute : r.route = .metrics := by
      simp [Http.Request.route, metrics, get, Http.Resource.methods]
    refine ⟨w.metrics.exposition, ?_, w.metrics.sum_published_requests, fun p hp => ?_⟩
    · simp [Http.handle, hroute, Http.Route.handle, get, Http.ok]
    · obtain ⟨name, outcome, hlabels, -⟩ := Metrics.labels_published_requests hp
      exact ⟨name, outcome, hlabels⟩

/-- **Every request is counted once.** In a session in which the dispatch of requests and the server
count into the same metrics,

* a step adds one for each of its labels to the requests counted under it, and none to others, and a
  request to the server that is nothing posted to its root calls nobody and counts nothing;
* what the service publishes of the number of requests is the number that it was sent so far. -/
theorem counted_once (counting : Counting) (shared : counting.requests = true) (window : Nat)
    (chain : Ledger) (steps : List Step) (k : Nat) :
    let d := deployment counting window
    let before := (run d (steps.take k) (.initial chain)).2
    let after := (run d (steps.take (k + 1)) (.initial chain)).2
    let sent := ((steps.take k).map Step.requestCount).sum
    (∀ op, steps[k]? = some (.operation op) →
      ∃ answer result labels, (run d steps (.initial chain)).1[k]? = some answer ∧
        answer.result = some result ∧ op.Counts result labels ∧
        (∀ name outcome, after.metrics.count (.request name outcome) =
          before.metrics.count (.request name outcome) + labels.count (name, outcome)) ∧
        ∀ r, op = .http r → ¬ r.Posted →
          answer.log = [] ∧ after.chain = before.chain ∧ after.metrics = before.metrics) ∧
    (sent < 2 ^ 53 → Publishes d before sent) := by
  intro d before after sent
  have server : d.counts .server = true := rfl
  refine ⟨fun op hop => ?_, fun hexact => ?_⟩
  · obtain ⟨hanswer, hafter⟩ := run_step d hop (.initial chain)
    obtain ⟨labels, hcounts, hlabels⟩ :=
      Operation.exists_counts shared server op { before with log := [] }
    refine ⟨_, _, labels, hanswer, rfl, hcounts, ?_, ?_⟩
    · show ∀ name outcome, (run d (steps.take (k + 1)) (.initial chain)).2.metrics.count _ = _
      rw [hafter]
      exact hlabels
    · rintro r rfl other
      have hsame : (Step.run d before (.operation (.http r))).2 = { before with log := [] } :=
        Http.handle_of_not_posted other d 0 { before with log := [] }
      refine ⟨?_, ?_, ?_⟩
      · show (Step.run d before (.operation (.http r))).2.log.reverse = []
        rw [hsame]
        rfl
      · show (run d (steps.take (k + 1)) (.initial chain)).2.chain = _
        rw [hafter, hsame]
      · show (run d (steps.take (k + 1)) (.initial chain)).2.metrics = _
        rw [hafter, hsame]
  · have htotal : before.metrics.totalRequests = sent := by
      have hrun := totalRequests_run shared server (steps.take k) (.initial chain)
      have hnone : Metrics.empty.totalRequests = 0 := by
        rw [Metrics.totalRequests, ← List.sum_eq_foldl]
        simp [Metrics.empty]
      have hnone : (World.initial chain).metrics.totalRequests = 0 := hnone
      rw [hnone, Nat.zero_add] at hrun
      exact hrun
    rw [← htotal] at hexact ⊢
    exact publishes_totalRequests d before hexact

/-- A request for a method that the service does not have, a body that is cut off, a look at the
state of health, and a race of two values that are no requests. -/
theorem counted_once_of_wrong_requests :
    let steps : List Step := [.operation (.request (.obj [("method", .str "mint")])),
      .operation (.http ⟨"POST", "/", ⟨#[0x7b]⟩⟩), .operation (.http ⟨"GET", "/health", ⟨#[]⟩⟩),
      .operation (.race [.null, .bool true])]
    let d := deployment ⟨false, false, true⟩ 8
    let after (k : Nat) := (run d (steps.take k) (.initial .empty)).2
    Publishes d (after 3) 2 ∧ Publishes d (after 4) 4 ∧
      ∃ labels : Labels, labels.length = 2 ∧ ∀ name outcome,
        (after 4).metrics.count (.request name outcome) =
          (after 3).metrics.count (.request name outcome) + labels.count (name, outcome) := by
  intro steps d after
  have hsent : ((steps.take 3).map Step.requestCount).sum = 2 ∧
      ((steps.take 4).map Step.requestCount).sum = 4 := by decide
  have hthree := counted_once ⟨false, false, true⟩ rfl 8 .empty steps 3
  have hfour := counted_once ⟨false, false, true⟩ rfl 8 .empty steps 4
  obtain ⟨answer, result, labels, -, -, hcounts, hlabels, -⟩ := hthree.1 _ rfl
  refine ⟨?_, ?_, labels, hcounts.length, hlabels⟩
  · have hpublishes := hthree.2 (by rw [hsent.1]; decide)
    rwa [hsent.1] at hpublishes
  · have hpublishes := hfour.2 (by rw [hsent.2]; decide)
    rwa [hsent.2] at hpublishes

end Session

end TransferRelay
