import TransferRelay.Proofs.Chain.Running
import TransferRelay.Rpc.Handle

/-!
# How a request is handled

A request is resolved, and what it comes to is then counted once and answered (`handle_eq`): it
either names no method that is served, and is refused, or it calls its method
(`refused_or_served`). Once its parameters have been read, it does what its method is asked to do:
`handle_of_parse` says so of the plan of a request, and `complete_bind_answer` of what running it
gives, so a method is looked at without what is around it.
-/

namespace TransferRelay.Rpc

variable {σ α : Type}

/-- What a client is told of a task, the results of which are written as JSON. -/
def replied (write : α → Json) : Except Fault α → Except Refusal Json
  | .ok a => .ok (write a)
  | .error fault => .error (.failed fault)

/-- The outcome under which an answer is counted. -/
def counted : Except Refusal Json → Outcome
  | .ok _ => .ok
  | .error refusal => refusal.outcome

/-- Answering a request is counting it once. -/
theorem answer_eq (request : Json) (name : RequestName) (result : Except Refusal Json) :
    answer request name result =
      .count .requests (.request name (counted result)) (.done ⟨requestId request, result⟩) := by
  cases result <;> rfl

/-- The method of a request is what its member `method` says. -/
theorem requestMethod?_eq_some_iff {request : Json} {name : String} :
    requestMethod? request = some name ↔ request.get? "method" = some (.str name) := by
  rw [requestMethod?, Option.bind_eq_some_iff]
  constructor
  · rintro ⟨value, hvalue, hname⟩
    cases value with
    | str s =>
      obtain rfl := Option.some.inj hname
      exact hvalue
    | _ => cases hname
  · exact fun h => ⟨_, h, rfl⟩

/-- A method is found under its name only. -/
theorem name_of_served {name : String} {m : Method} (served : Method.ofName? name = some m) :
    m.name = name := by
  have hname := List.find?_some served
  exact beq_iff_eq.mp hname

/-- A request for a method that is served calls it. -/
theorem handle_of_served {request : Json} {name : String} {m : Method}
    (method : requestMethod? request = some name) (served : Method.ofName? name = some m) :
    handle request = (m.call (requestParams request)).run.bind fun r =>
      answer request (.served m) (replied id r) := by
  simp only [handle, method, served]
  congr 1
  funext r
  cases r <;> rfl

/-- A request that gives parameters to a method calls it with them. -/
theorem handle_of_given {request params : Json} {m : Method}
    (method : request.get? "method" = some (.str m.name))
    (given : request.get? "params" = some params) :
    handle request = (m.call params).run.bind fun r =>
      answer request (.served m) (replied id r) := by
  have hgiven : requestParams request = params := by
    rw [requestParams, given]
    rfl
  rw [handle_of_served (requestMethod?_eq_some_iff.mpr method) (Method.ofName?_name m), hgiven]

/-- Of a request, an answer has nothing but the identifier. -/
theorem answer_congr {request request' : Json} (id : request'.get? "id" = request.get? "id")
    (name : RequestName) (result : Except Refusal Json) :
    answer request name result = answer request' name result := by
  have hid : requestId request = requestId request' := by
    rw [requestId, requestId, id]
  rw [answer_eq, answer_eq, hid]

/-- The name under which a request is counted. A method that is not served gives none of its own. -/
def countedName (request : Json) : RequestName :=
  match requestMethod? request with
  | none => .invalid
  | some name =>
    match Method.ofName? name with
    | none => .unknown
    | some m => .served m

/-- What a request comes to, before it is counted and answered. -/
def resolve (request : Json) : Plan (Except Refusal Json) :=
  match requestMethod? request with
  | none => .done (.error .noMethod)
  | some name =>
    match Method.ofName? name with
    | none => .done (.error (.unknownMethod name))
    | some m => (m.call (requestParams request)).run.bind fun r => .done (replied id r)

/-- A request comes to a refusal, or to what its method answers. -/
theorem resolve_cases {P : Plan (Except Refusal Json) → Prop} {request : Json}
    (refused : ∀ refusal, P (.done (.error refusal)))
    (served : ∀ m : Method, requestMethod? request = some m.name →
      P ((m.call (requestParams request)).run.bind fun r => .done (replied id r))) :
    P (resolve request) := by
  unfold resolve
  split
  · exact refused .noMethod
  · next name method =>
    split
    · exact refused (.unknownMethod name)
    · next m hserved =>
      exact served m (method.trans (congrArg some (name_of_served hserved).symm))

/-- A request is resolved, counted and answered. -/
theorem handle_eq (request : Json) :
    handle request = (resolve request).bind fun r => answer request (countedName request) r := by
  unfold resolve countedName
  cases method : requestMethod? request with
  | none =>
    rw [handle, method]
    rfl
  | some name =>
    cases served : Method.ofName? name with
    | none =>
      simp only [handle, method, served]
      rfl
    | some m =>
      rw [handle_of_served method served]
      simp only [served]
      rw [Plan.bind_assoc]
      rfl

/-- A request is refused, or it calls a method. -/
theorem refused_or_served (request : Json) :
    (∃ name refusal, handle request = answer request name (.error refusal)) ∨
      ∃ m : Method, handle request = (m.call (requestParams request)).run.bind fun r =>
        answer request (.served m) (replied id r) := by
  cases method : requestMethod? request with
  | none => exact .inl ⟨.invalid, .noMethod, by rw [handle, method]⟩
  | some name =>
    cases served : Method.ofName? name with
    | none => exact .inl ⟨.unknown, .unknownMethod name, by simp only [handle, method, served]⟩
    | some m => exact .inr ⟨m, handle_of_served method served⟩

/-- Handling a request is doing what its method is asked to do. -/
theorem handle_of_parse {request params : Json} {name : String} {m : Method}
    {invocation : Invocation} {x : Task α} {write : α → Json}
    (method : request.get? "method" = some (.str name)) (served : Method.ofName? name = some m)
    (given : request.get? "params" = some params)
    (parsed : Params.parse m params = .ok invocation)
    (performs : invocation.perform = x >>= fun a => pure (write a)) :
    handle request = x.run.bind fun r => answer request (.served m) (replied write r) := by
  have hname := requestMethod?_eq_some_iff.mpr method
  have hgiven : requestParams request = params := by
    rw [requestParams, given]
    rfl
  -- the parameters are read without a call, so the plan is that of the task
  have hcall : (m.call params).run = x.run.bind fun r => .done (r.map write) := by
    rw [Method.call, parsed]
    show invocation.perform.run = _
    rw [performs]
    show (x.run.bind _) = _
    congr 1
    funext r
    cases r <;> rfl
  rw [handle_of_served hname served, hgiven, hcall, Plan.bind_assoc]
  congr 1
  funext r
  cases r <;> rfl

/-- Answering a request is counting it. -/
theorem complete_bind_answer (d : Deployment σ) (p : Plan α) (request : Json)
    (name : RequestName) (result : α → Except Refusal Json) (w : World σ) :
    ((p.bind fun a => answer request name (result a)).complete d w).1 =
        ⟨requestId request, result (p.complete d w).1⟩ ∧
      ((p.bind fun a => answer request name (result a)).complete d w).2.log =
        (p.complete d w).2.log := by
  have hcount : ∃ series : Except Refusal Json → Series, ∀ r, answer request name r =
      .count .requests (series r) (.done ⟨requestId request, r⟩) := ⟨_, fun _ => rfl⟩
  obtain ⟨series, hanswer⟩ := hcount
  simp only [hanswer]
  rw [Plan.complete_bind_count d p .requests fun a => series (result a)]
  exact ⟨rfl, Deployment.log_tally d _ _ _⟩

end TransferRelay.Rpc
