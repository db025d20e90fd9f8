import TransferRelay.Proofs.Chain.Coupling
import TransferRelay.Proofs.Rpc.InputFaults
import TransferRelay.Proofs.Rpc.Respelling

/-!
# Parameters by name and by position

Parameters carry values for the first fields of a method, usually for all of them, in two ways: an
object has them under the names of the fields, in whatever order, and an array in the order of the
fields. What is read of them is the same (`failAlike_read`), whatever the values are, or both are
refused for their shape. Only the wording of that refusal may differ, since an object is judged in
the order of its members. So requests that carry the same values come to the same
(`complete_handle_positional`).
-/

namespace TransferRelay.Rpc

variable {σ : Type}

/-! ## Values and the names they go to -/

/-- What values for the first of some names give to each of the names. -/
def entriesOf : List String → List Json → List (String × Option Json)
  | [], _ => []
  | name :: names, [] => (name, none) :: entriesOf names []
  | name :: names, j :: values => (name, some j) :: entriesOf names values

theorem map_fst_entriesOf (names : List String) (values : List Json) :
    (entriesOf names values).map Prod.fst = names := by
  fun_induction entriesOf names values with
  | case1 => rfl
  | case2 name names ih => exact congrArg (name :: ·) ih
  | case3 name names j values ih => exact congrArg (name :: ·) ih

/-- Names without a value are the last ones. -/
theorem exists_map_snd_entriesOf {names : List String} {values : List Json}
    (short : values.length ≤ names.length) :
    ∃ absent, (entriesOf names values).map Prod.snd =
      values.map some ++ List.replicate absent none := by
  fun_induction entriesOf names values with
  | case1 values =>
    obtain rfl := List.eq_nil_of_length_eq_zero (Nat.le_zero.mp short)
    exact ⟨0, rfl⟩
  | case2 name names ih =>
    obtain ⟨absent, h⟩ := ih (Nat.zero_le _)
    exact ⟨absent + 1, congrArg (none :: ·) h⟩
  | case3 name names j values ih =>
    obtain ⟨absent, h⟩ := ih (Nat.le_of_succ_le_succ short)
    exact ⟨absent, congrArg (some j :: ·) h⟩

/-- Names of which each has one value at most. -/
theorem sublist_map_fst_zip (names : List String) (values : List Json) :
    ((names.zip values).map Prod.fst).Sublist names := by
  fun_induction entriesOf names values with
  | case1 => exact .refl _
  | case2 name names => exact List.nil_sublist _
  | case3 name names j values ih => exact ih.cons_cons name

theorem get?_zip {names : List String} (once : names.Nodup) (values : List Json) :
    ∀ e ∈ entriesOf names values, Json.Members.get? e.1 (names.zip values) = e.2 := by
  fun_induction entriesOf names values with
  | case1 => exact nofun
  | case2 name names ih =>
    refine List.forall_mem_cons.mpr ⟨rfl, fun e he => ?_⟩
    have h := ih (List.nodup_cons.mp once).2 e he
    rwa [List.zip_nil_right] at h
  | case3 name names j values ih =>
    obtain ⟨hnot, hrest⟩ := List.nodup_cons.mp once
    refine List.forall_mem_cons.mpr ⟨List.lookup_cons_self, fun e he => ?_⟩
    -- the other entries have other names
    have hmem : e.1 ∈ names := by
      rw [← map_fst_entriesOf names values]
      exact List.mem_map_of_mem he
    have hne : (e.1 == name) = false := beq_eq_false_iff_ne.mpr fun heq => hnot (heq ▸ hmem)
    rw [List.zip_cons_cons, Json.Members.get?, List.lookup_cons, hne]
    exact ih hrest e he

/-- In which order members stand does not matter. -/
theorem get?_of_perm {members members' : List (String × Json)} (perm : members.Perm members')
    (once : (members.map Prod.fst).Nodup) (name : String) :
    Json.Members.get? name members = Json.Members.get? name members' := by
  have once' : (members'.map Prod.fst).Nodup := (perm.map Prod.fst).nodup_iff.mp once
  cases h : Json.Members.get? name members' with
  | some j =>
    obtain ⟨before, after, hmembers, -⟩ := List.lookup_eq_some_iff.mp h
    have hmem : (name, j) ∈ members := by
      rw [perm.mem_iff, hmembers]
      exact List.mem_append_right _ List.mem_cons_self
    exact get?_of_mem once hmem
  | none =>
    refine List.lookup_eq_none_iff.mpr fun member hmember => ?_
    exact List.lookup_eq_none_iff.mp h member (perm.mem_iff.mp hmember)

/-! ## Reading -/

/-- The names of the fields of a method, in their order. -/
def Method.fieldNames (m : Method) : List String :=
  m.shape.fields.map Field.name

theorem Method.nodup_fieldNames (m : Method) : m.fieldNames.Nodup := by
  cases m <;> decide

/-- Parameters carry values for the first fields of a method and nothing else: an object under the
names of these fields, in whatever order, and an array in the order of the fields. -/
inductive Carries (m : Method) (values : List Json) : Json → Prop
  | named {members : List (String × Json)} (each : members.Perm (m.fieldNames.zip values)) :
      Carries m values (.obj members)
  | listed : Carries m values (.arr values)

/-- What parameters carry is what they give to the fields. -/
theorem Carries.gives {m : Method} {values : List Json} {params : Json}
    (h : Carries m values params) (short : values.length ≤ m.fieldNames.length) :
    Gives (entriesOf m.fieldNames values) params := by
  cases h with
  | named each =>
    have once : ((m.fieldNames.zip values).map Prod.fst).Nodup :=
      (sublist_map_fst_zip m.fieldNames values).nodup m.nodup_fieldNames
    have once' := (each.map Prod.fst).nodup_iff.mpr once
    refine .named once' fun e he => ?_
    rw [get?_of_perm each once']
    exact get?_zip m.nodup_fieldNames values e he
  | listed =>
    obtain ⟨absent, h⟩ := exists_map_snd_entriesOf short
    exact .listed h

section Alike

variable {m : Method} {es es' : List (String × Option Json)} {params params' : Json}

/-- From what reads as the same record, parameters are read alike. -/
theorem failAlike_read {shape : Shape} (gives : Gives es params) (gives' : Gives es' params')
    (names : es.map Prod.fst = shape.fields.map Field.name)
    (names' : es'.map Prod.fst = shape.fields.map Field.name)
    (same : ∀ vs, Record.Reads shape.fields es vs ↔ Record.Reads shape.fields es' vs) :
    FailAlike (shape.read params) (shape.read params') := by
  cases hread : shape.read params with
  | ok vs =>
    have hreads := (same vs).mp ((Shape.read_eq_ok_iff gives names).mp hread)
    rw [(Shape.read_eq_ok_iff gives' names').mpr hreads]
    exact .ok rfl
  | error cause =>
    cases hread' : shape.read params' with
    | ok vs =>
      have hreads := (same vs).mpr ((Shape.read_eq_ok_iff gives' names').mp hread')
      cases hread.symm.trans ((Shape.read_eq_ok_iff gives names).mpr hreads)
    | error cause' => exact .error trivial

/-- Parameters ask for the same, or neither have the shape of the method. -/
inductive ParsedAlike (m : Method) (params params' : Json) : Prop
  | same (parsed : Params.parse m params = Params.parse m params')
  | shapeless {cause cause' : ShapeFault}
      (first : Params.parse m params = .error (.input (.badShape cause)))
      (second : Params.parse m params' = .error (.input (.badShape cause')))

theorem parsedAlike_of_failAlike (gives : Gives es params) (gives' : Gives es' params')
    (alike : FailAlike (m.shape.read params) (m.shape.read params')) :
    ParsedAlike m params params' := by
  have hasked : ∀ {es : List (String × Option Json)} {params : Json}, Gives es params →
      Params.parse m params = asked m (m.shape.read params) := by
    intro es params gives
    cases gives <;> rfl
  have hparse := hasked gives
  have hparse' := hasked gives'
  generalize m.shape.read params = x at alike hparse
  generalize m.shape.read params' = y at alike hparse'
  cases alike with
  | error _ => exact .shapeless hparse hparse'
  | ok values =>
    subst values
    exact .same (hparse.trans hparse'.symm)

end Alike

/-- The same values are read alike, by name and by position. -/
theorem parsedAlike_of_carries {m : Method} {values : List Json} {params params' : Json}
    (short : values.length ≤ m.fieldNames.length) (carries : Carries m values params)
    (carries' : Carries m values params') : ParsedAlike m params params' := by
  have names := map_fst_entriesOf m.fieldNames values
  exact parsedAlike_of_failAlike (carries.gives short) (carries'.gives short)
    (failAlike_read (carries.gives short) (carries'.gives short) names names fun _ => .rfl)

/-- A text that may be left out is read alike of nothing and of null. -/
theorem reads_none_iff_null {text : Option String} :
    FieldType.optionalText.Reads none text ↔ FieldType.optionalText.Reads (some .null) text := by
  rw [reads_optionalText_iff, reads_optionalText_iff]
  simp

/-- The data of a recharge may be left out, which is as good as giving null. -/
theorem parsedAlike_of_left_out {hash params params' : Json}
    (carries : Carries .recharge [hash] params)
    (carries' : Carries .recharge [hash, .null] params') :
    ParsedAlike .recharge params params' := by
  have gives := carries.gives (by decide : 1 ≤ 2)
  have gives' := carries'.gives (Nat.le_refl 2)
  refine parsedAlike_of_failAlike gives gives' (failAlike_read gives gives' rfl rfl fun vs => ?_)
  show Record.Reads [⟨"txHash", .text⟩, ⟨"smallRechargeData", .optionalText⟩]
      [("txHash", some hash), ("smallRechargeData", none)] vs ↔
    Record.Reads [⟨"txHash", .text⟩, ⟨"smallRechargeData", .optionalText⟩]
      [("txHash", some hash), ("smallRechargeData", some .null)] vs
  have hsecond := @reads_none_iff_null vs.2.1
  constructor
  · intro h
    obtain ⟨first, rest⟩ := Record.reads_cons_iff.mp h
    obtain ⟨second, last⟩ := Record.reads_cons_iff.mp rest
    exact .cons first (.cons (hsecond.mp second) last)
  · intro h
    obtain ⟨first, rest⟩ := Record.reads_cons_iff.mp h
    obtain ⟨second, last⟩ := Record.reads_cons_iff.mp rest
    exact .cons first (.cons (hsecond.mpr second) last)

/-! ## Requests -/

/-- Two requests come to the same: they are answered with the same result or code, and in the same
words unless their parameters are refused, and they leave the same world. -/
structure ComesToSame (after after' : Envelope × World σ) : Prop where
  id : after.1.id = after'.1.id
  result : after.1.json.get? "result" = after'.1.json.get? "result"
  code : errorCode? after.1.json = errorCode? after'.1.json
  wording : after.1 = after'.1 ∨ errorCode? after.1.json = some (-32602)
  /-- The chain, the calls that it has seen, the counters and the notices. -/
  world : after.2 = after'.2

theorem complete_answer (d : Deployment σ) (w : World σ) (request : Json) (name : RequestName)
    (result : Except Refusal Json) :
    (answer request name result).complete d w =
      (⟨requestId request, result⟩,
        d.tally .requests (.request name (counted result)) (d.deliver w)) := by
  rw [answer_eq, Plan.complete_count]
  rfl

/-- Requests whose parameters are read alike come to the same. -/
theorem comesToSame_of_parsedAlike (d : Deployment σ) (w : World σ)
    {request request' params params' : Json} {m : Method}
    (sameId : request'.get? "id" = request.get? "id")
    (method : request.get? "method" = some (.str m.name))
    (method' : request'.get? "method" = some (.str m.name))
    (given : request.get? "params" = some params)
    (given' : request'.get? "params" = some params') (alike : ParsedAlike m params params') :
    ComesToSame ((handle request).complete d w) ((handle request').complete d w) := by
  rw [handle_of_given method given, handle_of_given method' given', Method.call, Method.call]
  cases alike with
  | same parsed =>
    rw [parsed]
    simp only [answer_congr sameId]
    exact ⟨rfl, rfl, rfl, .inl rfl, rfl⟩
  | @shapeless cause cause' first second =>
    rw [first, second]
    -- neither of the two calls the chain, and both are refused as input
    have hrefused : ∀ (r : Json) (fault : Fault),
        ((Task.ofExcept (.error fault) >>= Invocation.perform).run.bind fun result =>
            answer r (.served m) (replied id result)) =
          answer r (.served m) (.error (.failed fault)) := fun _ _ => rfl
    rw [hrefused, hrefused, answer_congr sameId, complete_answer, complete_answer]
    exact ⟨rfl, rfl, rfl, .inr rfl, rfl⟩

/-- **Parameters mean the same by name and by position.** Let two requests differ in their
parameters only.

* If both carry the same values, one under the names of the fields in any order and one in the order
  of the fields, they come to the same, whatever the values are.
* If the one leaves out the data of a recharge and the other gives null for it, in either way, they
  come to the same. -/
theorem complete_handle_positional (d : Deployment σ) (w : World σ)
    {request request' params params' : Json} {m : Method}
    (sameId : request'.get? "id" = request.get? "id")
    (method : request.get? "method" = some (.str m.name))
    (method' : request'.get? "method" = some (.str m.name))
    (given : request.get? "params" = some params)
    (given' : request'.get? "params" = some params') :
    (∀ values : List Json, values.length ≤ m.fieldNames.length → Carries m values params →
      Carries m values params' →
      ComesToSame ((handle request).complete d w) ((handle request').complete d w)) ∧
    ∀ hash : Json, m = .recharge → Carries m [hash] params → Carries m [hash, .null] params' →
      ComesToSame ((handle request).complete d w) ((handle request').complete d w) := by
  have hsame : ParsedAlike m params params' →
      ComesToSame ((handle request).complete d w) ((handle request').complete d w) :=
    comesToSame_of_parsedAlike d w sameId method method' given given'
  constructor
  · intro values short carries carries'
    exact hsame (parsedAlike_of_carries short carries carries')
  · rintro hash rfl carries carries'
    exact hsame (parsedAlike_of_left_out carries carries')

/-- A small transfer on a chain in memory, of which an object has the signature behind the
transaction, and a recharge without data. -/
theorem complete_handle_positional_of_small_transfer :
    let hash : Json := .str "0xaaaaaaaaaaaaaaaaaaaaaaaaaaaaaaaaaaaaaaaaaaaaaaaaaaaaaaaaaaaaaaaa"
    let transfer (params : Json) : Json :=
      .obj [("method", .str "smallCrossChainTransaction"), ("params", params)]
    let recharge (params : Json) : Json :=
      .obj [("id", .str "r"), ("method", .str "recharge"), ("params", params)]
    let named : Json :=
      .obj [("rawTx", .str "0xf86b"), ("signature", .str "0xab"), ("txHash", hash)]
    let listed : Json := .arr [.str "0xab", .str "0xf86b", hash]
    let explicit : Json := .obj [("smallRechargeData", .null), ("txHash", hash)]
    let d : Deployment Ledger := ⟨Ledger.answer, fun _ => true, 8⟩
    let w : World Ledger := .initial Ledger.empty
    ((handle (transfer listed)).complete d w).2.log.map Event.call =
        [.submitSmallTransfer "0xab" "0xf86b", .isCompleted ⟨List.replicate 32 0xaa, rfl⟩] ∧
      ComesToSame ((handle (transfer named)).complete d w)
        ((handle (transfer listed)).complete d w) ∧
      ComesToSame ((handle (recharge (.arr [hash]))).complete d w)
        ((handle (recharge explicit)).complete d w) := by
  intro hash transfer recharge named listed explicit d w
  have seen : ((handle (transfer listed)).complete d w).2.log.map Event.call =
      [.submitSmallTransfer "0xab" "0xf86b", .isCompleted ⟨List.replicate 32 0xaa, rfl⟩] := by
    decide +kernel
  have transfers := (@complete_handle_positional _ d w (transfer named) (transfer listed) _ _
    .smallTransfer rfl rfl rfl rfl rfl).1
  have recharges := (@complete_handle_positional _ d w (recharge (.arr [hash])) (recharge explicit)
    _ _ .recharge rfl rfl rfl rfl rfl).2
  exact ⟨seen, transfers [.str "0xab", .str "0xf86b", hash] (Nat.le_refl 3) (.named (.swap ..))
    .listed, recharges hash rfl .listed (.named (.swap ..))⟩

end TransferRelay.Rpc
