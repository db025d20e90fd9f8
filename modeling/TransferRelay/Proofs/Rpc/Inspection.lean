import Mathlib.Data.List.Flatten
import TransferRelay.Proofs.Chain.Spending
import TransferRelay.Proofs.Rpc.Independence
import TransferRelay.Proofs.Session.Keeping

/-!
# Requests that only look

A request for none of the methods that change the chain looks at it at most. What it may look at is
a matter of what it says: the identifiers that the texts of its parameters spell (`spelled`), each
of them once for each kind of read (`spends_handle`). The chain stays as it is (`keeps_chain`), and
so the request can be made again and again (`untouched_of_not_changes`).
-/

namespace TransferRelay

/-! ## Texts of a value -/

namespace Json

mutual

/-- The texts in a value, in their order. The names of members are none of them. -/
def texts : Json → List String
  | .str s => [s]
  | .arr items => itemTexts items
  | .obj members => memberTexts members
  | _ => []

/-- The texts in items. -/
def itemTexts : List Json → List String
  | [] => []
  | j :: rest => j.texts ++ itemTexts rest

/-- The texts in members. -/
def memberTexts : List (String × Json) → List String
  | [] => []
  | (_, j) :: rest => j.texts ++ memberTexts rest

end

theorem texts_sublist_memberTexts {members : List (String × Json)} {name : String} {j : Json}
    (h : Members.get? name members = some j) : j.texts.Sublist (memberTexts members) := by
  induction members with
  | nil => cases h
  | cons member rest ih =>
    obtain ⟨other, value⟩ := member
    rw [memberTexts]
    rw [Members.get?, List.lookup_cons] at h
    by_cases same : (name == other) = true
    · rw [same] at h
      cases h
      exact List.sublist_append_left _ _
    · rw [Bool.not_eq_true] at same
      rw [same] at h
      exact (ih h).trans (List.sublist_append_right _ _)

end Json

namespace Rpc

open Json

/-- Texts that are read from items are the texts in them. -/
theorem itemTexts_of_readTexts {items : List Json} {txs : List String}
    (h : FieldType.readTexts items = .ok txs) : itemTexts items = txs := by
  induction items generalizing txs with
  | nil =>
    cases h
    rfl
  | cons j rest ih =>
    cases j with
    | str s =>
      obtain ⟨others, hothers, rfl⟩ := exists_of_map_eq_ok h
      rw [itemTexts, ih hothers, texts, List.singleton_append]
    | _ => cases h

/-- The only field of a shape is read from a part of the parameters. -/
theorem Shape.exists_part_of_read {name : String} {f : Field} {params : Json}
    {values : Record [f]} (required : f.type.absent? = none)
    (h : Shape.read ⟨name, [f]⟩ params = .ok values) :
    ∃ part, f.type.read part = .ok values.1 ∧ part.texts.Sublist params.texts := by
  cases params with
  | obj members =>
    rw [Shape.read] at h
    split at h
    · cases h
    · obtain ⟨es, hreads, heach⟩ := exists_of_readMembers h
      obtain ⟨o, rest, rfl, hfirst, -⟩ := hreads.uncons
      rcases hfirst.given_or_absent with ⟨part, rfl, hread⟩ | ⟨-, habsent⟩
      · refine ⟨part, hread, ?_⟩
        rw [texts]
        exact texts_sublist_memberTexts (heach _ List.mem_cons_self)
      · rw [required] at habsent
        cases habsent
  | arr items =>
    cases items with
    | nil =>
      rw [Shape.read, Shape.readItems, required] at h
      cases h
    | cons part rest =>
      obtain ⟨es, absent, hreads, heach⟩ := Shape.exists_of_readItems _ h
      obtain ⟨o, others, rfl, hfirst, -⟩ := hreads.uncons
      -- the first item is what the array gives for the field
      obtain rfl : o = some part := (List.cons.inj heach).1
      rcases hfirst.given_or_absent with ⟨_, ⟨⟩, hread⟩ | ⟨hnone, -⟩
      · refine ⟨part, hread, ?_⟩
        rw [texts, itemTexts]
        exact List.sublist_append_left _ _
      · cases hnone
  | _ => cases h

/-! ## What a request may look at -/

/-- The identifiers that the texts of some parameters spell, each as often as it is spelled. -/
def spelled (params : Json) : List TransferId :=
  params.texts.filterMap fun s => (TransferId.parse s).toOption

/-- The reads that a transfer can be looked at with. -/
def looksAt (tx : TransferId) : List Call :=
  [.rechargeData tx, .withdrawData tx, .isCompleted tx]

theorem isRead_of_mem_looksAt {c : Call} {txs : List TransferId} (h : c ∈ txs.flatMap looksAt) :
    c.isRead = true := by
  obtain ⟨tx, -, hc⟩ := List.mem_flatMap.mp h
  simp only [looksAt, List.mem_cons, List.not_mem_nil, or_false] at hc
  rcases hc with rfl | rfl | rfl <;> rfl

/-- Completion flags are among what transfers can be looked at with. -/
theorem map_isCompleted_sublist (txs : List TransferId) :
    (txs.map Call.isCompleted).Sublist (txs.flatMap looksAt) := by
  rw [List.map_eq_flatMap]
  exact .flatMap_right txs fun tx _ => ((List.Sublist.refl _).cons _).cons _

/-- The identifier of a hash that is read is among those that the parameters spell. -/
theorem singleton_sublist_spelled {name hash : String} {rest : Record []} {params : Json}
    {tx : TransferId} (read : Shape.read ⟨name, [⟨"txHash", .text⟩]⟩ params = .ok (hash, rest))
    (key : TransferId.parse hash = .ok tx) : [tx].Sublist (spelled params) := by
  obtain ⟨part, hpart, htexts⟩ := Shape.exists_part_of_read rfl read
  cases part with
  | str s =>
    obtain rfl : s = hash := Except.ok.inj hpart
    have hspelled : [tx] = (Json.str s).texts.filterMap fun s => (TransferId.parse s).toOption := by
      rw [texts, List.filterMap_cons, key]
      rfl
    rw [hspelled]
    exact htexts.filterMap _
  | _ => cases hpart

/-- What a method is asked about is spelled by its parameters. -/
theorem identifiers_sublist_spelled {m : Method} (looks : ∀ kind : TransferKind, kind.method ≠ m)
    {params : Json} {invocation : Invocation} (h : Params.parse m params = .ok invocation) :
    invocation.identifiers.Sublist (spelled params) := by
  unfold Params.parse at h
  split at h
  · cases h
  · split at h
    · cases h
    · rename_i values hread
      cases m with
      | processedInvalidWithdraw =>
        obtain ⟨txs, rest⟩ := values
        cases h
        obtain ⟨part, hpart, htexts⟩ := Shape.exists_part_of_read rfl hread
        cases part with
        | arr items =>
          rw [texts, itemTexts_of_readTexts hpart] at htexts
          exact htexts.filterMap _
        | _ => cases hpart
      | rechargeData =>
        obtain ⟨hash, rest⟩ := values
        obtain ⟨tx, hkey, h⟩ := exists_of_bind_eq_ok h
        cases h
        exact singleton_sublist_spelled hread hkey
      | withdrawData =>
        obtain ⟨hash, rest⟩ := values
        obtain ⟨tx, hkey, h⟩ := exists_of_bind_eq_ok h
        cases h
        exact singleton_sublist_spelled hread hkey
      | decodeRechargeData =>
        cases h
        exact List.nil_sublist _
      | encodeWithdraw =>
        obtain ⟨_, -, h⟩ := exists_of_bind_eq_ok h
        obtain ⟨_, -, h⟩ := exists_of_bind_eq_ok h
        obtain ⟨_, -, h⟩ := exists_of_bind_eq_ok h
        cases h
        exact List.nil_sublist _
      | receivedInvalidWithdraw => exact absurd rfl (looks .invalidWithdraw)
      | smallTransfer => exact absurd rfl (looks .smallTransfer)
      | recharge => exact absurd rfl (looks .recharge)
      | refundWithdraw => exact absurd rfl (looks .refundWithdraw)

/-- A request that looks at most names what its parameters spell, or less. -/
theorem identifiers_sublist_of_not_changes {request : Json} (looks : ¬ Changes request) :
    (identifiers request).Sublist (spelled (requestParams request)) := by
  cases hmethod : (requestMethod? request).bind Method.ofName? with
  | none =>
    rw [identifiers, hmethod]
    exact List.nil_sublist _
  | some m =>
    obtain ⟨name, hname, hserved⟩ := Option.bind_eq_some_iff.mp hmethod
    have method : requestMethod? request = some m.name :=
      hname.trans (congrArg some (name_of_served hserved).symm)
    cases parsed : Params.parse m (requestParams request) with
    | error cause =>
      simp only [identifiers, hmethod, parsed]
      exact List.nil_sublist _
    | ok invocation =>
      rw [identifiers_of_parse method parsed]
      refine identifiers_sublist_spelled ?_ parsed
      rintro kind rfl
      exact looks (changes_iff.mpr ⟨kind, method⟩)

/-! ## What a request does -/

/-- A batch whose texts all spell identifiers names these. -/
theorem identifiers_of_keyed {txs : List String} {ids : List TransferId}
    (h : Inquiry.Keyed TransferId.parse txs ids) :
    (Invocation.processed txs).identifiers = ids := by
  induction h with
  | nil => rfl
  | @cons s tx txs ids first rest ih =>
    have hparse : (TransferId.parse s).toOption = some tx := by
      rw [first]
      rfl
    rw [Invocation.identifiers, List.filterMap_cons, hparse]
    exact congrArg (tx :: ·) ih

/-- What a method does beside transfers is looking at what it is asked about. -/
theorem spends_perform {invocation : Invocation} (looks : ∀ t, invocation ≠ .transfer t) :
    invocation.perform.run.Spends (invocation.identifiers.flatMap looksAt) := by
  cases invocation with
  | processed txs =>
    refine Task.spends_map ?_ _
    cases hkeys : Inquiry.keys TransferId.parse txs with
    | error cause =>
      rw [Inquiry.filterBy, hkeys]
      exact .done _
    | ok ids =>
      have keyed := Inquiry.keys_eq_ok_iff.mp hkeys
      rw [Inquiry.filterBy_run keyed, identifiers_of_keyed keyed]
      -- the flags of a batch are all it reads
      have hpaid : (ids.map Call.isCompleted ++ []).Sublist (ids.flatMap looksAt) := by
        rw [List.append_nil]
        exact map_isCompleted_sublist ids
      refine .flags hpaid fun r => ?_
      cases r with
      | error cause => exact .count (.done _)
      | ok flags => exact .done _
  | transfer t => exact absurd rfl (looks t)
  | rechargeData tx =>
    refine (Task.spends_map (Task.spends_rechargeData tx) _).mono ?_
    exact .cons_cons _ (List.nil_sublist _)
  | decodeRechargeData data =>
    exact Task.spends_map (.done _) _
  | withdrawData tx =>
    have hboth : (Inquiry.withdrawal tx).run.Spends [.withdrawData tx, .isCompleted tx] :=
      Task.spends_bind (Task.spends_withdrawData tx) fun record =>
        Task.spends_map (Task.spends_isCompleted tx) _
    exact (Task.spends_map hboth _).mono (.cons _ (.refl _))
  | encodeWithdraw request => exact .done _

/-- A request that looks at most looks at what it names. -/
theorem spends_handle {request : Json} (looks : ¬ Changes request) :
    (handle request).Spends ((identifiers request).flatMap looksAt) := by
  have hresolve : (resolve request).Spends ((identifiers request).flatMap looksAt) := by
    refine resolve_cases (fun refusal => .done _) fun m method => ?_
    unfold Method.call
    cases parsed : Params.parse m (requestParams request) with
    | error cause => exact .done _
    | ok invocation =>
      rw [identifiers_of_parse method parsed]
      have htransfer : ∀ t, invocation ≠ .transfer t := by
        rintro t rfl
        refine looks (changes_iff.mpr ⟨t.kind, method.trans ?_⟩)
        rw [← method_of_parse parsed]
        rfl
      exact (spends_perform htransfer).bind_free fun r => .done _
  rw [handle_eq]
  exact hresolve.bind_free fun r => .count (.done _)

/-- A request to decode or encode data names no identifiers. -/
theorem identifiers_of_local {request : Json}
    (h : requestMethod? request = some "decodeRechargeData" ∨
      requestMethod? request = some "encodeWithdraw") : identifiers request = [] := by
  have hnone : ∀ m : Method, m = .decodeRechargeData ∨ m = .encodeWithdraw →
      requestMethod? request = some m.name → identifiers request = [] := by
    intro m hm method
    cases parsed : Params.parse m (requestParams request) with
    | error cause =>
      simp only [identifiers, method, Option.bind_some, Method.ofName?_name, parsed]
    | ok invocation =>
      rw [identifiers_of_parse method parsed]
      have hmethod := method_of_parse parsed
      cases invocation with
      | decodeRechargeData data => rfl
      | encodeWithdraw order => rfl
      | transfer t =>
        obtain rfl | rfl := hm <;> cases t <;> cases hmethod
      | _ => obtain rfl | rfl := hm <;> cases hmethod
  rcases h with method | method
  · exact hnone .decodeRechargeData (.inl rfl) method
  · exact hnone .encodeWithdraw (.inr rfl) method

end Rpc

/-! ## The chain -/

theorem Ledger.answer_of_isRead {c : Call} (h : c.isRead = true) (l : Ledger) :
    (answer c l).2 = l := by
  cases c with
  | isCompleted tx => rfl
  | rechargeData tx => rfl
  | withdrawData tx => rfl
  | _ => cases h

section Untouched

variable (counting : Session.Counting) (window : Nat)

/-- Neither reads nor notices change a chain in memory. -/
theorem Session.stable_chain (l : Ledger) :
    (Session.deployment counting window).Stable fun w => w.chain = l where
  read _ w hc h := (Ledger.answer_of_isRead hc w.chain).trans h
  tally component series w h := (Deployment.chain_tally _ component series w).trans h
  note _ _ h := h
  notice tx w h := (Ledger.answer_notifyAccepted tx w.chain).trans h

namespace Rpc

/-- A request that looks at most leaves the chain as it is. -/
theorem keeps_chain {request : Json} (looks : ¬ Changes request) (l : Ledger) :
    (handle request).Keeps (Session.deployment counting window) fun w => w.chain = l := by
  have stable := Session.stable_chain counting window l
  have hresolve : (resolve request).Keeps (Session.deployment counting window)
      fun w => w.chain = l := by
    refine resolve_cases (fun refusal => .done _) fun m method => ?_
    refine Plan.Keeps.bind ?_ fun r => .done _
    refine stable.closed.call (fun _ => stable.keeps_completionFlags) (fun t ht => ?_) _
    exact absurd (changes_iff.mpr ⟨t.kind, method.trans (by rw [ht])⟩) looks
  rw [handle_eq]
  exact hresolve.bind fun r => stable.count (.done _)

/-- **A request for anything but a transfer looks at the chain at most.** Whatever it says and
however much of it can be read, the chain behind it is the one before it, no notice is left and no
call is made but reads. They are reads of the identifiers that the texts of its parameters spell,
each of them once for each kind of read; a request to decode or encode data makes none. -/
theorem untouched_of_not_changes (chain : Ledger) (metrics : Metrics) (log : List Event)
    {request : Json} (looks : ¬ Changes request) :
    let after := ((handle request).complete (Session.deployment counting window)
      ⟨chain, metrics, log, []⟩).2
    after.chain = chain ∧ after.notices = [] ∧ ∃ events : List Event,
      after.log = events.reverse ++ log ∧ (∀ e ∈ events, e.call.isRead = true) ∧
      (events.map Event.call).Sublist ((spelled (requestParams request)).flatMap looksAt) ∧
      (requestMethod? request = some "decodeRechargeData" ∨
        requestMethod? request = some "encodeWithdraw" → events = []) := by
  intro after
  have hchain : after.chain = chain :=
    (Session.stable_chain counting window chain).complete (keeps_chain counting window looks chain)
      rfl
  obtain ⟨events, hlog, hcalls, hnotices⟩ :=
    (spends_handle looks).complete (Session.deployment counting window)
      (rfl : (⟨chain, metrics, log, []⟩ : World Ledger).notices = [])
  refine ⟨hchain, hnotices, events, hlog, ?_, ?_, ?_⟩
  · intro e he
    exact isRead_of_mem_looksAt (hcalls.subset (List.mem_map_of_mem he))
  · exact hcalls.trans ((identifiers_sublist_of_not_changes looks).flatMap looksAt)
  · intro hlocal
    rw [identifiers_of_local hlocal, List.flatMap_nil] at hcalls
    exact List.map_eq_nil_iff.mp (List.sublist_nil.mp hcalls)

end Rpc

end Untouched

/-- A batch that fails at its second identifier, and would have asked for the first once more. -/
theorem Rpc.untouched_of_not_changes_of_failing_batch :
    let tx : TransferId := ⟨List.replicate 32 0xaa, rfl⟩
    let other : TransferId := ⟨List.replicate 32 0xbb, rfl⟩
    let request : Json := .obj [("method", .str "processedInvalidWithdrawtx"), ("params", .obj [
      ("txs", .arr [.str "0xaaaaaaaaaaaaaaaaaaaaaaaaaaaaaaaaaaaaaaaaaaaaaaaaaaaaaaaaaaaaaaaa",
        .str "BBBBBBBBBBBBBBBBBBBBBBBBBBBBBBBBBBBBBBBBBBBBBBBBBBBBBBBBBBBBBBBB",
        .str "0xaaaaaaaaaaaaaaaaaaaaaaaaaaaaaaaaaaaaaaaaaaaaaaaaaaaaaaaaaaaaaaaa"])])]
    let chain := Ledger.empty.apply (.failReadsOf other (some "down"))
    let after := ((handle request).complete (Session.deployment ⟨true, true, true⟩ 8)
      ⟨chain, .empty, [], []⟩).2
    ¬ Changes request ∧ spelled (requestParams request) = [tx, other, tx] ∧
      after.log = [⟨.isCompleted other, true⟩, ⟨.isCompleted tx, false⟩] ∧
      after.chain = chain ∧ after.notices = [] ∧ ∃ events : List Event,
        after.log = events.reverse ++ [] ∧ (∀ e ∈ events, e.call.isRead = true) ∧
        (events.map Event.call).Sublist ((spelled (requestParams request)).flatMap looksAt) ∧
        (requestMethod? request = some "decodeRechargeData" ∨
          requestMethod? request = some "encodeWithdraw" → events = []) := by
  intro tx other request chain after
  have looks : ¬ Changes request := by
    rintro ⟨name, mem, method⟩
    obtain rfl : "processedInvalidWithdrawtx" = name := Json.str.inj (Option.some.inj method)
    revert mem
    decide
  have spelt : spelled (requestParams request) = [tx, other, tx] := by decide +kernel
  have read : after.log = [⟨.isCompleted other, true⟩, ⟨.isCompleted tx, false⟩] := by
    decide +kernel
  exact ⟨looks, spelt, read, untouched_of_not_changes ⟨true, true, true⟩ 8 chain .empty [] looks⟩

end TransferRelay
