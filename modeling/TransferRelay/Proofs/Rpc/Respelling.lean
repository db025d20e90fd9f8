import TransferRelay.Proofs.Rpc.BatchRequest
import TransferRelay.Proofs.Transfer.Spelling

/-!
# The spelling of an identifier does not matter

Two requests that differ in nothing but how they spell an identifier are read as the same
invocation (`parse_respelled`), so their plans are the same, and with them all that a client, the
chain or a counter can see. A batch echoes its texts, so of two batches in different spellings the
answers have different texts, but at the same positions. `complete_handle_respelled` says both.
-/

namespace TransferRelay

variable {σ : Type}

namespace Rpc

open TransferId (Spelling SameSpelled)

/-! ## Parameters in two spellings -/

/-- Parameters of a method are the same but for the text of the identifier, a member of an object or
the item of an array at the position of that field. -/
inductive Respelled (m : Method) : Json → Json → Prop
  | named (before after : List (String × Json)) {s s' : String} (same : SameSpelled s s') :
      Respelled m (.obj (before ++ ("txHash", .str s) :: after))
        (.obj (before ++ ("txHash", .str s') :: after))
  | listed (before after : List Json) {s s' : String} (same : SameSpelled s s')
      (position : (m.shape.fields.map Field.name)[before.length]? = some "txHash") :
      Respelled m (.arr (before ++ .str s :: after)) (.arr (before ++ .str s' :: after))

/-- Two values of a field are used alike: those of the identifier spell the same one, and others are
the same. -/
def Field.Agrees : (f : Field) → f.type.Value → f.type.Value → Prop
  | ⟨name, .text⟩, s, s' =>
    if name = "txHash" then TransferId.parse s = TransferId.parse s' else s = s'
  | ⟨_, .texts⟩, v, v' => v = v'
  | ⟨_, .optionalText⟩, v, v' => v = v'
  | ⟨_, .anything⟩, v, v' => v = v'

theorem Field.agrees_refl (f : Field) (v : f.type.Value) : f.Agrees v v := by
  obtain ⟨name, type⟩ := f
  cases type with
  | text =>
    show if name = "txHash" then _ else _
    split <;> rfl
  | _ => exact rfl

/-- The values of all fields are used alike. -/
def Record.Agrees : (fs : List Field) → Record fs → Record fs → Prop
  | [], _, _ => True
  | f :: fs, (v, vs), (v', vs') => f.Agrees v v' ∧ Agrees fs vs vs'

theorem Record.agrees_refl (fs : List Field) (vs : Record fs) : Record.Agrees fs vs vs := by
  induction fs with
  | nil => trivial
  | cons f fs ih => exact ⟨f.agrees_refl vs.1, ih vs.2⟩

/-! ## Reading them -/

/-- Among fields, the identifier is a text. -/
def HashIsText (fs : List Field) : Prop :=
  ∀ f ∈ fs, f.name = "txHash" → f.type = .text

theorem hashIsText_shape (m : Method) : HashIsText m.shape.fields := by
  cases m <;> simp [HashIsText, Method.shape]

theorem HashIsText.tail {f : Field} {fs : List Field} (h : HashIsText (f :: fs)) : HashIsText fs :=
  fun g hg => h g (List.mem_cons_of_mem f hg)

/-- A value that is read twice is read alike. -/
theorem endAlike_refl (f : Field) (x : Except ShapeFault f.type.Value) :
    EndAlike Eq f.Agrees x x := by
  cases x with
  | error e => exact .error rfl
  | ok v => exact .ok (f.agrees_refl v)

/-- The identifier is read in both spellings. -/
theorem read_respelled {s s' : String} (same : SameSpelled s s') {f : Field}
    (name : f.name = "txHash") (text : f.type = .text) :
    EndAlike Eq f.Agrees (f.type.read (.str s)) (f.type.read (.str s')) := by
  obtain ⟨fname, type⟩ := f
  subst text name
  have hread : ∀ s : String, FieldType.text.read (.str s) = .ok s := fun s => rfl
  rw [hread, hread]
  refine .ok ?_
  show if "txHash" = "txHash" then TransferId.parse s = TransferId.parse s' else s = s'
  rw [if_pos rfl]
  exact TransferId.parse_of_sameSpelled same

/-- One more field in front of fields that are read alike. -/
theorem endAlike_cons {f : Field} {fs : List Field} {x y : Except ShapeFault f.type.Value}
    {xs ys : Except ShapeFault (Record fs)} (first : EndAlike Eq f.Agrees x y)
    (rest : EndAlike Eq (Record.Agrees fs) xs ys) :
    EndAlike Eq (Record.Agrees (f :: fs)) (x >>= fun v => xs.map (v, ·))
      (y >>= fun v => ys.map (v, ·)) := by
  cases first with
  | error faults => exact .error faults
  | ok agrees => exact rest.map fun _ _ hrest => ⟨agrees, hrest⟩

theorem readItems_cons (shape : Shape) (position : Nat) (f : Field) (fs : List Field) (j : Json)
    (rest : List Json) :
    shape.readItems position (f :: fs) (j :: rest) =
      f.type.read j >>= fun v => (shape.readItems (position + 1) fs rest).map (v, ·) := by
  rw [Shape.readItems]
  cases f.type.read j <;> rfl

/-- A field is read off what an object has under its name, if it has something. -/
def Field.readGiven (f : Field) : Option Json → Except ShapeFault f.type.Value
  | some j => f.type.read j
  | none =>
    match f.type.absent? with
    | some v => .ok v
    | none => .error (.missingField f.name)

theorem readMembers_cons (members : List (String × Json)) (f : Field) (fs : List Field) :
    Shape.readMembers members (f :: fs) =
      f.readGiven (Json.Members.get? f.name members) >>= fun v =>
        (Shape.readMembers members fs).map (v, ·) := by
  rw [Shape.readMembers]
  cases Json.Members.get? f.name members with
  | some j =>
    simp only [Field.readGiven]
    cases f.type.read j <;> rfl
  | none =>
    simp only [Field.readGiven]
    cases f.type.absent? <;> rfl

theorem get?_respelled (before after : List (String × Json)) (s s' name : String) :
    Json.Members.get? name (before ++ ("txHash", .str s) :: after) =
        Json.Members.get? name (before ++ ("txHash", .str s') :: after) ∨
      name = "txHash" ∧
        Json.Members.get? name (before ++ ("txHash", .str s) :: after) = some (.str s) ∧
        Json.Members.get? name (before ++ ("txHash", .str s') :: after) = some (.str s') := by
  induction before with
  | nil =>
    by_cases h : name = "txHash"
    · subst h
      exact .inr ⟨rfl, List.lookup_cons_self, List.lookup_cons_self⟩
    · have hne : (name == "txHash") = false := beq_eq_false_iff_ne.mpr h
      left
      simp only [Json.Members.get?, List.nil_append, List.lookup_cons, hne]
  | cons member before ih =>
    obtain ⟨other, j⟩ := member
    simp only [Json.Members.get?, List.cons_append, List.lookup_cons] at ih ⊢
    cases name == other with
    | true => exact .inl rfl
    | false => exact ih

section Reading

variable {s s' : String} (same : SameSpelled s s')

include same

/-- The items of two arrays are read alike, up to the identifier and behind it. -/
theorem readItems_respelled (shape : Shape) {fs : List Field} (texts : HashIsText fs)
    {before after : List Json} (position : Nat)
    (hash : (fs.map Field.name)[before.length]? = some "txHash") :
    EndAlike Eq (Record.Agrees fs) (shape.readItems position fs (before ++ .str s :: after))
      (shape.readItems position fs (before ++ .str s' :: after)) := by
  induction before generalizing fs position with
  | nil =>
    cases fs with
    | nil => cases hash
    | cons f fs =>
      have name : f.name = "txHash" := Option.some.inj hash
      have rest : ∀ xs : Except ShapeFault (Record fs), EndAlike Eq (Record.Agrees fs) xs xs := by
        intro xs
        cases xs with
        | error e => exact .error rfl
        | ok vs => exact .ok (Record.agrees_refl fs vs)
      rw [List.nil_append, List.nil_append, readItems_cons, readItems_cons]
      exact endAlike_cons (read_respelled same name (texts f List.mem_cons_self name)) (rest _)
  | cons j before ih =>
    cases fs with
    | nil => cases hash
    | cons f fs =>
      rw [List.cons_append, List.cons_append, readItems_cons, readItems_cons]
      exact endAlike_cons (endAlike_refl f _) (ih texts.tail (position + 1) hash)

/-- The members of two objects are found wanting alike. -/
theorem checkMembers_respelled {fs : List Field} (texts : HashIsText fs)
    (before after : List (String × Json)) :
    Shape.checkMembers fs (before ++ ("txHash", .str s) :: after) =
      Shape.checkMembers fs (before ++ ("txHash", .str s') :: after) := by
  induction before with
  | nil =>
    rw [List.nil_append, List.nil_append, Shape.checkMembers, Shape.checkMembers]
    cases hfind : fs.find? fun f => f.name == "txHash" with
    | none => rfl
    | some f =>
      have name : f.name = "txHash" := by simpa using List.find?_some hfind
      have hread := read_respelled same name (texts f (List.mem_of_find?_eq_some hfind) name)
      dsimp only
      generalize f.type.read (.str s) = x at hread
      generalize f.type.read (.str s') = y at hread
      cases hread with
      | error faults => exact congrArg Except.error faults
      | ok agrees => rfl
  | cons member before ih =>
    rw [List.cons_append, List.cons_append, Shape.checkMembers, Shape.checkMembers, ih]

/-- The fields of two objects are read alike. -/
theorem readMembers_respelled {fs : List Field} (texts : HashIsText fs)
    (before after : List (String × Json)) :
    EndAlike Eq (Record.Agrees fs)
      (Shape.readMembers (before ++ ("txHash", .str s) :: after) fs)
      (Shape.readMembers (before ++ ("txHash", .str s') :: after) fs) := by
  induction fs with
  | nil => exact .ok trivial
  | cons f fs ih =>
    rw [readMembers_cons, readMembers_cons]
    refine endAlike_cons ?_ (ih texts.tail)
    rcases get?_respelled before after s s' f.name with heq | ⟨name, hs, hs'⟩
    · rw [heq]
      exact endAlike_refl f _
    · rw [hs, hs']
      exact read_respelled same name (texts f List.mem_cons_self name)

end Reading

/-- Parameters in two spellings are read as fields that are used alike. -/
theorem read_of_respelled {m : Method} {params params' : Json} (h : Respelled m params params') :
    EndAlike Eq (Record.Agrees m.shape.fields) (m.shape.read params) (m.shape.read params') := by
  cases h with
  | named before after same =>
    rw [Shape.read, Shape.read,
      checkMembers_respelled same (hashIsText_shape m) before after]
    cases Shape.checkMembers m.shape.fields (before ++ ("txHash", .str _) :: after) with
    | error e => exact .error rfl
    | ok _ => exact readMembers_respelled same (hashIsText_shape m) before after
  | listed before after same position =>
    exact readItems_respelled same m.shape (hashIsText_shape m) 0 position

/-! ## What a method is asked to do -/

theorem eq_of_agrees {name : String} {s s' : String} (h : (⟨name, .text⟩ : Field).Agrees s s')
    (hne : name ≠ "txHash") : s = s' := by
  have h : if name = "txHash" then TransferId.parse s = TransferId.parse s' else s = s' := h
  rwa [if_neg hne] at h

/-- Of fields that are used alike, a method makes the same. -/
theorem invocation_of_agrees (m : Method) {vs vs' : Record m.shape.fields}
    (h : Record.Agrees m.shape.fields vs vs') :
    Params.invocation m vs = Params.invocation m vs' := by
  cases m with
  | processedInvalidWithdraw =>
    obtain ⟨txs, _⟩ := vs
    obtain ⟨txs', _⟩ := vs'
    obtain ⟨rfl, -⟩ : txs = txs' ∧ True := h
    rfl
  | receivedInvalidWithdraw =>
    obtain ⟨signature, hash, _⟩ := vs
    obtain ⟨signature', hash', _⟩ := vs'
    obtain ⟨hsignature, hhash, -⟩ := h
    obtain rfl := eq_of_agrees hsignature (by decide)
    have hkey : TransferId.parse hash = TransferId.parse hash' := hhash
    simp only [Params.invocation, hkey]
  | smallTransfer =>
    obtain ⟨signature, rawTx, hash, _⟩ := vs
    obtain ⟨signature', rawTx', hash', _⟩ := vs'
    obtain ⟨hsignature, hraw, hhash, -⟩ := h
    obtain rfl := eq_of_agrees hsignature (by decide)
    obtain rfl := eq_of_agrees hraw (by decide)
    have hkey : TransferId.parse hash = TransferId.parse hash' := hhash
    simp only [Params.invocation, hkey]
  | recharge =>
    obtain ⟨hash, data, _⟩ := vs
    obtain ⟨hash', data', _⟩ := vs'
    obtain ⟨hhash, hdata, -⟩ := h
    obtain rfl : data = data' := hdata
    have hkey : TransferId.parse hash = TransferId.parse hash' := hhash
    refine (invocation_recharge hash data).trans ?_
    rw [hkey]
    exact (invocation_recharge hash' data).symm
  | refundWithdraw | rechargeData | withdrawData =>
    obtain ⟨hash, _⟩ := vs
    obtain ⟨hash', _⟩ := vs'
    obtain ⟨hhash, -⟩ := h
    have hkey : TransferId.parse hash = TransferId.parse hash' := hhash
    simp only [Params.invocation, hkey]
  | decodeRechargeData =>
    obtain ⟨data, _⟩ := vs
    obtain ⟨data', _⟩ := vs'
    obtain ⟨hdata, -⟩ := h
    obtain rfl := eq_of_agrees hdata (by decide)
    rfl
  | encodeWithdraw =>
    obtain ⟨destination, amount, fee, _⟩ := vs
    obtain ⟨destination', amount', fee', _⟩ := vs'
    obtain ⟨hdestination, hamount, hfee, -⟩ := h
    obtain rfl := eq_of_agrees hdestination (by decide)
    obtain rfl : amount = amount' := hamount
    obtain rfl : fee = fee' := hfee
    rfl

/-- What a method is asked to do by parameters that have been read. -/
def asked (m : Method) :
    Except ShapeFault (Record m.shape.fields) → Except Fault Invocation
  | .error cause => .error (.input (.badShape cause))
  | .ok vs => Params.invocation m vs

/-- Parameters in two spellings ask for the same, or are refused for the same reason. -/
theorem parse_respelled {m : Method} {params params' : Json} (h : Respelled m params params') :
    Params.parse m params = Params.parse m params' := by
  have hasked : Params.parse m params = asked m (m.shape.read params) ∧
      Params.parse m params' = asked m (m.shape.read params') := by
    cases h <;> exact ⟨rfl, rfl⟩
  have hread := read_of_respelled h
  rw [hasked.1, hasked.2]
  generalize m.shape.read params = x at hread
  generalize m.shape.read params' = y at hread
  cases hread with
  | error faults => rw [faults]
  | ok agrees => exact invocation_of_agrees m agrees

/-! ## Requests in two spellings -/

/-- Requests that differ in the spelling of an identifier only are handled by one plan. -/
theorem handle_respelled {request request' params params' : Json} {m : Method}
    (id : request'.get? "id" = request.get? "id")
    (method : request.get? "method" = some (.str m.name))
    (method' : request'.get? "method" = some (.str m.name))
    (given : request.get? "params" = some params)
    (given' : request'.get? "params" = some params') (h : Respelled m params params') :
    handle request = handle request' := by
  have hcall : m.call params = m.call params' := by
    rw [Method.call, Method.call, parse_respelled h]
  rw [handle_of_given method given, handle_of_given method' given', hcall]
  simp only [answer_congr id]

/-! ## Batches in two spellings -/

/-- Two lists of texts, entry by entry the same or in two spellings. -/
abbrev SpelledAlike : List String → List String → Prop :=
  List.Forall₂ SameSpelled

theorem keys_spelledAlike {txs txs' : List String} (h : SpelledAlike txs txs') :
    Inquiry.keys TransferId.parse txs = Inquiry.keys TransferId.parse txs' := by
  induction h with
  | nil => rfl
  | cons first rest ih =>
    rw [Inquiry.keys, Inquiry.keys, TransferId.parse_of_sameSpelled first, ih]

/-- How a batch ends: with a fault, or with the texts at the positions of some flags. -/
inductive Picks (txs txs' : List String) :
    Except Fault (List String) → Except Fault (List String) → Prop
  | failed (fault : Fault) : Picks txs txs' (.error fault) (.error fault)
  | kept (flags : List Bool) :
      Picks txs txs' (.ok (Inquiry.keep txs flags)) (.ok (Inquiry.keep txs' flags))

/-- Of two batches in different spellings, the same reads are made and the same positions kept. -/
theorem complete_filterBy_spelledAlike (d : Deployment σ) {txs txs' : List String}
    (h : SpelledAlike txs txs') (w : World σ) :
    Picks txs txs' ((Inquiry.filterBy TransferId.parse txs).run.complete d w).1
        ((Inquiry.filterBy TransferId.parse txs').run.complete d w).1 ∧
      ((Inquiry.filterBy TransferId.parse txs).run.complete d w).2 =
        ((Inquiry.filterBy TransferId.parse txs').run.complete d w).2 := by
  have hkeys := keys_spelledAlike h
  cases hids : Inquiry.keys TransferId.parse txs with
  | error cause =>
    -- the first text that is no identifier is the same in both
    have hrun : ∀ items : List String, Inquiry.keys TransferId.parse items = .error cause →
        (Inquiry.filterBy TransferId.parse items).run = .done (.error cause) := by
      intro items hitems
      rw [Inquiry.filterBy, hitems]
      rfl
    rw [hrun txs hids, hrun txs' (hkeys.symm.trans hids)]
    exact ⟨.failed _, rfl⟩
  | ok ids =>
    have keyed := Inquiry.keys_eq_ok_iff.mp hids
    have keyed' := Inquiry.keys_eq_ok_iff.mp (hkeys.symm.trans hids)
    rw [Inquiry.filterBy_run keyed, Inquiry.filterBy_run keyed']
    have hflags : ∀ items : List String,
        (Plan.flags ids (Inquiry.afterFlags items)).complete d w =
          (Inquiry.afterFlags items (d.readFlags ids w).1).complete d (d.readFlags ids w).2 :=
      fun items => rfl
    rw [hflags, hflags]
    cases (d.readFlags ids w).1 with
    | error cause => exact ⟨.failed _, rfl⟩
    | ok flags => exact ⟨.kept flags, rfl⟩

/-- **How an identifier is spelled does not matter.** Of two requests that differ in this only,

* the answers, the calls that the chain sees, its state and the counters are the same, whatever
  method that takes an identifier they are for, and whatever else they say;
* if they ask which of some texts are complete, nothing but the answers differs: both are refused
  for the same reason, or both have the texts at the same positions, each in its own spelling. -/
theorem complete_handle_respelled (d : Deployment σ) (w : World σ) (request request' : Json)
    (id : request'.get? "id" = request.get? "id") :
    (∀ (m : Method) (params params' : Json),
      request.get? "method" = some (.str m.name) → request'.get? "method" = some (.str m.name) →
      request.get? "params" = some params → request'.get? "params" = some params' →
      Respelled m params params' →
      (handle request).complete d w = (handle request').complete d w) ∧
    ∀ txs txs' : List String, AsksCompleted request txs → AsksCompleted request' txs' →
      SpelledAlike txs txs' →
      let after := (handle request).complete d w
      let after' := (handle request').complete d w
      after.2 = after'.2 ∧ after.1.id = after'.1.id ∧
        ((∃ refusal, after.1.answer = .error refusal ∧ after'.1.answer = .error refusal) ∨
          ∃ flags : List Bool,
            after.1.answer = .ok (.arr ((Inquiry.keep txs flags).map .str)) ∧
            after'.1.answer = .ok (.arr ((Inquiry.keep txs' flags).map .str))) := by
  refine ⟨?_, ?_⟩
  · intro m params params' method method' given given' respelled
    rw [handle_respelled id method method' given given' respelled]
  · intro txs txs' asks asks' alike after after'
    have hid : requestId request = requestId request' := by
      rw [requestId, requestId, id]
    obtain ⟨hpicks, hworld⟩ := complete_filterBy_spelledAlike d alike w
    rcases hkept : (Inquiry.filterBy TransferId.parse txs).run.complete d w with ⟨r, world⟩
    rcases hkept' : (Inquiry.filterBy TransferId.parse txs').run.complete d w with ⟨r', world'⟩
    have hafter : after = _ := complete_handle_of_asksCompleted d asks hkept
    have hafter' : after' = _ := complete_handle_of_asksCompleted d asks' hkept'
    rw [hkept, hkept'] at hpicks hworld
    obtain rfl : world = world' := hworld
    have hpicks : Picks txs txs' r r' := hpicks
    rw [hafter, hafter']
    -- what is counted follows what is answered, and the rest is the same
    cases hpicks with
    | failed fault => exact ⟨rfl, hid, .inl ⟨.failed fault, rfl, rfl⟩⟩
    | kept flags => exact ⟨rfl, hid, .inr ⟨flags, rfl, rfl⟩⟩

/-- A refund and a batch on a chain in memory that has a transfer complete, with its identifier
spelled in lowercase behind a mark, and in uppercase between blanks. -/
theorem complete_handle_respelled_in_uppercase :
    let tx : TransferId := ⟨List.replicate 32 0xaa, rfl⟩
    let lower := "0xaaaaaaaaaaaaaaaaaaaaaaaaaaaaaaaaaaaaaaaaaaaaaaaaaaaaaaaaaaaaaaaa"
    let upper := " AAAAAAAAAAAAAAAAAAAAAAAAAAAAAAAAAAAAAAAAAAAAAAAAAAAAAAAAAAAAAAAA\n"
    let refund (hash : String) : Json := .obj [("id", .str "r"), ("method", .str "refundWithdraw"),
      ("params", .obj [("txHash", .str hash)])]
    let batch (txs : List String) : Json := .obj [("method", .str "processedInvalidWithdrawtx"),
      ("params", .obj [("txs", .arr (txs.map .str))])]
    let d : Deployment Ledger := ⟨Ledger.answer, fun _ => true, 8⟩
    let w : World Ledger := .initial (Ledger.empty.apply (.complete [tx]))
    Spelling lower tx ∧ Spelling upper tx ∧
      (handle (refund lower)).complete d w = (handle (refund upper)).complete d w ∧
      ((handle (batch [lower, "0x12"])).complete d w).2 =
        ((handle (batch [upper, "0x12"])).complete d w).2 := by
  have digits : Hex.Spells (List.replicate 64 'a') (List.replicate 32 0xaa) :=
    Hex.decode_eq_ok_iff_spells.mp (by decide +kernel)
  have capitals : Hex.Spells (List.replicate 64 'A') (List.replicate 32 0xaa) :=
    Hex.decode_eq_ok_iff_spells.mp (by decide +kernel)
  have marked : "0xaaaaaaaaaaaaaaaaaaaaaaaaaaaaaaaaaaaaaaaaaaaaaaaaaaaaaaaaaaaaaaaa".toList =
      [] ++ (['0', 'x'] ++ List.replicate 64 'a') ++ [] := by decide +kernel
  have blanks : " AAAAAAAAAAAAAAAAAAAAAAAAAAAAAAAAAAAAAAAAAAAAAAAAAAAAAAAAAAAAAAAA\n".toList =
      [' '] ++ ([] ++ List.replicate 64 'A') ++ ['\n'] := by decide +kernel
  intro tx lower upper refund batch d w
  have hlower : Spelling lower tx := .mk _ _ _ _ marked nofun (by decide) digits nofun
  have hupper : Spelling upper tx :=
    .mk _ _ _ _ blanks (List.forall_mem_singleton.mpr rfl) (by decide) capitals
      (List.forall_mem_singleton.mpr rfl)
  have respelled : SameSpelled lower upper := .inr ⟨tx, hlower, hupper⟩
  have asks (txs : List String) : AsksCompleted (batch txs) txs :=
    ⟨_, rfl, rfl, .named (List.pairwise_singleton _ _) (List.forall_mem_singleton.mpr rfl)⟩
  have refunds := (complete_handle_respelled d w (refund lower) (refund upper) rfl).1
  have batches := (complete_handle_respelled d w (batch [lower, "0x12"]) (batch [upper, "0x12"])
    rfl).2
  refine ⟨hlower, hupper, ?_, ?_⟩
  · exact refunds .refundWithdraw _ _ rfl rfl rfl rfl (.named [] [] respelled)
  · exact (batches [lower, "0x12"] [upper, "0x12"] (asks _) (asks _)
      (.cons respelled (.cons (.inl rfl) .nil))).1

end Rpc

end TransferRelay
