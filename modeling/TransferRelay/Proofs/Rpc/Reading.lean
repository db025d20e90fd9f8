import TransferRelay.Proofs.Results
import TransferRelay.Rpc.Params

/-!
# What parameters give

Parameters give values to the fields of a shape in two ways: an object names them, an array has them
in their order. `Gives` says which entries parameters give, whichever way it is. Reading finds the
entries that are given (`Shape.read_of_gives`) and nothing else (`Shape.exists_gives_of_read`), so
what a method makes of its parameters needs to be looked at once only.
-/

namespace TransferRelay.Rpc

/-- Parameters give these values to these names, or nothing to a name. -/
inductive Gives (entries : List (String × Option Json)) : Json → Prop
  /-- An object has each of its names once; names that are no fields are passed over. -/
  | named {members : List (String × Json)} (once : (members.map Prod.fst).Nodup)
      (each : ∀ e ∈ entries, Json.Members.get? e.1 members = e.2) : Gives entries (.obj members)
  /-- An array has the values in the order of the names; it may end before those without one. -/
  | listed {items : List Json} {absent : Nat}
      (each : entries.map Prod.snd = items.map some ++ List.replicate absent none) :
      Gives entries (.arr items)

/-- The value of a field is read off what is given for it. -/
inductive FieldType.Reads : (t : FieldType) → Option Json → t.Value → Prop
  | given {t : FieldType} {j : Json} {v : t.Value} (read : t.read j = .ok v) : Reads t (some j) v
  | absent {t : FieldType} {v : t.Value} (absent : t.absent? = some v) : Reads t none v

/-- The values of fields are read off what is given for them. -/
inductive Record.Reads : (fs : List Field) → List (String × Option Json) → Record fs → Prop
  | nil : Reads [] [] ()
  | cons {f : Field} {fs : List Field} {o : Option Json} {es : List (String × Option Json)}
      {v : f.type.Value} {vs : Record fs} (first : f.type.Reads o v) (rest : Reads fs es vs) :
      Reads (f :: fs) ((f.name, o) :: es) (v, vs)

/-- Each field is read off an entry of its name. -/
theorem Record.Reads.exists_entry {fs : List Field} {es : List (String × Option Json)}
    {vs : Record fs} (h : Record.Reads fs es vs) {f : Field} (hf : f ∈ fs) :
    ∃ o v, (f.name, o) ∈ es ∧ f.type.Reads o v := by
  induction h with
  | nil => cases hf
  | cons first rest ih =>
    rcases List.mem_cons.mp hf with rfl | hf
    · exact ⟨_, _, List.mem_cons_self, first⟩
    · obtain ⟨o, v, hmem, hread⟩ := ih hf
      exact ⟨o, v, List.mem_cons_of_mem _ hmem, hread⟩

theorem Record.Reads.uncons {f : Field} {fs : List Field} {es : List (String × Option Json)}
    {vs : Record (f :: fs)} (h : Record.Reads (f :: fs) es vs) :
    ∃ o rest, es = (f.name, o) :: rest ∧ f.type.Reads o vs.1 ∧ Record.Reads fs rest vs.2 := by
  cases h with
  | cons first rest => exact ⟨_, _, rfl, first, rest⟩

theorem Record.reads_cons_iff {f : Field} {fs : List Field} {o : Option Json}
    {es : List (String × Option Json)} {vs : Record (f :: fs)} :
    Record.Reads (f :: fs) ((f.name, o) :: es) vs ↔
      f.type.Reads o vs.1 ∧ Record.Reads fs es vs.2 := by
  constructor
  · intro h
    cases h with
    | cons first rest => exact ⟨first, rest⟩
  · exact fun h => .cons h.1 h.2

/-- What is read has the names of the fields. -/
theorem Record.Reads.names {fs : List Field} {es : List (String × Option Json)} {vs : Record fs}
    (h : Record.Reads fs es vs) : es.map Prod.fst = fs.map Field.name := by
  induction h with
  | nil => rfl
  | cons _ _ ih => rw [List.map_cons, List.map_cons, ih]

theorem Record.Reads.eq_nil {es : List (String × Option Json)} {vs : Record []}
    (h : Record.Reads [] es vs) : es = [] := by
  cases h
  rfl

theorem FieldType.Reads.given_or_absent {t : FieldType} {o : Option Json} {v : t.Value}
    (h : t.Reads o v) :
    (∃ j, o = some j ∧ t.read j = .ok v) ∨ (o = none ∧ t.absent? = some v) := by
  cases h with
  | given read => exact .inl ⟨_, rfl, read⟩
  | absent absent => exact .inr ⟨rfl, absent⟩

/-- A text is read of a text, and of nothing else. -/
theorem reads_text_iff {o : Option Json} {s : String} :
    FieldType.text.Reads o s ↔ o = some (.str s) := by
  constructor
  · intro h
    rcases h.given_or_absent with ⟨j, rfl, hread⟩ | ⟨rfl, habsent⟩
    · cases j with
      | str s' =>
        cases hread
        rfl
      | _ => cases hread
    · cases habsent
  · rintro rfl
    exact .given rfl

theorem Record.Reads.uncons_text {name : String} {fs : List Field}
    {es : List (String × Option Json)} {vs : Record (⟨name, .text⟩ :: fs)}
    (h : Record.Reads (⟨name, .text⟩ :: fs) es vs) :
    ∃ rest, es = (name, some (.str vs.1)) :: rest ∧ Record.Reads fs rest vs.2 := by
  obtain ⟨o, rest, rfl, hfirst, hrest⟩ := h.uncons
  obtain rfl := reads_text_iff.mp hfirst
  exact ⟨rest, rfl, hrest⟩

/-- A text that may be left out is read of nothing and of null, beside a text. -/
theorem reads_optionalText_iff {o : Option Json} {text : Option String} :
    FieldType.optionalText.Reads o text ↔
      (text = none ∧ (o = none ∨ o = some .null)) ∨ ∃ s, text = some s ∧ o = some (.str s) := by
  constructor
  · intro h
    rcases h.given_or_absent with ⟨j, rfl, hread⟩ | ⟨rfl, habsent⟩
    · cases j with
      | null =>
        cases hread
        exact .inl ⟨rfl, .inr rfl⟩
      | str s =>
        cases hread
        exact .inr ⟨s, rfl, rfl⟩
      | _ => cases hread
    · cases habsent
      exact .inl ⟨rfl, .inl rfl⟩
  · rintro (⟨rfl, rfl | rfl⟩ | ⟨s, rfl, rfl⟩)
    · exact .absent rfl
    · exact .given rfl
    · exact .given rfl

/-! ## Arrays -/

theorem Shape.readItems_of_reads (shape : Shape) {fs : List Field}
    {es : List (String × Option Json)} {vs : Record fs} (h : Record.Reads fs es vs)
    {items : List Json} {absent : Nat} (position : Nat)
    (each : es.map Prod.snd = items.map some ++ List.replicate absent none) :
    shape.readItems position fs items = .ok vs := by
  induction h generalizing items absent position with
  | nil =>
    cases items with
    | nil => rfl
    | cons j rest => cases each
  | cons first rest ih =>
    cases items with
    | cons j items =>
      obtain ⟨hhead, htail⟩ := List.cons.inj each
      cases hhead
      cases first with
      | given hread => rw [readItems, hread, ih (position + 1) htail]; rfl
    | nil =>
      cases absent with
      | zero => cases each
      | succ absent =>
        obtain ⟨hhead, htail⟩ := List.cons.inj each
        cases hhead
        cases first with
        | absent habsent =>
          have hrest : shape.readItems (position + 1) _ [] = .ok _ := ih (position + 1) htail
          rw [readItems, habsent, hrest]
          rfl

/-- What is read from an array is given by it. -/
theorem Shape.exists_of_readItems (shape : Shape) {fs : List Field} {items : List Json}
    {vs : Record fs} {position : Nat} (h : shape.readItems position fs items = .ok vs) :
    ∃ es absent, Record.Reads fs es vs ∧
      es.map Prod.snd = items.map some ++ List.replicate absent none := by
  induction fs generalizing items position with
  | nil =>
    cases items with
    | nil => exact ⟨[], 0, .nil, rfl⟩
    | cons j rest => cases h
  | cons f fs ih =>
    cases items with
    | nil =>
      rw [readItems] at h
      split at h
      · cases h
      · rename_i v hv
        obtain ⟨rest, hrest, rfl⟩ := exists_of_map_eq_ok h
        obtain ⟨es, absent, hreads, heach⟩ := ih hrest
        -- the array has ended, so this field is one of those left out
        refine ⟨(f.name, none) :: es, absent + 1, .cons (.absent hv) hreads, ?_⟩
        exact congrArg (none :: ·) heach
    | cons j items =>
      rw [readItems] at h
      split at h
      · cases h
      · rename_i v hv
        obtain ⟨rest, hrest, rfl⟩ := exists_of_map_eq_ok h
        obtain ⟨es, absent, hreads, heach⟩ := ih hrest
        refine ⟨(f.name, some j) :: es, absent, .cons (.given hv) hreads, ?_⟩
        exact congrArg (some j :: ·) heach

/-! ## Objects -/

theorem get?_of_mem {members : List (String × Json)} (once : (members.map Prod.fst).Nodup)
    {name : String} {j : Json} (h : (name, j) ∈ members) :
    Json.Members.get? name members = some j := by
  induction members with
  | nil => cases h
  | cons member rest ih =>
    obtain ⟨hnot, hrest⟩ := List.nodup_cons.mp once
    rcases List.mem_cons.mp h with rfl | h
    · exact List.lookup_cons_self
    · have hne : (name == member.1) = false := by
        rw [beq_eq_false_iff_ne]
        intro hname
        exact hnot (List.mem_map.mpr ⟨(name, j), h, hname⟩)
      rw [Json.Members.get?, List.lookup_cons, hne]
      exact ih hrest h

theorem readMembers_of_reads {members : List (String × Json)} {fs : List Field}
    {es : List (String × Option Json)} {vs : Record fs} (h : Record.Reads fs es vs)
    (each : ∀ e ∈ es, Json.Members.get? e.1 members = e.2) :
    Shape.readMembers members fs = .ok vs := by
  induction h with
  | nil => rfl
  | cons first rest ih =>
    have hrest := ih fun e he => each e (List.mem_cons_of_mem _ he)
    have hget := each _ List.mem_cons_self
    cases first with
    | given hread => simp only [Shape.readMembers, hget, hread, hrest]; rfl
    | absent habsent => simp only [Shape.readMembers, hget, habsent, hrest]; rfl

/-- No member that is a field is found wanting. -/
theorem checkMembers_of_reads {members : List (String × Json)}
    (once : (members.map Prod.fst).Nodup) {fs : List Field} {es : List (String × Option Json)}
    {vs : Record fs} (h : Record.Reads fs es vs)
    (each : ∀ e ∈ es, Json.Members.get? e.1 members = e.2) :
    Shape.checkMembers fs members = .ok () := by
  have hall : ∀ part : List (String × Json), (∀ m ∈ part, m ∈ members) →
      Shape.checkMembers fs part = .ok () := by
    intro part
    induction part with
    | nil => exact fun _ => rfl
    | cons member rest ih =>
      intro hsub
      have hrest := ih fun m hm => hsub m (List.mem_cons_of_mem _ hm)
      have hget := get?_of_mem once (hsub member List.mem_cons_self)
      unfold Shape.checkMembers
      split
      · exact hrest
      · rename_i f hfind
        obtain ⟨o, v, hmem, hread⟩ := h.exists_entry (List.mem_of_find?_eq_some hfind)
        have hname : f.name = member.1 := by simpa using List.find?_some hfind
        -- the member is what is given for the field, since no other has its name
        have hentry : Json.Members.get? f.name members = o := each _ hmem
        rw [hname, hget] at hentry
        subst hentry
        cases hread with
        | given hread => rw [hread]; exact hrest
  exact hall members fun m hm => hm

/-- What is read from an object is given by it. -/
theorem exists_of_readMembers {members : List (String × Json)} {fs : List Field} {vs : Record fs}
    (h : Shape.readMembers members fs = .ok vs) :
    ∃ es, Record.Reads fs es vs ∧ ∀ e ∈ es, Json.Members.get? e.1 members = e.2 := by
  induction fs with
  | nil => exact ⟨[], .nil, nofun⟩
  | cons f fs ih =>
    simp only [Shape.readMembers] at h
    split at h
    · cases h
    · rename_i v hv
      obtain ⟨rest, hrest, rfl⟩ := exists_of_map_eq_ok h
      obtain ⟨es, hreads, heach⟩ := ih hrest
      -- an object gives a field what it has under the name of the field
      refine ⟨(f.name, Json.Members.get? f.name members) :: es, .cons ?_ hreads,
        List.forall_mem_cons.mpr ⟨rfl, heach⟩⟩
      cases hget : Json.Members.get? f.name members with
      | some j =>
        simp only [hget] at hv
        exact .given hv
      | none =>
        simp only [hget] at hv
        split at hv
        · rename_i v' habsent
          cases hv
          exact .absent habsent
        · cases hv

/-! ## Parameters -/

/-- An object has each of its names once. -/
def NamesOnce : Json → Prop
  | .obj members => (members.map Prod.fst).Nodup
  | _ => True

/-- What parameters give has each name of an object once. -/
theorem Gives.namesOnce {es : List (String × Option Json)} {params : Json} (h : Gives es params) :
    NamesOnce params := by
  cases h with
  | named once _ => exact once
  | listed _ => trivial

/-- Parameters give the same to the same names. -/
theorem Gives.eq_of_names {es es' : List (String × Option Json)} {params : Json}
    (h : Gives es params) (h' : Gives es' params) (names : es'.map Prod.fst = es.map Prod.fst) :
    es' = es := by
  have hvalues : es'.map Prod.snd = es.map Prod.snd := by
    cases h with
    | @named members _ each =>
      cases h' with
      | named _ each' =>
        have hlooked : ∀ {l : List (String × Option Json)},
            (∀ e ∈ l, Json.Members.get? e.1 members = e.2) →
            l.map Prod.snd = (l.map Prod.fst).map fun name => Json.Members.get? name members := by
          intro l hl
          rw [List.map_map]
          exact List.map_congr_left fun e he => (hl e he).symm
        rw [hlooked each', names, ← hlooked each]
    | @listed items absent each =>
      cases h' with
      | @listed _ absent' each' =>
        -- behind the items of the array, as many names are left without a value
        have hlength := congrArg List.length names
        have hcount := congrArg List.length each
        have hcount' := congrArg List.length each'
        simp only [List.length_map, List.length_append, List.length_replicate]
          at hlength hcount hcount'
        obtain rfl : absent' = absent := by omega
        rw [each', each]
  rw [← List.zip_unzip es', ← List.zip_unzip es, List.unzip_eq_map, List.unzip_eq_map, names,
    hvalues]

/-- Reading finds the values that parameters give. -/
theorem Shape.read_of_gives {shape : Shape} {es : List (String × Option Json)}
    {vs : Record shape.fields} {params : Json} (h : Record.Reads shape.fields es vs)
    (gives : Gives es params) : shape.read params = .ok vs := by
  cases gives with
  | named once each =>
    rw [Shape.read, checkMembers_of_reads once h each, readMembers_of_reads h each]
  | listed each => exact shape.readItems_of_reads h 0 each

/-- What is read is given by the parameters. -/
theorem Shape.exists_gives_of_read {shape : Shape} {vs : Record shape.fields} {params : Json}
    (once : NamesOnce params) (h : shape.read params = .ok vs) :
    ∃ es, Record.Reads shape.fields es vs ∧ Gives es params := by
  cases params with
  | obj members =>
    rw [Shape.read] at h
    split at h
    · cases h
    · obtain ⟨es, hreads, heach⟩ := exists_of_readMembers h
      exact ⟨es, hreads, .named once heach⟩
  | arr items =>
    obtain ⟨es, absent, hreads, heach⟩ := shape.exists_of_readItems h
    exact ⟨es, hreads, .listed heach⟩
  | _ => cases h

/-- What is read of parameters depends on nothing but what they give to the fields. -/
theorem Shape.read_eq_ok_iff {shape : Shape} {es : List (String × Option Json)}
    {vs : Record shape.fields} {params : Json} (gives : Gives es params)
    (names : es.map Prod.fst = shape.fields.map Field.name) :
    shape.read params = .ok vs ↔ Record.Reads shape.fields es vs := by
  constructor
  · intro h
    obtain ⟨es', hreads, hgives⟩ := Shape.exists_gives_of_read gives.namesOnce h
    obtain rfl := gives.eq_of_names hgives (hreads.names.trans names.symm)
    exact hreads
  · exact fun h => Shape.read_of_gives h gives

theorem Params.parse_of_gives (m : Method) {es : List (String × Option Json)}
    {vs : Record m.shape.fields} {params : Json} (gives : Gives es params)
    (h : Record.Reads m.shape.fields es vs) : Params.parse m params = Params.invocation m vs := by
  have hread := Shape.read_of_gives h gives
  cases gives <;> rw [Params.parse, hread] <;> rintro ⟨⟩

theorem Params.exists_gives_of_parse {m : Method} {params : Json} (once : NamesOnce params)
    {invocation : Invocation} (h : Params.parse m params = .ok invocation) :
    ∃ es vs, Record.Reads m.shape.fields es vs ∧ Gives es params ∧
      Params.invocation m vs = .ok invocation := by
  unfold Params.parse at h
  split at h
  · cases h
  · split at h
    · cases h
    · rename_i vs hread
      obtain ⟨es, hreads, hgives⟩ := Shape.exists_gives_of_read once hread
      exact ⟨es, vs, hreads, hgives, h⟩

end TransferRelay.Rpc
