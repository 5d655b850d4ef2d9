import SessionControl.Proofs.Fidelity
import SessionControl.Proofs.Inhibition
import SessionControl.Proofs.Maps

set_option autoImplicit false

/-! # All properties of an object

The properties of an object are read one by one or all at once. The answers are of different forms,
a variant by itself and a dictionary of variants, and they are taken apart at different places, but
what the client offers of them is the same (`Handle.properties_agree`): each name has the value of
its last entry, however deep that is and wherever it stands in the list. -/

namespace SessionControl

/-! ## Entries in other places -/

/-- Entries of different names may change places. -/
inductive Shuffled {α : Type} : List (String × α) → List (String × α) → Prop
  | refl (es : List (String × α)) : Shuffled es es
  | swap (before after : List (String × α)) {e e' : String × α} (distinct : e.1 ≠ e'.1) :
      Shuffled (before ++ e :: e' :: after) (before ++ e' :: e :: after)
  | trans {es es' es'' : List (String × α)} (h : Shuffled es es') (h' : Shuffled es' es'') :
      Shuffled es es''

namespace Shuffled

variable {α β : Type} {es es' : List (String × α)}

theorem cons (h : Shuffled es es') (e : String × α) : Shuffled (e :: es) (e :: es') := by
  induction h with
  | refl es => exact .refl _
  | swap before after distinct => exact .swap (e :: before) after distinct
  | trans _ _ ih ih' => exact .trans ih ih'

/-- Where no name is repeated, any order is a shuffling of any other. -/
theorem of_perm (h : es.Perm es') (hnames : (es.map (·.1)).Nodup) : Shuffled es es' := by
  induction h with
  | nil => exact .refl []
  | cons e _ ih => exact (ih (List.nodup_cons.mp hnames).2).cons e
  | swap e e' rest =>
      refine .swap [] rest fun heq => ?_
      exact (List.nodup_cons.mp hnames).1 (List.mem_cons.mpr (.inl heq))
  | trans h _ ih ih' => exact .trans (ih hnames) (ih' ((h.map _).nodup_iff.mp hnames))

theorem map (f : α → β) (h : Shuffled es es') :
    Shuffled (es.map fun e => (e.1, f e.2)) (es'.map fun e => (e.1, f e.2)) := by
  induction h with
  | refl es => exact .refl _
  | trans _ _ ih ih' => exact .trans ih ih'
  | swap before after distinct =>
      simp only [List.map_append, List.map_cons]
      exact .swap _ _ distinct

/-- The entries of one name stay in their order. -/
theorem filter_eq (h : Shuffled es es') (key : String) :
    es.filter (fun e => e.1 = key) = es'.filter fun e => e.1 = key := by
  induction h with
  | refl es => rfl
  | trans _ _ ih ih' => exact ih.trans ih'
  | @swap before after e e' distinct =>
      rw [List.filter_append, List.filter_append]
      congr 1
      -- at most one of the two entries has the name
      by_cases he : e.1 = key
      · have he' : ¬e'.1 = key := fun h => distinct (he.trans h.symm)
        simp only [List.filter_cons, he, he', decide_true, decide_false, Bool.false_eq_true,
          if_true, if_false]
      · simp only [List.filter_cons, he, decide_false, Bool.false_eq_true, if_false]

theorem ofEntries_eq (h : Shuffled es es') : NameMap.ofEntries es = NameMap.ofEntries es' := by
  ext key : 1
  rw [NameMap.get?_ofEntries, NameMap.get?_ofEntries, NameMap.lastOf, NameMap.lastOf,
    h.filter_eq key]

end Shuffled
end SessionControl

namespace SessionControl.Client

variable {σ ε α : Type}

open Bus (Wire)

/-! ## Answers -/

/-- The service can be asked, and answers the call with this body. -/
structure World.Returns (w : World σ) (call : Bus.Call) (body : Bus.Body) : Prop where
  isOpen : w.connection.phase ≠ .closed
  answer : (w.connection.peer.reply w.connection.state call).1.answer = .returned body

theorem result_of_returns {x : Action σ ε α} {call : Bus.Call}
    {read : Except Bus.Failure Bus.Body → Except ε α} (hx : x.AmountsTo (.asks call read))
    {w : World σ} {body : Bus.Body} (h : w.Returns call body) : (x w).1 = read (.ok body) := by
  rw [(Command.exchange_of_amountsTo hx h.isOpen).1]
  unfold Bus.Connection.exchange
  simp only [h.answer]
  rfl

/-- An entry of the dictionary of all properties. -/
def propertyEntry (e : String × Wire) : Wire × Wire := (.string e.1, .variant e.2)

/-- The contents of a dictionary are of the types that it is declared with. -/
def Declared : Wire → Prop
  | .dict key value entries => ∀ e ∈ entries, e.1.type = key ∧ e.2.type = value
  | _ => True

/-! ## Reading them -/

/-- What all properties are read as. -/
def offered (named : List (String × Wire)) : NameMap PropertyValue :=
  .ofEntries (named.map fun e => (e.1, PropertyValue.ofWire e.2))

theorem leadingEntries_propertyEntry (named : List (String × Wire)) :
    Bus.Argument.leadingEntries Bus.Argument.string.read? Bus.Argument.variant.read?
      (named.map propertyEntry) = named := by
  induction named with
  | nil => rfl
  | cons e rest ih => exact congrArg (e :: ·) ih

theorem map_propertyEntry_inj {named named' : List (String × Wire)}
    (h : named.map propertyEntry = named'.map propertyEntry) : named = named' := by
  rw [← leadingEntries_propertyEntry named, h, leadingEntries_propertyEntry]

/-- Nothing is read of a dictionary whose types are not those of any entry that is read. -/
theorem leadingEntries_eq_nil {κ ν : Type} {key? : Wire → Option κ} {value? : Wire → Option ν}
    {key value : Bus.WireType} {entries : List (Wire × Wire)}
    (hdeclared : Declared (.dict key value entries))
    (hother : ∀ k v a b, key? k = some a → value? v = some b →
      ¬(k.type = key ∧ v.type = value)) :
    Bus.Argument.leadingEntries key? value? entries = [] := by
  cases entries with
  | nil => rfl
  | cons e rest =>
      obtain ⟨k, v⟩ := e
      have htypes := hdeclared (k, v) List.mem_cons_self
      -- all entries are of the same types, so the reading stops at the first one
      unfold Bus.Argument.leadingEntries
      split
      · next hk hv => exact absurd htypes (hother _ _ _ _ hk hv)
      · rfl

/-- Nothing is read of a dictionary with other types. -/
theorem leadingEntries_of_declared {key value : Bus.WireType} {entries : List (Wire × Wire)}
    (hdeclared : Declared (.dict key value entries))
    (hother : ¬(key = .string ∧ value = .variant)) :
    Bus.Argument.leadingEntries Bus.Argument.string.read? Bus.Argument.variant.read? entries =
      [] := by
  refine leadingEntries_eq_nil hdeclared fun k v _ _ hk hv => ?_
  rintro ⟨rfl, rfl⟩
  cases k <;> cases hk
  cases v <;> cases hv
  exact hother ⟨rfl, rfl⟩

/-- What is read of a dictionary, whatever it is declared with. -/
theorem firstOf_dict {κ ν : Type} (key : Bus.Argument κ) (value : Bus.Argument ν)
    (k v : Bus.WireType) (entries : List (Wire × Wire)) (rest : Bus.Body) :
    Handle.firstOf (.dict key value) (.ok (.dict k v entries :: rest)) =
      .ok (Bus.Argument.leadingEntries key.read? value.read? entries) := by
  rw [Handle.firstOf_cons]
  rfl

/-- Only an array is read as a dictionary. -/
theorem firstOf_dict_of_noArray {κ ν : Type} (key : Bus.Argument κ) (value : Bus.Argument ν)
    {body : Bus.Body} (h : ∀ first rest, body = first :: rest → first.kind ≠ .array) :
    ∃ found, Handle.firstOf (.dict key value) (.ok body) =
      .error (.callFailed (.mismatch 0 .array found)) := by
  cases body with
  | nil => exact ⟨.nothing, rfl⟩
  | cons first rest =>
      refine ⟨first.kind, ?_⟩
      rw [Handle.firstOf_cons]
      have hfirst := h first rest rfl
      cases first with
      | array _ _ | dict _ _ _ => exact absurd rfl hfirst
      | _ => rfl

/-- A dictionary from texts to variants has such entries. -/
theorem exists_propertyEntry {entries : List (Wire × Wire)}
    (hdeclared : Declared (.dict .string .variant entries)) :
    ∃ named : List (String × Wire), entries = named.map propertyEntry := by
  induction entries with
  | nil => exact ⟨[], rfl⟩
  | cons e rest ih =>
      obtain ⟨named, rfl⟩ := ih fun e he => hdeclared e (List.mem_cons_of_mem _ he)
      obtain ⟨k, v⟩ := e
      obtain ⟨hkey, hvalue⟩ := hdeclared (k, v) List.mem_cons_self
      cases k <;> cases hkey
      cases v <;> cases hvalue
      exact ⟨(_, _) :: named, rfl⟩

namespace Handle

theorem getProperty_of_returns {h : Handle} {name : String} {w : World σ} {v : Wire}
    {rest : Bus.Body}
    (hbody : w.Returns ((Approach.get name).call h.path.text h.interface) (.variant v :: rest)) :
    (h.getProperty name w).1 = .ok (PropertyValue.ofWire v) :=
  result_of_returns (h.getProperty_amountsTo name) hbody

theorem getProperties_of_returns {h : Handle} {w : World σ} {body : Bus.Body}
    (hbody : w.Returns (Approach.getAll.call h.path.text h.interface) body) :
    (h.getProperties w).1 = (firstOf (.dict .string .variant) (.ok body)).map offered := by
  rw [result_of_returns h.getProperties_amountsTo hbody]
  cases firstOf (.dict .string .variant) (.ok body) <;> rfl

/-- All properties of an object, as the service lists them by name, and what is offered of them. -/
structure TellsAll (h : Handle) (named : List (String × Wire)) (m : NameMap PropertyValue) :
    Prop where
  names (name : String) : (∃ value, m.get? name = some value) ↔ ∃ v, (name, v) ∈ named
  /-- Of several entries with one name the last one counts. -/
  latest (before after : List (String × Wire)) (name : String) (v : Wire) :
    named = before ++ (name, v) :: after → (∀ e ∈ after, e.1 ≠ name) →
      m.get? name = some (PropertyValue.ofWire v)
  /-- Who asks for one of the properties is told the same. -/
  one_by_one (before after : List (String × Wire)) (name : String) (v : Wire) :
    named = before ++ (name, v) :: after → (∀ e ∈ after, e.1 ≠ name) →
      ∀ {τ : Type} (w : World τ) (rest : Bus.Body),
        w.Returns ((Approach.get name).call h.path.text h.interface) (.variant v :: rest) →
          ∃ value, (h.getProperty name w).1 = .ok value ∧ m.get? name = some value
  /-- Entries of different names may stand in any order. -/
  in_any_order {named' : List (String × Wire)} : Shuffled named named' →
    ∀ {τ : Type} (w : World τ) (rest : Bus.Body),
      w.Returns (Approach.getAll.call h.path.text h.interface)
        (.dict .string .variant (named'.map propertyEntry) :: rest) →
          (h.getProperties w).1 = .ok m

  /-- So may all entries, where no name is repeated. -/
  in_every_order {named' : List (String × Wire)} : named.Perm named' →
    (named.map (·.1)).Nodup → ∀ {τ : Type} (w : World τ) (rest : Bus.Body),
      w.Returns (Approach.getAll.call h.path.text h.interface)
        (.dict .string .variant (named'.map propertyEntry) :: rest) →
          (h.getProperties w).1 = .ok m

theorem getProperties_of_dict {h : Handle} {w : World σ} {named : List (String × Wire)}
    {rest : Bus.Body} (hbody : w.Returns (Approach.getAll.call h.path.text h.interface)
      (.dict .string .variant (named.map propertyEntry) :: rest)) :
    (h.getProperties w).1 = .ok (offered named) := by
  rw [getProperties_of_returns hbody, firstOf_dict, leadingEntries_propertyEntry]
  rfl

theorem tellsAll_offered (h : Handle) (named : List (String × Wire)) :
    h.TellsAll named (offered named) := by
  have hlatest : ∀ (before after : List (String × Wire)) (name : String) (v : Wire),
      named = before ++ (name, v) :: after → (∀ e ∈ after, e.1 ≠ name) →
        (offered named).get? name = some (PropertyValue.ofWire v) := by
    intro before after name v hnamed hlast
    rw [offered, NameMap.get?_ofEntries, hnamed, List.map_append, List.map_cons]
    refine NameMap.lastOf_append_cons fun e he => ?_
    obtain ⟨e', he', rfl⟩ := List.mem_map.mp he
    exact hlast e' he'
  have hshuffled : ∀ {named' : List (String × Wire)}, Shuffled named named' →
      ∀ {τ : Type} (w : World τ) (rest : Bus.Body),
        w.Returns (Approach.getAll.call h.path.text h.interface)
          (.dict .string .variant (named'.map propertyEntry) :: rest) →
            (h.getProperties w).1 = .ok (offered named) := by
    intro named' hshuffled τ w rest hbody
    rw [getProperties_of_dict hbody, offered, offered, (hshuffled.map _).ofEntries_eq]
  constructor
  case names =>
    intro name
    simp only [offered, NameMap.get?_ofEntries, NameMap.exists_lastOf_iff, List.mem_map,
      Prod.mk.injEq]
    constructor
    · rintro ⟨value, ⟨name', v⟩, hmem, rfl, -⟩
      exact ⟨v, hmem⟩
    · rintro ⟨v, hmem⟩
      exact ⟨_, (name, v), hmem, rfl, rfl⟩
  case latest => exact hlatest
  case one_by_one =>
    intro before after name v hnamed hlast τ w rest hbody
    exact ⟨_, getProperty_of_returns hbody, hlatest before after name v hnamed hlast⟩
  case in_any_order => exact hshuffled
  case in_every_order =>
    intro named' hperm hnames
    exact hshuffled (.of_perm hperm hnames)

/-- All properties are offered just as they would be one by one, whatever their values are and in
    whatever order they are listed. An answer that is no list of properties but an array all the
    same offers nothing, and any other answer is an error. -/
theorem properties_agree (h : Handle) (w : World σ) {body : Bus.Body}
    (hbody : w.Returns (Approach.getAll.call h.path.text h.interface) body) :
    (∀ first rest, body = first :: rest → Declared first →
      first.type = .dict .string .variant →
        ∃ named m, first = .dict .string .variant (named.map propertyEntry) ∧
          (h.getProperties w).1 = .ok m ∧ h.TellsAll named m) ∧
    (∀ first rest, body = first :: rest → Declared first → first.kind = .array →
      first.type ≠ .dict .string .variant → (h.getProperties w).1 = .ok .empty) ∧
    ((∀ first rest, body = first :: rest → first.kind ≠ .array) →
      ∃ found, (h.getProperties w).1 = .error (.callFailed (.mismatch 0 .array found))) := by
  refine ⟨?_, ?_, ?_⟩
  · rintro first rest rfl hdeclared htype
    cases first <;> cases htype
    obtain ⟨named, rfl⟩ := exists_propertyEntry hdeclared
    exact ⟨named, offered named, rfl, getProperties_of_dict hbody, h.tellsAll_offered named⟩
  · rintro first rest rfl hdeclared hkind htype
    rw [getProperties_of_returns hbody, firstOf_cons]
    cases first with
    | array element items => rfl
    | dict key value entries =>
        have hother : ¬(key = .string ∧ value = .variant) := by
          rintro ⟨rfl, rfl⟩
          exact htype rfl
        simp only [Bus.Argument.dict, leadingEntries_of_declared hdeclared hother]
        rfl
    | _ => cases hkind
  · intro hkind
    rw [getProperties_of_returns hbody]
    cases body with
    | nil => exact ⟨.nothing, rfl⟩
    | cons first rest =>
        refine ⟨first.kind, ?_⟩
        rw [firstOf_cons]
        have hfirst := hkind first rest rfl
        cases first with
        | array _ _ | dict _ _ _ => exact absurd rfl hfirst
        | _ => rfl

/-- Of two entries with one name the last one is offered, with or without the other properties, and
    wherever the others stand. -/
theorem properties_agree_repeated :
    let h : Handle := ⟨Session.path, "org.sessiond.session1.Session", 25000⟩
    let locked (b : Bool) : String × Wire := ("LockedHint", .variant (.boolean b))
    let version : String × Wire := ("Version", .string "1.2")
    let w (body : Bus.Body) : World (List Bus.Reply) :=
      { connection := .fresh (.scripted .noReply) [{ answer := .returned body }] }
    let all (named : List (String × Wire)) : Bus.Body :=
      [.dict .string .variant (named.map propertyEntry)]
    ∃ m, (h.getProperties (w (all [locked false, version, locked true]))).1 = .ok m ∧
      m.get? "LockedHint" = some (.flag true) ∧
      (h.getProperties (w (all [version, locked false, locked true]))).1 = .ok m ∧
      (h.getProperty "LockedHint" (w [.variant (.variant (.boolean true))])).1 =
        .ok (.flag true) := by
  intro h locked version w all
  have hreturns : ∀ call body, (w body).Returns call body := fun call body =>
    ⟨(by decide : Bus.Phase.active ≠ .closed), rfl⟩
  obtain ⟨hall, -, -⟩ := h.properties_agree (w (all [locked false, version, locked true]))
    (hreturns _ _)
  have hdeclared : Declared (.dict .string .variant
      ([locked false, version, locked true].map propertyEntry)) := by
    simp [Declared, locked, version, propertyEntry, Wire.type]
  obtain ⟨named, m, hnamed, hm, htells⟩ := hall _ [] rfl hdeclared rfl
  injection hnamed with _ _ hentries
  cases map_propertyEntry_inj hentries
  have hlocked : m.get? "LockedHint" = some (.flag true) :=
    htells.latest [locked false, version] [] _ _ rfl nofun
  obtain ⟨value, hvalue, hsame⟩ := htells.one_by_one [locked false, version] [] _ _ rfl nofun _ []
    (hreturns _ [.variant (.variant (.boolean true))])
  cases hlocked.symm.trans hsame
  have hshuffled : Shuffled [locked false, version, locked true]
      [version, locked false, locked true] := .swap [] [locked true] (by decide)
  exact ⟨m, hm, hlocked, htells.in_any_order hshuffled _ [] (hreturns _ _), hvalue⟩

end Handle
end SessionControl.Client
