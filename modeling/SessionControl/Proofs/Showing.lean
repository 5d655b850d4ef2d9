import SessionControl.Proofs.Absence
import SessionControl.Proofs.ByteOrder
import SessionControl.Proofs.Rundown

set_option autoImplicit false

/-! # Showing the properties of an object

The properties of an object come as a dictionary, go through tables without an order of their own,
and are shown by name. `Inventory` says what is shown: each name once, in the order of the bytes of
the names, with the value that was told last. It is the same on every way, and only what the command
line names decides which object is asked (`properties_show`). -/

namespace SessionControl.Client

variable {σ : Type}

/-- All properties of an object, where the table that is read is gone through to make the one that
    is returned. -/
def Handle.getPropertiesBy (i : NameMap.Iteration Bus.Wire) (h : Handle) :
    Action σ Fault (NameMap PropertyValue) := do
  Action.log .trace ("Reading all " ++ h.interface ++ " properties on " ++ h.path.text)
  let entries ← query (h.propertyCall "GetAll" []) (.dict .string .variant)
  return NameMap.ofEntries ((i.order (.ofEntries entries)).map
    fun (name, w) => (name, PropertyValue.ofWire w))

theorem Handle.getPropertiesBy_eq (i : NameMap.Iteration Bus.Wire) (h : Handle) :
    (h.getPropertiesBy i : Action σ Fault (NameMap PropertyValue)) = h.getProperties := by
  unfold getPropertiesBy getProperties
  simp only [i.ofEntries_map_order PropertyValue.ofWire, NameMap.map_ofEntries]

theorem mem_offered_iff (named : List (String × Bus.Wire)) (name : String)
    (value : PropertyValue) : (name, value) ∈ (offered named).entries ↔
      ∃ v, NameMap.lastOf named name = some v ∧ value = PropertyValue.ofWire v := by
  rw [offered, ← NameMap.map_ofEntries, NameMap.mem_entries_iff, NameMap.get?_map,
    NameMap.get?_ofEntries, Option.map_eq_some_iff]
  simp only [eq_comm]

end SessionControl.Client

namespace SessionControl.Command

open Bus.ObjectPath (IsPath isPath_iff)
open Client (Action AudioSink Approach Backlight Declared Handle PropertyValue Service World notPath
  offered propertyEntry)

variable {σ α : Type}

/-! ## What is shown -/

/-- The lines tell what has been told: each name once, with the value of its last entry, in the
    order of the bytes of the names. -/
structure Inventory (named : List (String × Bus.Wire)) (es : List (String × PropertyValue)) :
    Prop where
  latest (name : String) (value : PropertyValue) : (name, value) ∈ es ↔
    ∃ v, NameMap.lastOf named name = some v ∧ value = PropertyValue.ofWire v
  in_order : es.Pairwise fun a b => Text.bytes a.1 < Text.bytes b.1

theorem inventory_offered (named : List (String × Bus.Wire)) :
    Inventory named (offered named).entries where
  latest name value := Client.mem_offered_iff named name value
  in_order := (offered named).sorted.imp Text.bytes_lt_bytes

/-! ## The object -/

/-- An object, as a call names it. -/
structure Target where
  path : String
  interface : String

/-- The object whose properties are shown: a named backlight, else an identified audio sink, else
    the session. -/
def Target.shown : Option String → Option String → Target
  | some name, _ =>
    ⟨"/org/sessiond/session1/backlight/" ++ name, "org.sessiond.session1.Backlight"⟩
  | none, some id =>
    ⟨"/org/sessiond/session1/audiosink/" ++ id, "org.sessiond.session1.AudioSink"⟩
  | none, none => ⟨"/org/sessiond/session1", "org.sessiond.session1.Session"⟩

/-- The call that asks for all properties of an object. -/
def Target.showCall (t : Target) : Bus.Call := Approach.getAll.call t.path t.interface

/-! ## Reading -/

/-- All properties of the object, where the table that is read is gone through. -/
def readPropertiesBy (i : NameMap.Iteration Bus.Wire) (service : Service)
    (backlight audioSink : Option String) : Action σ Trouble (NameMap PropertyValue) := do
  let context := "Could not read properties"
  match backlight, audioSink with
  | some name, _ =>
    let b ← plainly (service.backlight name)
    within context (b.handle.getPropertiesBy i)
  | none, some id =>
    let a ← plainly (service.audioSink (.name id))
    within context (a.handle.getPropertiesBy i)
  | none, none =>
    let session ← service.session
    within context (session.handle.getPropertiesBy i)

/-- Shows properties, where the tables on the way are gone through in these orders. -/
def propertiesBy (i : NameMap.Iteration Bus.Wire) (j : NameMap.Iteration PropertyValue)
    (service : Service) (backlight audioSink : Option String) : Action σ Trouble Unit := do
  let props ← readPropertiesBy i service backlight audioSink
  let _ ← Action.each (fun e => Action.printLine (propertyLine e))
    (NameMap.ofEntries (j.order props)).entries

/-- The order of a table does not show. -/
theorem propertiesBy_eq (i : NameMap.Iteration Bus.Wire) (j : NameMap.Iteration PropertyValue)
    (service : Service) (backlight audioSink : Option String) :
    (propertiesBy i j service backlight audioSink : Action σ Trouble Unit) =
      properties service backlight audioSink := by
  have hread : (readPropertiesBy i service backlight audioSink :
      Action σ Trouble (NameMap PropertyValue)) = readProperties service backlight audioSink := by
    rcases backlight with _ | name
    · rcases audioSink with _ | id <;>
        simp only [readPropertiesBy, readProperties, Handle.getPropertiesBy_eq]
    · simp only [readPropertiesBy, readProperties, Handle.getPropertiesBy_eq]
  unfold propertiesBy properties
  simp only [hread, NameMap.ofEntries_of_perm (j.perm _)]

/-- Reads the properties from an answer. -/
def readShown (r : Except Bus.Failure Bus.Body) : Except Trouble (NameMap PropertyValue) :=
  ((Handle.firstOf (.dict .string .variant) r).map offered).mapError
    fun f => { contexts := ["Could not read properties"], cause := .fault f }

theorem readShown_amountsTo (h : Handle) :
    (within "Could not read properties" h.getProperties :
      Action σ Trouble (NameMap PropertyValue)).AmountsTo
        (.asks (Target.showCall ⟨h.path.text, h.interface⟩) readShown) :=
  h.getProperties_amountsTo.mapError _

/-- The action reads all properties of an object with one call, if its path is one. -/
structure ReadsAll (x : Action σ Trouble (NameMap PropertyValue)) (t : Target) : Prop where
  asks : IsPath t.path → x.AmountsTo (.asks t.showCall readShown)
  gives_up : ¬IsPath t.path → x.AmountsTo (.settled (.error { cause := .fault (notPath t.path) }))

/-- The properties of a device are read through the handle that is made for it. -/
theorem readsAll_device {make : String → Except Client.Fault α} {handle : α → Handle} {t : Target}
    {timeout : Nat} (hmakes : Client.MakesDevice make t.interface timeout handle)
    {x : Action σ Client.Fault α} (hx : x.AmountsTo (.settled (make t.path))) :
    ReadsAll (plainly x >>= fun a => within "Could not read properties" (handle a).getProperties)
      t := by
  have hmade := (hx.mapError fun f => ({ cause := .fault f } : Trouble)).given
    fun a => readShown_amountsTo (handle a)
  constructor
  case asks =>
    intro hpath
    obtain ⟨a, ha, hpath, hinterface, -⟩ := hmakes.made hpath
    rw [ha] at hmade
    have hobject : Target.mk (handle a).path.text (handle a).interface = t := by
      rw [hpath, hinterface]
    rw [← hobject]
    exact hmade
  case gives_up =>
    intro hpath
    rw [hmakes.refused hpath] at hmade
    exact hmade

/-- The object that the command line names is the one whose properties are read. -/
theorem readsAll_shown (service : Service) (backlight audioSink : Option String) :
    ReadsAll (readProperties service backlight audioSink : Action σ Trouble _)
      (Target.shown backlight audioSink) := by
  rcases backlight with _ | name
  · rcases audioSink with _ | id
    · have hpath : IsPath "/org/sessiond/session1" := (isPath_iff _).mpr (by decide)
      refine ⟨fun _ => ?_, fun h => absurd hpath h⟩
      have hread := service.session_amountsTo.after fun session =>
        readShown_amountsTo (σ := σ) session.handle
      have hinterface : (Client.Session.ofTimeout service.timeout).handle.interface =
        "org.sessiond.session1.Session" := Client.interfaceName_session
      rw [hinterface] at hread
      exact hread
    · refine readsAll_device (Client.AudioSink.makesDevice service.timeout) ?_
      have hsink := AudioSink.atPath_amountsTo (σ := σ) (AudioSink.pathText (.name id))
        service.timeout
      rw [AudioSink.pathText_eq] at hsink
      exact hsink
  · have hmakes : Client.MakesDevice
        (fun text => (Handle.ofText text "Backlight" service.timeout).bind fun h =>
          .ok (Backlight.mk name h))
        "org.sessiond.session1.Backlight" service.timeout Backlight.handle :=
      Client.makesDevice_ofText Client.interfaceName_backlight service.timeout fun _ _ => rfl
    refine readsAll_device hmakes ?_
    have hbacklight := Backlight.named_amountsTo (σ := σ) name service.timeout
    rw [Backlight.ofName, Backlight.pathText_eq] at hbacklight
    exact hbacklight

/-! ## Showing -/

/-- Whoever is told these properties of the object shows these, in whatever orders the tables on the
    way are gone through. -/
def AlwaysShows (backlight audioSink : Option String) (named : List (String × Bus.Wire))
    (es : List (String × PropertyValue)) : Prop :=
  ∀ {τ : Type} (service : Service) (i : NameMap.Iteration Bus.Wire)
    (j : NameMap.Iteration PropertyValue) (w : World τ) (rest : Bus.Body),
    let call := (Target.shown backlight audioSink).showCall
    w.connection.phase ≠ .closed →
      (w.connection.exchange call).1 =
          .ok (.dict .string .variant (named.map propertyEntry) :: rest) →
        Prints (quietly (propertiesBy i j service backlight audioSink) w) w call
          (es.map propertyLine)

/-- What is shown, by what is read of the answer. -/
theorem propertiesBy_tells (service : Service) (i : NameMap.Iteration Bus.Wire)
    (j : NameMap.Iteration PropertyValue) {backlight audioSink : Option String}
    (hpath : IsPath (Target.shown backlight audioSink).path) {w : World σ}
    (hopen : w.connection.phase ≠ .closed) :
    let call := (Target.shown backlight audioSink).showCall
    Tells (quietly (propertiesBy i j service backlight audioSink) w) w call
      (readShown (w.connection.exchange call).1) fun props => props.entries.map propertyLine := by
  rw [propertiesBy_eq]
  exact tells_of_amountsTo ((readsAll_shown service backlight audioSink).asks hpath) propertyLine
    (fun props => props.entries) hopen

theorem readShown_dict (named : List (String × Bus.Wire)) (rest : Bus.Body) :
    readShown (.ok (.dict .string .variant (named.map propertyEntry) :: rest)) =
      .ok (offered named) := by
  rw [readShown, Client.firstOf_dict, Client.leadingEntries_propertyEntry]
  rfl

theorem alwaysShows_offered {backlight audioSink : Option String}
    (hpath : IsPath (Target.shown backlight audioSink).path)
    {named named' : List (String × Bus.Wire)} (h : Shuffled named named') :
    AlwaysShows backlight audioSink named' (offered named).entries := by
  intro τ service i j w rest call hopen hanswer
  have hread : readShown (w.connection.exchange call).1 = .ok (offered named') := by
    rw [hanswer, readShown_dict]
  rw [offered, (h.map _).ofEntries_eq]
  exact (propertiesBy_tells service i j hpath hopen).prints hread

/-- Showing the properties of an object asks the object that the command line names, whatever the
    settings are, and shows each property once, by name and with the value that was told last. The
    lines do not depend on the order in which the properties were told or in which a table was gone
    through. What the command line names without a path to it is not asked for. -/
theorem properties_show (env : Environment) (settings : Settings) (service : Service)
    (i : NameMap.Iteration Bus.Wire) (j : NameMap.Iteration PropertyValue)
    (backlight audioSink : Option String) {w : World σ} (hopen : w.connection.phase ≠ .closed) :
    let x := quietly (propertiesBy i j service backlight audioSink) w
    let object := Target.shown backlight audioSink
    let answer := (w.connection.exchange object.showCall).1
    (perform env settings service (.properties backlight audioSink) w = x) ∧
    (¬IsPath object.path → x.1 = .error { cause := .fault (notPath object.path) } ∧
      x.2.journal.deeds = w.journal.deeds) ∧
    (IsPath object.path → x.2.journal.calls = w.journal.calls ++ [object.showCall] ∧
      ∀ first rest, answer = .ok (first :: rest) → Declared first →
        first.type = .dict .string .variant → ∃ named es,
          first = .dict .string .variant (named.map propertyEntry) ∧ Inventory named es ∧
            Prints x w object.showCall (es.map propertyLine) ∧
            ∀ named', Shuffled named named' → AlwaysShows backlight audioSink named' es) := by
  intro x object answer
  have hx : x = quietly (properties service backlight audioSink) w := by
    rw [← propertiesBy_eq i j]
  refine ⟨hx.symm, fun hpath => ?_, fun hpath => ⟨?_, ?_⟩⟩
  · obtain ⟨hresult, -, hdeeds⟩ :=
      (readsAll_shown service backlight audioSink).gives_up hpath w w (.refl w)
    have hproperties : properties service backlight audioSink w = _ := bind_of_error hresult
    rw [hx, quietly_of_error (congrArg Prod.fst hproperties), hproperties]
    exact ⟨rfl, hdeeds⟩
  · exact (propertiesBy_tells service i j hpath hopen).calls
  · intro first rest hanswer hdeclared htype
    cases first <;> cases htype
    obtain ⟨named, rfl⟩ := Client.exists_propertyEntry hdeclared
    have hshows : ∀ named', Shuffled named named' →
        AlwaysShows backlight audioSink named' (offered named).entries :=
      fun _ => alwaysShows_offered hpath
    exact ⟨named, (offered named).entries, rfl, inventory_offered named,
      hshows named (.refl named) service i j w rest hopen hanswer, hshows⟩

/-- The last entry of a name is shown at the place of the name, and the settings do not count. -/
theorem properties_show_repeated :
    let named : List (String × Bus.Wire) :=
      [("Zeta", .uint32 1), ("é", .array .string [.string "a", .string "b"]),
       ("Zeta", .boolean true), ("Alpha", .variant (.uint64 7))]
    let all : Bus.Wire := .dict .string .variant (named.map propertyEntry)
    let w : World (List Bus.Reply) :=
      { connection := .fresh (.scripted .noReply) [{ answer := .returned [all] }] }
    let settings : Settings := { backlight := some "acpi", audioSink := some "3" }
    w.connection.phase ≠ .closed ∧
      (perform .bare settings {} (.properties (some "intel") none) w).2.journal.output =
        "Alpha: 7\nZeta: true\né: [a, b]\n" ∧
      ∀ i j, quietly (propertiesBy i j {} (some "intel") none) w =
        perform .bare settings {} (.properties (some "intel") none) w := by
  intro named all w settings
  have hopen : w.connection.phase ≠ .closed := by decide
  refine ⟨hopen, by decide +kernel, fun i j => ?_⟩
  exact (properties_show .bare settings {} i j (some "intel") none hopen).1.symm

end SessionControl.Command
