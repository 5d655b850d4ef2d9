import SessionControl.Proofs.Commands
import SessionControl.Proofs.Fidelity

set_option autoImplicit false

/-! # Names of devices and the paths they lead to

A device is asked for by a name, or an audio sink by a number, and its path is the session's path
with the kind of device and the name behind it. Which names lead to an object is a matter of object
paths alone: nonempty elements with single slashes between them. The paths of different names are
different, those of different kinds of device never meet, and all lie below the session
(`device_naming`). A path that the service told leads to a handle with the last element for its
name; a handle that was asked for by name keeps the name as it was given, which is the same only for
names without a slash (`Backlight.name_of_obtained`). -/

namespace SessionControl.Bus.ObjectPath

/-! ## Elements and paths -/

/-- An element of a path: ASCII letters, digits and underscores, at least one. -/
def IsElement (e : String) : Prop := e ≠ "" ∧ ∀ c ∈ e.toList, c.isAlphanum = true ∨ c = '_'

/-- One or more elements with single slashes between them. -/
def IsElements (text : String) : Prop :=
  ∃ elements, elements ≠ [] ∧ (∀ e ∈ elements, IsElement e) ∧ text = "/".intercalate elements

/-- The root, or one or more elements, each behind a slash. -/
def IsPath (text : String) : Prop :=
  text = "/" ∨
    ∃ elements, elements ≠ [] ∧ (∀ e ∈ elements, IsElement e) ∧
      text = String.join (elements.map ("/" ++ ·))

/-! ## Reading elements -/

theorem isElementChar_iff (c : Char) : isElementChar c = true ↔ c.isAlphanum = true ∨ c = '_' := by
  have hupper : c.isUpper = (decide ('A' ≤ c) && decide (c ≤ 'Z')) := Bool.decide_and _ _
  have hchar : isElementChar c = (c.isAlphanum || decide (c = '_')) := by
    show ((decide ('A' ≤ c) && decide (c ≤ 'Z')) || c.isLower || c.isDigit || _) = _
    rw [← hupper]
    rfl
  rw [hchar, Bool.or_eq_true, decide_eq_true_eq]

theorem isElementChar_slash : isElementChar '/' = false := by decide

/-- An element may be followed by whatever may follow within one. -/
theorem elementsValid_element {inElement : Bool} {e : List Char} (hne : inElement = true ∨ e ≠ [])
    (he : ∀ c ∈ e, isElementChar c = true) (rest : List Char) :
    elementsValid inElement (e ++ rest) = elementsValid true rest := by
  induction e generalizing inElement with
  | nil =>
      rw [hne.resolve_right (· rfl)]
      rfl
  | cons c e ih =>
      have hc := he c List.mem_cons_self
      have hslash : c ≠ '/' := by
        rintro rfl
        rw [isElementChar_slash] at hc
        cases hc
      rw [List.cons_append, elementsValid, if_neg hslash, hc, Bool.true_and]
      exact ih (.inl rfl) fun c' hc' => he c' (.tail c hc')

/-- A slash ends what is before it and starts anew. -/
theorem elementsValid_append_slash (inElement : Bool) (cs ds : List Char) :
    elementsValid inElement (cs ++ '/' :: ds) =
      (elementsValid inElement cs && elementsValid false ds) := by
  induction cs generalizing inElement with
  | nil => rfl
  | cons c cs ih =>
      simp only [List.cons_append, elementsValid, ih]
      split <;> rw [Bool.and_assoc]

/-- The rest of the current element, and then whole elements, each behind a slash. -/
theorem elementsValid_iff (inElement : Bool) (cs : List Char) :
    elementsValid inElement cs = true ↔
      ∃ e es, (inElement = true ∨ e ≠ []) ∧ (∀ c ∈ e, isElementChar c = true) ∧
        (∀ e' ∈ es, e' ≠ [] ∧ ∀ c ∈ e', isElementChar c = true) ∧
        cs = ['/'].intercalate (e :: es) := by
  constructor
  · intro h
    induction cs generalizing inElement with
    | nil => exact ⟨[], [], .inl h, nofun, nofun, rfl⟩
    | cons c cs ih =>
        rw [elementsValid] at h
        split at h
        · next hslash =>
            obtain ⟨hin, h⟩ := Bool.and_eq_true_iff.mp h
            obtain ⟨e, es, hne, he, hes, rfl⟩ := ih false h
            have hne : e ≠ [] := hne.resolve_left Bool.false_ne_true
            refine ⟨[], e :: es, .inl hin, nofun, ?_, ?_⟩
            · exact List.forall_mem_cons.mpr ⟨⟨hne, he⟩, hes⟩
            · rw [hslash, List.intercalate_cons_cons]
              rfl
        · obtain ⟨hc, h⟩ := Bool.and_eq_true_iff.mp h
          obtain ⟨e, es, -, he, hes, rfl⟩ := ih true h
          refine ⟨c :: e, es, .inr nofun, List.forall_mem_cons.mpr ⟨hc, he⟩, hes, ?_⟩
          cases es <;> simp
  · rintro ⟨e, es, hne, he, hes, rfl⟩
    induction es generalizing inElement e with
    | nil =>
        rw [List.intercalate_singleton, ← List.append_nil e, elementsValid_element hne he]
        rfl
    | cons e' es ih =>
        obtain ⟨⟨hne', he'⟩, hes⟩ := List.forall_mem_cons.mp hes
        rw [List.intercalate_cons_cons, List.append_assoc, elementsValid_element hne he]
        exact ih false e' (.inr hne') he' hes

/-! ## Elements and paths as texts -/

theorem isElement_iff (e : String) :
    IsElement e ↔ e.toList ≠ [] ∧ ∀ c ∈ e.toList, isElementChar c = true := by
  simp only [IsElement, isElementChar_iff, ne_eq, String.toList_eq_nil_iff]

theorem isElements_iff (text : String) :
    IsElements text ↔ elementsValid false text.toList = true := by
  rw [elementsValid_iff]
  constructor
  · rintro ⟨elements, hne, helements, rfl⟩
    obtain ⟨e, es, rfl⟩ := List.exists_cons_of_ne_nil hne
    obtain ⟨he, hes⟩ := List.forall_mem_cons.mp helements
    obtain ⟨hne, he⟩ := (isElement_iff e).mp he
    refine ⟨e.toList, es.map String.toList, .inr hne, he, ?_, String.toList_intercalate⟩
    exact List.forall_mem_map.mpr fun e' he' => (isElement_iff e').mp (hes e' he')
  · rintro ⟨e, es, hne, he, hes, htext⟩
    have hne : e ≠ [] := hne.resolve_left Bool.false_ne_true
    have helement : ∀ e' ∈ e :: es, IsElement (String.ofList e') := by
      refine List.forall_mem_cons.mpr ⟨?_, fun e' he' => ?_⟩
      · exact (isElement_iff _).mpr (by rw [String.toList_ofList]; exact ⟨hne, he⟩)
      · exact (isElement_iff _).mpr (by rw [String.toList_ofList]; exact hes e' he')
    refine ⟨(e :: es).map String.ofList, nofun, List.forall_mem_map.mpr helement, ?_⟩
    rw [← String.toList_inj, htext, String.toList_intercalate, List.map_map]
    simp [Function.comp_def]

/-- Elements each behind a slash are elements with slashes between them, behind one more. -/
theorem join_elements {elements : List String} (hne : elements ≠ []) :
    String.join (elements.map ("/" ++ ·)) = "/" ++ "/".intercalate elements := by
  induction elements with
  | nil => exact absurd rfl hne
  | cons e es ih =>
      cases es with
      | nil => simp [String.join_cons]
      | cons e' es =>
          rw [List.map_cons, String.join_cons, ih nofun, String.intercalate_cons_cons]
          simp only [String.append_assoc]

theorem isValid_iff (cs : List Char) :
    isValid cs = true ↔ cs = ['/'] ∨ ∃ ds, cs = '/' :: ds ∧ elementsValid false ds = true := by
  fun_cases isValid cs with
  | case1 => simp
  | case2 ds hds =>
      have hne : ds ≠ [] := fun h => hds (by rw [h])
      simp [hne]
  | case3 cs hroot hslash =>
      refine ⟨nofun, ?_⟩
      rintro (rfl | ⟨ds, rfl, -⟩)
      · exact (hroot rfl).elim
      · exact (hslash ds rfl).elim

theorem isPath_iff (text : String) : IsPath text ↔ isValid text.toList = true := by
  have hpath : IsPath text ↔ text = "/" ∨ ∃ name, text = "/" ++ name ∧ IsElements name := by
    refine or_congr_right ⟨?_, ?_⟩
    · rintro ⟨elements, hne, helements, rfl⟩
      exact ⟨_, join_elements hne, elements, hne, helements, rfl⟩
    · rintro ⟨name, rfl, elements, hne, helements, rfl⟩
      exact ⟨elements, hne, helements, (join_elements hne).symm⟩
  rw [hpath, isValid_iff]
  simp only [isElements_iff, ← String.toList_inj, String.toList_append]
  refine or_congr_right ⟨fun ⟨name, htext, h⟩ => ⟨name.toList, htext, h⟩, ?_⟩
  rintro ⟨ds, htext, h⟩
  have hds : (String.ofList ds).toList = ds := String.toList_ofList
  exact ⟨String.ofList ds, by rw [hds, htext]; rfl, by rw [hds]; exact h⟩

/-- What is behind a path and a slash has to be elements of its own. -/
theorem isValid_append_slash {cs : List Char} (h : elementsValid false cs = true)
    (ds : List Char) : isValid ('/' :: cs ++ '/' :: ds) = true ↔ elementsValid false ds = true := by
  have hne : cs ++ '/' :: ds ≠ [] := by simp
  simp [isValid_iff, elementsValid_append_slash, h]

/-! ## Last elements -/

/-- The text is what stands behind the last slash of the other one. -/
def IsLast (text last : String) : Prop :=
  '/' ∉ last.toList ∧ ∃ front, text = front ++ "/" ++ last

theorem IsLast.eq_lastElement {text last : String} (h : IsLast text last) :
    lastElement text = last := by
  obtain ⟨hlast, front, rfl⟩ := h
  have hreverse : (front ++ "/" ++ last).toList.reverse =
      last.toList.reverse ++ '/' :: front.toList.reverse := by
    simp [String.toList_append]
  have hslashless : ∀ c ∈ last.toList.reverse, decide (c ≠ '/') = true := by
    intro c hc
    exact decide_eq_true fun h => hlast (h ▸ List.mem_reverse.mp hc)
  rw [lastElement, hreverse, List.takeWhile_append_of_pos hslashless, List.takeWhile_cons_of_neg
    (by decide), List.append_nil, List.reverse_reverse, String.ofList_toList]

/-- A text with a slash has something behind the last one. -/
theorem isLast_lastElement {text : String} (h : '/' ∈ text.toList) :
    IsLast text (lastElement text) := by
  obtain ⟨last, front, htext, hlast⟩ := List.eq_append_cons_of_mem (List.mem_reverse.mpr h)
  have htext : text.toList = front.reverse ++ '/' :: last.reverse := by
    rw [← List.reverse_reverse text.toList, htext]
    simp
  have hfound : IsLast text (String.ofList last.reverse) := by
    refine ⟨?_, String.ofList front.reverse, ?_⟩
    · rw [String.toList_ofList]
      exact fun hmem => hlast (List.mem_reverse.mp hmem)
    · rw [← String.toList_inj, htext]
      simp [String.toList_append]
  rw [hfound.eq_lastElement]
  exact hfound

theorem isLast_of_isValid {text : String} (h : isValid text.toList = true) :
    IsLast text (lastElement text) := by
  refine isLast_lastElement ?_
  rcases (isValid_iff _).mp h with htext | ⟨ds, htext, -⟩ <;> rw [htext] <;> exact .head _

end SessionControl.Bus.ObjectPath

namespace SessionControl.Decimal

/-! ## Numbers as names -/

theorem digitChar_eq (n : Nat) : digitChar n = Nat.digitChar (n % 10) := by
  have hall : ∀ k < 10, Char.ofNat (48 + k) = Nat.digitChar k := by decide
  exact hall (n % 10) (Nat.mod_lt _ (by decide))

/-- The decimal text is the usual one. -/
theorem natText_eq_toString (n : Nat) : natText n = toString n := by
  have hdigits : digits n = Nat.toDigits 10 n := by
    fun_induction digits n with
    | case1 n h => rw [Nat.toDigits_of_lt_base h, digitChar_eq, Nat.mod_eq_of_lt h]
    | case2 n h ih => rw [Nat.toDigits_of_base_le (by decide) (by omega), ih, digitChar_eq]
  rw [natText, hdigits, Nat.toString_eq_ofList_toDigits]

/-- The decimal text of a number is an element of a path. -/
theorem isElements_toString (n : Nat) : Bus.ObjectPath.IsElements (toString n) := by
  refine ⟨[toString n], nofun, ?_, String.intercalate_singleton.symm⟩
  refine List.forall_mem_singleton.mpr ⟨Nat.repr_ne_empty, fun c hc => .inl ?_⟩
  rw [Nat.toString_eq_repr, Nat.toList_repr] at hc
  have hdigit := Nat.isDigit_of_mem_toDigits (by decide) (by decide) hc
  simp [Char.isAlphanum, hdigit]

end SessionControl.Decimal

namespace SessionControl.Client

variable {σ : Type}

/-! ## Paths of devices -/

/-- The path below which the devices of a kind lie, with a slash behind it. -/
def Device.root : Device → String
  | backlight => "/org/sessiond/session1/backlight/"
  | audioSink => "/org/sessiond/session1/audiosink/"

/-- The path of the device of a kind with a name. -/
def Device.pathText (d : Device) (name : String) : String := d.root ++ name

theorem Backlight.pathText_eq (name : String) :
    Backlight.pathText name = Device.backlight.pathText name := by
  have hroot : sessionPathText ++ "/backlight/" = Device.backlight.root := by decide
  rw [pathText, hroot, Device.pathText]

theorem AudioSink.pathText_eq (id : SinkId) :
    AudioSink.pathText id = Device.audioSink.pathText id.text := by
  have hroot : sessionPathText ++ "/audiosink/" = Device.audioSink.root := by decide
  rw [pathText, hroot, Device.pathText]

theorem Device.isValid_pathText (d : Device) (name : String) :
    Bus.ObjectPath.isValid (d.pathText name).toList = true ↔ Bus.ObjectPath.IsElements name := by
  have hroot : ∃ cs, d.root.toList = '/' :: cs ++ ['/'] ∧
      Bus.ObjectPath.elementsValid false cs = true := by
    cases d with
    | backlight => exact ⟨"org/sessiond/session1/backlight".toList, by decide, by decide⟩
    | audioSink => exact ⟨"org/sessiond/session1/audiosink".toList, by decide, by decide⟩
  obtain ⟨cs, hroot, hcs⟩ := hroot
  rw [Bus.ObjectPath.isElements_iff, ← Bus.ObjectPath.isValid_append_slash hcs, pathText,
    String.toList_append, hroot, List.append_assoc]
  rfl

/-- The laws of giving paths to devices by their names. -/
structure PathLaws (path : Device → String → String) : Prop where
  /-- Neither two names nor two kinds of device share a path. -/
  injective {d d' : Device} {name name' : String} (same : path d name = path d' name') :
    d = d' ∧ name = name'
  /-- All devices are below the session, … -/
  below (d : Device) (name : String) :
    ∃ rest, rest ≠ "" ∧ path d name = "/org/sessiond/session1" ++ "/" ++ rest
  /-- … and so none of them is the session itself. -/
  notSession (d : Device) (name : String) : path d name ≠ "/org/sessiond/session1"

theorem Device.pathText_ne (name name' : String) :
    Device.backlight.pathText name ≠ Device.audioSink.pathText name' := by
  intro h
  rw [← String.toList_inj, pathText, pathText, String.toList_append, String.toList_append] at h
  have hroot : Device.backlight.root.toList = Device.audioSink.root.toList :=
    List.append_inj_left h (by decide)
  revert hroot
  decide

theorem Device.pathLaws : PathLaws Device.pathText where
  injective {d d' name name'} same := by
    cases d with
    | backlight =>
        cases d' with
        | backlight => exact ⟨rfl, (String.append_right_inj _).mp same⟩
        | audioSink => exact absurd same (pathText_ne name name')
    | audioSink =>
        cases d' with
        | backlight => exact absurd same.symm (pathText_ne name' name)
        | audioSink => exact ⟨rfl, (String.append_right_inj _).mp same⟩
  below d name := by
    have hroot : ∃ segment, segment ≠ "" ∧ d.root = "/org/sessiond/session1" ++ "/" ++ segment := by
      cases d with
      | backlight => exact ⟨"backlight/", by decide, by decide⟩
      | audioSink => exact ⟨"audiosink/", by decide, by decide⟩
    obtain ⟨segment, hne, hroot⟩ := hroot
    refine ⟨segment ++ name, ?_, ?_⟩
    · intro h
      exact hne (String.append_eq_empty_iff.mp h).1
    · rw [pathText, hroot, String.append_assoc]
  notSession d name := by
    intro h
    have hlength := congrArg String.length h
    have hroot : d.root.length = 33 := by cases d <;> decide
    have hsession : "/org/sessiond/session1".length = 22 := by decide
    rw [pathText, String.length_append] at hlength
    omega

/-! ## Asking for devices -/

theorem Inquiry.given_settled {ε α β : Type} (r : Except ε α) (f : α → Except ε β) :
    (Inquiry.given r fun a => .settled (f a)) = .settled (r.bind f) := by
  cases r <;> rfl

instance (text : String) : Decidable (Bus.ObjectPath.IsElements text) :=
  decidable_of_iff _ (Bus.ObjectPath.isElements_iff text).symm

/-- What is seen of the device with a name. -/
def Device.seen (d : Device) (name : String) : HandleView :=
  match d with
  | backlight => ⟨d.pathText name, "org.sessiond.session1.Backlight", some name⟩
  | audioSink => ⟨d.pathText name, "org.sessiond.session1.AudioSink", none⟩

/-- The handle to the device with a name. There is one if the name consists of elements. -/
def Device.called (d : Device) (name : String) : Except Fault HandleView :=
  if Bus.ObjectPath.IsElements name then .ok (d.seen name)
  else .error (.invalidPath (d.pathText name)
    ("Object path was not valid: '" ++ d.pathText name ++ "'"))

/-- A handle is made at the path of a name if and only if the name consists of elements. -/
theorem Device.ofText_called (d : Device) (name suffix : String) (timeout : Nat)
    {view : Handle → HandleView}
    (hview : ∀ path : Bus.ObjectPath, path.text = d.pathText name →
      view ⟨path, Handle.interfaceName suffix, timeout⟩ = d.seen name) :
    ((Handle.ofText (d.pathText name) suffix timeout).bind fun h => .ok (view h)) =
      d.called name := by
  unfold called
  by_cases hname : Bus.ObjectPath.IsElements name
  · have hvalid := (d.isValid_pathText name).mpr hname
    rw [if_pos hname, Handle.ofText_of_valid _ hvalid]
    exact congrArg Except.ok (hview ⟨_, hvalid⟩ rfl)
  · have hinvalid := mt (d.isValid_pathText name).mp hname
    rw [if_neg hname, Handle.ofText_of_invalid _ hinvalid]
    rfl

theorem Backlight.ofName_called (timeout : Nat) (name : String) :
    ((ofName timeout name).bind fun b => .ok b.view) = Device.backlight.called name := by
  rw [ofName, pathText_eq, except_bind_bind]
  refine Device.backlight.ofText_called name _ timeout fun path hpath => ?_
  rw [interfaceName_backlight]
  exact congrArg (HandleView.mk · _ _) hpath

theorem AudioSink.ofPath_called (timeout : Nat) (id : SinkId) :
    ((ofPath timeout (pathText id)).bind fun a => .ok a.view) =
      Device.audioSink.called id.text := by
  rw [ofPath, pathText_eq, except_bind_bind]
  refine Device.audioSink.ofText_called id.text _ timeout fun path hpath => ?_
  rw [interfaceName_audioSink]
  exact congrArg (HandleView.mk · _ _) hpath

/-- The ways to ask for a handle to a device by its name. -/
inductive Construction
  | backlight (name : String)
  | serviceBacklight (name : String)
  | audioSink (id : SinkId)
  | serviceAudioSink (id : SinkId)

namespace Construction

/-- The operation that makes the handle and tells what is seen of it. -/
def operation : Construction → Operation
  | backlight name => .onBacklight (.named name) (.object .describe)
  | serviceBacklight name => .onService (.backlight name)
  | audioSink id => .onAudioSink (.identified id) (.object .describe)
  | serviceAudioSink id => .onService (.audioSink id)

def device : Construction → Device
  | backlight _ | serviceBacklight _ => .backlight
  | audioSink _ | serviceAudioSink _ => .audioSink

/-- The name that is asked for. A number stands for its decimal text. -/
def name : Construction → String
  | backlight name | serviceBacklight name => name
  | audioSink (.name s) | serviceAudioSink (.name s) => s
  | audioSink (.number n) | serviceAudioSink (.number n) => toString n

/-- What making the handle tells. -/
def made (c : Construction) : Except Fault Outcome :=
  (c.device.called c.name).bind fun h => .ok (.handle h)

theorem made_backlight (timeout : Nat) (name : String) :
    ((Backlight.ofName timeout name).bind fun b => .ok (.handle b.view)) =
      (backlight name).made := by
  rw [made, device, Construction.name, ← Backlight.ofName_called timeout, except_bind_bind]
  rfl

theorem made_audioSink (timeout : Nat) (id : SinkId) :
    ((AudioSink.ofPath timeout (AudioSink.pathText id)).bind fun a => .ok (.handle a.view)) =
      (audioSink id).made := by
  have hname : (audioSink id).name = id.text := by
    cases id with
    | number n => exact (Decimal.natText_eq_toString n).symm
    | name s => rfl
  rw [made, device, hname, ← AudioSink.ofPath_called timeout, except_bind_bind]
  rfl

/-- No call is made for a handle. -/
theorem inquiry_operation (s : Service) (c : Construction) :
    c.operation.inquiry s = .settled c.made := by
  cases c with
  | backlight name =>
      exact (Inquiry.given_settled _ _).trans (congrArg _ (made_backlight s.timeout name))
  | serviceBacklight name => exact congrArg Inquiry.settled (made_backlight s.timeout name)
  | audioSink id =>
      exact (Inquiry.given_settled _ _).trans (congrArg _ (made_audioSink s.timeout id))
  | serviceAudioSink id =>
      have hmade : (audioSink id).made = (serviceAudioSink id).made := by cases id <;> rfl
      exact hmade ▸ congrArg Inquiry.settled (made_audioSink s.timeout id)

end Construction

/-- Which names lead to devices, and where. A text is a path if and only if it is the root or
    elements that are each behind a slash. Whoever asks for a device by its name gets a handle to
    the path of that name if the name consists of elements, and is told of that path if not;
    the service is not asked. Every number is a name, the same as its decimal text, and the paths of
    devices obey their laws. -/
theorem device_naming (s : Service) :
    (∀ text, Bus.ObjectPath.isValid text.toList = true ↔ Bus.ObjectPath.IsPath text) ∧
    (∀ (c : Construction) (w : World σ),
      (c.operation.perform s w).1 = c.made ∧
      (c.operation.perform s w).2.connection = w.connection ∧
      (c.operation.perform s w).2.journal.calls = w.journal.calls) ∧
    (∀ n : Nat, Bus.ObjectPath.IsElements (toString n) ∧
      AudioSink.pathText (.number n) = AudioSink.pathText (.name (toString n))) ∧
    PathLaws Device.pathText := by
  refine ⟨fun text => (Bus.ObjectPath.isPath_iff text).symm, fun c w => ?_, fun n => ?_,
    Device.pathLaws⟩
  · obtain ⟨hresult, halike⟩ := c.operation.perform_amountsTo s w w (.refl w)
    rw [c.inquiry_operation s] at hresult halike
    have hrun : (Inquiry.settled c.made).run w = (c.made, w) := by
      show Action.ofExcept c.made w = _
      cases c.made <;> rfl
    rw [hrun] at hresult halike
    exact ⟨hresult, halike.connection, halike.calls⟩
  · refine ⟨Decimal.isElements_toString n, ?_⟩
    rw [AudioSink.pathText_eq, AudioSink.pathText_eq, SinkId.text, Decimal.natText_eq_toString]
    rfl

/-! ## Names of handles -/

namespace Backlight

open Bus.ObjectPath (IsLast lastElement)

/-- The ways to get a handle to a backlight, with the name that it was asked for by, if any. -/
inductive Obtained : Option String → Backlight → Prop
  | named {σ : Type} {name : String} {timeout : Nat} {w : World σ} {b : Backlight}
      (h : (Backlight.named name timeout w).1 = .ok b) : Obtained (some name) b
  | ofService {σ : Type} {s : Service} {name : String} {w : World σ} {b : Backlight}
      (h : (s.backlight name w).1 = .ok b) : Obtained (some name) b
  | atPath {σ : Type} {path : String} {timeout : Nat} {w : World σ} {b : Backlight}
      (h : (Backlight.atPath path timeout w).1 = .ok b) : Obtained none b
  | listed {σ : Type} {s : Service} {w : World σ} {bs : List Backlight} {b : Backlight}
      (h : (s.backlights w).1 = .ok bs) (hb : b ∈ bs) : Obtained none b

/-- A handle is made of a name, or of a path alone. -/
theorem Obtained.made {name? : Option String} {b : Backlight} (h : Obtained name? b) :
    (∃ name timeout, name? = some name ∧ ofName timeout name = .ok b) ∨
      name? = none ∧ ∃ timeout, ofPath timeout b.handle.path.text = .ok b := by
  cases h with
  | named h =>
      exact .inl ⟨_, _, rfl, Command.settled_of_ok (named_amountsTo _ _) ⟨_, h⟩⟩
  | ofService h =>
      exact .inl ⟨_, _, rfl, Command.settled_of_ok (named_amountsTo _ _) ⟨_, h⟩⟩
  | atPath h =>
      have hmade := Command.settled_of_ok (atPath_amountsTo _ _) ⟨_, h⟩
      exact .inr ⟨rfl, _, Command.backlight_ofPath_path hmade⟩
  | listed h hb => exact .inr ⟨rfl, _, Command.backlight_of_listed ⟨_, h⟩ hb⟩

theorem name_of_ofName {timeout : Nat} {name : String} {b : Backlight}
    (h : ofName timeout name = .ok b) : b.name = name := by
  obtain ⟨handle, -, hb⟩ := ok_of_bind_ok h
  cases hb
  rfl

theorem name_of_ofPath {timeout : Nat} {path : String} {b : Backlight}
    (h : ofPath timeout path = .ok b) : b.name = lastElement path := by
  obtain ⟨handle, -, hb⟩ := ok_of_bind_ok h
  cases hb
  rfl

theorem Obtained.interface {name? : Option String} {b : Backlight} (h : Obtained name? b) :
    b.handle.interface = Handle.interfaceName "Backlight" := by
  have hresolve : ∃ (target : BacklightTarget) (timeout : Nat), target.resolve timeout = .ok b := by
    rcases h.made with ⟨name, timeout, -, hmade⟩ | ⟨-, timeout, hmade⟩
    · exact ⟨.named name, timeout, hmade⟩
    · exact ⟨.atPath _, timeout, hmade⟩
  obtain ⟨target, timeout, hresolve⟩ := hresolve
  exact Handle.interface_of_ofText (BacklightTarget.handle_of_resolve hresolve)

/-- A handle that was made of a path has its last element for a name. -/
theorem Obtained.ofPath_path {name? : Option String} {b : Backlight} (h : Obtained name? b)
    (timeout : Nat) : ofPath timeout b.handle.path.text =
      .ok { name := lastElement b.handle.path.text, handle := { b.handle with timeout } } := by
  rw [ofPath, Handle.ofText_of_valid _ b.handle.path.valid, ← h.interface]
  rfl

/-- The last element of the path of a name is the name, if that is a single element. -/
theorem isLast_of_ofName {timeout : Nat} {name : String} {b : Backlight}
    (h : ofName timeout name = .ok b) (hname : '/' ∉ name.toList) :
    IsLast b.handle.path.text name := by
  have hresolve : (BacklightTarget.named name).resolve timeout = .ok b := h
  rw [Handle.path_of_ofText (BacklightTarget.handle_of_resolve hresolve)]
  refine ⟨hname, "/org/sessiond/session1/backlight", ?_⟩
  have hroot : Device.backlight.root = "/org/sessiond/session1/backlight" ++ "/" := by decide
  exact (pathText_eq name).trans (congrArg (· ++ name) hroot)

/-- A handle to a backlight, however it was obtained, can be made anew from its path, and then has
    what stands behind the last slash of that path for a name. So has the handle itself, unless it
    was asked for by a name with a slash in it: the name is kept as it was given. -/
theorem name_of_obtained {name? : Option String} {b : Backlight} (h : Obtained name? b) :
    ∃ last, IsLast b.handle.path.text last ∧
      (b.name = last ↔ ∀ name ∈ name?, '/' ∉ name.toList) ∧ (∀ name ∈ name?, b.name = name) ∧
      ∀ (timeout : Nat) (w : World σ), (Backlight.atPath b.handle.path.text timeout w).1 =
        .ok { name := last, handle := { b.handle with timeout } } := by
  have hlast := Bus.ObjectPath.isLast_of_isValid b.handle.path.valid
  refine ⟨lastElement b.handle.path.text, hlast, ?_⟩
  rw [← and_assoc]
  refine ⟨?_, fun timeout w => ?_⟩
  · rcases h.made with ⟨name, timeout, rfl, hmade⟩ | ⟨rfl, timeout, hmade⟩
    · have hname := name_of_ofName hmade
      simp only [Option.mem_some_iff, forall_eq', hname, and_true]
      constructor
      · intro heq
        rw [heq]
        exact hlast.1
      · intro hslash
        exact (isLast_of_ofName hmade hslash).eq_lastElement.symm
    · exact ⟨⟨fun _ => nofun, fun _ => name_of_ofPath hmade⟩, nofun⟩
  · have hresult := (atPath_amountsTo b.handle.path.text timeout w w (.refl w)).1
    rw [h.ofPath_path timeout] at hresult
    exact hresult

/-- A backlight that the service tells among others is made anew from its path. -/
theorem name_of_obtained_listed :
    let told : Bus.Wire :=
      .array .objectPath [.objectPath "/panels/right_1", .objectPath "/panels/left"]
    let w : World (List Bus.Reply) :=
      { connection := .fresh (.scripted .noReply) [{ answer := .returned [.variant told] }] }
    let b : Backlight := ⟨"left", ⟨⟨"/panels/left", by decide⟩,
      "org.sessiond.session1.Backlight", 25000⟩⟩
    Obtained none b ∧ IsLast b.handle.path.text "left" ∧
      (Backlight.atPath b.handle.path.text 25000 w).1 = .ok b := by
  intro told w b
  have hlisted : (({} : Service).backlights w).1 = .ok [⟨"right_1", ⟨⟨"/panels/right_1", by decide⟩,
      "org.sessiond.session1.Backlight", 25000⟩⟩, b] := rfl
  have hb : Obtained none b := .listed hlisted (.tail _ (.head _))
  obtain ⟨last, hlast, hname, -, hanew⟩ := Backlight.name_of_obtained hb
  cases hname.mpr nofun
  exact ⟨hb, hlast, hanew 25000 w⟩

/-- A name with a slash is kept whole, and differs from that of the same handle made anew. -/
theorem slashed_name_kept :
    let w : World Unit := { connection := .fresh ⟨fun _ _ => ({ answer := .silence }, ())⟩ () }
    let h : Handle := ⟨⟨"/org/sessiond/session1/backlight/a/b", by decide⟩,
      "org.sessiond.session1.Backlight", 25000⟩
    (Backlight.named "a/b" 25000 w).1 = .ok ⟨"a/b", h⟩ ∧ IsLast h.path.text "b" ∧
      (Backlight.atPath h.path.text 25000 w).1 = .ok ⟨"b", h⟩ := by
  refine ⟨rfl, ⟨by decide, "/org/sessiond/session1/backlight/a", by decide⟩, rfl⟩

end Backlight

end SessionControl.Client
