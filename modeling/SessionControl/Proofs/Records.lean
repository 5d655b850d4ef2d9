import SessionControl.Proofs.Operations

set_option autoImplicit false

/-! # What is recorded of a call that failed

The client records for debugging what it has done, and only once it is done. Where a call fails, or
what it brings cannot be read, the call is the last that the journal holds: no success is recorded
behind it (`Operation.perform_failsWith`). Faults about the path of an object are apart, as a path
may turn out to be none when the call is over. -/

namespace SessionControl.Client

variable {σ ε δ α β : Type}

open PropertyValue (Narrowing)

/-- Whether a fault is about a call, and not about the path of an object. -/
def Fault.concernsCall : Fault → Bool
  | invalidPath _ _ => false
  | _ => true

namespace Action

/-! ## Actions that end with a call -/

/-- On a connection that is not closed, the call is the last that the action does. -/
def EndsWith (x : Action σ ε α) (c : Bus.Call) : Prop :=
  ∀ w : World σ, w.connection.phase ≠ .closed → (x w).2.journal.getLast? = some (.called c)

/-- The action adds nothing to the journal. -/
def Quiet (x : Action σ ε α) : Prop := ∀ w : World σ, (x w).2.journal = w.journal

theorem Quiet.ofExcept (r : Except ε α) : (Action.ofExcept r : Action σ ε α).Quiet := by
  intro w
  cases r <;> rfl

namespace EndsWith

theorem call (c : Bus.Call) : (Action.call c : Action σ Bus.Failure Bus.Body).EndsWith c := by
  intro w hopen
  rw [call_of_open c hopen]
  exact List.getLast?_concat

theorem mapError {x : Action σ ε α} {c : Bus.Call} (h : x.EndsWith c) (f : ε → δ) :
    (x.mapError f).EndsWith c := by
  intro w hopen
  rw [mapError_apply]
  exact h w hopen

theorem bind {x : Action σ ε α} {f : α → Action σ ε β} {c : Bus.Call} (h : x.EndsWith c)
    (hf : ∀ a, (f a).Quiet) : (x >>= f).EndsWith c := by
  intro w hopen
  have hlast := h w hopen
  rw [bind_apply]
  rcases hx : x w with ⟨_ | a, w'⟩
  · rw [hx] at hlast
    exact hlast
  · rw [hx] at hlast
    exact (congrArg List.getLast? (hf a w')).trans hlast

theorem logged {x : Action σ ε α} {c : Bus.Call} (h : x.EndsWith c) (severity : Severity)
    (text : String) : (Action.log severity text >>= fun _ => x).EndsWith c :=
  fun w hopen => h { w with journal := w.journal ++ [.logged severity text] } hopen

end EndsWith

/-! ## Actions that fail with a call -/

/-- On a connection that is not closed, the call is the last that the action does if it fails,
    other than for a path. -/
def FailsWith (x : Action σ Fault α) (c : Bus.Call) : Prop :=
  ∀ w : World σ, w.connection.phase ≠ .closed → ∀ fault, (x w).1 = .error fault →
    fault.concernsCall = true → (x w).2.journal.getLast? = some (.called c)

/-- The action fails for a path only. -/
def Harmless (x : Action σ Fault α) : Prop :=
  ∀ (w : World σ) (fault : Fault), (x w).1 = .error fault → fault.concernsCall = false

theorem Harmless.done (a : α) : (Action.done a : Action σ Fault α).Harmless :=
  fun _ _ herror => nomatch herror

theorem Harmless.log (severity : Severity) (text : String) :
    (Action.log severity text : Action σ Fault Unit).Harmless :=
  fun _ _ herror => nomatch herror

/-- A result that is settled without a call fails as it was settled. -/
theorem AmountsTo.harmless {x : Action σ Fault α} {r : Except Fault α}
    (hx : x.AmountsTo (.settled r)) (hr : ∀ fault, r = .error fault → fault.concernsCall = false) :
    x.Harmless := by
  intro w fault herror
  refine hr fault ?_
  rw [← herror, (hx.apply_of_settled w).1]

theorem EndsWith.failsWith {x : Action σ Fault α} {c : Bus.Call} (h : x.EndsWith c) :
    x.FailsWith c :=
  fun w hopen _ _ _ => h w hopen

namespace FailsWith

theorem bind {x : Action σ Fault α} {f : α → Action σ Fault β} {c : Bus.Call}
    (h : x.FailsWith c) (hf : ∀ a, (f a).Harmless) : (x >>= f).FailsWith c := by
  intro w hopen fault herror hfault
  rw [bind_apply] at herror ⊢
  rcases hx : x w with ⟨fault' | a, w'⟩
  · rw [hx] at herror
    cases herror
    have hlast := h w hopen fault (by rw [hx]) hfault
    rw [hx] at hlast
    exact hlast
  · rw [hx] at herror
    rw [hf a w' fault herror] at hfault
    cases hfault

/-- What precedes the call may fail for a path only, and leaves the connection as it is. -/
theorem given {x : Action σ Fault α} {r : Except Fault α} {f : α → Action σ Fault β}
    {c : Bus.Call} (hx : x.AmountsTo (.settled r))
    (hr : ∀ fault, r = .error fault → fault.concernsCall = false)
    (hf : ∀ a, r = .ok a → (f a).FailsWith c) : (x >>= f).FailsWith c := by
  intro w hopen fault herror hfault
  obtain ⟨hresult, halike⟩ := hx w w (.refl w)
  rw [bind_apply] at herror ⊢
  rcases hxw : x w with ⟨result, w'⟩
  rw [hxw] at hresult halike herror
  cases r with
  | error e =>
      cases (show result = .error e from hresult)
      cases herror
      rw [hr fault rfl] at hfault
      cases hfault
  | ok a =>
      cases (show result = .ok a from hresult)
      have hconnection : w'.connection = w.connection := halike.connection
      exact hf a rfl w' (hconnection ▸ hopen) fault herror hfault

/-- Wording a result differently adds no way to fail. -/
theorem map {x : Action σ Fault α} {c : Bus.Call} (h : x.FailsWith c) (g : α → β) :
    (x >>= fun a => Action.done (g a)).FailsWith c :=
  h.bind fun a => .done (g a)

/-- The record of a success is made behind the success. -/
theorem recorded {x : Action σ Fault α} {c : Bus.Call} (h : x.FailsWith c) (severity : Severity)
    (text : α → String) (g : α → β) :
    (x >>= fun a => Action.log severity (text a) >>= fun _ => Action.done (g a)).FailsWith c :=
  h.bind fun _ _ _ herror => nomatch herror

theorem recorded_unit {x : Action σ Fault Unit} {c : Bus.Call} (h : x.FailsWith c)
    (severity : Severity) (text : String) :
    (x >>= fun _ => Action.log severity text).FailsWith c :=
  h.bind fun _ => .log severity text

end FailsWith
end Action

/-! ## Handles -/

namespace Handle

theorem concernsCall_of_ofText {text suffix : String} {timeout : Nat} {fault : Fault}
    (h : ofText text suffix timeout = .error fault) : fault.concernsCall = false := by
  unfold ofText at h
  split at h
  · cases h
  · cases h
    rfl

theorem query_endsWith (c : Bus.Call) (result : Bus.Argument α) :
    (query c result : Action σ Fault α).EndsWith c :=
  ((Action.EndsWith.call c).mapError _).bind fun _ => .ofExcept _

theorem command_failsWith (h : Handle) (member : String) (args : Bus.Body) :
    (h.command member args : Action σ Fault Unit).FailsWith (h.methodCall member args) :=
  ((Action.EndsWith.call _).mapError _).failsWith.map _

theorem request_failsWith (h : Handle) (member : String) (args : Bus.Body)
    (result : Bus.Argument α) :
    (h.request member args result : Action σ Fault α).FailsWith (h.methodCall member args) :=
  (query_endsWith _ _).failsWith

theorem getProperty_endsWith (h : Handle) (name : String) :
    (h.getProperty name : Action σ Fault PropertyValue).EndsWith
      (h.propertyCall "Get" [.string name]) :=
  ((query_endsWith _ _).bind fun _ _ => rfl).logged _ _

theorem getProperties_endsWith (h : Handle) :
    (h.getProperties : Action σ Fault (NameMap PropertyValue)).EndsWith
      (h.propertyCall "GetAll" []) :=
  ((query_endsWith _ _).bind fun _ _ => rfl).logged _ _

theorem property_endsWith (h : Handle) (kind : Narrowing α) (name : String) :
    (h.property kind name : Action σ Fault α).EndsWith (h.propertyCall "Get" [.string name]) := by
  refine (getProperty_endsWith h name).bind fun value w => ?_
  cases kind.take? value <;> rfl

theorem optionalProperty_failsWith (h : Handle) (kind : Narrowing α) (name : String) :
    (h.optionalProperty kind name : Action σ Fault (Option α)).FailsWith
      (h.propertyCall "Get" [.string name]) := by
  intro w hopen fault herror _
  have hlast := h.property_endsWith kind name w hopen
  rcases hx : h.property kind name w with ⟨result, w'⟩
  have hattempt : ((h.property kind name).attempt : Action σ Fault _) w = (.ok result, w') := by
    rw [Action.attempt_apply, hx]
  unfold optionalProperty at herror ⊢
  rw [Action.bind_apply, hattempt] at herror ⊢
  rw [hx] at hlast
  cases result with
  | ok a => cases herror
  | error fault' =>
      simp only at herror ⊢
      split at herror
      · cases herror
      · next hknown =>
          rw [if_neg hknown]
          exact hlast

theorem watch_failsWith (h : Handle) (n : Notice) (tag : String) :
    (h.watch n tag : Action σ Fault Unit).FailsWith (n.rule h.path).subscribeCall :=
  ((Action.EndsWith.call _).mapError _).failsWith.bind fun _ _ _ herror => nomatch herror

end Handle

/-! ## Operations -/

theorem ObjectOperation.perform_failsWith (h : Handle) (view : HandleView) {op : ObjectOperation}
    {c : Bus.Call} (hc : (op.inquiry h view).call? = some c) :
    (op.perform h view : Action σ Fault Outcome).FailsWith c := by
  cases op with
  | describe => cases hc
  | getProperty name =>
      cases hc
      exact (h.getProperty_endsWith name).failsWith.map _
  | getProperties =>
      cases hc
      exact h.getProperties_endsWith.failsWith.map _

theorem SessionOperation.perform_failsWith (s : Session) {op : SessionOperation} {c : Bus.Call}
    (hc : (op.inquiry s).call? = some c) :
    (op.perform s : Action σ Fault Outcome).FailsWith c := by
  cases op with
  | object op => exact op.perform_failsWith s.handle s.view hc
  | inhibit who why =>
      cases hc
      exact ((s.handle.request_failsWith _ _ _).recorded _ _ _).map _
  | uninhibit id =>
      cases hc
      exact ((s.handle.command_failsWith _ _).recorded_unit _ _).map _
  | stopInhibitors =>
      cases hc
      exact ((s.handle.request_failsWith _ _ _).recorded _ _ _).map _
  | listInhibitors =>
      cases hc
      exact ((s.handle.request_failsWith _ _ _).map _).map _
  | lock | unlock =>
      cases hc
      exact ((s.handle.command_failsWith _ _).recorded_unit _ _).map _
  | audioSinks =>
      cases hc
      exact ((s.handle.optionalProperty_failsWith _ _).map _).map _
  | defaultAudioSink =>
      cases hc
      exact (s.handle.optionalProperty_failsWith _ _).map _
  | watch notice tag =>
      cases hc
      exact (s.handle.watch_failsWith notice tag).map _
  | _ =>
      cases hc
      exact (s.handle.property_endsWith _ _).failsWith.map _

theorem BacklightOperation.perform_failsWith (b : Backlight) {op : BacklightOperation}
    {c : Bus.Call} (hc : (op.inquiry b).call? = some c) :
    (op.perform b : Action σ Fault Outcome).FailsWith c := by
  cases op with
  | object op => exact op.perform_failsWith b.handle b.view hc
  | setBrightness v =>
      cases hc
      exact ((b.handle.command_failsWith _ _).recorded_unit _ _).map _
  | incBrightness v =>
      cases hc
      exact ((b.handle.request_failsWith _ _ _).recorded _ _ _).map _
  | _ =>
      cases hc
      exact (b.handle.property_endsWith _ _).failsWith.map _

theorem AudioSinkOperation.perform_failsWith (a : AudioSink) {op : AudioSinkOperation}
    {c : Bus.Call} (hc : (op.inquiry a).call? = some c) :
    (op.perform a : Action σ Fault Outcome).FailsWith c := by
  cases op with
  | object op => exact op.perform_failsWith a.handle a.view hc
  | setVolume v | setMute m =>
      cases hc
      exact ((a.handle.command_failsWith _ _).recorded_unit _ _).map _
  | incVolume v =>
      cases hc
      exact ((a.handle.request_failsWith _ _ _).recorded _ _ _).map _
  | toggleMute =>
      cases hc
      exact ((a.handle.request_failsWith _ _ _).recorded _ _ _).map _
  | watch notice tag =>
      cases hc
      exact (a.handle.watch_failsWith notice tag).map _
  | _ =>
      cases hc
      exact (a.handle.property_endsWith _ _).failsWith.map _

/-! ### Operations that make handles -/

/-- Where something could not be made of each element, it could not be made of one of them. -/
theorem mapM_error {f : α → Except ε β} {as : List α} {e : ε} (h : as.mapM f = .error e) :
    ∃ a ∈ as, f a = .error e := by
  induction as with
  | nil => cases h
  | cons a as ih =>
      rw [List.mapM_cons] at h
      cases hfa : f a with
      | error e' =>
          rw [hfa] at h
          cases h
          exact ⟨a, List.mem_cons_self, hfa⟩
      | ok b =>
          rw [hfa] at h
          cases hrest : as.mapM f with
          | error e' =>
              rw [hrest] at h
              cases h
              obtain ⟨a', hmem, ha'⟩ := ih hrest
              exact ⟨a', List.mem_cons_of_mem a hmem, ha'⟩
          | ok bs =>
              rw [hrest] at h
              cases h

theorem concernsCall_of_map {r : Except Fault α} {f : α → β} {fault : Fault}
    (hr : ∀ fault, r = .error fault → fault.concernsCall = false)
    (h : (r.bind fun a => .ok (f a)) = .error fault) : fault.concernsCall = false := by
  cases r with
  | error e =>
      cases h
      exact hr _ rfl
  | ok a => cases h

theorem Backlight.concernsCall_of_ofPath {timeout : Nat} {path : String} {fault : Fault}
    (h : ofPath timeout path = .error fault) : fault.concernsCall = false :=
  concernsCall_of_map (fun _ => Handle.concernsCall_of_ofText) h

theorem AudioSink.concernsCall_of_ofPath {timeout : Nat} {path : String} {fault : Fault}
    (h : ofPath timeout path = .error fault) : fault.concernsCall = false :=
  concernsCall_of_map (fun _ => Handle.concernsCall_of_ofText) h

theorem BacklightTarget.concernsCall_of_resolve {timeout : Nat} {target : BacklightTarget}
    {fault : Fault} (h : target.resolve timeout = .error fault) : fault.concernsCall = false := by
  cases target with
  | named name =>
      exact concernsCall_of_map (fun _ => Handle.concernsCall_of_ofText) h
  | atPath path => exact Backlight.concernsCall_of_ofPath h

theorem ServiceOperation.perform_failsWith (s : Service) {op : ServiceOperation} {c : Bus.Call}
    (hc : (op.inquiry s).call? = some c) :
    (op.perform s : Action σ Fault Outcome).FailsWith c := by
  have hsession : ∀ fault, (Except.ok (Session.ofTimeout s.timeout) : Except Fault Session) =
      .error fault → fault.concernsCall = false := fun _ herror => nomatch herror
  cases op with
  | session | backlight _ | audioSink _ => cases hc
  | backlights =>
      cases hc
      refine .map (.given s.session_amountsTo hsession fun session hs => ?_) _
      cases hs
      refine (Handle.property_endsWith _ _ _).failsWith.bind fun paths => ?_
      refine (Action.AmountsTo.each (fun path => Backlight.atPath_amountsTo path _) paths).harmless
        fun fault herror => ?_
      obtain ⟨path, -, hpath⟩ := mapM_error herror
      exact Backlight.concernsCall_of_ofPath hpath
  | audioSinks =>
      cases hc
      refine .map (.given s.session_amountsTo hsession fun session hs => ?_) _
      cases hs
      refine ((Handle.optionalProperty_failsWith _ _ _).map _).bind fun paths => ?_
      refine (Action.AmountsTo.each (fun path => AudioSink.atPath_amountsTo path _) paths).harmless
        fun fault herror => ?_
      obtain ⟨path, -, hpath⟩ := mapM_error herror
      exact AudioSink.concernsCall_of_ofPath hpath
  | defaultAudioSink =>
      cases hc
      refine .map (.given s.session_amountsTo hsession fun session hs => ?_) _
      cases hs
      refine (Handle.optionalProperty_failsWith _ _ _).bind fun path? => ?_
      cases path? with
      | none => exact .done none
      | some path =>
          show Action.Harmless (if path = "/" then _ else _)
          split
          · exact .done none
          · refine ((AudioSink.atPath_amountsTo path s.timeout).map some).harmless
              fun fault herror => ?_
            exact concernsCall_of_map (fun _ => AudioSink.concernsCall_of_ofPath) herror

/-- Of a call that failed, or that brought what could not be read, nothing is recorded. -/
theorem Operation.perform_failsWith (s : Service) {op : Operation} {c : Bus.Call}
    (hc : (op.inquiry s).call? = some c) :
    (op.perform s : Action σ Fault Outcome).FailsWith c := by
  cases op with
  | onSession op =>
      refine .given s.session_amountsTo (fun _ herror => nomatch herror) fun _ hs => ?_
      cases hs
      exact op.perform_failsWith _ hc
  | onBacklight target op =>
      have hmake : (target.make s.timeout : Action σ Fault Backlight).AmountsTo
          (.settled (target.resolve s.timeout)) := by
        cases target with
        | named name => exact Backlight.named_amountsTo name s.timeout
        | atPath path => exact Backlight.atPath_amountsTo path s.timeout
      refine .given hmake (fun _ => BacklightTarget.concernsCall_of_resolve) fun b hb => ?_
      simp only [inquiry, hb] at hc
      exact op.perform_failsWith b hc
  | onAudioSink target op =>
      have hmake : (target.make s.timeout : Action σ Fault AudioSink).AmountsTo
          (.settled (AudioSink.ofPath s.timeout target.pathText)) := by
        cases target with
        | identified id => exact AudioSink.atPath_amountsTo _ s.timeout
        | atPath path => exact AudioSink.atPath_amountsTo path s.timeout
      refine .given hmake (fun _ => AudioSink.concernsCall_of_ofPath) fun a ha => ?_
      simp only [inquiry, ha] at hc
      exact op.perform_failsWith a hc
  | onObject path suffix op =>
      refine .given (Handle.atText_amountsTo path suffix s.timeout)
        (fun _ => Handle.concernsCall_of_ofText) fun h hh => ?_
      simp only [inquiry, hh] at hc
      exact op.perform_failsWith h h.view hc
  | onService op => exact op.perform_failsWith s hc

end SessionControl.Client
