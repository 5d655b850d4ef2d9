import Mathlib.Data.List.Basic
import SessionControl.Proofs.Registration

set_option autoImplicit false

/-! # Delivery of signals

A history is told by its *hearings*: the signals that it processes, in order, each with the
callbacks that were registered by then. What is due on a hearing is one run of every callback that
listens to the signal and can read it. A run of the client delivers the first of what is due on each
hearing and nothing else (`deliveries_eq`), since callbacks that listen to the same signal read it
alike. -/

namespace SessionControl.Client

variable {σ : Type}

/-! ## Hearings -/

/-- A processed signal, and the callbacks that had been registered before. -/
structure Hearing where
  callbacks : List Bus.Subscription
  signal : Bus.Signal

/-- The run of a callback on a signal, if it listens to it and can read it. -/
def response? (s : Bus.Signal) (c : Bus.Subscription) : Option Bus.Delivery :=
  if c.rule.accepts s then (c.shape.read? s.body).map fun payload => ⟨c.tag, payload⟩ else none

/-- One run of every callback that listens to the signal and can read it. -/
def Hearing.due (h : Hearing) : List Bus.Delivery := h.callbacks.filterMap (response? h.signal)

/-- The signals that a step processes. -/
def Step.processed (w : World σ) : Step → List Bus.Signal
  | .process => w.connection.inbox
  | _ => []

/-- The hearings of a history that starts with these callbacks registered. -/
def hearings (s : Service) : World σ → List Bus.Subscription → List Step → List Hearing
  | _, _, [] => []
  | w, registered, step :: rest =>
    (step.processed w).map (Hearing.mk registered) ++
      hearings s (step.run s w).2
        (registered ++ (step.registration? (step.run s w).1).toList) rest

/-- The callbacks that a step shows to have run. -/
def StepResult.deliveries : StepResult → List Bus.Delivery
  | .processed deliveries => deliveries
  | _ => []

/-- The callbacks that a history shows to have run. -/
def deliveries (s : Service) (w : World σ) (steps : List Step) : List Bus.Delivery :=
  (Step.runAll s w steps).1.flatMap StepResult.deliveries

/-! ## Callbacks that listen to the same -/

namespace Notice

/-- All signals of the service. -/
def all : List Notice := ofSession ++ [changeMute, changeVolume]

theorem mem_all (n : Notice) : n ∈ all := by
  cases n <;> decide

/-- A signal of the service is known by its member alone. -/
theorem eq_of_member {n m : Notice} (h : n.member = m.member) : n = m := by
  have hfind : ∀ n : Notice, all.find? (fun m => m.member = n.member) = some n := by
    intro n
    cases n <;> decide
  have hn := hfind n
  rw [h, hfind m] at hn
  exact (Option.some.inj hn).symm

end Notice

/-- Every callback is one for a signal of the service. -/
def Known (callbacks : List Bus.Subscription) : Prop :=
  ∀ c ∈ callbacks, ∃ (n : Notice) (path tag : String), c = n.listener path tag

theorem Known.nil : Known [] := by
  intro c hc
  cases hc

theorem Operation.callback?_eq {op : Operation} {c : Bus.Subscription}
    (h : op.callback? = some c) : ∃ (n : Notice) (path tag : String), c = n.listener path tag := by
  unfold callback? at h
  split at h
  · next n tag => exact ⟨n, _, tag, (Option.some.inj h).symm⟩
  · next target n tag => exact ⟨n, _, tag, (Option.some.inj h).symm⟩
  · cases h

theorem Known.register {callbacks : List Bus.Subscription} (h : Known callbacks) (step : Step)
    (result : StepResult) : Known (callbacks ++ (step.registration? result).toList) := by
  intro c hc
  rcases List.mem_append.mp hc with hc | hc
  · exact h c hc
  · have hregistered : step.registration? result = some c := Option.mem_toList.mp hc
    unfold Step.registration? at hregistered
    split at hregistered
    · exact Operation.callback?_eq hregistered
    · cases hregistered

/-- Callbacks that listen to the same signal expect the same argument. -/
theorem shape_of_accepts {n m : Notice} {path path' tag tag' : String} {s : Bus.Signal}
    (h : (n.listener path tag).rule.accepts s) (h' : (m.listener path' tag').rule.accepts s) :
    (n.listener path tag).shape = (m.listener path' tag').shape := by
  unfold Bus.MatchRule.accepts at h h'
  rw [Bool.and_eq_true] at h h'
  have hn : s.member = n.member := of_decide_eq_true h.2
  have hm : s.member = m.member := of_decide_eq_true h'.2
  have hnm : n = m := Notice.eq_of_member (hn.symm.trans hm)
  exact congrArg Notice.shape hnm

theorem dispatch_cons (c : Bus.Subscription) (callbacks : List Bus.Subscription)
    (s : Bus.Signal) :
    Bus.dispatch (c :: callbacks) s =
      if c.rule.accepts s then response? s c else Bus.dispatch callbacks s := by
  unfold Bus.dispatch response?
  rw [List.find?_cons]
  cases c.rule.accepts s <;> rfl

/-- The first callback that listens decides: where it cannot read the signal, no other can. -/
theorem dispatch_eq {callbacks : List Bus.Subscription} (h : Known callbacks) (s : Bus.Signal) :
    Bus.dispatch callbacks s = (callbacks.filterMap (response? s)).head? := by
  induction callbacks with
  | nil => rfl
  | cons c callbacks ih =>
      have hrest : Known callbacks := fun c' hc' => h c' (List.mem_cons_of_mem c hc')
      rw [dispatch_cons]
      split
      · next haccepts =>
          cases hresponse : response? s c with
          | some delivery =>
              rw [List.filterMap_cons_some hresponse]
              rfl
          | none =>
              -- those behind it that listen expect the same argument, which is not there
              have hnone : callbacks.filterMap (response? s) = [] := by
                rw [List.filterMap_eq_nil_iff]
                intro c' hc'
                obtain ⟨n, path, tag, rfl⟩ := h c List.mem_cons_self
                obtain ⟨m, path', tag', rfl⟩ := hrest c' hc'
                unfold response? at hresponse ⊢
                rw [if_pos haccepts, Option.map_eq_none_iff] at hresponse
                split
                · next haccepts' =>
                    rw [← shape_of_accepts haccepts haccepts', hresponse]
                    rfl
                · rfl
              rw [List.filterMap_cons_none hresponse, hnone]
              rfl
      · next hrejects =>
          have hresponse : response? s c = none := if_neg hrejects
          rw [List.filterMap_cons_none hresponse, ih hrest]

/-! ## The deliveries of a history -/

theorem Step.deliveries_run (s : Service) {w : World σ} (h : Known w.connection.subscriptions)
    (step : Step) :
    (step.run s w).1.deliveries =
      ((step.processed w).map (Hearing.mk w.connection.subscriptions)).filterMap (·.due.head?) := by
  cases step with
  | emit signals => rfl
  | perform op => rfl
  | process =>
      show w.connection.inbox.filterMap _ = _
      rw [List.filterMap_map]
      congr 1
      funext signal
      exact dispatch_eq h signal

/-- What runs is the first of what is due on each hearing. -/
theorem deliveries_eq (s : Service) {w : World σ} (h : Known w.connection.subscriptions)
    (steps : List Step) :
    deliveries s w steps =
      (hearings s w w.connection.subscriptions steps).filterMap (·.due.head?) := by
  induction steps generalizing w with
  | nil => rfl
  | cons step rest ih =>
      have hknown : Known (step.run s w).2.connection.subscriptions := by
        rw [Step.run_subscriptions]
        exact h.register step _
      -- the rest starts with what the first step has left registered
      have hrest := ih hknown
      rw [Step.run_subscriptions] at hrest
      have hcons : deliveries s w (step :: rest) =
          (step.run s w).1.deliveries ++ deliveries s (step.run s w).2 rest := by
        unfold deliveries
        rw [Step.runAll_cons, List.flatMap_cons]
      rw [hcons, hearings, List.filterMap_append, hrest, step.deliveries_run s h]

/-! ## What is heard -/

/-- A hearing belongs to one step of processing: the signal waited for it, and the callbacks are
    those that the steps before had registered. -/
theorem mem_hearings {s : Service} {w : World σ} {registered : List Bus.Subscription}
    {steps : List Step} {h : Hearing} (hh : h ∈ hearings s w registered steps) :
    ∃ before after, steps = before ++ .process :: after ∧
      h.signal ∈ (Step.runAll s w before).2.connection.inbox ∧
      h.callbacks = registered ++ Step.registrations s w before := by
  induction steps generalizing w registered with
  | nil => cases hh
  | cons step rest ih =>
      rw [hearings, List.mem_append] at hh
      rcases hh with hh | hh
      · obtain ⟨signal, hsignal, rfl⟩ := List.mem_map.mp hh
        cases step with
        | emit signals => cases hsignal
        | perform op => cases hsignal
        | process => exact ⟨[], rest, rfl, hsignal, (List.append_nil registered).symm⟩
      · obtain ⟨before, after, rfl, hsignal, hcallbacks⟩ := ih hh
        refine ⟨step :: before, after, rfl, ?_, ?_⟩
        · rw [Step.runAll_cons]
          exact hsignal
        · rw [hcallbacks, List.append_assoc]
          rfl

/-- Each signal is heard once, in the order of arrival, or still waits. -/
theorem hearings_signals (s : Service) (w : World σ) (registered : List Bus.Subscription)
    (steps : List Step) :
    (hearings s w registered steps).map Hearing.signal ++
        (Step.runAll s w steps).2.connection.inbox =
      w.connection.inbox ++ Step.allArrivals s w steps := by
  induction steps generalizing w registered with
  | nil => exact (List.append_nil _).symm
  | cons step rest ih =>
      have hprocessed : ((step.processed w).map (Hearing.mk registered)).map Hearing.signal =
          step.processed w := by
        rw [List.map_map]
        exact List.map_id _
      rw [hearings, List.map_append, hprocessed, List.append_assoc, Step.runAll_cons, ih,
        Step.run_inbox, Step.allArrivals]
      cases step with
      | process => rfl
      | emit signals => exact List.append_assoc ..
      | perform op => exact List.append_assoc ..

/-! ## What is not delivered -/

theorem length_flatMap_take_one_le {α β : Type} (f : α → List β) (l : List α) :
    (l.flatMap fun a => (f a).take 1).length ≤ (l.flatMap f).length := by
  induction l with
  | nil => exact Nat.le_refl 0
  | cons a l ih =>
      have htake : ((f a).take 1).length ≤ (f a).length := List.length_take_le' 1 (f a)
      simp only [List.flatMap_cons, List.length_append]
      omega

/-- No element is lost by taking one of each list only where no list has more than one. -/
theorem length_flatMap_take_one {α β : Type} (f : α → List β) (l : List α) :
    (l.flatMap fun a => (f a).take 1).length = (l.flatMap f).length ↔
      ∀ a ∈ l, (f a).length ≤ 1 := by
  induction l with
  | nil => simp
  | cons a l ih =>
      have hle := length_flatMap_take_one_le f l
      rw [List.forall_mem_cons, ← ih]
      simp only [List.flatMap_cons, List.length_append, List.length_take]
      omega

/-- Of several callbacks that are due on one signal only the first runs. So everything that is due
    is delivered if and only if there is never more than one. -/
theorem delivers_due_iff (s : Service) (peer : Bus.Peer σ) (state : σ) (steps : List Step) :
    let w : World σ := { connection := .fresh peer state }
    let heard := hearings s w [] steps
    deliveries s w steps = heard.flatMap (fun h => h.due.take 1) ∧
      ((deliveries s w steps).Perm (heard.flatMap Hearing.due) ↔
        ∀ h ∈ heard, h.due.length ≤ 1) := by
  intro w heard
  have hfirst : deliveries s w steps = heard.flatMap (fun h => h.due.take 1) := by
    rw [deliveries_eq s Known.nil, List.filterMap_eq_flatMap_toList]
    congr 1
    funext h
    exact List.take_one.symm
  refine ⟨hfirst, ?_⟩
  rw [hfirst]
  constructor
  · intro hperm
    exact (length_flatMap_take_one Hearing.due heard).mp hperm.length_eq
  · intro hone
    have htake : ∀ h ∈ heard, h.due.take 1 = h.due := fun h hh =>
      List.take_of_length_le (hone h hh)
    rw [List.flatMap_congr htake]

/-- Two callbacks for one signal, and only one of them runs. -/
theorem two_callbacks_one_delivery :
    let w : World (List Bus.Reply) :=
      { connection := .fresh (.scripted .noReply)
          [{ answer := .returned [] }, { answer := .returned [] }] }
    let steps : List Step :=
      [.perform (.onSession (.watch .lock "a")), .perform (.onSession (.watch .lock "b")),
       .emit [{ path := "/org/sessiond/session1", interface := "org.sessiond.session1.Session"
                member := "Lock", body := [] }],
       .process]
    deliveries {} w steps = [⟨"a", .none⟩] ∧
      (hearings {} w [] steps).flatMap Hearing.due = [⟨"a", .none⟩, ⟨"b", .none⟩] ∧
      ¬ (deliveries {} w steps).Perm ((hearings {} w [] steps).flatMap Hearing.due) := by
  decide

end SessionControl.Client
