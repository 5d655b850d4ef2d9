import SessionControl.Proofs.Watching

set_option autoImplicit false

/-! # Conversations with a service

Some actions do nothing but make calls, one after another, and fail at the first that is rejected.
`Converses` names the calls in advance, and the only other reason to fail; `Ends` says what is known
of the result and the world behind where the action goes well. -/

namespace SessionControl.Command

open Client (Action Fault Inquiry World)

variable {σ α β : Type}

/-! ## Conversations -/

/-- Between two worlds these calls were agreed to, and then one may have been rejected; nothing else
    was done. -/
structure Conversed (w w' : World σ) (agreed : List Bus.Call) (rejected : Option Bus.Call) :
    Prop where
  agreement : Agreed w.connection agreed
  rejection : ∀ call ∈ rejected, ∃ failure,
    ((afterCalls w.connection agreed).exchange call).1 = .error failure
  connection : w'.connection = afterCalls w.connection (agreed ++ rejected.toList)
  deeds : w'.journal.deeds = w.journal.deeds ++ (agreed ++ rejected.toList).map .called

/-- From a world on, the action makes these calls one after another and does nothing else, up to the
    first that is rejected. -/
structure Conversation (x : Action σ Trouble α) (w : World σ) (calls : List Bus.Call)
    (excuse : Prop) (agreed : List Bus.Call) (rejected : Option Bus.Call) : Prop where
  conversed : Conversed w (x w).2 agreed rejected
  planned : agreed ++ rejected.toList <+: calls
  /-- It goes well only if all calls were made. -/
  finished : ∀ a, (x w).1 = .ok a → rejected = none ∧ agreed = calls
  /-- It does not fail without a rejection, unless there is this excuse. -/
  excused : ∀ trouble, (x w).1 = .error trouble → rejected = none → excuse

def Converses (x : Action σ Trouble α) (w : World σ) (calls : List Bus.Call) (excuse : Prop) :
    Prop :=
  ∃ agreed rejected, Conversation x w calls excuse agreed rejected

theorem agreed_append (c : Bus.Connection σ) (calls calls' : List Bus.Call) :
    Agreed c (calls ++ calls') ↔ Agreed c calls ∧ Agreed (afterCalls c calls) calls' := by
  induction calls generalizing c with
  | nil => exact (and_iff_right trivial).symm
  | cons call calls ih =>
      show _ ∧ Agreed (c.exchange call).2 (calls ++ calls') ↔ (_ ∧ _) ∧ _
      rw [ih, and_assoc]
      rfl

theorem afterCalls_append (c : Bus.Connection σ) (calls calls' : List Bus.Call) :
    afterCalls c (calls ++ calls') = afterCalls (afterCalls c calls) calls' :=
  List.foldl_append ..

theorem afterCalls_peer (c : Bus.Connection σ) (calls : List Bus.Call) :
    (afterCalls c calls).peer = c.peer := by
  induction calls generalizing c with
  | nil => rfl
  | cons call calls ih => exact ih (c.exchange call).2

/-- Whoever is agreed with keeps the connection. -/
theorem open_afterCalls {c : Bus.Connection σ} {calls : List Bus.Call} (hagreed : Agreed c calls)
    (hopen : c.phase ≠ .closed) : (afterCalls c calls).phase ≠ .closed := by
  induction calls generalizing c with
  | nil => exact hopen
  | cons call calls ih =>
      obtain ⟨⟨body, hok⟩, hagreed⟩ := hagreed
      exact ih hagreed (open_of_answered hopen hok)

theorem Conversed.none_of_alike {w w' : World σ} (h : World.Alike w' w) :
    Conversed w w' [] none where
  agreement := trivial
  rejection := nofun
  connection := h.connection
  deeds := h.deeds.trans (List.append_nil _).symm

/-- A conversation without a rejection can go on. -/
theorem Conversed.trans {w w' w'' : World σ} {agreed agreed' : List Bus.Call}
    {rejected : Option Bus.Call} (h : Conversed w w' agreed none)
    (h' : Conversed w' w'' agreed' rejected) :
    Conversed w w'' (agreed ++ agreed') rejected where
  agreement := by
    rw [agreed_append]
    refine ⟨h.agreement, ?_⟩
    have hagreed := h'.agreement
    rwa [h.connection, Option.toList_none, List.append_nil] at hagreed
  rejection call hcall := by
    have hrejected := h'.rejection call hcall
    rwa [h.connection, Option.toList_none, List.append_nil, ← afterCalls_append] at hrejected
  connection := by
    rw [h'.connection, h.connection, Option.toList_none, List.append_nil, ← afterCalls_append,
      List.append_assoc]
  deeds := by
    rw [h'.deeds, h.deeds, Option.toList_none, List.append_nil, List.append_assoc,
      List.append_assoc, ← List.map_append]

namespace Converses

variable {x : Action σ Trouble α} {f : α → Action σ Trouble β} {w : World σ}
  {calls calls' : List Bus.Call} {excuse : Prop}

theorem bind (hx : Converses x w calls excuse)
    (hf : ∀ a w', x w = (.ok a, w') → Converses (f a) w' calls' excuse) :
    Converses (x >>= f) w (calls ++ calls') excuse := by
  obtain ⟨agreed, rejected, hconversed, hplanned, hfinished, hexcused⟩ := hx
  generalize hy : x w = y at hconversed hfinished hexcused hf
  obtain ⟨r, w'⟩ := y
  cases r with
  | error trouble =>
      have hxf : (x >>= f) w = (.error trouble, w') := by rw [Action.bind_apply, hy]
      refine ⟨agreed, rejected, ?_, hplanned.trans (List.prefix_append ..), ?_, ?_⟩
      · rw [hxf]
        exact hconversed
      · intro b hb
        rw [hxf] at hb
        cases hb
      · exact fun _ _ hnone => hexcused trouble rfl hnone
  | ok a =>
      have hxf : (x >>= f) w = f a w' := by rw [Action.bind_apply, hy]
      obtain ⟨rfl, rfl⟩ := hfinished a rfl
      obtain ⟨agreed', rejected', hconversed', hplanned', hfinished', hexcused'⟩ := hf a w' rfl
      refine ⟨agreed ++ agreed', rejected', ?_, ?_, fun b hb => ?_, fun trouble htrouble => ?_⟩
      · rw [hxf]
        exact hconversed.trans hconversed'
      · rw [List.append_assoc]
        exact (List.prefix_append_right_inj agreed).mpr hplanned'
      · obtain ⟨hrejected, rfl⟩ := hfinished' b (hxf ▸ hb)
        exact ⟨hrejected, rfl⟩
      · exact hexcused' trouble (hxf ▸ htrouble)

theorem imp {excuse' : Prop} (hx : Converses x w calls excuse) (h : excuse → excuse') :
    Converses x w calls excuse' := by
  obtain ⟨agreed, rejected, hconversed, hplanned, hfinished, hexcused⟩ := hx
  exact ⟨agreed, rejected, hconversed, hplanned, hfinished,
    fun trouble htrouble hnone => h (hexcused trouble htrouble hnone)⟩

theorem peer (hx : Converses x w calls excuse) {r : Except Trouble α} {w' : World σ}
    (h : x w = (r, w')) : w'.connection.peer = w.connection.peer := by
  obtain ⟨agreed, rejected, hconversation⟩ := hx
  have hconnection := hconversation.conversed.connection
  rw [h] at hconnection
  rw [hconnection, afterCalls_peer]

/-- An action that goes well does not close the connection. -/
theorem phase (hx : Converses x w calls excuse) {a : α} {w' : World σ} (h : x w = (.ok a, w'))
    (hclosed : w'.connection.phase = .closed) : w.connection.phase = .closed := by
  obtain ⟨agreed, rejected, hconversation⟩ := hx
  obtain ⟨rfl, rfl⟩ := hconversation.finished a (congrArg Prod.fst h)
  have hconnection := hconversation.conversed.connection
  rw [h, Option.toList_none, List.append_nil] at hconnection
  rw [hconnection] at hclosed
  by_cases hphase : w.connection.phase = .closed
  · exact hphase
  · exact absurd hclosed (open_afterCalls hconversation.conversed.agreement hphase)

theorem of_settled {r : Except Trouble α} (hx : x.AmountsTo (.settled r)) (w : World σ)
    (hexcuse : ∀ trouble, (x w).1 = .error trouble → excuse) : Converses x w [] excuse := by
  exact ⟨[], none, .none_of_alike (hx.apply_of_settled w).2, List.nil_prefix,
    fun _ _ => ⟨rfl, rfl⟩, fun trouble htrouble _ => hexcuse trouble htrouble⟩

theorem done (a : α) (w : World σ) : Converses (Action.done a : Action σ Trouble α) w [] excuse :=
  of_settled (.done a) w fun _ h => by cases h

/-- Logging leaves the connection as it is. -/
theorem log_bind {f : Unit → Action σ Trouble β} (text : String)
    (hf : ∀ w', w'.connection = w.connection → Converses (f ()) w' calls excuse) :
    Converses (Action.log .debug text >>= f) w calls excuse := by
  have hlog : Converses (Action.log .debug text : Action σ Trouble Unit) w [] excuse :=
    of_settled (.log (by decide) text) w fun _ h => by cases h
  exact hlog.bind fun _ w' h => hf w' (congrArg (fun y => y.2.connection) h).symm

/-- What fails without a call makes a beginning of any calls. -/
theorem giveUp (cause : Cause) (w : World σ) (calls : List Bus.Call) (h : excuse) :
    Converses (Command.giveUp cause : Action σ Trouble α) w calls excuse := by
  refine ⟨[], none, .none_of_alike (.refl w), List.nil_prefix, fun _ hok => ?_, fun _ _ _ => h⟩
  cases hok

/-- One call, whose rejection is a failure. -/
theorem of_asks {call : Bus.Call} {read : Except Bus.Failure Bus.Body → Except Trouble α}
    (hx : x.AmountsTo (.asks call read)) (hread : ∀ failure a, read (.error failure) ≠ .ok a)
    (w : World σ) (hclosed : w.connection.phase = .closed → excuse)
    (hanswer : ∀ body trouble, (w.connection.exchange call).1 = .ok body →
      (x w).1 = .error trouble → excuse) : Converses x w [call] excuse := by
  by_cases hphase : w.connection.phase = .closed
  · -- no call goes out, and so none is rejected, but the action fails all the same
    obtain ⟨hresult, hw⟩ := hx w w (.refl w)
    simp only [Inquiry.run, Inquiry.enlist, Action.call_of_closed call hphase] at hresult hw
    refine ⟨[], none, .none_of_alike hw, List.nil_prefix, fun a hok => ?_, fun _ _ _ => ?_⟩
    · exact absurd (hresult.symm.trans hok) (hread _ a)
    · exact hclosed hphase
  · obtain ⟨hresult, hconnection, hdeeds⟩ := exchange_of_amountsTo hx hphase
    cases hexchange : (w.connection.exchange call).1 with
    | ok body =>
        have hconversed : Conversed w (x w).2 [call] none :=
          { agreement := ⟨⟨body, hexchange⟩, trivial⟩
            rejection := fun _ hnone => by cases hnone
            connection := hconnection
            deeds := hdeeds }
        exact ⟨[call], none, hconversed, List.prefix_rfl, fun _ _ => ⟨rfl, rfl⟩,
          fun trouble htrouble _ => hanswer body trouble hexchange htrouble⟩
    | error failure =>
        have hconversed : Conversed w (x w).2 [] (some call) :=
          { agreement := trivial
            rejection := fun _ hsome => Option.some.inj hsome ▸ ⟨failure, hexchange⟩
            connection := hconnection
            deeds := hdeeds }
        refine ⟨[], some call, hconversed, List.prefix_rfl, fun a hok => ?_, fun _ _ hnone => ?_⟩
        · rw [hresult, hexchange] at hok
          exact absurd hok (hread failure a)
        · cases hnone

end Converses

/-! ## Good ends -/

/-- From a world on, where the action goes well this holds of its result and the world behind. -/
def Ends (x : Action σ Trouble α) (w : World σ) (Q : α → World σ → Prop) : Prop :=
  ∀ a, (x w).1 = .ok a → Q a (x w).2

/-- An action that goes well does so from what its first part has found. -/
theorem ok_of_bind {x : Action σ Trouble α} {f : α → Action σ Trouble β} {w : World σ} {b : β}
    (h : ((x >>= f) w).1 = .ok b) : ∃ r, (x w).1 = .ok r ∧ (f r (x w).2).1 = .ok b ∧
      ((x >>= f) w).2 = (f r (x w).2).2 := by
  rw [Action.bind_apply] at h ⊢
  generalize x w = y at h ⊢
  obtain ⟨result, w'⟩ := y
  cases result with
  | ok r => exact ⟨r, rfl, h, rfl⟩
  | error trouble => cases h

theorem mapError_ok_iff {x : Action σ Fault α} {g : Fault → Trouble} {w : World σ} {r : α} :
    (x.mapError g w).1 = .ok r ↔ (x w).1 = .ok r := by
  rw [Action.mapError_apply]
  cases (x w).1 with
  | ok r' =>
      exact ⟨fun h => congrArg Except.ok (Except.ok.inj h),
        fun h => congrArg Except.ok (Except.ok.inj h)⟩
  | error fault =>
      constructor
      · intro h
        cases h
      · intro h
        cases h

theorem ok_bind {x : Action σ Trouble α} {f : α → Action σ Trouble β} {w : World σ} {r : α} {b : β}
    (hx : (x w).1 = .ok r) (hf : (f r (x w).2).1 = .ok b) : ((x >>= f) w).1 = .ok b := by
  rw [Action.bind_apply]
  generalize x w = y at hx hf ⊢
  obtain ⟨result, w'⟩ := y
  cases hx
  exact hf

namespace Ends

variable {x : Action σ Trouble α} {f : α → Action σ Trouble β} {w : World σ}
  {Q Q' : α → World σ → Prop} {R : β → World σ → Prop}

theorem bind (hx : Ends x w Q) (hf : ∀ a w', Q a w' → Ends (f a) w' R) : Ends (x >>= f) w R := by
  intro b h
  obtain ⟨a, ha, hb, hw⟩ := ok_of_bind h
  rw [hw]
  exact hf a _ (hx a ha) b hb

theorem imp (hx : Ends x w Q) (h : ∀ a w', Q a w' → Q' a w') : Ends x w Q' :=
  fun a ha => h a _ (hx a ha)

theorem pure {a : α} (h : Q a w) : Ends (Action.done a) w Q := fun _ ha => by
  cases ha
  exact h

theorem log (text : String) (w : World σ) :
    Ends (Action.log .debug text) w fun _ w' => w'.connection = w.connection :=
  fun _ _ => rfl

end Ends

end SessionControl.Command
