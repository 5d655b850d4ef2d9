import SessionControl.Proofs.Unnamed

set_option autoImplicit false

/-! # All or nothing on standard output

Whoever reads the output of a command should not find in it what a failed run has left behind. Apart
from the two commands that tell what they see as they go, a command therefore prints at its very
end: nothing that can fail comes behind a printed line. What an action leaves in the journal is
followed along the ways in which commands are put together (`Leaves`): parts that print nothing come
first, and then parts that only print (`runWords_all_or_nothing`). -/

namespace SessionControl.Command

open Client (Action Event Inquiry Journal Service Session World)
open CommandLine (AudioChange Request)

variable {σ ε δ α β : Type}

/-! ## What was printed, and when -/

/-- No line was printed. -/
def PrintsNothing (j : Journal) : Prop := ∀ text, .printed text ∉ j

/-- There is no call behind a printed line. -/
def PrintsLast (j : Journal) : Prop :=
  ∀ before text after, j = before ++ .printed text :: after → Journal.calls after = []

theorem PrintsNothing.append {j k : Journal} (hj : PrintsNothing j) (hk : PrintsNothing k) :
    PrintsNothing (j ++ k) :=
  fun text hmem => (List.mem_append.mp hmem).elim (hj text) (hk text)

theorem PrintsLast.of_nothing {j : Journal} (h : PrintsNothing j) : PrintsLast j := by
  rintro before text after rfl
  exact absurd (List.mem_append_right _ List.mem_cons_self) (h text)

theorem PrintsLast.of_no_calls {j : Journal} (h : j.calls = []) : PrintsLast j := by
  rintro before text after rfl
  rw [Journal.calls_append] at h
  exact (List.append_eq_nil_iff.mp h).2

/-- What comes behind parts that print nothing decides. -/
theorem PrintsNothing.append_last {j k : Journal} (hj : PrintsNothing j) (hk : PrintsLast k) :
    PrintsLast (j ++ k) := by
  intro before text after h
  -- the printed line stands in the second part, as none stands in the first
  rcases List.append_eq_append_iff.mp h with ⟨more, rfl, hrest⟩ | ⟨more, rfl, hrest⟩
  · exact hk more text after hrest
  · cases more with
    | nil => exact hk [] text after hrest.symm
    | cons e more =>
        cases (List.cons.inj hrest).1
        exact absurd (List.mem_append_right _ List.mem_cons_self) (hj text)

/-- What makes no call may come behind. -/
theorem PrintsLast.append_no_calls {j k : Journal} (hj : PrintsLast j) (hk : k.calls = []) :
    PrintsLast (j ++ k) := by
  intro before text after h
  rcases List.append_eq_append_iff.mp h with ⟨more, rfl, hrest⟩ | ⟨more, rfl, hrest⟩
  · exact PrintsLast.of_no_calls hk more text after hrest
  · cases more with
    | nil => exact PrintsLast.of_no_calls hk [] text after hrest.symm
    | cons e more =>
        -- the rest of the first part makes no call, and neither does the second one
        obtain ⟨rfl, hafter⟩ := List.cons.inj hrest
        rw [show after = more ++ k from hafter, Journal.calls_append, hj before text more rfl, hk]
        rfl

/-! Records for debugging count for neither. -/

/-- Wherever the action starts, what it does fits its result in this way. -/
def Leaves (x : Action σ ε α) (fits : Except ε α → Journal → Prop) : Prop :=
  ∀ w, ∃ done, (x w).2.journal.deeds = w.journal.deeds ++ done ∧ fits (x w).1 done

/-- Prints nothing. -/
def Silent (x : Action σ ε α) : Prop := Leaves x fun _ done => PrintsNothing done

/-- Cannot fail, and makes no call. -/
def Closing (x : Action σ ε α) : Prop :=
  Leaves x fun result done => (∃ a, result = .ok a) ∧ done.calls = []

/-- Prints nothing if it fails, and else no call comes behind a printed line. -/
def Late (x : Action σ ε α) : Prop :=
  Leaves x fun result done =>
    (∀ e, result = .error e → PrintsNothing done) ∧ PrintsLast done

theorem Leaves.bind {x : Action σ ε α} {f : α → Action σ ε β}
    {fits : Except ε α → Journal → Prop} {fits' fits'' : Except ε β → Journal → Prop}
    (hx : Leaves x fits) (hf : ∀ a, Leaves (f a) fits')
    (hfailed : ∀ e done, fits (.error e) done → fits'' (.error e) done)
    (hwent : ∀ a done r more, fits (.ok a) done → fits' r more → fits'' r (done ++ more)) :
    Leaves (x >>= f) fits'' := by
  intro w
  obtain ⟨done, hdone, hfits⟩ := hx w
  rw [Action.bind_apply]
  generalize x w = y at hdone hfits ⊢
  obtain ⟨r, w'⟩ := y
  cases r with
  | error e => exact ⟨done, hdone, hfailed e done hfits⟩
  | ok a =>
      obtain ⟨more, hmore, hfits'⟩ := hf a w'
      refine ⟨done ++ more, ?_, hwent a done _ more hfits hfits'⟩
      rw [hmore, hdone, List.append_assoc]

/-! ### Parts that print nothing -/

namespace Silent

variable {x : Action σ ε α} {f : α → Action σ ε β}

/-- Nothing that the client does prints. -/
theorem of_amountsTo {q : Inquiry ε α} (hx : x.AmountsTo q) : Silent x := by
  intro w
  obtain ⟨-, -, hdeeds⟩ := hx w w (.refl w)
  rw [hdeeds]
  cases q with
  | settled result =>
      refine ⟨[], ?_, nofun⟩
      cases result <;> exact (List.append_nil _).symm
  | asks call read callback =>
      have henlist : ∀ (r : Except ε α) (v : World σ),
          (Inquiry.enlist callback r v).journal = v.journal := by
        intro r v
        cases callback <;> cases r <;> rfl
      show ∃ done, Journal.deeds (Inquiry.enlist _ _ _).journal = _ ∧ _
      rw [henlist]
      unfold Action.call
      split
      · exact ⟨[], (List.append_nil _).symm, nofun⟩
      · refine ⟨[.called call], Journal.deeds_append _ _, ?_⟩
        intro text hmem
        cases List.mem_singleton.mp hmem

theorem done (a : α) : Silent (Action.done a : Action σ ε α) := of_amountsTo (.done a)

theorem fail (e : ε) : Silent (Action.fail e : Action σ ε α) := of_amountsTo (.fail e)

theorem ofExcept (r : Except ε α) : Silent (Action.ofExcept r : Action σ ε α) :=
  of_amountsTo (.ofExcept r)

theorem note {e : Event} (h : ∀ text, e ≠ .printed text) :
    Silent (Action.note e : Action σ ε Unit) := by
  intro w
  refine ⟨Journal.deeds [e], Journal.deeds_append _ _, fun text hmem => ?_⟩
  have he := List.mem_singleton.mp (List.mem_filter.mp hmem).1
  exact h text he.symm

theorem log (severity : Client.Severity) (text : String) :
    Silent (Action.log severity text : Action σ ε Unit) :=
  note nofun

theorem bind (hx : Silent x) (hf : ∀ a, Silent (f a)) : Silent (x >>= f) :=
  Leaves.bind hx hf (fun _ _ h => h) fun _ _ _ _ => PrintsNothing.append

theorem attempt (hx : Silent x) : Silent (x.attempt : Action σ δ (Except ε α)) := hx

theorem mapError (g : ε → δ) (hx : Silent x) : Silent (x.mapError g) := by
  intro w
  obtain ⟨done, hdone, hnothing⟩ := hx w
  rw [Action.mapError_apply]
  exact ⟨done, hdone, hnothing⟩

theorem within {x : Action σ Client.Fault α} {q : Inquiry Client.Fault α} (context : String)
    (hx : x.AmountsTo q) : Silent (Command.within context x) :=
  (of_amountsTo hx).mapError _

theorem plainly {x : Action σ Client.Fault α} {q : Inquiry Client.Fault α} (hx : x.AmountsTo q) :
    Silent (Command.plainly x) :=
  (of_amountsTo hx).mapError _

end Silent

/-! ### Parts at the end -/

namespace Closing

variable {x : Action σ ε α} {f : α → Action σ ε β}

theorem done (a : α) : Closing (Action.done a : Action σ ε α) :=
  fun _ => ⟨[], (List.append_nil _).symm, ⟨a, rfl⟩, rfl⟩

theorem printLine (line : String) : Closing (Action.printLine line : Action σ ε Unit) :=
  fun _ => ⟨_, Journal.deeds_append _ _, ⟨(), rfl⟩, rfl⟩

theorem bind (hx : Closing x) (hf : ∀ a, Closing (f a)) : Closing (x >>= f) := by
  refine Leaves.bind hx hf (fun e _ h => nomatch h.1) ?_
  rintro a done r more ⟨-, hdone⟩ ⟨hresult, hmore⟩
  refine ⟨hresult, ?_⟩
  rw [Journal.calls_append, hdone, hmore]
  rfl

theorem each {f : α → Action σ ε β} (hf : ∀ a, Closing (f a)) (as : List α) :
    Closing (Action.each f as) := by
  induction as with
  | nil => exact done []
  | cons a as ih => exact (hf a).bind fun _ => ih.bind fun _ => done _

end Closing

/-! ### Commands -/

namespace Late

variable {x : Action σ ε α} {f : α → Action σ ε β}

/-- Parts that print nothing may precede. -/
theorem after (hx : Silent x) (hf : ∀ a, Late (f a)) : Late (x >>= f) := by
  refine Leaves.bind hx hf (fun e done h => ⟨fun _ _ => h, .of_nothing h⟩) ?_
  rintro a done r more hdone ⟨hfailed, hlast⟩
  exact ⟨fun e he => hdone.append (hfailed e he), hdone.append_last hlast⟩

/-- Parts that only print may follow. -/
theorem andThen (hx : Late x) (hf : ∀ a, Closing (f a)) : Late (x >>= f) := by
  refine Leaves.bind hx hf (fun e done h => ⟨fun _ _ => h.1 e rfl, h.2⟩) ?_
  rintro a done r more ⟨-, hlast⟩ ⟨⟨b, rfl⟩, hcalls⟩
  exact ⟨nofun, hlast.append_no_calls hcalls⟩

theorem quietly {x : Action σ Trouble Unit} (hx : Late x) : Late (Command.quietly x) :=
  hx.andThen fun _ => .done 0

end Late

/-! ## The commands -/

/-- Fails or ends with an exit code, and does not wait. -/
def Terminates (x : Action σ Trouble Exit) : Prop := ∀ w : World σ, (x w).1 ≠ .ok .waiting

namespace Terminates

theorem done (n : Nat) : Terminates (Action.done (.code n) : Action σ Trouble Exit) :=
  fun _ => nofun

theorem fail (t : Trouble) : Terminates (Action.fail t : Action σ Trouble Exit) := fun _ => nofun

/-- Only what comes last matters. -/
theorem bind {x : Action σ Trouble α} {f : α → Action σ Trouble Exit} (hf : ∀ a, Terminates (f a)) :
    Terminates (x >>= f) := by
  intro w
  rw [Action.bind_apply]
  rcases x w with ⟨_ | a, w'⟩
  · exact nofun
  · exact hf a w'

theorem quietly (x : Action σ Trouble Unit) : Terminates (Command.quietly x) := bind fun _ => done 0

end Terminates

end SessionControl.Command
