import SessionControl.Command.Run
import SessionControl.Proofs.Operations

set_option autoImplicit false

/-! # The lifetime of an inhibitor

An inhibitor that is added for the time of a program must go when the program has ended, however it
ended, and also when it could not even be started. `Lifetime` lists the courses that adding an
inhibitor from the command line can take, each with everything that is done on it and with its
result; `perform_inhibit` says that there are no others. -/

namespace SessionControl.Command

open Client (Action Inquiry InhibitorId Journal Service Session World)

variable {σ ε α : Type}

/-! ## One call -/

/-- A call that meets an open connection is noted, and its result is the reading of the answer. -/
theorem exchange_of_amountsTo {x : Action σ ε α} {call : Bus.Call}
    {read : Except Bus.Failure Bus.Body → Except ε α} (hx : x.AmountsTo (.asks call read))
    {w : World σ} (hopen : w.connection.phase ≠ .closed) :
    (x w).1 = read (w.connection.exchange call).1 ∧
      (x w).2.connection = (w.connection.exchange call).2 ∧
      (x w).2.journal.deeds = w.journal.deeds ++ [.called call] := by
  obtain ⟨hresult, hconnection, hdeeds⟩ := hx w w (.refl w)
  simp only [Inquiry.run, Inquiry.enlist, Action.call_of_open call hopen]
    at hresult hconnection hdeeds
  refine ⟨hresult, hconnection, ?_⟩
  simp [hdeeds]

/-- Whoever gets an answer has not lost the connection on the way. -/
theorem open_of_answered {c : Bus.Connection σ} {call : Bus.Call} {body : Bus.Body}
    (hopen : c.phase ≠ .closed) (h : (c.exchange call).1 = .ok body) :
    (c.exchange call).2.phase ≠ .closed := by
  simp only [Bus.Connection.exchange] at h ⊢
  revert h
  unfold Bus.Connection.phaseAfter
  cases (c.peer.reply c.state call).1.answer with
  | dropped =>
      intro h
      simp [Bus.Connection.outcome] at h
  | returned body | refused failure | silence =>
      intro _
      show (if _ then _ else _) ≠ _
      split
      · decide
      · exact hopen

/-! ## Courses -/

/-- A call of a method of the session. -/
def sessionCall (member : String) (args : Bus.Body) : Bus.Call :=
  { destination := "org.sessiond.session1"
    path := "/org/sessiond/session1"
    interface := "org.sessiond.session1.Session"
    member, args }

/-- The call that adds an inhibitor. -/
def addCall (who why : String) : Bus.Call := sessionCall "Inhibit" [.string who, .string why]

/-- The call that removes an inhibitor. -/
def removeCall (id : String) : Bus.Call := sessionCall "Uninhibit" [.string id]

theorem methodCall_session (timeout : Nat) (member : String) (args : Bus.Body) :
    (Session.ofTimeout timeout).handle.methodCall member args = sessionCall member args := by
  have hinterface : Client.Handle.interfaceName "Session" = "org.sessiond.session1.Session" := by
    decide
  simp only [Client.Handle.methodCall, Session.ofTimeout, sessionCall, hinterface]
  rfl

/-- The identifier of an added inhibitor: the answer has to start with a text. -/
def identifierOf : Except Bus.Failure Bus.Body → Except Bus.Failure String
  | .error failure => .error failure
  | .ok [] => .error (.mismatch 0 .string .nothing)
  | .ok (.string id :: _) => .ok id
  | .ok (w :: _) => .error (.mismatch 0 .string w.kind)

/-- What can become of an inhibitor that is added over a connection, for the time of a program if
    there are words: everything that is done, and the result. -/
inductive Lifetime (env : Environment) (c : Bus.Connection σ) (who why : String) :
    List String → Journal → Except Trouble Exit → Prop
  /-- It is not added, and nothing else is done. -/
  | refused (words : List String) (failure : Bus.Failure)
      (added : identifierOf (c.exchange (addCall who why)).1 = .error failure) :
      Lifetime env c who why words
        [.called (addCall who why)]
        (.error { contexts := ["Could not add inhibitor"], cause := .fault (.callFailed failure) })
  /-- There is no program, so it stays. -/
  | kept (id : String) (added : identifierOf (c.exchange (addCall who why)).1 = .ok id) :
      Lifetime env c who why []
        [.called (addCall who why), .printed (id ++ "\n")]
        (.ok 0)
  /-- The program cannot be started, which counts for more than a removal that fails. -/
  | notStarted (id program : String) (arguments : List String) (fault : SystemFault)
      (added : identifierOf (c.exchange (addCall who why)).1 = .ok id)
      (run : env.runProgram (program :: arguments) = .notStarted fault) :
      Lifetime env c who why (program :: arguments)
        [.called (addCall who why), .called (removeCall id)]
        (.error { contexts := ["Could not run " ++ program], cause := .system fault })
  /-- The program ran, but removing fails, which counts for more than how the program ended. -/
  | stuck (id program : String) (arguments : List String) (output complaints : String)
      (ending : Ending) (failure : Bus.Failure)
      (added : identifierOf (c.exchange (addCall who why)).1 = .ok id)
      (run : env.runProgram (program :: arguments) = .ended output complaints ending)
      (removed : ((c.exchange (addCall who why)).2.exchange (removeCall id)).1 = .error failure) :
      Lifetime env c who why (program :: arguments)
        [.called (addCall who why), .ran (program :: arguments) output complaints,
         .called (removeCall id)]
        (.error { contexts := ["Could not remove inhibitor " ++ id]
                  cause := .fault (.callFailed failure) })
  /-- The program exits and the inhibitor is removed. -/
  | exited (id program : String) (arguments : List String) (output complaints : String)
      (code : Nat) (body : Bus.Body)
      (added : identifierOf (c.exchange (addCall who why)).1 = .ok id)
      (run : env.runProgram (program :: arguments) = .ended output complaints (.exited code))
      (removed : ((c.exchange (addCall who why)).2.exchange (removeCall id)).1 = .ok body) :
      Lifetime env c who why (program :: arguments)
        [.called (addCall who why), .ran (program :: arguments) output complaints,
         .called (removeCall id)]
        (.ok (.code code))
  /-- The program is killed and the inhibitor is removed. -/
  | killed (id program : String) (arguments : List String) (output complaints : String)
      (body : Bus.Body)
      (added : identifierOf (c.exchange (addCall who why)).1 = .ok id)
      (run : env.runProgram (program :: arguments) = .ended output complaints .killed)
      (removed : ((c.exchange (addCall who why)).2.exchange (removeCall id)).1 = .ok body) :
      Lifetime env c who why (program :: arguments)
        [.called (addCall who why), .ran (program :: arguments) output complaints,
         .called (removeCall id), .logged .warn (program ++ " was terminated by a signal")]
        (.ok 1)

/-- On every course an inhibitor that was added for a program is removed exactly once, by the
    identifier that it came with, and no other call is made. -/
theorem Lifetime.calls {env : Environment} {c : Bus.Connection σ} {who why : String}
    {words : List String} {done : Journal} {result : Except Trouble Exit}
    (h : Lifetime env c who why words done result) :
    done.calls = addCall who why ::
      match identifierOf (c.exchange (addCall who why)).1, words with
      | .ok id, _ :: _ => [removeCall id]
      | _, _ => [] := by
  cases h with
  | refused words failure added => rw [added]; rfl
  | kept id added => rw [added]; rfl
  | notStarted id program arguments fault added run => rw [added]; rfl
  | stuck id program arguments output complaints ending failure added run removed =>
      rw [added]; rfl
  | exited id program arguments output complaints code body added run removed =>
      rw [added]; rfl
  | killed id program arguments output complaints body added run removed => rw [added]; rfl

/-! ## Adding and removing -/

/-- A failed call, as the tool tells it. -/
def callTrouble (context : String) (failure : Bus.Failure) : Trouble :=
  { contexts := [context], cause := .fault (.callFailed failure) }

theorem firstOf_string (r : Except Bus.Failure Bus.Body) :
    Client.Handle.firstOf .string r = (identifierOf r).mapError .callFailed := by
  rcases r with failure | (_ | ⟨w, body⟩)
  · rfl
  · rfl
  · cases w <;> rfl

/-- Adding reads the identifier of the inhibitor from the answer. -/
theorem within_inhibit (timeout : Nat) (who why : String) {w : World σ}
    (hopen : w.connection.phase ≠ .closed) :
    let x : Action σ Trouble InhibitorId :=
      within "Could not add inhibitor" ((Session.ofTimeout timeout).inhibit who why)
    (x w).1 = ((identifierOf (w.connection.exchange (addCall who why)).1).mapError
        (callTrouble "Could not add inhibitor")).map InhibitorId.mk ∧
      (x w).2.connection = (w.connection.exchange (addCall who why)).2 ∧
      (x w).2.journal.deeds = w.journal.deeds ++ [.called (addCall who why)] := by
  have hx := (Session.inhibit_amountsTo (σ := σ) (.ofTimeout timeout) who why).mapError
    fun f => ({ contexts := ["Could not add inhibitor"], cause := .fault f } : Trouble)
  rw [Client.Handle.requestInquiry, methodCall_session, ← addCall] at hx
  obtain ⟨hresult, hw⟩ := exchange_of_amountsTo hx hopen
  refine ⟨hresult.trans ?_, hw⟩
  simp only [firstOf_string]
  cases identifierOf (w.connection.exchange (addCall who why)).1 <;> rfl

theorem answered_of_identifier {r : Except Bus.Failure Bus.Body} {id : String}
    (h : identifierOf r = .ok id) : ∃ body, r = .ok body := by
  cases r with
  | error failure => cases h
  | ok body => exact ⟨body, rfl⟩

/-- Removing takes whatever is returned. -/
theorem within_uninhibit (timeout : Nat) (context id : String) {w : World σ}
    (hopen : w.connection.phase ≠ .closed) :
    let x : Action σ Trouble Unit :=
      within context ((Session.ofTimeout timeout).uninhibit ⟨id⟩)
    (x w).1 = ((w.connection.exchange (removeCall id)).1.mapError (callTrouble context)).map
        (fun _ => ()) ∧
      (x w).2.connection = (w.connection.exchange (removeCall id)).2 ∧
      (x w).2.journal.deeds = w.journal.deeds ++ [.called (removeCall id)] := by
  have hx := (Session.uninhibit_amountsTo (σ := σ) (.ofTimeout timeout) ⟨id⟩).mapError
    fun f => ({ contexts := [context], cause := .fault f } : Trouble)
  rw [Client.Handle.commandInquiry, methodCall_session, ← removeCall] at hx
  obtain ⟨hresult, hw⟩ := exchange_of_amountsTo hx hopen
  refine ⟨hresult.trans ?_, hw⟩
  cases (w.connection.exchange (removeCall id)).1 <;> rfl

/-! ## The whole course -/

/-- What a program leaves among the deeds. -/
def runDeeds (words : List String) : ProgramRun → Journal
  | .notStarted _ => []
  | .ended output complaints _ => [.ran words output complaints]

@[simp, grind =] theorem deeds_runDeeds (words : List String) (run : ProgramRun) :
    (runDeeds words run).deeds = runDeeds words run := by
  cases run <;> rfl

@[simp, grind =] theorem noteRun_apply (words : List String) (run : ProgramRun) (w : World σ) :
    noteRun words run w = (.ok (), { w with journal := w.journal ++ runDeeds words run }) := by
  cases run with
  | notStarted fault => exact congrArg (Prod.mk _) (by rw [runDeeds, List.append_nil])
  | ended output complaints ending => rfl

/-- With an inhibitor added, only the ways in which it is removed again are left. -/
theorem hold_lifetime (env : Environment) (timeout : Nat) {c : Bus.Connection σ}
    {who why id : String} (program : String) (arguments : List String)
    (added : identifierOf (c.exchange (addCall who why)).1 = .ok id) {w : World σ}
    (hconnection : w.connection = (c.exchange (addCall who why)).2)
    (hopen : w.connection.phase ≠ .closed) :
    let x := hold env (.ofTimeout timeout) ⟨id⟩ program (program :: arguments) w
    ∃ done, x.2.journal.deeds = w.journal.deeds ++ done ∧
      Lifetime env c who why (program :: arguments) (.called (addCall who why) :: done) x.1 := by
  unfold hold
  simp only [Action.bind_apply, noteRun_apply, Action.log_apply, Action.attempt_apply]
  generalize hrun : env.runProgram (program :: arguments) = run
  -- the removal goes out whatever became of the program
  obtain ⟨hremove, -, hdeeds⟩ :=
    within_uninhibit timeout ("Could not remove inhibitor " ++ id) id (w := { w with
      journal := w.journal ++ [.logged .debug ("Running " ++
        Text.quoteList (program :: arguments) ++ " with inhibitor " ++ id)] ++
          runDeeds (program :: arguments) run }) hopen
  generalize within ("Could not remove inhibitor " ++ id) _ _ = y at hremove hdeeds ⊢
  obtain ⟨released, w'⟩ := y
  replace hdeeds : w'.journal.deeds = w.journal.deeds ++
      (runDeeds (program :: arguments) run ++ [.called (removeCall id)]) := by
    rw [hdeeds, Journal.deeds_append, Journal.deeds_append, deeds_runDeeds, ← List.append_assoc]
    exact congrArg (· ++ _ ++ _) (List.append_nil _)
  simp only [hconnection] at hremove
  cases run with
  | notStarted fault =>
      exact ⟨[_], hdeeds, .notStarted id program arguments fault added hrun⟩
  | ended output complaints ending =>
      cases hanswer : ((c.exchange (addCall who why)).2.exchange (removeCall id)).1 with
      | error failure =>
          rw [hanswer] at hremove
          cases (show released = .error (callTrouble _ failure) from hremove)
          exact ⟨[_, _], hdeeds, .stuck id program arguments output complaints ending failure
            added hrun hanswer⟩
      | ok body =>
          rw [hanswer] at hremove
          cases (show released = .ok () from hremove)
          cases ending with
          | exited code =>
              exact ⟨[_, _], hdeeds, .exited id program arguments output complaints code body
                added hrun hanswer⟩
          | killed =>
              refine ⟨[_, _, _], ?_, .killed id program arguments output complaints body added
                hrun hanswer⟩
              show Journal.deeds (w'.journal ++ _) = _
              rw [Journal.deeds_append, hdeeds, List.append_assoc]
              rfl

theorem inhibit_lifetime (env : Environment) (timeout : Nat) (who : String) (why : Option String)
    (words : List String) {w : World σ} (hopen : w.connection.phase ≠ .closed) :
    let x := inhibit env (.ofTimeout timeout) who why words w
    ∃ done, x.2.journal.deeds = w.journal.deeds ++ done ∧
      Lifetime env w.connection who (why.getD (" ".intercalate words)) words done x.1 := by
  unfold inhibit
  rw [Action.bind_apply]
  generalize why.getD (" ".intercalate words) = why
  obtain ⟨hadd, hconnection, hdeeds⟩ := within_inhibit timeout who why hopen
  generalize within "Could not add inhibitor" _ w = y at hadd hconnection hdeeds ⊢
  obtain ⟨r, w'⟩ := y
  cases added : identifierOf (w.connection.exchange (addCall who why)).1 with
  | error failure =>
      rw [added] at hadd
      cases (show r = .error (callTrouble _ failure) from hadd)
      exact ⟨_, hdeeds, .refused words failure added⟩
  | ok id =>
      rw [added] at hadd
      cases (show r = .ok ⟨id⟩ from hadd)
      cases words with
      | nil =>
          refine ⟨[_, _], ?_, .kept id added⟩
          show Journal.deeds (w'.journal ++ _) = _
          rw [Journal.deeds_append, hdeeds, List.append_assoc]
          rfl
      | cons program arguments =>
          have hopen' : w'.connection.phase ≠ .closed := by
            obtain ⟨body, hbody⟩ := answered_of_identifier added
            exact hconnection ▸ open_of_answered hopen hbody
          obtain ⟨done, hdone, hlifetime⟩ :=
            hold_lifetime env timeout program arguments added hconnection hopen'
          refine ⟨_, ?_, hlifetime⟩
          rw [hdone, hdeeds, List.append_assoc]
          rfl

/-- Whatever the peer answers and however the program ends, adding an inhibitor from the command
    line takes one of the courses: once its identifier is known, an inhibitor that was added for a
    program is removed exactly once. -/
theorem perform_inhibit (env : Environment) (settings : Settings) (service : Service)
    (who why : Option String) (words : List String) {w : World σ}
    (hopen : w.connection.phase ≠ .closed) :
    let x := perform env settings service (.inhibit who why words) w
    ∃ done, x.2.journal.deeds = w.journal.deeds ++ done ∧
      Lifetime env w.connection (who.getD settings.who) (why.getD (" ".intercalate words)) words
        done x.1 := by
  obtain ⟨hsession, hw⟩ := service.session_amountsTo (ε := Trouble) w w (.refl w)
  simp only [perform, Action.bind_apply]
  generalize service.session w = y at hsession hw ⊢
  obtain ⟨r, w'⟩ := y
  cases (show r = .ok _ from hsession)
  have hconnection : w'.connection = w.connection := hw.connection
  have hdeeds : w'.journal.deeds = w.journal.deeds := hw.deeds
  obtain ⟨done, hdone, hlifetime⟩ := inhibit_lifetime env service.timeout
    (who.getD settings.who) why words (hconnection ▸ hopen)
  exact ⟨done, hdeeds ▸ hdone, hconnection ▸ hlifetime⟩

/-- A killed program whose inhibitor cannot be removed: what is told is the failure to remove it. -/
theorem perform_inhibit_killed_stuck :
    let env : Environment :=
      { readText := fun _ => .error .notText
        hasPath := fun _ => false
        usualSettings := none
        runProgram := fun _ => .ended "" "" .killed
        rejection := none }
    let w : World (List Bus.Reply) :=
      { connection := .fresh (.scripted .noReply)
          [{ answer := .returned [.string "7"] }, { answer := .refused .noReply }] }
    let x := perform env {} {} (.inhibit none none ["sleep", "1"]) w
    w.connection.phase ≠ .closed ∧
      x.1 = .error (callTrouble "Could not remove inhibitor 7" .noReply) ∧
      ∃ done, x.2.journal.deeds = w.journal.deeds ++ done ∧
        Lifetime env w.connection "sessionctl" "sleep 1" ["sleep", "1"] done x.1 :=
  ⟨by decide, by rfl, perform_inhibit _ {} {} none none ["sleep", "1"] (by decide)⟩

end SessionControl.Command
