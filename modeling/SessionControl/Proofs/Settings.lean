import SessionControl.Proofs.Inquiry
import SessionControl.Settings.Loading

set_option autoImplicit false

/-! # What settings are loaded

A settings file is a table, and each setting is taken from it on its own: a table is `Suitable` if
it gives none of them twice and all of them in their types, whatever else it holds, and the settings
that come of it (`Reflects`) are what it gives, and the defaults where it gives nothing. Which file
is looked into, and what becomes of one that cannot be used, is said by `Loaded`, for any way to
read a table from a text. The tables that are read here hold no integers beyond 64 bits
(`Document.inRange_table?`), so none is lost on the way into a setting. -/

namespace SessionControl.Toml

/-! ## Integers of a table -/

/-- An integer among the values fits 64 bits with a sign. -/
def Value.InRange : Value → Prop
  | .integer i => Int64.minValue.toInt ≤ i ∧ i ≤ Int64.maxValue.toInt
  | _ => True

/-- All integers of a table fit 64 bits with a sign. What is inside its values does not count. -/
def Table.InRange (t : Table) : Prop := ∀ e ∈ t, e.2.InRange

theorem inRange?_eq_some {i j : Int} (h : inRange? i = some j) : Value.InRange (.integer j) := by
  unfold inRange? at h
  split at h
  · next hrange =>
      cases h
      exact hrange
  · cases h

theorem basedInteger?_inRange {base : Nat} {cs : List Char} {i : Int}
    (h : basedInteger? base cs = some i) : Value.InRange (.integer i) := by
  unfold basedInteger? at h
  split at h
  · exact inRange?_eq_some h
  · cases h

theorem integer?_inRange {cs : List Char} {i : Int} (h : integer? cs = some i) :
    Value.InRange (.integer i) := by
  unfold integer? at h
  split at h
  · exact inRange?_eq_some h
  · cases h

/-- If a value is read, it is in range. -/
def ReadsInRange (read : Option (Value × List Token)) : Prop := ∀ r ∈ read, r.1.InRange

theorem ReadsInRange.none : ReadsInRange none := nofun

theorem ReadsInRange.some (ts : List Token) {v : Value} (hv : v.InRange) :
    ReadsInRange (some (v, ts)) := by
  rintro r ⟨⟩
  exact hv

theorem ReadsInRange.ite {c : Prop} [Decidable c] {read read' : Option (Value × List Token)}
    (h : ReadsInRange read) (h' : ReadsInRange read') : ReadsInRange (if c then read else read') := by
  split
  · exact h
  · exact h'

theorem ReadsInRange.map {α : Type} {read : Option α} {f : α → Value × List Token}
    (hf : ∀ a ∈ read, (f a).1.InRange) : ReadsInRange (read.map f) := by
  intro r hr
  obtain ⟨a, ha, rfl⟩ := Option.map_eq_some_iff.mp hr
  exact hf a ha

theorem ReadsInRange.bind {α : Type} {read : Option α} {f : α → Option (Value × List Token)}
    (hf : ∀ a ∈ read, ReadsInRange (f a)) : ReadsInRange (read >>= f) := by
  intro r hr
  obtain ⟨a, ha, hfa⟩ := Option.bind_eq_some_iff.mp hr
  exact hf a ha r hfa

theorem number?_inRange (s : List Char) (ts : List Token) : ReadsInRange (number? s ts) := by
  unfold number?
  split
  · exact .map fun _ => basedInteger?_inRange
  · exact .map fun _ => basedInteger?_inRange
  · exact .map fun _ => basedInteger?_inRange
  · split
    · exact .map fun _ _ => trivial
    · split
      · exact .map fun _ _ => trivial
      · exact .none
      · refine .ite (.some ts trivial) (.ite (.some ts trivial) (.ite (.some ts trivial)
          (.ite (.some ts trivial) (.map fun _ => integer?_inRange))))

theorem numberOrDate?_inRange (s : List Char) (ts : List Token) :
    ReadsInRange (numberOrDate? s ts) := by
  unfold numberOrDate?
  split
  · exact .map fun _ _ => trivial
  · split
    · exact .map fun _ _ => trivial
    · exact number?_inRange s ts

theorem bareValue?_inRange (s : List Char) (ts : List Token) : ReadsInRange (bareValue? s ts) := by
  unfold bareValue?
  refine .ite (.some ts trivial) (.ite (.some ts trivial) (.ite (numberOrDate?_inRange s ts) ?_))
  split
  · exact .ite (numberOrDate?_inRange _ ts) .none
  · exact .none

/-- Arrays and tables are not looked into, so this needs no induction. -/
theorem value?_inRange (fuel : Nat) (ts : List Token) : ReadsInRange (value? fuel ts) := by
  cases fuel with
  | zero => exact .none
  | succ fuel =>
      unfold value?
      split
      · exact .some _ trivial
      · exact bareValue?_inRange _ _
      · exact number?_inRange _ _
      · exact .bind fun _ _ => .some _ trivial
      · split
        · exact .some _ trivial
        · exact .bind fun _ _ => .some _ trivial
      · exact .none

/-! ## Lines and tables -/

/-- The line holds no integer beyond 64 bits. -/
def Line.InRange : Line → Prop
  | .header _ _ => True
  | .entry _ v => v.InRange

/-- A header has a path and no value. -/
theorem header?_inRange {ts rest : List Token} {line : Line}
    (h : header? ts = some (line, rest)) : line.InRange := by
  cases line with
  | header path isArray => trivial
  | entry name v =>
      exfalso
      unfold header? at h
      obtain ⟨⟨path, ts₁⟩, -, h⟩ := Option.bind_eq_some_iff.mp h
      dsimp only at h
      split at h
      · obtain ⟨ts₂, -, h⟩ := Option.bind_eq_some_iff.mp h
        obtain ⟨ts₃, -, h⟩ := Option.bind_eq_some_iff.mp h
        cases h
      · obtain ⟨ts₂, -, h⟩ := Option.bind_eq_some_iff.mp h
        obtain ⟨ts₃, -, h⟩ := Option.bind_eq_some_iff.mp h
        cases h
      · cases h

theorem entry?_inRange {ts rest : List Token} {line : Line}
    (h : entry? ts = some (line, rest)) : line.InRange := by
  unfold entry? at h
  obtain ⟨⟨name, ts₁⟩, -, h⟩ := Option.bind_eq_some_iff.mp h
  dsimp only at h
  split at h
  · obtain ⟨⟨v, ts₂⟩, hv, h⟩ := Option.bind_eq_some_iff.mp h
    obtain ⟨ts₃, -, h⟩ := Option.bind_eq_some_iff.mp h
    cases h
    exact value?_inRange _ _ _ hv
  · cases h

theorem lines?_inRange {fuel : Nat} {ts : List Token} {lines : List Line}
    (h : lines? fuel ts = some lines) : ∀ line ∈ lines, line.InRange := by
  induction fuel generalizing ts lines with
  | zero => cases h
  | succ fuel ih =>
      unfold lines? at h
      split at h
      · cases h
        exact nofun
      · exact ih h
      · cases h
        exact nofun
      · exact ih h
      · obtain ⟨⟨line, ts₁⟩, hline, h⟩ := Option.bind_eq_some_iff.mp h
        obtain ⟨rest, hrest, h⟩ := Option.bind_eq_some_iff.mp h
        cases h
        exact List.forall_mem_cons.mpr ⟨header?_inRange hline, ih hrest⟩
      · obtain ⟨⟨line, ts₁⟩, hline, h⟩ := Option.bind_eq_some_iff.mp h
        obtain ⟨rest, hrest, h⟩ := Option.bind_eq_some_iff.mp h
        cases h
        exact List.forall_mem_cons.mpr ⟨entry?_inRange hline, ih hrest⟩

/-- What a name with dots adds to is a table, whose integers do not count. -/
theorem Table.addWithin?_inRange {part : String} {rest : List String} {v : Value} {t t' : Table}
    (h : Table.addWithin? part rest v t = some t') (ht : t.InRange) : t'.InRange := by
  induction t generalizing t' with
  | nil =>
      unfold Table.addWithin? at h
      obtain ⟨inner, -, rfl⟩ := Option.map_eq_some_iff.mp h
      exact List.forall_mem_singleton.mpr trivial
  | cons e t ih =>
      obtain ⟨he, ht⟩ := List.forall_mem_cons.mp ht
      unfold Table.addWithin? at h
      split at h
      · split at h
        · obtain ⟨inner, -, rfl⟩ := Option.map_eq_some_iff.mp h
          exact List.forall_mem_cons.mpr ⟨trivial, ht⟩
        · cases h
      · obtain ⟨t₁, ht₁, rfl⟩ := Option.map_eq_some_iff.mp h
        exact List.forall_mem_cons.mpr ⟨he, ih ht₁ ht⟩

theorem Table.add?_inRange {name : List String} {v : Value} {t t' : Table}
    (h : t.add? name v = some t') (ht : t.InRange) (hv : v.InRange) : t'.InRange := by
  unfold Table.add? at h
  split at h
  · cases h
  · cases h
    exact List.forall_mem_append.mpr ⟨ht, List.forall_mem_singleton.mpr hv⟩
  · exact Table.addWithin?_inRange h ht

namespace Document

theorem fill?_inRange {lines rest : List Line} {t t' : Table} (h : fill? t lines = some (t', rest))
    (ht : t.InRange) (hlines : ∀ line ∈ lines, line.InRange) : t'.InRange := by
  induction lines generalizing t with
  | nil =>
      cases h
      exact ht
  | cons line lines ih =>
      obtain ⟨hline, hrest⟩ := List.forall_mem_cons.mp hlines
      cases line with
      | header path isArray =>
          cases h
          exact ht
      | entry name v =>
          obtain ⟨t₁, ht₁, h⟩ := Option.bind_eq_some_iff.mp h
          exact ih h (Table.add?_inRange ht₁ ht hline) hrest

/-- The table of a settings file, if its text has one. -/
def table? (text : String) : Option Table := (read? text).map table

/-- The tables that are read hold no integer beyond 64 bits. -/
theorem inRange_table? {text : String} {t : Table} (h : table? text = some t) : t.InRange := by
  obtain ⟨d, hd, rfl⟩ := Option.map_eq_some_iff.mp h
  obtain ⟨ts, -, hd⟩ := Option.bind_eq_some_iff.mp hd
  obtain ⟨lines, hlines, hd⟩ := Option.bind_eq_some_iff.mp hd
  obtain ⟨⟨root, rest⟩, hroot, hd⟩ := Option.bind_eq_some_iff.mp hd
  obtain ⟨sections, -, hd⟩ := Option.bind_eq_some_iff.mp hd
  cases hd
  refine List.forall_mem_append.mpr ⟨fill?_inRange hroot nofun (lines?_inRange hlines), ?_⟩
  -- a section stands in the table as a table of its own
  intro e he
  obtain ⟨s, -, rfl⟩ := List.mem_map.mp he
  trivial

end Document
end SessionControl.Toml

namespace SessionControl.Settings

open Client (Action)
open Command (Environment TextFault Trouble)

/-! ## What a table gives -/

/-- What a table gives under a name of its own. -/
def values (t : Toml.Table) (name : String) : List Toml.Value :=
  (t.filter fun e => e.1 = name).map Prod.snd

theorem mem_values {t : Toml.Table} {name : String} {v : Toml.Value} :
    v ∈ values t name ↔ (name, v) ∈ t := by
  unfold values
  constructor
  · intro h
    obtain ⟨e, he, rfl⟩ := List.mem_map.mp h
    obtain ⟨he, hkey⟩ := List.mem_filter.mp he
    rw [← of_decide_eq_true hkey]
    exact he
  · intro h
    exact List.mem_map_of_mem (List.mem_filter.mpr ⟨h, decide_eq_true rfl⟩)

section Given

variable {α : Type} {take? : Toml.Value → Option α} {name : String} {t : Toml.Table}

theorem given_eq (take? : Toml.Value → Option α) (name : String) (t : Toml.Table) :
    given take? name t = match values t name with
      | [] => some none
      | [v] => (take? v).map some
      | _ => none := by
  unfold given values
  generalize (t.filter fun e => e.1 = name) = entries
  rcases entries with _ | ⟨e, _ | ⟨e', rest⟩⟩ <;> rfl

/-- A setting is refused if it is given twice, or given what it cannot be. -/
theorem exists_given_iff : (∃ g, given take? name t = some g) ↔
    (values t name).length ≤ 1 ∧ ∀ v, (name, v) ∈ t → (take? v).isSome := by
  rw [given_eq]
  simp only [← mem_values]
  rcases values t name with _ | ⟨v, _ | ⟨v', rest⟩⟩
  · simp
  · simp only [Option.map_eq_some_iff, List.length_singleton, Nat.le_refl,
      List.mem_singleton, forall_eq, true_and, Option.isSome_iff_exists]
    constructor
    · rintro ⟨g, a, ha, -⟩
      exact ⟨a, ha⟩
    · rintro ⟨a, ha⟩
      exact ⟨some a, a, ha, rfl⟩
  · simp

theorem given_of_mem {g : Option α} {v : Toml.Value} (h : given take? name t = some g)
    (hv : (name, v) ∈ t) : take? v = g := by
  rw [given_eq] at h
  rw [← mem_values] at hv
  split at h
  · next hnone =>
      rw [hnone] at hv
      cases hv
  · next v' hone =>
      rw [hone] at hv
      cases List.mem_singleton.mp hv
      obtain ⟨a, ha, rfl⟩ := Option.map_eq_some_iff.mp h
      exact ha
  · cases h

theorem given_of_absent {g : Option α} (h : given take? name t = some g)
    (habsent : ∀ v, (name, v) ∉ t) : g = none := by
  have hnone : values t name = [] :=
    List.eq_nil_iff_forall_not_mem.mpr fun v hv => habsent v (mem_values.mp hv)
  rw [given_eq, hnone] at h
  cases h
  rfl

end Given

theorem takeCount?_isSome_iff (v : Toml.Value) :
    (takeCount? v).isSome ↔ ∃ n : Nat, v = .integer n := by
  constructor
  · intro h
    unfold takeCount? at h
    split at h
    · next n => exact ⟨n, rfl⟩
    · cases h
  · rintro ⟨n, rfl⟩
    rfl

theorem takeText?_isSome_iff (v : Toml.Value) :
    (takeText? v).isSome ↔ ∃ text, v = .text text := by
  constructor
  · intro h
    unfold takeText? at h
    split at h
    · next text => exact ⟨text, rfl⟩
    · cases h
  · rintro ⟨text, rfl⟩
    rfl

/-! ## The settings of a table -/

/-- The names of the settings. -/
def names : List String := ["timeout_ms", "backlight", "audiosink", "who"]

/-- The settings that the table gives are given once and are of their types. What else the table
    gives does not matter. -/
structure Suitable (t : Toml.Table) : Prop where
  once : ∀ name ∈ names, (values t name).length ≤ 1
  timeout : ∀ v, ("timeout_ms", v) ∈ t → ∃ n : Nat, v = .integer n
  backlight : ∀ v, ("backlight", v) ∈ t → ∃ text, v = .text text
  audioSink : ∀ v, ("audiosink", v) ∈ t → ∃ text, v = .text text
  who : ∀ v, ("who", v) ∈ t → ∃ text, v = .text text

/-- Each setting is what the table gives for it, and its default if it gives nothing, whatever the
    table gives for the others. -/
structure Reflects (t : Toml.Table) (s : Settings) : Prop where
  timeout (n : Nat) : ("timeout_ms", .integer n) ∈ t → s.timeout.toNat = n
  timeout_default : (∀ v, ("timeout_ms", v) ∉ t) → s.timeout = 25000
  backlight (text : String) : ("backlight", .text text) ∈ t → s.backlight = some text
  backlight_default : (∀ v, ("backlight", v) ∉ t) → s.backlight = none
  audioSink (text : String) : ("audiosink", .text text) ∈ t → s.audioSink = some text
  audioSink_default : (∀ v, ("audiosink", v) ∉ t) → s.audioSink = none
  who (text : String) : ("who", .text text) ∈ t → s.who = text
  who_default : (∀ v, ("who", v) ∉ t) → s.who = "sessionctl"

/-- The settings are put together of four that are given each for itself. -/
theorem ofTable?_eq_some_iff {t : Toml.Table} {s : Settings} : ofTable? t = some s ↔
    ∃ timeout backlight audioSink who, given takeCount? "timeout_ms" t = some timeout ∧
      given takeText? "backlight" t = some backlight ∧
      given takeText? "audiosink" t = some audioSink ∧ given takeText? "who" t = some who ∧
      s = { timeout := timeout.getD 25000, backlight, audioSink,
            who := who.getD "sessionctl" } := by
  unfold ofTable?
  constructor
  · intro h
    obtain ⟨timeout, htimeout, h⟩ := Option.bind_eq_some_iff.mp h
    obtain ⟨backlight, hbacklight, h⟩ := Option.bind_eq_some_iff.mp h
    obtain ⟨audioSink, haudioSink, h⟩ := Option.bind_eq_some_iff.mp h
    obtain ⟨who, hwho, h⟩ := Option.bind_eq_some_iff.mp h
    exact ⟨timeout, backlight, audioSink, who, htimeout, hbacklight, haudioSink, hwho,
      (Option.some.inj h).symm⟩
  · rintro ⟨timeout, backlight, audioSink, who, htimeout, hbacklight, haudioSink, hwho, rfl⟩
    rw [htimeout, hbacklight, haudioSink, hwho]
    rfl

theorem exists_ofTable?_iff (t : Toml.Table) : (∃ s, ofTable? t = some s) ↔ Suitable t := by
  have hall : (∃ s, ofTable? t = some s) ↔
      (∃ g, given takeCount? "timeout_ms" t = some g) ∧
        (∃ g, given takeText? "backlight" t = some g) ∧
        (∃ g, given takeText? "audiosink" t = some g) ∧
        ∃ g, given takeText? "who" t = some g := by
    simp only [ofTable?_eq_some_iff]
    constructor
    · rintro ⟨s, timeout, backlight, audioSink, who, ht, hb, ha, hw, -⟩
      exact ⟨⟨timeout, ht⟩, ⟨backlight, hb⟩, ⟨audioSink, ha⟩, ⟨who, hw⟩⟩
    · rintro ⟨⟨timeout, ht⟩, ⟨backlight, hb⟩, ⟨audioSink, ha⟩, ⟨who, hw⟩⟩
      exact ⟨_, timeout, backlight, audioSink, who, ht, hb, ha, hw, rfl⟩
  rw [hall]
  simp only [exists_given_iff, takeCount?_isSome_iff, takeText?_isSome_iff]
  constructor
  · rintro ⟨⟨honce, htimeout⟩, ⟨honce', hbacklight⟩, ⟨honce'', haudioSink⟩, honce''', hwho⟩
    refine ⟨?_, htimeout, hbacklight, haudioSink, hwho⟩
    simp only [names, List.forall_mem_cons]
    exact ⟨honce, honce', honce'', honce''', nofun⟩
  · intro h
    have hall := h.once
    simp only [names, List.forall_mem_cons] at hall
    obtain ⟨honce, honce', honce'', honce''', -⟩ := hall
    exact ⟨⟨honce, h.timeout⟩, ⟨honce', h.backlight⟩, ⟨honce'', h.audioSink⟩, honce''', h.who⟩

/-- No count of milliseconds is cut short, as the integers of the table fit 63 bits. -/
theorem reflects_of_ofTable? {t : Toml.Table} {s : Settings} (hrange : t.InRange)
    (h : ofTable? t = some s) : Reflects t s := by
  obtain ⟨timeout, backlight, audioSink, who, htimeout, hbacklight, haudioSink, hwho, rfl⟩ :=
    ofTable?_eq_some_iff.mp h
  constructor
  case timeout =>
    intro n hn
    cases given_of_mem htimeout hn
    have hmax : (n : Int) ≤ Int64.maxValue.toInt := (hrange _ hn).2
    have hbits : Int64.maxValue.toInt < 2 ^ 64 := by decide
    exact UInt64.toNat_ofNat_of_lt' (by simp only [UInt64.size]; omega)
  case timeout_default =>
    intro habsent
    cases given_of_absent htimeout habsent
    rfl
  case backlight => exact fun text htext => (given_of_mem hbacklight htext).symm
  case backlight_default => exact given_of_absent hbacklight
  case audioSink => exact fun text htext => (given_of_mem haudioSink htext).symm
  case audioSink_default => exact given_of_absent haudioSink
  case who =>
    intro text htext
    cases given_of_mem hwho htext
    rfl
  case who_default =>
    intro habsent
    cases given_of_absent hwho habsent
    rfl

/-! ## Loading

What loading comes to depends on the environment only, and on the way tables are read from texts. -/

/-- The file that is looked into: the one that the command line names, or else the usual one if
    there is something at its path. -/
inductive Consults (env : Environment) : Option String → String → Prop
  | named (path : String) : Consults env (some path) path
  | usual (path : String) : env.usualSettings = some path → env.hasPath path = true →
      Consults env none path

/-- What it comes to that a file reads so which has to be there. -/
def outcomeOfFile (parse : String → Option Toml.Table) (path : String) :
    Except TextFault String → Except Trouble Settings
  | .error f =>
    .error { contexts := ["Could not read config file " ++ path], cause := .unreadable f }
  | .ok text =>
    match (parse text).bind ofTable? with
    | some s => .ok s
    | none => .error { contexts := ["Invalid config file " ++ path], cause := .badSettings }

/-- What loading comes to. -/
def outcome (parse : String → Option Toml.Table) (env : Environment) (config : Option String) :
    Except Trouble Settings :=
  match config <|> env.usualSettings.filter env.hasPath with
  | some path => outcomeOfFile parse path (env.readText path)
  | none => .ok {}

/-- What becomes of the settings. -/
structure Loaded (parse : String → Option Toml.Table) (env : Environment) (config : Option String)
    (result : Except Trouble Settings) : Prop where
  /-- Only the usual file may be missing. -/
  defaults : (∀ path, ¬Consults env config path) →
    result = .ok { timeout := 25000, backlight := none, audioSink := none, who := "sessionctl" }
  unreadable (path : String) (fault : TextFault) : Consults env config path →
    env.readText path = .error fault →
      result = .error { contexts := ["Could not read config file " ++ path],
                        cause := .unreadable fault }
  no_table (path text : String) : Consults env config path → env.readText path = .ok text →
    parse text = none → ∃ cause,
      result = .error { contexts := ["Invalid config file " ++ path], cause }
  unsuitable (path text : String) (t : Toml.Table) : Consults env config path →
    env.readText path = .ok text → parse text = some t → ¬Suitable t → ∃ cause,
      result = .error { contexts := ["Invalid config file " ++ path], cause }
  suitable (path text : String) (t : Toml.Table) : Consults env config path →
    env.readText path = .ok text → parse text = some t → Suitable t → ∃ s,
      result = .ok s ∧ (t.InRange → Reflects t s)

theorem outcome_of_consults (parse : String → Option Toml.Table) {env : Environment}
    {config : Option String} {path : String} (h : Consults env config path) :
    outcome parse env config = outcomeOfFile parse path (env.readText path) := by
  unfold outcome
  cases h with
  | named => rfl
  | usual _ husual hpath =>
      rw [husual, Option.filter_some_pos hpath]
      rfl

theorem outcome_of_not_consults (parse : String → Option Toml.Table) {env : Environment}
    {config : Option String} (h : ∀ path, ¬Consults env config path) :
    outcome parse env config = .ok {} := by
  cases config with
  | some path => exact absurd (.named path) (h path)
  | none =>
      have hnone : env.usualSettings.filter env.hasPath = none :=
        Option.filter_eq_none_iff.mpr fun path husual hpath => h path (.usual path husual hpath)
      unfold outcome
      rw [hnone]
      rfl

/-- Loading fails for a file only, which cannot be read or holds no settings. -/
theorem cause_of_outcome {parse : String → Option Toml.Table} {env : Environment}
    {config : Option String} {trouble : Trouble} (h : outcome parse env config = .error trouble) :
    (∃ fault, trouble.cause = .unreadable fault) ∨ trouble.cause = .badSettings := by
  unfold outcome at h
  split at h
  · unfold outcomeOfFile at h
    split at h
    · cases h
      exact .inl ⟨_, rfl⟩
    · split at h
      · cases h
      · cases h
        exact .inr rfl
  · cases h

theorem loaded_outcome (parse : String → Option Toml.Table) (env : Environment)
    (config : Option String) : Loaded parse env config (outcome parse env config) where
  defaults := outcome_of_not_consults parse
  unreadable path fault hpath hread := by
    rw [outcome_of_consults parse hpath, hread]
    rfl
  no_table path text hpath hread hparse := by
    rw [outcome_of_consults parse hpath, hread, outcomeOfFile, hparse]
    exact ⟨_, rfl⟩
  unsuitable path text t hpath hread hparse ht := by
    have hnone : ofTable? t = none := Option.eq_none_iff_forall_ne_some.mpr fun s hs =>
      ht ((exists_ofTable?_iff t).mp ⟨s, hs⟩)
    rw [outcome_of_consults parse hpath, hread, outcomeOfFile, hparse, Option.bind_some, hnone]
    exact ⟨_, rfl⟩
  suitable path text t hpath hread hparse ht := by
    obtain ⟨s, hs⟩ := (exists_ofTable?_iff t).mpr ht
    rw [outcome_of_consults parse hpath, hread, outcomeOfFile, hparse, Option.bind_some, hs]
    exact ⟨s, rfl, fun hrange => reflects_of_ofTable? hrange hs⟩

/-! ### The action -/

theorem ofText?_eq (text : String) :
    ofText? text = (Toml.Document.table? text).bind ofTable? := by
  unfold ofText? Toml.Document.table?
  cases Toml.Document.read? text <;> rfl

section Amounts

variable {σ : Type}

theorem loadFile_amountsTo (env : Environment) (path : String) :
    (loadFile env path : Action σ Trouble Settings).AmountsTo
      (.settled (outcomeOfFile Toml.Document.table? path (env.readText path))) := by
  unfold loadFile
  cases env.readText path with
  | error f => exact (Action.AmountsTo.log (by decide) _).after fun _ => .fail _
  | ok text =>
      unfold outcomeOfFile
      dsimp only
      rw [← ofText?_eq]
      cases ofText? text with
      | some s => exact (Action.AmountsTo.log (by decide) _).after fun _ => .done s
      | none => exact (Action.AmountsTo.log (by decide) _).after fun _ => .fail _

/-- Loading makes no call, and the tables of the files are read as `Toml.Document.table?` does. -/
theorem load_amountsTo (env : Environment) (config : Option String) :
    (load env config : Action σ Trouble Settings).AmountsTo
      (.settled (outcome Toml.Document.table? env config)) := by
  have hnone : (loadNone : Action σ Trouble Settings).AmountsTo (.settled (.ok {})) :=
    (Action.AmountsTo.log (by decide) _).after fun _ => .done _
  unfold load outcome
  cases config with
  | some path => exact loadFile_amountsTo env path
  | none =>
      cases env.usualSettings with
      | none => exact hnone
      | some path =>
          by_cases hpath : env.hasPath path = true
          · rw [Option.filter_some_pos hpath]
            simp only [if_pos hpath]
            exact loadFile_amountsTo env path
          · rw [Option.filter_some_neg (Bool.eq_false_iff.mpr hpath)]
            simp only [if_neg hpath]
            exact hnone

end Amounts
end SessionControl.Settings
